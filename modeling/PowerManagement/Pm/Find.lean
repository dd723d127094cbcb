import PowerManagement.Pm.Device
import Mathlib.Data.List.Nodup

/-!
# Finding devices

`pm_find(type, from)` walks `pm_devs` from the entry after `from`, or from the head when
`from` is `NULL`, and returns the first device of type `type`, any device for
`PM_UNKNOWN_DEV`, or `NULL` at the end of the list.  A caller that holds `pm_devs_lock`
scans the list by passing each device it gets back as the next `from`.  Because the
addresses of registered devices are distinct, such a scan returns exactly the devices of
the type, in list order, each once, and then `NULL` (`pmFindScan_eq_filter`).
-/

namespace PowerManagement
namespace Pm

/-- `PM_UNKNOWN_DEV`, the type that matches every device; `<linux/pm.h>`, which is not
among the sources, gives it the value 0. -/
def pmUnknownDev : Nat := 0

/-- The test of `pm_find`: `type == PM_UNKNOWN_DEV || dev->type == type`. -/
def PmDev.found (type : Nat) (dev : PmDev) : Bool :=
  type == pmUnknownDev || dev.type == type

/-- The entries `pm_find` walks: the list from the head for `NULL`, the entries after the
device at `from` otherwise.  For an address that is not on the list, whose `entry.next`
the code would follow wherever it points, the model walks nothing. -/
def entriesAfter (devs : List PmDev) : Option Nat → List PmDev
  | none => devs
  | some start => (devs.dropWhile (·.handle != start)).drop 1

/-- `pm_find(type, from)`. -/
def pmFind (devs : List PmDev) (type : Nat) (start : Option Nat) : Option PmDev :=
  (entriesAfter devs start).find? (PmDev.found type)

/-- A scan with `pm_find` that starts from `start` and passes each device it gets back as
the next `from`, for at most `fuel` calls: the devices it gets back. -/
def pmFindScan (devs : List PmDev) (type : Nat) : Nat → Option Nat → List PmDev
  | 0, _ => []
  | fuel + 1, start =>
      match pmFind devs type start with
      | none => []
      | some dev => dev :: pmFindScan devs type fuel (some dev.handle)

/-- The walk from a device starts right after it, when no device before it has its
address. -/
theorem entriesAfter_of_handle {pre rest : List PmDev} {dev : PmDev}
    (fresh : ∀ other ∈ pre, other.handle ≠ dev.handle) :
    entriesAfter (pre ++ dev :: rest) (some dev.handle) = rest := by
  show ((pre ++ dev :: rest).dropWhile (·.handle != dev.handle)).drop 1 = rest
  rw [List.dropWhile_append_of_pos (by simpa using fresh)]
  simp

/-- What `pm_find` walks is the end of the list. -/
theorem entriesAfter_suffix (devs : List PmDev) :
    ∀ start, ∃ pre, devs = pre ++ entriesAfter devs start
  | none => ⟨[], rfl⟩
  | some start => by
      obtain ⟨skipped, whole⟩ : ∃ skipped, devs = skipped ++ devs.dropWhile (·.handle != start) :=
        ⟨devs.takeWhile (·.handle != start), (List.takeWhile_append_dropWhile _ _).symm⟩
      refine ⟨skipped ++ (devs.dropWhile (·.handle != start)).take 1, ?_⟩
      rw [List.append_assoc, entriesAfter, List.take_append_drop]
      exact whole

/-- A scan from any point of a list with distinct addresses gets back the devices of the
type after that point, in order, and ends with `NULL` given one call more than there are
of them. -/
theorem pmFindScan_eq (devs : List PmDev) (type : Nat) (distinct : (devs.map PmDev.handle).Nodup) :
    ∀ fuel start, ((entriesAfter devs start).filter (PmDev.found type)).length < fuel →
      pmFindScan devs type fuel start = (entriesAfter devs start).filter (PmDev.found type)
  | 0, _, enough => absurd enough (Nat.not_lt_zero _)
  | fuel + 1, start, enough => by
      unfold pmFindScan pmFind
      split
      next atEnd =>
        exact (List.filter_eq_nil_iff.2 fun dev member => by
          simpa using List.find?_eq_none.1 atEnd dev member).symm
      next dev atDev =>
        obtain ⟨found, skipped, rest, entries, notFound⟩ := List.find?_eq_some.1 atDev
        obtain ⟨pre, whole⟩ := entriesAfter_suffix devs start
        have after : entriesAfter devs (some dev.handle) = rest := by
          rw [whole, entries, ← List.append_assoc]
          refine entriesAfter_of_handle fun other member same => ?_
          rw [whole, entries, ← List.append_assoc] at distinct
          rw [List.map_append, List.map_cons] at distinct
          exact (List.nodup_append.1 distinct).2.2 (List.mem_map_of_mem PmDev.handle member)
            (same ▸ List.mem_cons_self _ _)
        have skip : skipped.filter (PmDev.found type) = [] :=
          List.filter_eq_nil_iff.2 fun other member => by simpa using notFound other member
        rw [entries, List.filter_append, skip, List.filter_cons_of_pos found, List.nil_append,
          ← after]
        rw [entries, List.filter_append, skip, List.filter_cons_of_pos found, List.nil_append,
          List.length_cons, ← after] at enough
        rw [pmFindScan_eq devs type distinct fuel _ (by omega)]

/-- Scanning the registry with `pm_find` from `NULL`, passing each device back as the
next `from`, gets back exactly the devices of the type (every device for
`PM_UNKNOWN_DEV`), in the order of `pm_devs`, each once, and then `NULL`. -/
theorem pmFindScan_eq_filter (s : PmState) (type fuel : Nat)
    (enough : (s.devs.filter (PmDev.found type)).length < fuel) :
    pmFindScan s.devs type fuel none = s.devs.filter (PmDev.found type) :=
  pmFindScan_eq s.devs type s.handles_nodup fuel none enough

/-- Two devices of type 1 registered around one of type 2. -/
def typeOneTwice : PmState :=
  pmRegister (pmRegister (pmRegister PmState.empty 1 0 none) 2 0 none) 1 1 none

theorem pmFindScan_typeOneTwice :
    pmFindScan typeOneTwice.devs 1 3 none = [⟨2, 1, 1, none, 0, 0⟩, ⟨0, 1, 0, none, 0, 0⟩] :=
  (pmFindScan_eq_filter typeOneTwice 1 3 (by decide)).trans (by decide)

end Pm
end PowerManagement
