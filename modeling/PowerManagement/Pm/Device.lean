import Mathlib.Data.List.Basic
import Mathlib.Algebra.Ring.Int.Defs

/-!
# Power management devices and their registry

The device record of `kernel/pm.c`, the list `pm_devs` that holds the registered
devices, and the registration operations.  The registry is `pm_devs` read from its
head, the order in which `pm_send_all` visits it.  A device is identified by its
address, the handle `pm_register` returns; a callback by its function pointer.  What a
callback returns is not fixed: `PmCallbacks` lets it depend on every earlier
invocation.
-/

namespace PowerManagement
namespace Pm

/-- Power management requests (`pm_request_t`).  `pm_send` treats `PM_SUSPEND` and
`PM_RESUME` specially and passes every other request to the callback as it is. -/
inductive PmRequest
  | suspend
  | resume
  | other (code : Nat)
  deriving DecidableEq, Repr

/-- A registered device (`struct pm_dev`). -/
structure PmDev where
  /-- The address `pm_register` returned. -/
  handle : Nat
  /-- The device type (`pm_dev_t`). -/
  type : Nat
  /-- The device id. -/
  id : Nat
  /-- The callback pointer; `none` is `NULL`. -/
  callback : Option Nat
  /-- The current power state. -/
  state : Int
  /-- The state the device had before the last request `pm_send` handled. -/
  prevState : Int
  deriving DecidableEq, Repr

/-- One invocation of a device callback: the device, the request, the data and the
status the callback returned. -/
structure PmCall where
  handle : Nat
  rqst : PmRequest
  data : Int
  status : Int
  deriving DecidableEq, Repr

/-- The behaviour of the device callbacks: the status an invocation returns, given every
invocation made before it, the device record, the request and the data.  Any callback,
stateful or not, behaves as one such function. -/
abbrev PmCallbacks := List PmCall → PmDev → PmRequest → Int → Int

/-- The registry: `pm_devs` from its head, the next address the allocator hands out,
and every callback invocation made so far.  Addresses of registered devices are
distinct and below `next`. -/
structure PmState where
  devs : List PmDev
  next : Nat
  log : List PmCall
  handles_nodup : (devs.map PmDev.handle).Nodup
  handles_lt : ∀ dev ∈ devs, dev.handle < next

/-- The empty registry (`LIST_HEAD(pm_devs)`). -/
def PmState.empty : PmState where
  devs := []
  next := 0
  log := []
  handles_nodup := List.nodup_nil
  handles_lt := fun _ member => absurd member (List.not_mem_nil _)

/-- Replace the devices of the registry by a list with the same handles, in the same
order, appending the callback invocations made. -/
def PmState.update (s : PmState) (devs : List PmDev) (calls : List PmCall)
    (sameHandles : devs.map PmDev.handle = s.devs.map PmDev.handle) : PmState where
  devs := devs
  next := s.next
  log := s.log ++ calls
  handles_nodup := sameHandles ▸ s.handles_nodup
  handles_lt := by
    intro dev member
    have : dev.handle ∈ s.devs.map PmDev.handle :=
      sameHandles ▸ List.mem_map_of_mem PmDev.handle member
    obtain ⟨old, oldMember, sameHandle⟩ := List.mem_map.1 this
    exact sameHandle ▸ s.handles_lt old oldMember

/-- Keep the devices of the registry that satisfy `keep`. -/
def PmState.retain (s : PmState) (keep : PmDev → Bool) : PmState where
  devs := s.devs.filter keep
  next := s.next
  log := s.log
  handles_nodup := s.handles_nodup.sublist ((List.filter_sublist _).map _)
  handles_lt := fun dev member => s.handles_lt dev (List.mem_of_mem_filter member)

/-- `pm_register`: a zeroed device at the head of `pm_devs` (`list_add`). -/
def pmRegister (s : PmState) (type id : Nat) (callback : Option Nat) : PmState where
  devs := ⟨s.next, type, id, callback, 0, 0⟩ :: s.devs
  next := s.next + 1
  log := s.log
  handles_nodup := by
    refine List.nodup_cons.2 ⟨fun member => ?_, s.handles_nodup⟩
    obtain ⟨dev, devMember, sameHandle⟩ := List.mem_map.1 member
    have := s.handles_lt dev devMember
    dsimp only at sameHandle
    omega
  handles_lt := by
    intro dev member
    rcases List.mem_cons.1 member with rfl | devMember
    · exact Nat.lt_succ_self _
    · exact Nat.lt_succ_of_lt (s.handles_lt dev devMember)

/-- `pm_unregister`: unlink the device at `dev`; `NULL` is ignored. -/
def pmUnregister (s : PmState) : Option Nat → PmState
  | none => s
  | some dev => s.retain fun other => other.handle != dev

/-- `pm_unregister_all`: unlink every device whose callback is `callback`; a `NULL`
callback is ignored.  The loop reads the next entry before unlinking the current one,
so it visits every entry once. -/
def pmUnregisterAll (s : PmState) : Option Nat → PmState
  | none => s
  | some callback => s.retain fun dev => dev.callback != some callback

@[simp] theorem pmRegister_devs (s : PmState) (type id : Nat) (callback : Option Nat) :
    (pmRegister s type id callback).devs = ⟨s.next, type, id, callback, 0, 0⟩ :: s.devs :=
  rfl

@[simp] theorem pmRegister_next (s : PmState) (type id : Nat) (callback : Option Nat) :
    (pmRegister s type id callback).next = s.next + 1 := rfl

@[simp] theorem retain_devs (s : PmState) (keep : PmDev → Bool) :
    (s.retain keep).devs = s.devs.filter keep := rfl

@[simp] theorem retain_next (s : PmState) (keep : PmDev → Bool) :
    (s.retain keep).next = s.next := rfl

@[simp] theorem update_devs (s : PmState) (devs : List PmDev) (calls : List PmCall)
    (sameHandles : devs.map PmDev.handle = s.devs.map PmDev.handle) :
    (s.update devs calls sameHandles).devs = devs := rfl

@[simp] theorem update_next (s : PmState) (devs : List PmDev) (calls : List PmCall)
    (sameHandles : devs.map PmDev.handle = s.devs.map PmDev.handle) :
    (s.update devs calls sameHandles).next = s.next := rfl

end Pm
end PowerManagement
