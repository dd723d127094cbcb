import Mathlib.Data.List.Basic

/-!
# The `apm=` boot option

`apm_setup` walks a NUL-terminated string of options.  It tests the option at `str`
against every name with `strncmp`; a `no-` or `no_` prefix moves `str` past itself and
inverts the flags tested after it; then `str` goes to the next comma (`strchr`) and past
the commas, spaces and tabs there (`strspn`), and the walk ends at a NUL or when no comma
is left.  The numbers are read by `simple_strtol`, whose source is not among the sources:
it is a parameter, applied to the memory and the offset `apm_setup` hands it, and of
what it reads only that offset, where it starts, is recorded.

Memory is a list of bytes from the pointer `apm_setup` gets, the string with its NUL and
whatever follows; a byte past the end of the list reads as NUL.  Every scan returns the
offsets it reads, so what `apm_setup` reads itself, and where each `simple_strtol` starts,
is part of what it returns.
-/

namespace PowerManagement
namespace Apm

/-- `strncmp(cs, ct, count) == 0` of the kernel's string library, on the string at offset
`cs` of memory that continues as `rest`, against the literal `ct` (with its NUL); with the
offsets of `cs` it reads.  It stops at the first byte that differs, at a NUL, or after
`count` bytes. -/
def strncmp (rest : List Char) (cs : Nat) (ct : List Char) : Nat → Bool × List Nat
  | 0 => (true, [])
  | count + 1 =>
      if rest.headD '\x00' ≠ ct.headD '\x00' then (false, [cs])
      else if rest.headD '\x00' = '\x00' then (true, [cs])
      else
        let next := strncmp rest.tail (cs + 1) ct.tail count
        (next.1, cs :: next.2)

/-- `strchr(s, c)`: the offset of the first `c` at or after `s`, or `none` (`NULL`) when the
NUL comes first; with the offsets it reads. -/
def strchr (c : Char) : List Char → Nat → Option Nat × List Nat
  | [], s => (none, [s])
  | b :: rest, s =>
      if b = c then (some s, [s])
      else if b = '\x00' then (none, [s])
      else
        let next := strchr c rest (s + 1)
        (next.1, s :: next.2)

/-- `strspn(s, accept)`: the number of bytes of `accept` from `s` on; with the offsets it
reads. -/
def strspn (accept : List Char) : List Char → Nat → Nat × List Nat
  | [], s => (0, [s])
  | b :: rest, s =>
      if b ∈ accept then
        let next := strspn accept rest (s + 1)
        (next.1 + 1, s :: next.2)
      else (0, [s])

/-- `strncmp(str, name, count) == 0 || strncmp(str, other, count) == 0`, the test of an
option with two spellings: the second `strncmp` runs only when the first fails. -/
def eitherName (mem : List Char) (str : Nat) (name other : String) (count : Nat) :
    Bool × List Nat :=
  let first := strncmp (mem.drop str) str name.toList count
  if first.1 then first
  else
    let second := strncmp (mem.drop str) str other.toList count
    (second.1, first.2 ++ second.2)

/-- The statics and `apm_info` fields `apm_setup` sets. -/
structure ApmParams where
  apmDisabled : Int
  bounceInterval : Int
  idleThreshold : Int
  idlePeriod : Int
  debug : Bool
  powerOff : Bool
  allowInts : Bool
  getPowerStatusBroken : Bool
  realmodePowerOff : Bool
  deriving DecidableEq, Repr

/-- What a round of the loop of `apm_setup` does with the option at `str`: the new
parameters, the offset of the next option (`none` once `strchr` finds no comma), and the
offsets its own scans read with the offset each `simple_strtol` starts at, in order. -/
structure SetupRound where
  params : ApmParams
  next : Option Nat
  reads : List Nat

/-- The number a numeric option sets, read by `simple_strtol(str + offset, NULL, 0)` when
the option's name matched; with the offset that call starts at, the only one of the bytes
`simple_strtol` reads that the model records. -/
def numberOption (strtol : List Char → Nat → Int) (mem : List Char) (str offset : Nat)
    (name : Bool × List Nat) (old : Int) : Int × List Nat :=
  if name.1 then (strtol mem (str + offset), name.2 ++ [str + offset]) else (old, name.2)

/-- A flag option: `!invert` when its name matched. -/
def flagOption (invert : Bool) (name : Bool × List Nat) (old : Bool) : Bool :=
  if name.1 then !invert else old

/-- The body of the loop of `apm_setup` at `str`. -/
def setupRound (strtol : List Char → Nat → Int) (mem : List Char) (str : Nat)
    (p : ApmParams) : SetupRound :=
  let offName := strncmp (mem.drop str) str "off".toList 3
  let onName := strncmp (mem.drop str) str "on".toList 2
  let bounce := numberOption strtol mem str 16
    (eitherName mem str "bounce-interval=" "bounce_interval=" 16) p.bounceInterval
  let threshold := numberOption strtol mem str 15
    (eitherName mem str "idle-threshold=" "idle_threshold=" 15) p.idleThreshold
  let period := numberOption strtol mem str 15
    (eitherName mem str "idle-period=" "idle_period=" 12) threshold.1
  let invert := eitherName mem str "no-" "no_" 3
  let str := if invert.1 then str + 3 else str
  let debug := strncmp (mem.drop str) str "debug".toList 5
  let powerOff := eitherName mem str "power-off" "power_off" 9
  let allowInts := eitherName mem str "allow-ints" "allow_ints" 10
  let broken := eitherName mem str "broken-psr" "broken_psr" 10
  let realmode := eitherName mem str "realmode-power-off" "realmode_power_off" 18
  let comma := strchr ',' (mem.drop str) str
  let skip := match comma.1 with
    | none => (none, [])
    | some found =>
      let spaces := strspn [',', ' ', '\t'] (mem.drop found) found
      (some (found + spaces.1), spaces.2)
  { params :=
      { p with
        apmDisabled := if onName.1 then 0 else if offName.1 then 1 else p.apmDisabled
        bounceInterval := bounce.1
        idleThreshold := period.1
        debug := flagOption invert.1 debug p.debug
        powerOff := flagOption invert.1 powerOff p.powerOff
        allowInts := flagOption invert.1 allowInts p.allowInts
        getPowerStatusBroken := flagOption invert.1 broken p.getPowerStatusBroken
        realmodePowerOff := flagOption invert.1 realmode p.realmodePowerOff }
    next := skip.1
    reads := offName.2 ++ onName.2 ++ bounce.2 ++ threshold.2 ++ period.2 ++ invert.2 ++ debug.2 ++
      powerOff.2 ++ allowInts.2 ++ broken.2 ++ realmode.2 ++ comma.2 ++ skip.2 }

/-- The loop `while (str != NULL && *str != '\0')` of `apm_setup` with `fuel` rounds at
most, from the option at `str`; with the offsets read.  `none` when the fuel runs out. -/
def setupLoop (strtol : List Char → Nat → Int) (mem : List Char) :
    Nat → Nat → ApmParams → Option (ApmParams × List Nat)
  | 0, _, _ => none
  | fuel + 1, str, p =>
      if mem.getD str '\x00' = '\x00' then some (p, [str])
      else
        let round := setupRound strtol mem str p
        match round.next with
        | none => some (round.params, str :: round.reads)
        | some next =>
            (setupLoop strtol mem fuel next round.params).map fun result =>
              (result.1, str :: round.reads ++ result.2)

/-- `apm_setup(str)` on the memory `mem` from `str` on: the parameters it leaves and the
offsets it reads.  One round per byte of memory and one more are always enough
(`apmSetup_isSome`). -/
def apmSetup (strtol : List Char → Nat → Int) (mem : List Char) (p : ApmParams) :
    Option (ApmParams × List Nat) :=
  setupLoop strtol mem (mem.length + 1) 0 p

/-! ## Scans stop at the NUL -/

/-- No NUL comes before `offset`: the byte there is in the string or is its NUL. -/
def InString (mem : List Char) (offset : Nat) : Prop :=
  ∀ j < offset, mem.getD j '\x00' ≠ '\x00'

namespace InString

variable {mem : List Char}

theorem zero : InString mem 0 := fun _ lt => absurd lt (Nat.not_lt_zero _)

/-- A byte of the string that is not its NUL is followed by one of the string. -/
theorem succ {cs : Nat} (inString : InString mem cs) (byte : mem.getD cs '\x00' ≠ '\x00') :
    InString mem (cs + 1) := by
  intro j lt
  rcases Nat.lt_succ_iff_lt_or_eq.1 lt with lt | rfl
  · exact inString j lt
  · exact byte

end InString

theorem headD_drop (mem : List Char) (cs : Nat) :
    (mem.drop cs).headD '\x00' = mem.getD cs '\x00' := by
  simp [List.headD_eq_head?_getD]

theorem drop_eq_cons {mem rest : List Char} {cs : Nat} {b : Char}
    (cell : mem.drop cs = b :: rest) :
    mem.getD cs '\x00' = b ∧ mem.drop (cs + 1) = rest ∧ cs < mem.length := by
  refine ⟨?_, ?_, ?_⟩
  · rw [← headD_drop, cell]; rfl
  · rw [← List.tail_drop, cell]; rfl
  · by_contra past
    simp [List.drop_eq_nil_of_le (by omega : mem.length ≤ cs)] at cell

/-- `strncmp` reads the string only up to its NUL. -/
theorem strncmp_reads (mem : List Char) :
    ∀ (count cs : Nat) (ct : List Char), InString mem cs →
      ∀ r ∈ (strncmp (mem.drop cs) cs ct count).2, InString mem r
  | 0, _, _, _ => by simp [strncmp]
  | count + 1, cs, ct, inString => by
      unfold strncmp
      rw [headD_drop]
      split
      · simpa using inString
      · split
        · simpa using inString
        next byte =>
          simp only [List.mem_cons]
          rintro r (rfl | later)
          · exact inString
          · rw [List.tail_drop] at later
            exact strncmp_reads mem count (cs + 1) ct.tail (inString.succ byte) r later

/-- A `strncmp` that matches the first `count` bytes of a literal without NUL has found
them in the string. -/
theorem strncmp_inString (mem : List Char) :
    ∀ (count cs : Nat) (ct : List Char), count ≤ ct.length → '\x00' ∉ ct →
      InString mem cs → (strncmp (mem.drop cs) cs ct count).1 = true →
      InString mem (cs + count)
  | 0, _, _, _, _, inString, _ => inString
  | count + 1, cs, ct, long, noNul, inString, matched => by
      obtain ⟨c, ct, rfl⟩ := List.exists_cons_of_length_pos (by omega : 0 < ct.length)
      unfold strncmp at matched
      rw [headD_drop] at matched
      simp only [List.headD_cons, List.tail_cons] at matched
      split at matched
      · cases matched
      next same =>
        have byte : mem.getD cs '\x00' ≠ '\x00' := by
          rw [not_not.1 same]; exact fun nul => noNul (nul ▸ List.mem_cons_self _ _)
        rw [if_neg byte, List.tail_drop] at matched
        have := strncmp_inString mem count (cs + 1) ct (by simp at long; omega)
          (fun nul => noNul (List.mem_cons_of_mem _ nul)) (inString.succ byte) matched
        rwa [Nat.add_right_comm] at this

/-- `strchr` reads the string only up to its NUL, and what it finds is in the string. -/
theorem strchr_reads (mem : List Char) (c : Char) :
    ∀ (rest : List Char) (cs : Nat), mem.drop cs = rest → InString mem cs →
      (∀ r ∈ (strchr c rest cs).2, InString mem r) ∧
      ∀ found, (strchr c rest cs).1 = some found →
        cs ≤ found ∧ found < mem.length ∧ mem.getD found '\x00' = c ∧ InString mem found
  | [], cs, _, inString => by simp [strchr, inString]
  | b :: rest, cs, cell, inString => by
      obtain ⟨byte, tail, inMem⟩ := drop_eq_cons cell
      unfold strchr
      split
      next found =>
        refine ⟨by simpa using inString, fun f some => ?_⟩
        simp only [Option.some.injEq] at some
        subst some
        exact ⟨le_refl _, inMem, byte.trans found, inString⟩
      split
      · simp [inString]
      next notNul =>
        obtain ⟨reads, finds⟩ := strchr_reads mem c rest (cs + 1) tail
          (inString.succ (byte ▸ notNul))
        refine ⟨?_, fun found some => ?_⟩
        · simp only [List.mem_cons]
          rintro r (rfl | later)
          · exact inString
          · exact reads r later
        · obtain ⟨le, lt, at_found, inFound⟩ := finds found some
          exact ⟨by omega, lt, at_found, inFound⟩

/-- `strspn` reads the string only up to its NUL, and the bytes it counts are in it. -/
theorem strspn_reads (mem accept : List Char) (noNul : '\x00' ∉ accept) :
    ∀ (rest : List Char) (cs : Nat), mem.drop cs = rest → cs ≤ mem.length → InString mem cs →
      (∀ r ∈ (strspn accept rest cs).2, InString mem r) ∧
      InString mem (cs + (strspn accept rest cs).1) ∧ cs + (strspn accept rest cs).1 ≤ mem.length ∧
      (mem.getD cs '\x00' ∈ accept → 0 < (strspn accept rest cs).1)
  | [], cs, cell, inMem, inString => by
      have : mem.length ≤ cs := by simpa using cell
      simp only [strspn, List.mem_singleton, forall_eq, Nat.add_zero, List.getD_eq_getElem?_getD,
        List.getElem?_eq_none (by omega : mem.length ≤ cs), Option.getD_none]
      exact ⟨inString, inString, by omega, fun nul => absurd nul noNul⟩
  | b :: rest, cs, cell, _, inString => by
      obtain ⟨byte, tail, inMem⟩ := drop_eq_cons cell
      unfold strspn
      split
      next accepted =>
        dsimp only
        have notNul : mem.getD cs '\x00' ≠ '\x00' := fun nul =>
          noNul (byte.symm.trans nul ▸ accepted)
        obtain ⟨reads, inSpan, bound, -⟩ := strspn_reads mem accept noNul rest (cs + 1) tail inMem
          (inString.succ notNul)
        refine ⟨?_, by simpa [Nat.add_assoc, Nat.add_comm 1] using inSpan, by omega, fun _ => by omega⟩
        simp only [List.mem_cons]
        rintro r (rfl | later)
        · exact inString
        · exact reads r later
      next rejected =>
        simp only [List.mem_singleton, forall_eq, Nat.add_zero]
        exact ⟨inString, inString, by omega, fun accepted => absurd (byte ▸ accepted) rejected⟩

theorem eitherName_reads (mem : List Char) (str : Nat) (name other : String) (count : Nat)
    (inString : InString mem str) :
    ∀ r ∈ (eitherName mem str name other count).2, InString mem r := by
  unfold eitherName
  dsimp only
  split
  · exact strncmp_reads mem count str name.toList inString
  · simp only [List.mem_append]
    rintro r (first | second)
    · exact strncmp_reads mem count str name.toList inString r first
    · exact strncmp_reads mem count str other.toList inString r second

theorem eitherName_inString (mem : List Char) (str : Nat) (name other : String) (count : Nat)
    (long : count ≤ name.length ∧ count ≤ other.length)
    (noNul : '\x00' ∉ name.toList ∧ '\x00' ∉ other.toList) (inString : InString mem str)
    (matched : (eitherName mem str name other count).1 = true) : InString mem (str + count) := by
  unfold eitherName at matched
  dsimp only at matched
  split at matched
  next first =>
    exact strncmp_inString mem count str name.toList (by simpa using long.1) noNul.1 inString first
  next =>
    exact strncmp_inString mem count str other.toList (by simpa using long.2) noNul.2 inString matched

/-- A number option reads what its name test reads, and starts `simple_strtol` `offset`
bytes on when the name matched. -/
theorem numberOption_reads (strtol : List Char → Nat → Int) (mem : List Char) (str offset : Nat)
    (name : Bool × List Nat) (old : Int) :
    ∀ r ∈ (numberOption strtol mem str offset name old).2,
      r ∈ name.2 ∨ r = str + offset ∧ name.1 = true := by
  unfold numberOption
  split
  next matched =>
    simp only [List.mem_append, List.mem_singleton]
    rintro r (read | rfl)
    · exact .inl read
    · exact .inr ⟨rfl, matched⟩
  · exact fun r read => .inl read

/-! ## A round of the loop -/

section round

variable (strtol : List Char → Nat → Int) (mem : List Char) (str : Nat) (p : ApmParams)

/-- Where the flag tests of a round look: past a `no-` or `no_` prefix. -/
def flagsAt : Nat :=
  if (eitherName mem str "no-" "no_" 3).1 then str + 3 else str

theorem flagsAt_eq :
    (if (eitherName mem str "no-" "no_" 3).1 then str + 3 else str) = flagsAt mem str := rfl

theorem flagsAt_inString (inString : InString mem str) :
    str ≤ flagsAt mem str ∧ InString mem (flagsAt mem str) := by
  unfold flagsAt
  split
  next matched =>
    exact ⟨by omega, eitherName_inString mem str "no-" "no_" 3 (by decide) (by decide) inString
      matched⟩
  · exact ⟨le_refl _, inString⟩

/-- The reads of a round stay in the string, and so does the start of its `simple_strtol`,
but for an `idle-period=` option, whose number is read from 15 bytes on. -/
theorem setupRound_reads (inString : InString mem str) :
    ∀ r ∈ (setupRound strtol mem str p).reads, InString mem r ∨
      r = str + 15 ∧ (eitherName mem str "idle-period=" "idle_period=" 12).1 = true := by
  obtain ⟨-, inFlags⟩ := flagsAt_inString mem str inString
  obtain ⟨commaReads, finds⟩ := strchr_reads mem ',' _ (flagsAt mem str) rfl inFlags
  have name := fun (name other : String) (count : Nat) => eitherName_reads mem str name other count inString
  have flag := fun (name other : String) (count : Nat) =>
    eitherName_reads mem (flagsAt mem str) name other count inFlags
  unfold setupRound
  simp only [flagsAt_eq, List.mem_append]
  rintro r ((((((((((((off | onRead) | bounce) | threshold) | period) | invert) | debug) | powerOff) |
    allowInts) | broken) | realmode) | comma) | skip)
  · exact .inl (strncmp_reads mem 3 str _ inString r off)
  · exact .inl (strncmp_reads mem 2 str _ inString r onRead)
  · rcases numberOption_reads _ _ _ _ _ _ r bounce with read | ⟨rfl, matched⟩
    · exact .inl (name _ _ _ r read)
    · exact .inl (eitherName_inString mem str _ _ 16 (by decide) (by decide) inString matched)
  · rcases numberOption_reads _ _ _ _ _ _ r threshold with read | ⟨rfl, matched⟩
    · exact .inl (name _ _ _ r read)
    · exact .inl (eitherName_inString mem str _ _ 15 (by decide) (by decide) inString matched)
  · rcases numberOption_reads _ _ _ _ _ _ r period with read | exception
    · exact .inl (name _ _ _ r read)
    · exact .inr exception
  · exact .inl (name _ _ _ r invert)
  · exact .inl (strncmp_reads mem 5 _ _ inFlags r debug)
  · exact .inl (flag _ _ _ r powerOff)
  · exact .inl (flag _ _ _ r allowInts)
  · exact .inl (flag _ _ _ r broken)
  · exact .inl (flag _ _ _ r realmode)
  · exact .inl (commaReads r comma)
  · split at skip
    · cases skip
    next start some =>
      obtain ⟨-, inMem, -, inFound⟩ := finds start some
      exact .inl ((strspn_reads mem _ (by decide) _ start rfl inMem.le inFound).1 r skip)

/-- The next option of a round, if any, is after its start and in the string. -/
theorem setupRound_next (inString : InString mem str) {next : Nat}
    (some : (setupRound strtol mem str p).next = some next) :
    str < next ∧ next ≤ mem.length ∧ InString mem next := by
  obtain ⟨past, inFlags⟩ := flagsAt_inString mem str inString
  obtain ⟨-, finds⟩ := strchr_reads mem ',' _ (flagsAt mem str) rfl inFlags
  unfold setupRound at some
  simp only [flagsAt_eq] at some
  split at some
  · cases some
  next start atComma =>
    cases some
    obtain ⟨le, inMem, comma, inFound⟩ := finds start atComma
    obtain ⟨-, inSpan, bound, nonempty⟩ :=
      strspn_reads mem [',', ' ', '\t'] (by decide) _ start rfl inMem.le inFound
    have := nonempty (by rw [comma]; decide)
    exact ⟨by omega, bound, inSpan⟩

/-- What a round reads, and where it goes next, depend on the string alone. -/
theorem setupRound_reads_eq (strtol' : List Char → Nat → Int) (p' : ApmParams) :
    (setupRound strtol mem str p).reads = (setupRound strtol' mem str p').reads := by
  simp only [setupRound, numberOption, apply_ite Prod.snd]

theorem setupRound_next_eq (strtol' : List Char → Nat → Int) (p' : ApmParams) :
    (setupRound strtol mem str p).next = (setupRound strtol' mem str p').next := rfl

/-- A round at a number option sets one parameter from the number after the name, and
nothing else: `bounce_interval` for `bounce-interval=`, `idle_threshold` for
`idle-threshold=`, and `idle_threshold` again, read 15 bytes on, for `idle-period=`. -/
theorem setupRound_number_option (tail : List Char) :
    ((mem.drop str = "bounce-interval=".toList ++ tail ∨
        mem.drop str = "bounce_interval=".toList ++ tail) →
        (setupRound strtol mem str p).params = { p with bounceInterval := strtol mem (str + 16) }) ∧
      ((mem.drop str = "idle-threshold=".toList ++ tail ∨
        mem.drop str = "idle_threshold=".toList ++ tail) →
        (setupRound strtol mem str p).params = { p with idleThreshold := strtol mem (str + 15) }) ∧
      ((mem.drop str = "idle-period=".toList ++ tail ∨
        mem.drop str = "idle_period=".toList ++ tail) →
        (setupRound strtol mem str p).params = { p with idleThreshold := strtol mem (str + 15) }) := by
  refine ⟨?_, ?_, ?_⟩ <;> rintro (named | named) <;>
  · have flags : flagsAt mem str = str := by unfold flagsAt eitherName; rw [named]; rfl
    unfold setupRound
    simp only [flagsAt_eq, flags]
    unfold eitherName
    simp only [named]
    rfl

end round

/-! ## The loop -/

section loop

variable (strtol : List Char → Nat → Int) (mem : List Char)

/-- Each round moves to a later option of the string, so the loop ends within as many
rounds as the memory has bytes, and one more for the test that ends it. -/
theorem setupLoop_isSome :
    ∀ (fuel str : Nat) (p : ApmParams), InString mem str → mem.length - str < fuel →
      (setupLoop strtol mem fuel str p).isSome
  | 0, _, _, _, enough => absurd enough (Nat.not_lt_zero _)
  | fuel + 1, str, p, inString, enough => by
      unfold setupLoop
      split
      · rfl
      · dsimp only
        split
        · rfl
        next next some =>
          obtain ⟨later, inMem, inNext⟩ := setupRound_next strtol mem str p inString some
          rw [Option.isSome_map']
          exact setupLoop_isSome fuel next _ inNext (by omega)

/-- `apm_setup` ends on every string. -/
theorem apmSetup_isSome (p : ApmParams) : (apmSetup strtol mem p).isSome :=
  setupLoop_isSome strtol mem _ 0 p InString.zero (by omega)

/-- The option `idle_period=5` alone: its NUL is at offset 13. -/
def idlePeriodOption : List Char :=
  "idle_period=5".toList ++ ['\x00']

/-- The loop's own scans read the string only up to its NUL, and every `simple_strtol`
starts there too, but that of each `idle-period=` option, which starts 15 bytes on from
the option's start. -/
theorem setupLoop_reads :
    ∀ (fuel str : Nat) (p : ApmParams) (result : ApmParams × List Nat), InString mem str →
      setupLoop strtol mem fuel str p = some result →
      ∀ r ∈ result.2, InString mem r ∨
        ∃ start, r = start + 15 ∧ (eitherName mem start "idle-period=" "idle_period=" 12).1 = true
  | 0, _, _, _, _, ran => by cases ran
  | fuel + 1, str, p, result, inString, ran => by
      have round : ∀ r ∈ (setupRound strtol mem str p).reads, InString mem r ∨
          ∃ start, r = start + 15 ∧ (eitherName mem start "idle-period=" "idle_period=" 12).1 = true :=
        fun r read => (setupRound_reads strtol mem str p inString r read).imp_right
          fun exception => ⟨str, exception⟩
      unfold setupLoop at ran
      split at ran
      · cases ran
        simpa using Or.inl inString
      · dsimp only at ran
        split at ran
        · cases ran
          simp only [List.mem_cons]
          rintro r (rfl | read)
          · exact .inl inString
          · exact round r read
        next next some =>
          obtain ⟨-, -, inNext⟩ := setupRound_next strtol mem str p inString some
          obtain ⟨rest, restRan, rfl⟩ := Option.map_eq_some'.1 ran
          simp only [List.cons_append, List.mem_cons, List.mem_append]
          rintro r (rfl | read | later)
          · exact .inl inString
          · exact round r read
          · exact setupLoop_reads fuel next _ rest inNext restRan r later

/-- `apm_setup` starts a `simple_strtol` at offset 15 of `idle_period=5`, past its NUL,
for the number after the option name at offset 0. -/
theorem idlePeriodOption_reads :
    15 ∈ ((setupLoop (fun _ _ => 0) idlePeriodOption 15 0
        ⟨0, 0, 0, 0, false, false, false, false, false⟩).getD
          ⟨⟨0, 0, 0, 0, false, false, false, false, false⟩, []⟩).2 ∧
      (InString idlePeriodOption 15 ∨
        ∃ start, 15 = start + 15 ∧
          (eitherName idlePeriodOption start "idle-period=" "idle_period=" 12).1 = true) :=
  have read : 15 ∈ ((setupLoop (fun _ _ => 0) idlePeriodOption 15 0
      ⟨0, 0, 0, 0, false, false, false, false, false⟩).getD
        ⟨⟨0, 0, 0, 0, false, false, false, false, false⟩, []⟩).2 := by decide
  ⟨read, setupLoop_reads (fun _ _ => 0) idlePeriodOption 15 0
    ⟨0, 0, 0, 0, false, false, false, false, false⟩ _ InString.zero rfl 15 read⟩

/-- What `apm_setup` reads depends on the string alone, not on what `simple_strtol`
returns nor on the parameters before. -/
theorem setupLoop_reads_eq (strtol' : List Char → Nat → Int) :
    ∀ (fuel str : Nat) (p p' : ApmParams),
      (setupLoop strtol mem fuel str p).map Prod.snd = (setupLoop strtol' mem fuel str p').map Prod.snd
  | 0, _, _, _ => rfl
  | fuel + 1, str, p, p' => by
      unfold setupLoop
      split
      · rfl
      · dsimp only
        rw [setupRound_next_eq strtol mem str p strtol' p',
          setupRound_reads_eq strtol mem str p strtol' p']
        split
        · rfl
        next next _ =>
          have rest := congrArg (Option.map (str :: (setupRound strtol' mem str p').reads ++ ·))
            (setupLoop_reads_eq strtol' fuel next (setupRound strtol mem str p).params
              (setupRound strtol' mem str p').params)
          simpa only [Option.map_map] using rest

end loop

/-! ## `idle-period=` sets `idle_threshold` -/

/-- Two number options separated by a space. -/
def spacedOptions : List Char :=
  "bounce-interval=5 idle-threshold=7".toList ++ ['\x00']

/-- `idle_period=5` sets `idle_threshold`, to what `simple_strtol` reads from offset 15,
two bytes past the NUL, and leaves `idle_period` as it was; after a space the walk sees no
further option. -/
theorem idle_period_option_sets_idle_threshold (strtol : List Char → Nat → Int)
    (p : ApmParams) :
    (apmSetup strtol idlePeriodOption p).map Prod.fst =
        some { p with idleThreshold := strtol idlePeriodOption 15 } ∧
      ((apmSetup strtol idlePeriodOption p).map Prod.snd).any (fun reads => 15 ∈ reads) ∧
      ¬InString idlePeriodOption 15 ∧
      (apmSetup strtol spacedOptions p).map Prod.fst =
        some { p with bounceInterval := strtol spacedOptions 16 } :=
  ⟨rfl,
    by rw [apmSetup, setupLoop_reads_eq strtol idlePeriodOption (fun _ _ => 0) _ 0 p
      ⟨0, 0, 0, 0, false, false, false, false, false⟩]; decide,
    fun inString => inString 13 (by decide) rfl, rfl⟩

end Apm
end PowerManagement
