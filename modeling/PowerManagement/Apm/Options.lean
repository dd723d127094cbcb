import PowerManagement.Apm.Setup

/-!
# Options written out and read back by `apm_setup`

The abstract syntax of the `apm=` string is a list of options, each an `off` or `on`, a
number option with its value, or a flag set by its name or cleared after `no-` or `no_`;
every option but `debug`, `off` and `on` has a spelling with dashes and one with
underscores.  `SetupOption.apply` says what an option is for.  Written out, with the
numbers in any format that `simple_strtol` reads back and that holds no comma and no NUL,
separated by commas and ended by the NUL, a list of options without `idle-period=` is
read back by `apm_setup` as the options say, in order (`apmSetup_renderOptions`).

The proof goes through the name tests of a round.  Every test of `apm_setup` on a written
option is decided within the option's name, whatever follows it (`nameTests_append`), so
a round at an option depends on its name alone, and on what `simple_strtol` reads.
-/

namespace PowerManagement
namespace Apm

/-- The flags an option sets by its name and clears after `no-` or `no_`. -/
inductive SetupFlag
  | debug
  | powerOff
  | allowInts
  | brokenPsr
  | realmodePowerOff
  deriving DecidableEq, Repr

/-- An option of the `apm=` string. -/
inductive SetupOption
  | apmOff
  | apmOn
  | bounceInterval (value : Int)
  | idleThreshold (value : Int)
  | idlePeriod (value : Int)
  | flag (flag : SetupFlag) (set : Bool)
  deriving DecidableEq, Repr

namespace SetupFlag

/-- A flag's name, with dashes or with underscores. -/
def name (underscore : Bool) : SetupFlag → String
  | debug => "debug"
  | powerOff => bif underscore then "power_off" else "power-off"
  | allowInts => bif underscore then "allow_ints" else "allow-ints"
  | brokenPsr => bif underscore then "broken_psr" else "broken-psr"
  | realmodePowerOff => bif underscore then "realmode_power_off" else "realmode-power-off"

/-- Setting or clearing a flag. -/
def apply (set : Bool) (p : ApmParams) : SetupFlag → ApmParams
  | debug => { p with debug := set }
  | powerOff => { p with powerOff := set }
  | allowInts => { p with allowInts := set }
  | brokenPsr => { p with getPowerStatusBroken := set }
  | realmodePowerOff => { p with realmodePowerOff := set }

end SetupFlag

namespace SetupOption

/-- The bytes of an option before its number. -/
def name (underscore : Bool) : SetupOption → List Char
  | apmOff => "off".toList
  | apmOn => "on".toList
  | bounceInterval _ => (bif underscore then "bounce_interval=" else "bounce-interval=").toList
  | idleThreshold _ => (bif underscore then "idle_threshold=" else "idle-threshold=").toList
  | idlePeriod _ => (bif underscore then "idle_period=" else "idle-period=").toList
  | flag f true => (f.name underscore).toList
  | flag f false => (bif underscore then "no_" else "no-").toList ++ (f.name underscore).toList

/-- The number of a number option. -/
def value? : SetupOption → Option Int
  | bounceInterval v | idleThreshold v | idlePeriod v => some v
  | _ => none

/-- An option written out, its number in the format `number`. -/
def render (number : Int → List Char) (underscore : Bool) (o : SetupOption) : List Char :=
  o.name underscore ++ (o.value?.map number).getD []

/-- What an option is for. -/
def apply (p : ApmParams) : SetupOption → ApmParams
  | apmOff => { p with apmDisabled := 1 }
  | apmOn => { p with apmDisabled := 0 }
  | bounceInterval v => { p with bounceInterval := v }
  | idleThreshold v => { p with idleThreshold := v }
  | idlePeriod v => { p with idlePeriod := v }
  | flag f set => f.apply set p

end SetupOption

/-- Options written out with their spellings, separated by commas and ended by the NUL. -/
def renderOptions (number : Int → List Char) : List (SetupOption × Bool) → List Char
  | [] => ['\x00']
  | [(o, u)] => o.render number u ++ ['\x00']
  | (o, u) :: next :: rest => o.render number u ++ ',' :: renderOptions number (next :: rest)

/-! ## `strncmp` on a name and what follows it -/

/-- Only the first `count` bytes reach `strncmp`. -/
theorem strncmp_append_of_le :
    ∀ (count : Nat) (name rest ct : List Char) (cs : Nat), count ≤ name.length →
      strncmp (name ++ rest) cs ct count = strncmp name cs ct count
  | 0, _, _, _, _, _ => rfl
  | _ + 1, [], _, _, _, le => absurd le (by simp)
  | count + 1, _ :: name, rest, ct, cs, le => by
      simp only [strncmp, List.cons_append, List.headD_cons, List.tail_cons,
        strncmp_append_of_le count name rest ct.tail (cs + 1) (by simpa using le)]

/-- A difference `strncmp` has found stays found over more bytes. -/
theorem strncmp_fst_of_le :
    ∀ (k count : Nat) (rest ct : List Char) (cs : Nat), k ≤ count →
      (strncmp rest cs ct k).1 = false → (strncmp rest cs ct count).1 = false
  | 0, _, _, _, _, _, differs => absurd differs (by simp [strncmp])
  | _ + 1, 0, _, _, _, le, _ => absurd le (by omega)
  | k + 1, count + 1, rest, ct, cs, le, differs => by
      simp only [strncmp] at differs ⊢
      split_ifs at differs ⊢
      · rfl
      · exact strncmp_fst_of_le k count _ _ _ (by omega) differs

/-- Whether `strncmp` matches does not depend on the offset it records. -/
theorem strncmp_fst_cs (cs cs' : Nat) :
    ∀ (count : Nat) (rest ct : List Char), (strncmp rest cs ct count).1 = (strncmp rest cs' ct count).1
  | 0, _, _ => rfl
  | count + 1, rest, ct => by
      simp only [strncmp]
      split_ifs
      · rfl
      · rfl
      · exact strncmp_fst_cs (cs + 1) (cs' + 1) count _ _

/-- `strncmp(name ++ rest, ct, count)` is decided within `name`: the test reads no byte
past it, or finds a difference in it. -/
def decidedIn (name : List Char) (ct : String) (count : Nat) : Bool :=
  decide (count ≤ name.length) || !(strncmp name 0 ct.toList name.length).1

/-- A test decided within a name does not see what follows the name. -/
theorem strncmp_append_name {name : List Char} {ct : String} {count : Nat}
    (decided : decidedIn name ct count = true) (rest : List Char) (cs : Nat) :
    (strncmp (name ++ rest) cs ct.toList count).1 = (strncmp name 0 ct.toList count).1 := by
  by_cases le : count ≤ name.length
  · rw [strncmp_append_of_le count name rest _ cs le, strncmp_fst_cs cs 0]
  · have differs : (strncmp name 0 ct.toList name.length).1 = false := by
      simpa [decidedIn, le] using decided
    have far : name.length ≤ count := by omega
    rw [strncmp_fst_of_le _ count _ _ 0 far differs]
    refine strncmp_fst_of_le _ count _ _ cs far ?_
    rw [strncmp_append_of_le _ _ _ _ _ le_rfl, strncmp_fst_cs cs 0, differs]

/-- A test decided within a name that matches has read no further than the name. -/
theorem count_le_of_decidedIn {name : List Char} {ct : String} {count : Nat}
    (decided : decidedIn name ct count = true) (matched : (strncmp name 0 ct.toList count).1 = true) :
    count ≤ name.length := by
  by_contra far
  have differs : (strncmp name 0 ct.toList name.length).1 = false := by
    simpa [decidedIn, far] using decided
  rw [strncmp_fst_of_le _ count _ _ 0 (by omega) differs] at matched
  cases matched

theorem eitherName_fst (mem : List Char) (str : Nat) (name other : String) (count : Nat) :
    (eitherName mem str name other count).1 =
      ((strncmp (mem.drop str) str name.toList count).1 ||
        (strncmp (mem.drop str) str other.toList count).1) := by
  unfold eitherName
  dsimp only
  split <;> simp_all

/-! ## The name tests of a round -/

/-- What the name tests of a round of `apm_setup` find. -/
structure RoundTests where
  apmOff : Bool := false
  apmOn : Bool := false
  bounceInterval : Bool := false
  idleThreshold : Bool := false
  idlePeriod : Bool := false
  invert : Bool := false
  debug : Bool := false
  powerOff : Bool := false
  allowInts : Bool := false
  brokenPsr : Bool := false
  realmodePowerOff : Bool := false
  deriving DecidableEq, Repr

/-- `strncmp(view, name, count) == 0 || strncmp(view, other, count) == 0`. -/
def nameTest (view : List Char) (name other : String) (count : Nat) : Bool :=
  (strncmp view 0 name.toList count).1 || (strncmp view 0 other.toList count).1

/-- The bytes the flag tests of a round see: past a `no-` or `no_` prefix. -/
def flagsView (view : List Char) : List Char :=
  view.drop (if nameTest view "no-" "no_" 3 then 3 else 0)

/-- The name tests of a round on the bytes from the option's start. -/
def nameTests (view : List Char) : RoundTests where
  apmOff := (strncmp view 0 "off".toList 3).1
  apmOn := (strncmp view 0 "on".toList 2).1
  bounceInterval := nameTest view "bounce-interval=" "bounce_interval=" 16
  idleThreshold := nameTest view "idle-threshold=" "idle_threshold=" 15
  idlePeriod := nameTest view "idle-period=" "idle_period=" 12
  invert := nameTest view "no-" "no_" 3
  debug := (strncmp (flagsView view) 0 "debug".toList 5).1
  powerOff := nameTest (flagsView view) "power-off" "power_off" 9
  allowInts := nameTest (flagsView view) "allow-ints" "allow_ints" 10
  brokenPsr := nameTest (flagsView view) "broken-psr" "broken_psr" 10
  realmodePowerOff := nameTest (flagsView view) "realmode-power-off" "realmode_power_off" 18

/-- The parameters a round leaves, from what its tests found and the numbers
`simple_strtol` reads 16 and 15 bytes past the option's start. -/
def RoundTests.params (t : RoundTests) (at16 at15 : Int) (p : ApmParams) : ApmParams :=
  { p with
    apmDisabled := if t.apmOn then 0 else if t.apmOff then 1 else p.apmDisabled
    bounceInterval := if t.bounceInterval then at16 else p.bounceInterval
    idleThreshold := if t.idlePeriod then at15 else if t.idleThreshold then at15 else p.idleThreshold
    debug := if t.debug then !t.invert else p.debug
    powerOff := if t.powerOff then !t.invert else p.powerOff
    allowInts := if t.allowInts then !t.invert else p.allowInts
    getPowerStatusBroken := if t.brokenPsr then !t.invert else p.getPowerStatusBroken
    realmodePowerOff := if t.realmodePowerOff then !t.invert else p.realmodePowerOff }

section round

variable (strtol : List Char → Nat → Int) (mem : List Char) (str : Nat) (p : ApmParams)

theorem flagsAt_eq_add : flagsAt mem str = str + if nameTest (mem.drop str) "no-" "no_" 3 then 3 else 0 := by
  unfold flagsAt nameTest
  rw [eitherName_fst, strncmp_fst_cs str 0, strncmp_fst_cs str 0]
  split <;> rfl

theorem drop_flagsAt : mem.drop (flagsAt mem str) = flagsView (mem.drop str) := by
  rw [flagsAt_eq_add, flagsView, List.drop_drop]

/-- A round leaves the parameters its name tests say, on the bytes from `str` on. -/
theorem setupRound_params_eq :
    (setupRound strtol mem str p).params =
      (nameTests (mem.drop str)).params (strtol mem (str + 16)) (strtol mem (str + 15)) p := by
  simp only [setupRound, flagsAt_eq]
  simp only [numberOption, flagOption, apply_ite Prod.fst, eitherName_fst, drop_flagsAt,
    strncmp_fst_cs str 0, strncmp_fst_cs (flagsAt mem str) 0]
  unfold RoundTests.params nameTests nameTest
  dsimp only

end round

/-! ## Tests decided within a name -/

/-- The tests of a round at the option's start, with their byte counts. -/
def startTests : List (String × Nat) :=
  [("off", 3), ("on", 2), ("bounce-interval=", 16), ("bounce_interval=", 16), ("idle-threshold=", 15),
    ("idle_threshold=", 15), ("idle-period=", 12), ("idle_period=", 12), ("no-", 3), ("no_", 3)]

/-- The flag tests of a round. -/
def flagTests : List (String × Nat) :=
  [("debug", 5), ("power-off", 9), ("power_off", 9), ("allow-ints", 10), ("allow_ints", 10),
    ("broken-psr", 10), ("broken_psr", 10), ("realmode-power-off", 18), ("realmode_power_off", 18)]

/-- Every test of a round at an option with this name is decided within the name. -/
def decided (name : List Char) : Bool :=
  startTests.all (fun t => decidedIn name t.1 t.2) &&
    flagTests.all (fun t => decidedIn (flagsView name) t.1 t.2)

theorem strncmp_append_of_all {name : List Char} {tests : List (String × Nat)}
    (all : tests.all (fun t => decidedIn name t.1 t.2) = true) {ct : String} {count : Nat}
    (test : (ct, count) ∈ tests) (rest : List Char) (cs : Nat) :
    (strncmp (name ++ rest) cs ct.toList count).1 = (strncmp name 0 ct.toList count).1 :=
  strncmp_append_name (List.all_eq_true.1 all _ test) rest cs

/-- The tests of a round at a name whose tests it decides do not see what follows it. -/
theorem nameTests_append {name : List Char} (decidedName : decided name = true) (rest : List Char) :
    nameTests (name ++ rest) = nameTests name := by
  simp only [decided, Bool.and_eq_true] at decidedName
  obtain ⟨start, flags⟩ := decidedName
  have invert : nameTest (name ++ rest) "no-" "no_" 3 = nameTest name "no-" "no_" 3 := by
    simp (disch := decide) only [nameTest, strncmp_append_of_all start]
  have view : flagsView (name ++ rest) = flagsView name ++ rest := by
    unfold flagsView
    rw [invert]
    split
    next matched =>
      have long : 3 ≤ name.length := by
        simp only [nameTest, Bool.or_eq_true] at matched
        rcases matched with dash | underscore
        · exact count_le_of_decidedIn (List.all_eq_true.1 start ("no-", 3) (by decide)) dash
        · exact count_le_of_decidedIn (List.all_eq_true.1 start ("no_", 3) (by decide)) underscore
      exact List.drop_append_of_le_length long
    · rfl
  simp (disch := decide) only [nameTests, nameTest, view, strncmp_append_of_all start,
    strncmp_append_of_all flags]

/-! ## Written options -/

/-- The tests a flag's name passes, after a `no-` or `no_` prefix when `invert`. -/
def SetupFlag.tests (invert : Bool) : SetupFlag → RoundTests
  | .debug => { invert := invert, debug := true }
  | .powerOff => { invert := invert, powerOff := true }
  | .allowInts => { invert := invert, allowInts := true }
  | .brokenPsr => { invert := invert, brokenPsr := true }
  | .realmodePowerOff => { invert := invert, realmodePowerOff := true }

/-- The tests an option's name passes. -/
def SetupOption.tests : SetupOption → RoundTests
  | .apmOff => { apmOff := true }
  | .apmOn => { apmOn := true }
  | .bounceInterval _ => { bounceInterval := true }
  | .idleThreshold _ => { idleThreshold := true }
  | .idlePeriod _ => { idlePeriod := true }
  | .flag f set => f.tests !set

/-- What a name must satisfy to be written out and read back: its tests decided within
it and finding `t`, no comma and no NUL in it, a first byte that `strspn` does not skip,
and room for the `no-` prefix the flag tests skip. -/
def nameFacts (name : List Char) (t : RoundTests) : Bool :=
  decided name && nameTests name == t && decide (',' ∉ name) && decide ('\x00' ∉ name) &&
    name.head?.any (fun c => decide (c ∉ [',', ' ', '\t'])) && (!t.invert || decide (3 ≤ name.length))

/-- Every name of every option, in both spellings. -/
theorem nameFacts_name (o : SetupOption) (u : Bool) : nameFacts (o.name u) o.tests = true := by
  cases o with
  | flag f set => cases u <;> cases f <;> cases set <;> decide
  | bounceInterval | idleThreshold | idlePeriod =>
      cases u <;> simp only [SetupOption.name, SetupOption.tests, cond_false, cond_true] <;> decide
  | apmOff => exact (by decide : nameFacts "off".toList SetupOption.apmOff.tests = true)
  | apmOn => exact (by decide : nameFacts "on".toList SetupOption.apmOn.tests = true)

theorem nameFacts_spec {name : List Char} {t : RoundTests} (facts : nameFacts name t = true) :
    decided name = true ∧ nameTests name = t ∧ ',' ∉ name ∧ '\x00' ∉ name ∧
      (∃ c rest, name = c :: rest ∧ c ∉ [',', ' ', '\t']) ∧ (t.invert = true → 3 ≤ name.length) := by
  simp only [nameFacts, Bool.and_eq_true, beq_iff_eq, decide_eq_true_eq, Bool.or_eq_true,
    Bool.not_eq_true'] at facts
  obtain ⟨⟨⟨⟨⟨decidedName, tests⟩, noComma⟩, noNul⟩, head⟩, room⟩ := facts
  refine ⟨decidedName, tests, noComma, noNul, ?_, fun invert => room.resolve_left (by simp [invert])⟩
  match name, head with
  | c :: rest, head => exact ⟨c, rest, rfl, by simpa using head⟩

/-- What the tests of an option's name make of the numbers `simple_strtol` reads, when it
reads the option's own number back: what the option is for, but for `idle-period=`. -/
theorem SetupOption.tests_params (o : SetupOption) (u : Bool) (read : Nat → Int) (p : ApmParams)
    (notPeriod : ∀ v, o ≠ .idlePeriod v)
    (readsBack : ∀ v, o.value? = some v → read (o.name u).length = v) :
    o.tests.params (read 16) (read 15) p = o.apply p := by
  cases o with
  | idlePeriod v => exact absurd rfl (notPeriod v)
  | bounceInterval v =>
      cases u <;> exact congrArg (fun n => { p with bounceInterval := n }) (readsBack v rfl)
  | idleThreshold v =>
      cases u <;> exact congrArg (fun n => { p with idleThreshold := n }) (readsBack v rfl)
  | flag f set => cases f <;> cases set <;> rfl
  | _ => rfl

/-- `strchr` passes over bytes that are neither what it looks for nor the NUL. -/
theorem strchr_append_fst (c : Char) :
    ∀ (xs ys : List Char) (cs : Nat), c ∉ xs → '\x00' ∉ xs →
      (strchr c (xs ++ ys) cs).1 = (strchr c ys (cs + xs.length)).1
  | [], _, _, _, _ => rfl
  | x :: xs, ys, cs, absent, noNul => by
      have other : x ≠ c := fun same => absent (same ▸ List.mem_cons_self _ _)
      have byte : x ≠ '\x00' := fun nul => noNul (nul ▸ List.mem_cons_self _ _)
      simp only [List.cons_append, strchr, other, byte, if_false, List.length_cons, List.append_eq]
      rw [strchr_append_fst c xs ys (cs + 1) (fun m => absent (List.mem_cons_of_mem _ m))
        (fun m => noNul (List.mem_cons_of_mem _ m)), Nat.add_assoc, Nat.add_comm 1]

section render

variable (strtol : List Char → Nat → Int) (o : SetupOption) (u : Bool) (pre : List Char)
  (p : ApmParams)

/-- A round at a written option does what the option's name tests say. -/
theorem setupRound_name_params (rest : List Char) :
    (setupRound strtol (pre ++ (o.name u ++ rest)) pre.length p).params =
      o.tests.params (strtol (pre ++ (o.name u ++ rest)) (pre.length + 16))
        (strtol (pre ++ (o.name u ++ rest)) (pre.length + 15)) p := by
  obtain ⟨decidedName, tests, -⟩ := nameFacts_spec (nameFacts_name o u)
  rw [setupRound_params_eq, List.drop_left, nameTests_append decidedName, tests]

/-- From a written option, `strchr` finds the first comma or NUL after its number. -/
theorem strchr_name (mid tail : List Char) (noComma : ',' ∉ mid) (noNul : '\x00' ∉ mid) :
    (strchr ',' ((pre ++ (o.name u ++ (mid ++ tail))).drop
        (flagsAt (pre ++ (o.name u ++ (mid ++ tail))) pre.length))
      (flagsAt (pre ++ (o.name u ++ (mid ++ tail))) pre.length)).1 =
      (strchr ',' tail (pre.length + (o.name u).length + mid.length)).1 := by
  obtain ⟨decidedName, tests, nameComma, nameNul, -, room⟩ := nameFacts_spec (nameFacts_name o u)
  have invert : nameTest (o.name u ++ (mid ++ tail)) "no-" "no_" 3 = o.tests.invert := by
    rw [← tests, ← nameTests_append decidedName (mid ++ tail)]
    rfl
  have skipped : (if o.tests.invert then 3 else 0) ≤ (o.name u).length := by
    split
    next inverted => exact room inverted
    · exact Nat.zero_le _
  rw [flagsAt_eq_add, List.drop_left, invert, List.drop_append,
    List.drop_append_of_le_length skipped, ← List.append_assoc,
    strchr_append_fst ',' _ _ _ (by simpa [not_or] using ⟨fun m => nameComma (List.mem_of_mem_drop m), noComma⟩)
      (by simpa [not_or] using ⟨fun m => nameNul (List.mem_of_mem_drop m), noNul⟩)]
  simp only [List.length_append, List.length_drop]
  congr 2
  omega

/-- After a written option and a comma, the next round starts at the next option. -/
theorem setupRound_name_next_comma (mid more : List Char) (noComma : ',' ∉ mid)
    (noNul : '\x00' ∉ mid) (skip : ∀ c, more.head? = some c → c ∉ [',', ' ', '\t']) :
    (setupRound strtol (pre ++ (o.name u ++ (mid ++ ',' :: more))) pre.length p).next =
      some (pre.length + (o.name u).length + mid.length + 1) := by
  have found := strchr_name o u pre mid (',' :: more) noComma noNul
  have atComma : (pre ++ (o.name u ++ (mid ++ ',' :: more))).drop
      (pre.length + (o.name u).length + mid.length) = ',' :: more := by
    rw [Nat.add_assoc, List.drop_append, List.drop_append, List.drop_left]
  simp only [strchr, if_true] at found
  simp only [setupRound, flagsAt_eq, found, atComma]
  cases more with
  | nil => rfl
  | cons c more =>
      simp only [strspn, List.mem_cons, List.mem_singleton, true_or, if_true]
      rw [if_neg (by simpa using skip c rfl)]

/-- After the last written option the walk ends at the NUL. -/
theorem setupRound_name_next_nul (mid more : List Char) (noComma : ',' ∉ mid)
    (noNul : '\x00' ∉ mid) :
    (setupRound strtol (pre ++ (o.name u ++ (mid ++ '\x00' :: more))) pre.length p).next = none := by
  have found := strchr_name o u pre mid ('\x00' :: more) noComma noNul
  simp only [strchr, show ('\x00' = ',') = False by decide, if_false, if_true] at found
  simp only [setupRound, flagsAt_eq, found]

end render

/-- A number format with no comma and no NUL in it. -/
def Clean (number : Int → List Char) : Prop :=
  ∀ v, ',' ∉ number v ∧ '\x00' ∉ number v

/-- `simple_strtol` reads back every number of the options written in the format
`number`, wherever it stands before a comma or the NUL. -/
def ReadsBack (strtol : List Char → Nat → Int) (number : Int → List Char)
    (opts : List (SetupOption × Bool)) : Prop :=
  ∀ o ∈ opts, ∀ v, o.1.value? = some v → ∀ before after : List Char,
    (after.head? = some ',' ∨ after.head? = some '\x00') →
      strtol (before ++ number v ++ after) before.length = v

section loop

variable (strtol : List Char → Nat → Int) (number : Int → List Char)

theorem render_facts (clean : Clean number) (o : SetupOption) (u : Bool) :
    o.render number u = o.name u ++ (o.value?.map number).getD [] ∧
      ',' ∉ (o.value?.map number).getD [] ∧ '\x00' ∉ (o.value?.map number).getD [] := by
  refine ⟨rfl, ?_⟩
  cases o.value? with
  | none => exact ⟨List.not_mem_nil _, List.not_mem_nil _⟩
  | some v => exact clean v

/-- A round at a written option followed by a comma or the NUL leaves what the option is
for, when `simple_strtol` reads its number back. -/
theorem setupRound_render (o : SetupOption) (u : Bool) (pre after : List Char) (p : ApmParams)
    (notPeriod : ∀ v, o ≠ .idlePeriod v) (readsBack : ReadsBack strtol number [(o, u)])
    (sep : after.head? = some ',' ∨ after.head? = some '\x00') :
    (setupRound strtol (pre ++ (o.render number u ++ after)) pre.length p).params = o.apply p := by
  rw [SetupOption.render, List.append_assoc, setupRound_name_params]
  refine SetupOption.tests_params o u
    (fun k => strtol (pre ++ (o.name u ++ ((o.value?.map number).getD [] ++ after))) (pre.length + k))
    p notPeriod fun v value => ?_
  have read := readsBack (o, u) (List.mem_singleton_self _) v value (pre ++ o.name u) after sep
  simp only [value, Option.map_some', Option.getD_some, List.append_assoc, List.length_append] at read ⊢
  exact read

/-- A written option does not start with a NUL. -/
theorem getD_name_ne_nul (o : SetupOption) (u : Bool) (pre rest : List Char) :
    (pre ++ (o.name u ++ rest)).getD pre.length '\x00' ≠ '\x00' := by
  obtain ⟨-, -, -, nameNul, ⟨c, tail, named, -⟩, -⟩ := nameFacts_spec (nameFacts_name o u)
  rw [← headD_drop, List.drop_left, named, List.cons_append, List.headD_cons]
  exact fun nul => nameNul (named ▸ nul ▸ List.mem_cons_self _ _)

/-- `strspn` skips the comma before a written option and nothing of the option. -/
theorem renderOptions_skip (x : SetupOption × Bool) (rest : List (SetupOption × Bool)) :
    ∀ c, (renderOptions number (x :: rest)).head? = some c → c ∉ [',', ' ', '\t'] := by
  obtain ⟨-, -, -, -, ⟨c, tail, named, skipped⟩, -⟩ := nameFacts_spec (nameFacts_name x.1 x.2)
  intro c' first
  cases rest <;>
  · simp only [renderOptions, SetupOption.render, named, List.cons_append, List.head?_cons,
      Option.some.injEq] at first
    exact first ▸ skipped

theorem ReadsBack.cons {o : SetupOption × Bool} {rest : List (SetupOption × Bool)}
    (readsBack : ReadsBack strtol number (o :: rest)) :
    ReadsBack strtol number [o] ∧ ReadsBack strtol number rest :=
  ⟨fun o' member => readsBack o' (by rw [List.mem_singleton.1 member]; exact List.mem_cons_self _ _),
    fun o' member => readsBack o' (List.mem_cons_of_mem _ member)⟩

/-- The loop of `apm_setup` over written options, from any offset where they start and
with more rounds than options: it leaves what the options are for, one after the other. -/
theorem setupLoop_renderOptions (clean : Clean number) :
    ∀ (opts : List (SetupOption × Bool)) (pre : List Char) (fuel : Nat) (p : ApmParams),
      opts.length < fuel → (∀ o ∈ opts, ∀ v, o.1 ≠ .idlePeriod v) → ReadsBack strtol number opts →
      (setupLoop strtol (pre ++ renderOptions number opts) fuel pre.length p).map Prod.fst =
        some (opts.foldl (fun p o => o.1.apply p) p)
  | _, _, 0, _, enough, _, _ => absurd enough (Nat.not_lt_zero _)
  | [], pre, _ + 1, _, _, _, _ => by simp [setupLoop, renderOptions]
  | [(o, u)], pre, fuel + 1, p, _, noPeriod, readsBack => by
      obtain ⟨render, noComma, noNul⟩ := render_facts number clean o u
      have params := setupRound_render strtol number o u pre ['\x00'] p
        (noPeriod _ (List.mem_singleton_self _)) readsBack (.inr rfl)
      rw [render, List.append_assoc] at params
      simp only [renderOptions, render, List.append_assoc]
      unfold setupLoop
      rw [if_neg (getD_name_ne_nul o u pre _)]
      simp only [setupRound_name_next_nul strtol o u pre p _ [] noComma noNul, params]
      rfl
  | (o, u) :: x :: rest, pre, fuel + 1, p, enough, noPeriod, readsBack => by
      obtain ⟨render, noComma, noNul⟩ := render_facts number clean o u
      obtain ⟨head, later⟩ := readsBack.cons
      have params := setupRound_render strtol number o u pre (',' :: renderOptions number (x :: rest)) p
        (noPeriod _ (List.mem_cons_self _ _)) head (.inl rfl)
      have next := setupRound_name_next_comma strtol o u pre p _ _ noComma noNul
        (renderOptions_skip number x rest)
      rw [render, List.append_assoc] at params
      simp only [List.length_cons] at enough
      have rounds := setupLoop_renderOptions clean (x :: rest) (pre ++ o.render number u ++ [',']) fuel
        (o.apply p) (by simpa using enough) (fun o' member => noPeriod o' (List.mem_cons_of_mem _ member))
        later
      simp only [renderOptions, render, List.append_assoc, List.singleton_append,
        List.length_append, List.length_singleton] at rounds ⊢
      unfold setupLoop
      rw [if_neg (getD_name_ne_nul o u pre _)]
      simp only [next, params, Option.map_map, Function.comp_def, Nat.add_assoc]
      rw [List.foldl_cons]
      exact rounds

end loop

theorem length_le_renderOptions (number : Int → List Char) :
    ∀ opts : List (SetupOption × Bool), opts.length ≤ (renderOptions number opts).length
  | [] => Nat.zero_le _
  | [_] => by simp [renderOptions]
  | _ :: x :: rest => by
      have := length_le_renderOptions number (x :: rest)
      simp only [renderOptions, List.length_append, List.length_cons] at this ⊢
      omega

/-- A list of options written out, its numbers in a format that `simple_strtol` reads
back, is read back by `apm_setup` as the options say, one after the other, when no
option is `idle-period=`. -/
theorem apmSetup_renderOptions (strtol : List Char → Nat → Int) (number : Int → List Char)
    (opts : List (SetupOption × Bool)) (p : ApmParams) (clean : Clean number)
    (noPeriod : ∀ o ∈ opts, ∀ v, o.1 ≠ .idlePeriod v) (readsBack : ReadsBack strtol number opts) :
    (apmSetup strtol (renderOptions number opts) p).map Prod.fst =
      some (opts.foldl (fun p o => o.1.apply p) p) :=
  setupLoop_renderOptions strtol number clean opts [] _ p
    (Nat.lt_succ_of_le (length_le_renderOptions number opts)) noPeriod readsBack

/-- `bounce-interval=5,no_debug,off`, its number written as the digit 5. -/
def fiveOptions : List (SetupOption × Bool) :=
  [(.bounceInterval 5, false), (.flag .debug false, true), (.apmOff, false)]

theorem fiveOptions_read_back :
    (apmSetup (fun _ _ => 5) (renderOptions (fun _ => ['5']) fiveOptions)
        ⟨0, 0, 0, 0, true, false, false, false, false⟩).map Prod.fst =
      some ⟨1, 5, 0, 0, false, false, false, false, false⟩ :=
  apmSetup_renderOptions (fun _ _ => 5) (fun _ => ['5']) fiveOptions _ (fun _ => by simp)
    (by simp [fiveOptions])
    (fun o member v value _ _ _ => by
      simp only [fiveOptions, List.mem_cons, List.mem_singleton, List.not_mem_nil, or_false] at member
      rcases member with rfl | rfl | rfl <;> simp [SetupOption.value?] at value
      exact value)

end Apm
end PowerManagement
