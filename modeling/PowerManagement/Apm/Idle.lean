import PowerManagement.Pm.Send

/-!
# The idle routine

`apm_cpu_idle`, the idle routine `apm_init` installs when `idle_threshold` is below 100,
uses the BIOS idle call while the idle task's share of each period longer than
`idle_period` stays above `idle_threshold`.  A BIOS idle call that comes back at once,
with no timer tick during it, drains a leaky bucket of `IDLE_LEAKY_MAX`, and an empty
bucket sends the routine back to the system's own idle routine.  An `IdleAction` is a
timer interrupt, a wake-up or a step of the idle task between two reads of `jiffies`;
over every interleaving of them, each successful BIOS idle call is answered by a busy
call before the routine returns, at most `IDLE_LEAKY_MAX + 1` idle calls in a row come
back at once, and an `idle_period` the code compares as `IDLE_CALC_LIMIT` or more keeps
the BIOS idle call off.
-/

namespace PowerManagement
namespace Apm

open Pm

/-- `IDLE_CALC_LIMIT`: `HZ * 100` at the i386 `HZ` of 100 (`<asm/param.h>`, which is not
among the sources). -/
def idleCalcLimit : Nat := 100 * 100

/-- `IDLE_LEAKY_MAX`. -/
def idleLeakyMax : Nat := 16

/-- What the idle routine reads of the settings: `idle_period` and `idle_threshold`, and
whether the BIOS installation check reported `APM_IDLE_SLOWS_CLOCK`. -/
structure IdleConfig where
  idlePeriod : Int
  idleThreshold : Int
  idleSlowsClock : Bool
  deriving DecidableEq, Repr

/-- A call the idle routine makes: the BIOS idle call, with what `apm_do_idle` returned
(`-1` when the BIOS call failed, else 1 or 0 as the BIOS slows the clock or not) and
whether `jiffies` moved during it; the BIOS busy call; and the system's own idle routine,
`sys_idle` or `default_idle` when `sys_idle` is `NULL`. -/
inductive IdleCall
  | biosIdle (result : Int) (ticked : Bool)
  | biosBusy
  | sysIdle
  deriving DecidableEq, Repr

/-- Where the idle task is. -/
inductive IdlePc
  /-- In the kernel's idle loop, outside `apm_cpu_idle`. -/
  | outside
  /-- At `recalc:`. -/
  | recalc
  /-- At the test of the `while` loop. -/
  | loop
  /-- In the BIOS idle call of `apm_do_idle`, with `t` the `jiffies` read before it. -/
  | biosIdle (t : Nat)
  /-- In the system's own idle routine. -/
  | sysIdle
  deriving DecidableEq, Repr

/-- The idle task and what it reads: `jiffies` counted without wrapping (the code reads it
as a 32-bit `unsigned long`), the idle task's `times.tms_stime` and `need_resched`; the
statics `use_apm_idle`, `last_jiffies` and `last_stime` of `apm_cpu_idle` and
`clock_slowed`; the locals `apm_is_idle`, `jiffies_since_last_check` and `t1` of the call
in progress; and the calls made so far. -/
structure IdleState where
  config : IdleConfig
  jiffies : Nat
  stime : Nat
  needResched : Bool
  useApmIdle : Bool
  lastJiffies : Nat
  lastStime : Nat
  clockSlowed : Bool
  pc : IdlePc
  apmIsIdle : Bool
  sinceCheck : Nat
  t1 : Nat
  trace : List IdleCall
  deriving Repr

namespace IdleState

/-- The state `apm_init` leaves: the statics are zero, and the clock has run for a while. -/
def boot (config : IdleConfig) (jiffies stime : Nat) : IdleState :=
  ⟨config, jiffies, stime, false, false, 0, 0, false, .outside, false, 0, 0, []⟩

/-- Record a call. -/
def call (s : IdleState) (c : IdleCall) : IdleState :=
  { s with trace := s.trace ++ [c] }

/-- Enter the system's own idle routine. -/
def sysIdle (s : IdleState) : IdleState :=
  { s.call .sysIdle with pc := .sysIdle }

end IdleState

/-- `apm_do_idle` once its BIOS call has returned, failing or not: what it returns, and
`clock_slowed`, which is set after every successful call since `ALWAYS_CALL_BUSY` is
defined. -/
def apmDoIdle (s : IdleState) (biosOk : Bool) : Int × IdleState :=
  if biosOk then (if s.config.idleSlowsClock then 1 else 0, { s with clockSlowed := true })
  else (-1, s)

/-- `apm_do_busy`: tell the BIOS the CPU is busy if it may have slowed the clock. -/
def apmDoBusy (s : IdleState) : IdleState :=
  if s.clockSlowed then { s.call .biosBusy with clockSlowed := false } else s

theorem apmDoBusy_eq (s : IdleState) :
    apmDoBusy s = { s with
      clockSlowed := false
      trace := if s.clockSlowed then s.trace ++ [.biosBusy] else s.trace } := by
  unfold apmDoBusy
  cases s with
  | mk _ _ _ _ _ _ _ clockSlowed => cases clockSlowed <;> rfl

/-- The end of `apm_cpu_idle` calls `apm_do_busy` only if a BIOS idle call of this call
succeeded, which it does whenever `clock_slowed` is set. -/
theorem apmDoBusy_of_apmIsIdle {s : IdleState} (idle : s.clockSlowed = true → s.apmIsIdle = true) :
    (if s.apmIsIdle then apmDoBusy s else s) = apmDoBusy s := by
  cases slowed : s.clockSlowed
  · simp [apmDoBusy, slowed]
  · rw [if_pos (idle slowed)]

/-- The entry of `apm_cpu_idle`: `apm_is_idle` is 0 and `jiffies_since_last_check` is
read. -/
def enter (s : IdleState) : IdleState :=
  { s with
    apmIsIdle := false
    sinceCheck := unsignedLong (s.jiffies - s.lastJiffies)
    pc := .recalc }

/-- The block at `recalc:`: start over after more than `IDLE_CALC_LIMIT`, or, after more
than `idle_period`, use the BIOS idle call exactly when the idle task's share of the
period, in percent and in `unsigned int` arithmetic, is above `idle_threshold` as the
code compares it; then fill the leaky bucket. -/
def recalc (s : IdleState) : IdleState :=
  let checked :=
    if s.sinceCheck > idleCalcLimit then
      { s with
        useApmIdle := false
        lastJiffies := unsignedLong s.jiffies
        lastStime := unsignedLong s.stime }
    else if s.sinceCheck > unsignedLong s.config.idlePeriod then
      let idlePercentage := unsignedLong (unsignedLong (s.stime - s.lastStime) * 100)
        / s.sinceCheck
      { s with
        useApmIdle := decide (idlePercentage > unsignedLong s.config.idleThreshold)
        lastJiffies := unsignedLong s.jiffies
        lastStime := unsignedLong s.stime }
    else s
  { checked with t1 := idleLeakyMax, pc := .loop }

/-- `recalc:` changes only the statics of the routine, the bucket and where it is. -/
theorem recalc_eq (s : IdleState) :
    recalc s = { s with
      useApmIdle := (recalc s).useApmIdle
      lastJiffies := (recalc s).lastJiffies
      lastStime := (recalc s).lastStime
      t1 := idleLeakyMax
      pc := .loop } := by
  unfold recalc
  split_ifs <;> rfl

/-- The test of the `while` loop: leave, telling the BIOS the CPU is busy if a BIOS idle
call of this call succeeded; or begin the BIOS idle call, reading `jiffies` first; or
the system's idle routine. -/
def loopTest (s : IdleState) : IdleState :=
  if s.needResched then
    { (if s.apmIsIdle then apmDoBusy s else s) with pc := .outside }
  else if s.useApmIdle then { s with pc := .biosIdle (unsignedLong s.jiffies) }
  else s.sysIdle

/-- The `switch` on what `apm_do_idle` returned.  On 0 the BIOS idled without slowing
the clock: when `jiffies` moved during the call a bucket not empty is filled again, when
it did not the bucket is drained by one, and in both cases the loop goes on; an empty
bucket, 1 and -1 go on to the system's idle routine. -/
def afterBiosIdle (s : IdleState) (t : Nat) (biosOk : Bool) : IdleState :=
  let done := apmDoIdle s biosOk
  let ticked := t != unsignedLong s.jiffies
  let s := done.2.call (.biosIdle done.1 ticked)
  if done.1 = 0 then
    if s.t1 ≠ 0 then
      { s with
        apmIsIdle := true
        t1 := if ticked then idleLeakyMax else s.t1 - 1
        pc := .loop }
    else { s with apmIsIdle := true }.sysIdle
  else if done.1 = 1 then { s with apmIsIdle := true }.sysIdle
  else s.sysIdle

/-- What the BIOS idle call leaves: `clock_slowed` and `apm_is_idle` set when it
succeeded, the call recorded, and the loop going on exactly when `apm_do_idle` returned 0
with the bucket not empty. -/
theorem afterBiosIdle_eq (s : IdleState) (t : Nat) (biosOk : Bool) :
    afterBiosIdle s t biosOk =
      let called := { s with
        clockSlowed := s.clockSlowed || biosOk
        apmIsIdle := s.apmIsIdle || biosOk
        trace := s.trace ++ [IdleCall.biosIdle (apmDoIdle s biosOk).1 (t != unsignedLong s.jiffies)] }
      if (apmDoIdle s biosOk).1 = 0 ∧ s.t1 ≠ 0 then
        { called with
          t1 := if t != unsignedLong s.jiffies then idleLeakyMax else s.t1 - 1
          pc := .loop }
      else called.sysIdle := by
  cases biosOk <;> cases slows : s.config.idleSlowsClock <;>
    simp [afterBiosIdle, apmDoIdle, slows, IdleState.call]

/-- `apm_do_idle` returns a negative value exactly when the BIOS call failed. -/
theorem apmDoIdle_nonneg (s : IdleState) (biosOk : Bool) :
    decide (0 ≤ (apmDoIdle s biosOk).1) = biosOk := by
  cases biosOk <;> cases slows : s.config.idleSlowsClock <;> simp [apmDoIdle, slows]

/-- Back from the system's idle routine: read `jiffies_since_last_check` again and go to
`recalc:` after more than `idle_period`, to the test of the loop otherwise. -/
def afterSysIdle (s : IdleState) : IdleState :=
  let sinceCheck := unsignedLong (s.jiffies - s.lastJiffies)
  { s with
    sinceCheck := sinceCheck
    pc := if sinceCheck > unsignedLong s.config.idlePeriod then .recalc else .loop }

/-- The idle task's next step.  Outside `apm_cpu_idle` it is the kernel's idle loop (not
among the sources): `schedule()` while `need_resched` is set, which comes back with it
clear, and otherwise a call of `pm_idle`, which is `apm_cpu_idle`.  `biosOk` is whether
the BIOS idle call succeeds, when the step returns from one. -/
def apmCpuIdle (s : IdleState) (biosOk : Bool) : IdleState :=
  match s.pc with
  | .outside => if s.needResched then { s with needResched := false } else enter s
  | .recalc => recalc s
  | .loop => loopTest s
  | .biosIdle t => afterBiosIdle s t biosOk
  | .sysIdle => afterSysIdle s

/-- What can happen next: a timer tick, which the idle task's system time counts when it
lands while the idle task runs; a wake-up, which sets `need_resched`; or the idle task's
next step. -/
inductive IdleAction
  | tick (inIdle : Bool)
  | wake
  | step (biosOk : Bool)
  deriving DecidableEq, Repr

/-- One action. -/
def idleNext (s : IdleState) : IdleAction → IdleState
  | .tick inIdle =>
      { s with
        jiffies := s.jiffies + 1
        stime := if inIdle then s.stime + 1 else s.stime }
  | .wake => { s with needResched := true }
  | .step biosOk => apmCpuIdle s biosOk

/-- The state after a sequence of actions. -/
def idleRun (s : IdleState) (actions : List IdleAction) : IdleState :=
  actions.foldl idleNext s

theorem apmCpuIdle_config (s : IdleState) (biosOk : Bool) :
    (apmCpuIdle s biosOk).config = s.config := by
  unfold apmCpuIdle
  split
  · split <;> rfl
  · rw [recalc_eq]
  · unfold loopTest
    split
    · show (if s.apmIsIdle then apmDoBusy s else s).config = s.config
      split
      · rw [apmDoBusy_eq]
      · rfl
    · split <;> rfl
  · rw [afterBiosIdle_eq]
    split <;> rfl
  · rfl

@[simp] theorem idleNext_config (s : IdleState) (action : IdleAction) :
    (idleNext s action).config = s.config := by
  cases action
  · rfl
  · rfl
  · exact apmCpuIdle_config s _

/-- The states the idle task reaches once `apm_init` has installed the routine. -/
inductive IdleReachable : IdleState → Prop
  | boot (config : IdleConfig) (jiffies stime : Nat) :
      IdleReachable (IdleState.boot config jiffies stime)
  | step {s : IdleState} (action : IdleAction) : IdleReachable s → IdleReachable (idleNext s action)

theorem IdleReachable.run {s : IdleState} (reachable : IdleReachable s) :
    ∀ actions, IdleReachable (idleRun s actions)
  | [] => reachable
  | action :: actions => (reachable.step action).run actions

/-! ## The BIOS busy call answers every successful idle call -/

/-- Whether the BIOS is owed a busy call after one more call, if it was owed one before:
a successful idle call (`apm_do_idle` returned 0 or 1) leaves one owed, a busy call pays
it, and a busy call with nothing owed gives `none`. -/
def owedAfter (owed : Bool) : IdleCall → Option Bool
  | .biosIdle result _ => some (owed || decide (0 ≤ result))
  | .biosBusy => if owed then some false else none
  | .sysIdle => some owed

/-- Whether the BIOS is owed a busy call after the calls of a trace; `none` once a busy
call came with nothing owed. -/
def busyOwed (trace : List IdleCall) : Option Bool :=
  trace.foldl (fun owed c => owed.bind (owedAfter · c)) (some false)

@[simp] theorem busyOwed_nil : busyOwed [] = some false := rfl

@[simp] theorem busyOwed_concat (trace : List IdleCall) (c : IdleCall) :
    busyOwed (trace ++ [c]) = (busyOwed trace).bind (owedAfter · c) := by
  simp [busyOwed]

/-- `clock_slowed` is whether the BIOS is owed a busy call; it is set only while a call
of `apm_cpu_idle` that saw a successful BIOS idle call runs. -/
structure BusyInv (s : IdleState) : Prop where
  owed : busyOwed s.trace = some s.clockSlowed
  idle : s.clockSlowed = true → s.apmIsIdle = true
  outside : s.pc = .outside → s.clockSlowed = false

theorem BusyInv.boot (config : IdleConfig) (jiffies stime : Nat) :
    BusyInv (IdleState.boot config jiffies stime) :=
  ⟨rfl, fun slowed => absurd slowed Bool.false_ne_true, fun _ => rfl⟩

/-- Entering the system's idle routine keeps the invariant, wherever the routine was. -/
theorem busyInv_sysIdle {s : IdleState} (owed : busyOwed s.trace = some s.clockSlowed)
    (idle : s.clockSlowed = true → s.apmIsIdle = true) : BusyInv s.sysIdle :=
  ⟨by simp [IdleState.sysIdle, IdleState.call, owed, owedAfter], idle,
    fun pc => absurd pc (by simp [IdleState.sysIdle])⟩

theorem busyInv_loopTest {s : IdleState} (inv : BusyInv s) : BusyInv (loopTest s) := by
  unfold loopTest
  split
  · rw [apmDoBusy_of_apmIsIdle inv.idle, apmDoBusy]
    split
    next slowed => exact ⟨by simp [IdleState.call, inv.owed, slowed, owedAfter],
      fun fast => absurd fast Bool.false_ne_true, fun _ => rfl⟩
    next slowed => exact ⟨inv.owed, inv.idle, fun _ => by simpa using slowed⟩
  · split
    · exact ⟨inv.owed, inv.idle, fun pc => absurd pc (by simp)⟩
    · exact busyInv_sysIdle inv.owed inv.idle

theorem busyInv_afterBiosIdle {s : IdleState} (inv : BusyInv s) (t : Nat) (biosOk : Bool) :
    BusyInv (afterBiosIdle s t biosOk) := by
  have owed : busyOwed (s.trace ++ [.biosIdle (apmDoIdle s biosOk).1 (t != unsignedLong s.jiffies)]) =
      some (s.clockSlowed || biosOk) := by
    simp [inv.owed, owedAfter, apmDoIdle_nonneg]
  have idle : (s.clockSlowed || biosOk) = true → (s.apmIsIdle || biosOk) = true := by
    cases biosOk <;> simp_all [inv.idle]
  rw [afterBiosIdle_eq]
  split
  · exact ⟨owed, idle, fun pc => absurd pc (by simp)⟩
  · exact busyInv_sysIdle owed idle

theorem BusyInv.step {s : IdleState} (inv : BusyInv s) :
    ∀ action, BusyInv (idleNext s action)
  | .tick _ => ⟨inv.owed, inv.idle, inv.outside⟩
  | .wake => ⟨inv.owed, inv.idle, inv.outside⟩
  | .step biosOk => by
      show BusyInv (apmCpuIdle s biosOk)
      unfold apmCpuIdle
      split
      next outside =>
        split
        · exact ⟨inv.owed, inv.idle, inv.outside⟩
        · exact ⟨inv.owed, fun slowed => absurd slowed (by simp [enter, inv.outside outside]),
            fun pc => absurd pc (by simp [enter])⟩
      · rw [recalc_eq]
        exact ⟨inv.owed, inv.idle, fun pc => absurd pc (by simp)⟩
      · exact busyInv_loopTest inv
      · exact busyInv_afterBiosIdle inv _ biosOk
      · exact ⟨inv.owed, inv.idle, fun pc => absurd pc (by simp [afterSysIdle]; split <;> simp)⟩

theorem IdleReachable.busyInv {s : IdleState} (reachable : IdleReachable s) : BusyInv s := by
  induction reachable with
  | boot config jiffies stime => exact BusyInv.boot config jiffies stime
  | step action _ inv => exact inv.step action

/-- Whenever the idle routine is not running, the BIOS is owed no busy call: every
successful BIOS idle call has been answered by a busy call before `apm_cpu_idle`
returned, and no busy call was made without one. -/
theorem busyOwed_of_outside {s : IdleState} (reachable : IdleReachable s)
    (outside : s.pc = .outside) : busyOwed s.trace = some false := by
  have inv := reachable.busyInv
  rw [inv.owed, inv.outside outside]

/-- An idle task that finds the machine idle enough, makes a BIOS idle call that slows
the clock, and is woken during the system's idle routine. -/
def slowedIdleRun : List IdleAction :=
  [.step true, .step true, .step true, .wake, .step true, .step true, .step true]

theorem slowedIdleRun_busy :
    (idleRun (IdleState.boot ⟨0, 0, true⟩ 100 100) slowedIdleRun).trace =
        [.biosIdle 1 false, .sysIdle, .biosBusy] ∧
      busyOwed (idleRun (IdleState.boot ⟨0, 0, true⟩ 100 100) slowedIdleRun).trace = some false :=
  ⟨by decide, busyOwed_of_outside ((IdleReachable.boot _ _ _).run _) (by decide)⟩

/-! ## The leaky bucket -/

/-- A BIOS idle call that came back at once: it succeeded without slowing the clock, and
no timer tick came during it. -/
def IdleCall.immediate (c : IdleCall) : Bool :=
  c == .biosIdle 0 false

/-- The stretch of calls that came back at once at the end of a trace, and the longest
such stretch anywhere in it. -/
def immediateRuns (trace : List IdleCall) : Nat × Nat :=
  trace.foldl (fun runs c => if c.immediate then (runs.1 + 1, max runs.2 (runs.1 + 1))
    else (0, runs.2)) (0, 0)

/-- The longest stretch of BIOS idle calls in a row that came back at once. -/
def longestImmediateRun (trace : List IdleCall) : Nat :=
  (immediateRuns trace).2

@[simp] theorem immediateRuns_concat (trace : List IdleCall) (c : IdleCall) :
    immediateRuns (trace ++ [c]) =
      if c.immediate then ((immediateRuns trace).1 + 1,
        max (immediateRuns trace).2 ((immediateRuns trace).1 + 1))
      else (0, (immediateRuns trace).2) := by
  simp [immediateRuns]

/-- A trace that owes the BIOS no busy call does not end with a call that came back at
once, since such a call succeeded. -/
theorem immediateRuns_fst_of_busyOwed {trace : List IdleCall}
    (owed : busyOwed trace = some false) : (immediateRuns trace).1 = 0 := by
  induction trace using List.reverseRecOn with
  | nil => rfl
  | append_singleton trace c _ =>
    rw [immediateRuns_concat]
    split
    next immediate =>
      simp only [IdleCall.immediate, beq_iff_eq] at immediate
      subst immediate
      cases before : busyOwed trace <;> simp [before, owedAfter] at owed
    · rfl

/-- Whether the idle task is in the `while` loop with the bucket in use. -/
def IdlePc.inLoop : IdlePc → Bool
  | .loop | .biosIdle _ => true
  | _ => false

/-- In the loop, the calls that came back at once since the bucket was last filled have
drained it by as many; elsewhere the trace does not end with such a call. -/
structure BucketInv (s : IdleState) : Prop where
  bucket : s.t1 ≤ idleLeakyMax
  inLoop : s.pc.inLoop → (immediateRuns s.trace).1 + s.t1 ≤ idleLeakyMax
  outLoop : s.pc.inLoop = false → (immediateRuns s.trace).1 = 0
  longest : (immediateRuns s.trace).2 ≤ idleLeakyMax + 1

theorem BucketInv.boot (config : IdleConfig) (jiffies stime : Nat) :
    BucketInv (IdleState.boot config jiffies stime) :=
  ⟨Nat.zero_le _, fun inLoop => absurd inLoop Bool.false_ne_true, fun _ => rfl,
    Nat.zero_le _⟩

/-- Entering the system's idle routine ends every stretch of calls that came back at
once. -/
theorem bucketInv_sysIdle {s : IdleState} (bucket : s.t1 ≤ idleLeakyMax)
    (longest : (immediateRuns s.trace).2 ≤ idleLeakyMax + 1) : BucketInv s.sysIdle :=
  ⟨bucket, fun inLoop => absurd inLoop (by simp [IdleState.sysIdle, IdlePc.inLoop]),
    fun _ => by simp [IdleState.sysIdle, IdleState.call, IdleCall.immediate],
    by simpa [IdleState.sysIdle, IdleState.call, IdleCall.immediate] using longest⟩

theorem bucketInv_loopTest {s : IdleState} (inv : BucketInv s) (busy : BusyInv s)
    (inLoop : s.pc = .loop) : BucketInv (loopTest s) := by
  have run := inv.inLoop (by simp [inLoop, IdlePc.inLoop])
  unfold loopTest
  split
  · rw [apmDoBusy_of_apmIsIdle busy.idle, apmDoBusy]
    split
    next => exact ⟨inv.bucket, fun inLoop => absurd inLoop (by simp [IdlePc.inLoop]),
      fun _ => by simp [IdleState.call, IdleCall.immediate],
      by simpa [IdleState.call, IdleCall.immediate] using inv.longest⟩
    next slowed => exact ⟨inv.bucket, fun inLoop => absurd inLoop (by simp [IdlePc.inLoop]),
      fun _ => immediateRuns_fst_of_busyOwed (by simpa [slowed] using busy.owed), inv.longest⟩
  · split
    · exact ⟨inv.bucket, fun _ => run, fun outLoop => absurd outLoop (by simp [IdlePc.inLoop]),
        inv.longest⟩
    · exact bucketInv_sysIdle inv.bucket inv.longest

theorem bucketInv_afterBiosIdle {s : IdleState} (inv : BucketInv s) {t : Nat} (biosOk : Bool)
    (inLoop : s.pc = .biosIdle t) : BucketInv (afterBiosIdle s t biosOk) := by
  have run := inv.inLoop (by simp [inLoop, IdlePc.inLoop])
  have longest := inv.longest
  have bucket := inv.bucket
  rw [afterBiosIdle_eq]
  generalize (t != unsignedLong s.jiffies) = ticked
  generalize (apmDoIdle s biosOk).1 = result
  dsimp only
  split
  next goesOn =>
    obtain ⟨rfl, full⟩ := goesOn
    refine ⟨by dsimp only; split <;> omega, fun _ => ?_, fun outLoop => absurd outLoop (by simp [IdlePc.inLoop]),
      ?_⟩ <;> cases ticked <;> simp [IdleCall.immediate] <;> omega
  · refine bucketInv_sysIdle bucket ?_
    simp only [immediateRuns_concat]
    split <;> simp <;> omega

theorem BucketInv.step {s : IdleState} (inv : BucketInv s) (busy : BusyInv s) :
    ∀ action, BucketInv (idleNext s action)
  | .tick _ => ⟨inv.bucket, inv.inLoop, inv.outLoop, inv.longest⟩
  | .wake => ⟨inv.bucket, inv.inLoop, inv.outLoop, inv.longest⟩
  | .step biosOk => by
      show BucketInv (apmCpuIdle s biosOk)
      unfold apmCpuIdle
      split
      next outside =>
        have quiet := inv.outLoop (by simp [outside, IdlePc.inLoop])
        split
        · exact ⟨inv.bucket, inv.inLoop, inv.outLoop, inv.longest⟩
        · exact ⟨inv.bucket, fun inLoop => absurd inLoop (by simp [enter, IdlePc.inLoop]),
            fun _ => quiet, inv.longest⟩
      next atRecalc =>
        have quiet := inv.outLoop (by simp [atRecalc, IdlePc.inLoop])
        rw [recalc_eq]
        exact ⟨le_refl _, fun _ => by simp [quiet], fun outLoop => absurd outLoop (by simp [IdlePc.inLoop]),
          inv.longest⟩
      next atLoop => exact bucketInv_loopTest inv busy atLoop
      next atBios => exact bucketInv_afterBiosIdle inv biosOk atBios
      next atSysIdle =>
        have quiet := inv.outLoop (by simp [atSysIdle, IdlePc.inLoop])
        exact ⟨inv.bucket, fun _ => by simpa [afterSysIdle, quiet] using inv.bucket,
          fun _ => quiet, inv.longest⟩

theorem IdleReachable.bucketInv {s : IdleState} (reachable : IdleReachable s) : BucketInv s := by
  induction reachable with
  | boot config jiffies stime => exact BucketInv.boot config jiffies stime
  | step action reachable inv => exact inv.step reachable.busyInv action

/-- The leaky bucket of `apm_cpu_idle` bounds every run: the idle task never makes more
than `IDLE_LEAKY_MAX + 1` BIOS idle calls in a row that come back at once, without a
timer tick, before it turns to the system's own idle routine. -/
theorem longestImmediateRun_le {s : IdleState} (reachable : IdleReachable s) :
    longestImmediateRun s.trace ≤ idleLeakyMax + 1 :=
  reachable.bucketInv.longest

/-- An idle task whose BIOS idle calls all come back at once: the entry, `recalc:`, and
then seventeen BIOS idle calls before the system's idle routine. -/
def drainRun : List IdleAction :=
  List.replicate 36 (.step true)

theorem drainRun_longestImmediateRun :
    longestImmediateRun (idleRun (IdleState.boot ⟨0, 0, false⟩ 100 100) drainRun).trace =
        idleLeakyMax + 1 ∧
      longestImmediateRun (idleRun (IdleState.boot ⟨0, 0, false⟩ 100 100) drainRun).trace ≤
        idleLeakyMax + 1 :=
  ⟨by decide, longestImmediateRun_le ((IdleReachable.boot _ _ _).run _)⟩

/-! ## An `idle_period` past `IDLE_CALC_LIMIT` -/

/-- The routine never uses the BIOS idle call: it is not in one, has made none, and
`use_apm_idle` stays clear. -/
structure NoBiosIdle (s : IdleState) : Prop where
  use : s.useApmIdle = false
  pc : ∀ t, s.pc ≠ .biosIdle t
  trace : ∀ result ticked, IdleCall.biosIdle result ticked ∉ s.trace

section longPeriod

variable {s : IdleState} (period : idleCalcLimit ≤ unsignedLong s.config.idlePeriod)
include period

/-- With `idle_period` compared as `IDLE_CALC_LIMIT` or more, `recalc:` never measures:
a period long enough for that is longer than `IDLE_CALC_LIMIT`, and starts over. -/
theorem recalc_useApmIdle_of_idlePeriod (unused : s.useApmIdle = false) :
    (recalc s).useApmIdle = false := by
  unfold recalc
  dsimp only
  split_ifs
  · rfl
  · omega
  · exact unused

theorem NoBiosIdle.step (inv : NoBiosIdle s) (busy : BusyInv s) : ∀ action, NoBiosIdle (idleNext s action)
  | .tick _ => ⟨inv.use, inv.pc, inv.trace⟩
  | .wake => ⟨inv.use, inv.pc, inv.trace⟩
  | .step biosOk => by
      show NoBiosIdle (apmCpuIdle s biosOk)
      unfold apmCpuIdle
      split
      · split
        · exact ⟨inv.use, inv.pc, inv.trace⟩
        · exact ⟨inv.use, fun _ => by simp [enter], inv.trace⟩
      · rw [recalc_eq]
        exact ⟨recalc_useApmIdle_of_idlePeriod period inv.use, fun _ => by simp, inv.trace⟩
      · unfold loopTest
        split
        · rw [apmDoBusy_of_apmIsIdle busy.idle, apmDoBusy_eq]
          exact ⟨inv.use, fun _ => by simp, by split <;> simp [inv.trace]⟩
        · rw [if_neg (by simp [inv.use])]
          exact ⟨inv.use, fun _ => by simp [IdleState.sysIdle],
            by simp [IdleState.sysIdle, IdleState.call, inv.trace]⟩
      next t atBios => exact absurd atBios (inv.pc t)
      · exact ⟨inv.use, fun _ => by simp only [afterSysIdle]; split <;> simp, inv.trace⟩

end longPeriod

theorem IdleReachable.noBiosIdle {s : IdleState} (reachable : IdleReachable s)
    (period : idleCalcLimit ≤ unsignedLong s.config.idlePeriod) : NoBiosIdle s := by
  induction reachable with
  | boot config jiffies stime => exact ⟨rfl, fun _ => by simp [IdleState.boot], by simp [IdleState.boot]⟩
  | step action reachable inv =>
    have kept : idleCalcLimit ≤ unsignedLong _ := idleNext_config _ action ▸ period
    exact (inv kept).step kept reachable.busyInv action

/-- `idle_period` is an `int` that the code compares as `unsigned int`: every negative
one, and every one of at least `IDLE_CALC_LIMIT`, makes a measurement period always
longer than `IDLE_CALC_LIMIT`, and the BIOS idle call is then never made. -/
theorem biosIdle_not_mem_of_idlePeriod {s : IdleState} (reachable : IdleReachable s)
    (period : idleCalcLimit ≤ unsignedLong s.config.idlePeriod) (result : Int) (ticked : Bool) :
    IdleCall.biosIdle result ticked ∉ s.trace :=
  (reachable.noBiosIdle period).trace result ticked

theorem drainRun_negative_idlePeriod :
    IdleCall.biosIdle 0 false ∈ (idleRun (IdleState.boot ⟨0, 0, false⟩ 100 100) drainRun).trace ∧
      IdleCall.biosIdle 0 false ∉ (idleRun (IdleState.boot ⟨-1, 0, false⟩ 100 100) drainRun).trace :=
  ⟨by decide, biosIdle_not_mem_of_idlePeriod ((IdleReachable.boot _ _ _).run _) (by decide) 0 false⟩

/-! ## Giving the processor back -/

/-- How many of its own steps the idle task needs, at most, to leave `apm_cpu_idle` once
`need_resched` is set: from the BIOS idle call through the system's idle routine and
`recalc:` to the test of the loop. -/
def IdlePc.exitDistance : IdlePc → Nat
  | .outside => 0
  | .loop => 1
  | .recalc => 2
  | .sysIdle => 3
  | .biosIdle _ => 4

/-- Whether an action is a step of the idle task. -/
def IdleAction.isStep : IdleAction → Bool
  | .step _ => true
  | _ => false

/-- With `need_resched` set, each step of the routine brings it nearer to its end. -/
theorem apmCpuIdle_exitDistance {s : IdleState} (resched : s.needResched = true)
    (inside : s.pc ≠ .outside) (biosOk : Bool) :
    (apmCpuIdle s biosOk).needResched = true ∧
      (apmCpuIdle s biosOk).pc.exitDistance < s.pc.exitDistance := by
  unfold apmCpuIdle
  split
  next outside => exact absurd outside inside
  next atRecalc => rw [recalc_eq]; simp [atRecalc, resched, IdlePc.exitDistance]
  next atLoop =>
    unfold loopTest
    rw [if_pos resched]
    constructor
    · show (if s.apmIsIdle then apmDoBusy s else s).needResched = true
      split
      · rw [apmDoBusy_eq]; exact resched
      · exact resched
    · simp [atLoop, IdlePc.exitDistance]
  next atBios =>
    rw [afterBiosIdle_eq]
    split <;> simp [atBios, resched, IdleState.sysIdle, IdleState.call, IdlePc.exitDistance]
  next atSysIdle =>
    simp only [afterSysIdle, atSysIdle, resched, true_and]
    split <;> simp [IdlePc.exitDistance]

theorem idleNext_exitDistance {s : IdleState} (resched : s.needResched = true)
    (inside : s.pc ≠ .outside) (action : IdleAction) :
    (idleNext s action).needResched = true ∧
      (idleNext s action).pc.exitDistance + (if action.isStep then 1 else 0) ≤
        s.pc.exitDistance := by
  cases action with
  | tick _ => exact ⟨resched, le_refl _⟩
  | wake => exact ⟨rfl, le_refl _⟩
  | step biosOk =>
    obtain ⟨stillSet, nearer⟩ := apmCpuIdle_exitDistance resched inside biosOk
    exact ⟨stillSet, nearer⟩

/-- Once `need_resched` is set, the idle task leaves `apm_cpu_idle` within as many of its
own steps as its distance to the end, whatever the BIOS and the timer do meanwhile. -/
theorem leaves_within_exitDistance :
    ∀ (s : IdleState) (actions : List IdleAction), s.needResched = true →
      s.pc.exitDistance ≤ actions.countP IdleAction.isStep →
      ∃ n ≤ actions.length, (idleRun s (actions.take n)).pc = .outside
  | s, actions, resched, enough => by
    by_cases inside : s.pc = .outside
    · exact ⟨0, Nat.zero_le _, inside⟩
    · cases actions with
      | nil =>
          cases pc : s.pc <;> simp_all [IdlePc.exitDistance]
      | cons action rest =>
          obtain ⟨stillSet, nearer⟩ := idleNext_exitDistance resched inside action
          obtain ⟨n, le, out⟩ := leaves_within_exitDistance (idleNext s action) rest stillSet
            (by rw [List.countP_cons] at enough; split at nearer <;> simp_all <;> omega)
          exact ⟨n + 1, by simp [le], out⟩

/-- `apm_cpu_idle` gives the processor back within four of the idle task's steps once
`need_resched` is set, whatever the BIOS and the timer do meanwhile: from the BIOS idle
call, through the system's idle routine and `recalc:`, to the test of the loop. -/
theorem leaves_within_four_steps (s : IdleState) (actions : List IdleAction)
    (resched : s.needResched = true) (steps : 4 ≤ actions.countP IdleAction.isStep) :
    ∃ n ≤ actions.length, (idleRun s (actions.take n)).pc = .outside :=
  leaves_within_exitDistance s actions resched
    (le_trans (by cases s.pc <;> simp [IdlePc.exitDistance]) steps)

/-- The idle task of `drainRun` woken during its seventeenth BIOS idle call, with a tick
during it: the bucket is empty, and the period is over. -/
def wokenInBiosIdle : IdleState :=
  idleRun (IdleState.boot ⟨0, 0, false⟩ 100 100)
    (List.replicate 35 (.step true) ++ [.tick true, .wake])

theorem wokenInBiosIdle_leaves_at_fourth_step :
    (idleRun wokenInBiosIdle (List.replicate 3 (.step true))).pc = .loop ∧
      ∃ n ≤ (List.replicate 4 (IdleAction.step true)).length,
        (idleRun wokenInBiosIdle ((List.replicate 4 (.step true)).take n)).pc = .outside :=
  ⟨by decide, leaves_within_four_steps wokenInBiosIdle _ (by decide) (by decide)⟩

end Apm
end PowerManagement
