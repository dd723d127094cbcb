import PowerManagement.Apm.Info

/-!
# kapmd and the unload of the module

`apm_init` starts kapmd, whose `apm()` sets `kapmd_running`, negotiates the connection
version with the BIOS, enables and engages power management as the BIOS flags ask, and
loops in `apm_mainloop` until `exit_kapmd` is set.  `apm_exit` sets `exit_kapmd` and calls
`schedule()` until `kapmd_running` is clear; then the module's code is gone.  On one
processor without preemption each path runs atomically up to the point where it sleeps.
Once kapmd has run the handshake is sound, but it has two gaps: an `apm_exit` that comes
before kapmd's first run returns at once and kapmd then runs unloaded code, and a BIOS
that refuses to enable or engage power management makes `apm()` return without clearing
`kapmd_running`, so that `apm_exit` waits for ever.
-/

namespace PowerManagement
namespace Apm

/-! ## The start of apm() -/

/-- What a call through `apm_bios_call_simple` leaves: the carry flag set or clear, with
EAX. -/
inductive SimpleCall
  | failed (eax : Nat)
  | returned (eax : Nat)
  deriving DecidableEq, Repr

/-- The result of a function that makes one such call: `(eax >> 8) & 0xff` when the carry
flag is set, `APM_SUCCESS` otherwise. -/
def SimpleCall.error : SimpleCall → Nat
  | .failed eax => (eax >>> 8) &&& 0xff
  | .returned _ => 0

/-- `apm_driver_version(&val)`: its result and the new `val`. -/
def apmDriverVersion (val : Nat) : SimpleCall → Nat × Nat
  | .failed eax => ((eax >>> 8) &&& 0xff, val)
  | .returned eax => (0, eax % 2 ^ 16)

/-- The connection version `apm()` settles on, from `apm_info.connection_version` and the
BIOS version, with the BIOS's answer to `APM_FUNC_VERSION`. -/
def negotiate (connectionVersion biosVersion : Nat) (answer : SimpleCall) : Nat :=
  if connectionVersion = 0 then
    if biosVersion > 0x100 then
      let offered := if biosVersion > 0x0102 then 0x0102 else biosVersion
      let (error, val) := apmDriverVersion offered answer
      if error ≠ 0 then 0x100 else val
    else biosVersion
  else connectionVersion

/-- `APM_BIOS_DISABLED` and `APM_BIOS_DISENGAGED`: bits 3 and 4 of the BIOS flags, as the
comment in `apm_get_info` lists them. -/
def apmBiosDisabled : Nat := 0x08

@[inherit_doc apmBiosDisabled]
def apmBiosDisengaged : Nat := 0x10

/-- What the BIOS answers kapmd as it starts: the version call, and the calls of
`apm_enable_power_management(1)` and `apm_engage_power_management(APM_DEVICE_ALL, 1)`. -/
structure StartAnswers where
  version : SimpleCall
  enable : SimpleCall
  engage : SimpleCall
  deriving DecidableEq, Repr

/-- How `apm()` leaves its start: into `apm_mainloop` on one processor; by `return -1`
after the BIOS refused to enable or engage power management, with `kapmd_running` still
set; or past the loop, with `kapmd_running` cleared, on more processors. -/
inductive StartOutcome
  | mainloop
  | refused
  | noLoop
  deriving DecidableEq, Repr

/-- `apm()` up to `apm_mainloop`, with `CONFIG_APM_DO_ENABLE` as `doEnable`: the
connection version and how it leaves. -/
def apmStart (doEnable : Bool) (smpNumCpus connectionVersion : Nat) (info : ApmInfo)
    (answers : StartAnswers) : Nat × StartOutcome :=
  let connection := negotiate connectionVersion info.biosVersion answers.version
  if doEnable ∧ info.biosFlags &&& apmBiosDisabled ≠ 0 ∧ answers.enable.error ≠ 0 then
    (connection, .refused)
  else if info.biosFlags &&& apmBiosDisengaged ≠ 0 ∧ connection > 0x0100 ∧
      answers.engage.error ≠ 0 then
    (connection, .refused)
  else if smpNumCpus = 1 then (connection, .mainloop) else (connection, .noLoop)

section negotiate

variable {biosVersion : Nat}

/-- From scratch, a BIOS after 1.0 is offered its own version, but no more than 1.2. -/
theorem negotiate_failed (newer : biosVersion > 0x100) (eax : Nat) :
    negotiate 0 biosVersion (.failed eax) =
      if (SimpleCall.failed eax).error ≠ 0 then 0x100 else min biosVersion 0x102 := by
  rw [negotiate, if_pos rfl, if_pos newer]
  simp only [apmDriverVersion, SimpleCall.error]
  split_ifs <;> omega

theorem negotiate_returned (newer : biosVersion > 0x100) (eax : Nat) :
    negotiate 0 biosVersion (.returned eax) = eax % 2 ^ 16 := by
  rw [negotiate, if_pos rfl, if_pos newer]
  rfl

theorem negotiate_older (older : biosVersion ≤ 0x100) (answer : SimpleCall) :
    negotiate 0 biosVersion answer = biosVersion := by
  rw [negotiate, if_pos rfl, if_neg (by omega)]

end negotiate

/-- When the BIOS answers the version call with at most the version it is offered, the
connection `apm()` settles on from scratch is at most 1.2 and at most the BIOS's own
version.  A version call that fails with a nonzero code falls back to 1.0, and a BIOS of
version 1.0 or less is not asked and connects at its own version. -/
theorem negotiate_le (biosVersion : Nat) {answer : SimpleCall}
    (honest : ∀ eax, answer = .returned eax → eax % 2 ^ 16 ≤ min biosVersion 0x102) :
    negotiate 0 biosVersion answer ≤ min biosVersion 0x102 ∧
      (biosVersion > 0x100 → answer.error ≠ 0 → negotiate 0 biosVersion answer = 0x100) ∧
      (biosVersion ≤ 0x100 → negotiate 0 biosVersion answer = biosVersion) := by
  refine ⟨?_, fun newer failed => ?_, (negotiate_older · answer)⟩
  · by_cases newer : biosVersion > 0x100
    · cases answer with
      | failed eax => rw [negotiate_failed newer]; split <;> omega
      | returned eax => rw [negotiate_returned newer]; exact honest eax rfl
    · rw [negotiate_older (by omega)]; omega
  · cases answer with
    | failed eax => rw [negotiate_failed newer, if_pos failed]
    | returned eax => exact absurd rfl failed

/-- A 1.2 BIOS that answers the offer of 1.2 with 1.1, and one that fails the call with
code 0x0b. -/
theorem biosOneTwo_connects_below :
    negotiate 0 0x102 (.returned 0x101) ≤ min 0x102 0x102 ∧
      negotiate 0 0x102 (.failed 0x0b00) = 0x100 :=
  ⟨(negotiate_le 0x102 fun eax answered => by cases answered; decide).1,
    (negotiate_le 0x102 fun eax answered => by cases answered).2.1 (by decide) (by decide)⟩

/-! ## The handshake of apm_exit and kapmd -/

/-- Where kapmd is. -/
inductive KapmdPc
  /-- Made by `kernel_thread`; it has not run. -/
  | created
  /-- In `schedule_timeout` of `apm_mainloop`, or blocked in a round of
  `apm_event_handler`. -/
  | sleeping
  /-- Returned from `apm()`. -/
  | exited
  deriving DecidableEq, Repr

/-- Where the unload is. -/
inductive UnloadPc
  /-- `apm_exit` has not begun. -/
  | loaded
  /-- In `while (kapmd_running) schedule();`. -/
  | waiting
  /-- `apm_exit` has returned: the module's code is gone. -/
  | unloaded
  deriving DecidableEq, Repr

/-- kapmd, `apm_exit` and the two flags between them, on one processor. -/
structure Lifecycle where
  kapmd : KapmdPc
  unload : UnloadPc
  exitKapmd : Bool
  kapmdRunning : Bool
  deriving DecidableEq, Repr

/-- What `apm_init` leaves when it returns 0 on one processor: kapmd made, not run. -/
def Lifecycle.init : Lifecycle := ⟨.created, .loaded, false, false⟩

/-- A step of kapmd or of `apm_exit`. -/
inductive LifeAction
  /-- kapmd runs `apm()` up to `apm_mainloop`, or to `return -1` when the BIOS refuses,
  with `CONFIG_APM_DO_ENABLE` as `doEnable`, the connection version and BIOS it starts
  with, and the BIOS's answers. -/
  | start (doEnable : Bool) (connectionVersion : Nat) (info : ApmInfo) (answers : StartAnswers)
  /-- kapmd wakes in `apm_mainloop`: it leaves for `exit_kapmd`, or runs a round of
  `apm_event_handler` and sleeps again. -/
  | wake
  /-- `apm_exit` runs up to its loop. -/
  | exit
  /-- `schedule()` returns to the loop of `apm_exit`. -/
  | recheck
  deriving DecidableEq, Repr

/-- The steps of kapmd, which run the module's code. -/
def LifeAction.inKapmd : LifeAction → Bool
  | .start .. | .wake => true
  | .exit | .recheck => false

/-- One step, or `none` if it cannot be taken. -/
def lifeNext (s : Lifecycle) : LifeAction → Option Lifecycle
  | .start doEnable connectionVersion info answers =>
      if s.kapmd = .created then
        some { s with
          kapmdRunning := true
          kapmd := if (apmStart doEnable 1 connectionVersion info answers).2 = .refused then .exited
            else .sleeping }
      else none
  | .wake =>
      if s.kapmd = .sleeping then
        some (if s.exitKapmd then { s with kapmd := .exited, kapmdRunning := false } else s)
      else none
  | .exit =>
      if s.unload = .loaded then
        some { s with exitKapmd := true, unload := if s.kapmdRunning then .waiting else .unloaded }
      else none
  | .recheck =>
      if s.unload = .waiting then
        some (if s.kapmdRunning then s else { s with unload := .unloaded })
      else none

/-- The state after a sequence of steps, if each can be taken. -/
def lifeRun (s : Lifecycle) : List LifeAction → Option Lifecycle
  | [] => some s
  | action :: actions => (lifeNext s action).bind (lifeRun · actions)

/-- Whether a run takes a step of kapmd after `apm_exit` has returned. -/
def runsFreedCode (s : Lifecycle) : List LifeAction → Bool
  | [] => false
  | action :: actions =>
      match lifeNext s action with
      | none => false
      | some t => (action.inKapmd && s.unload == .unloaded) || runsFreedCode t actions

/-! ## Once kapmd has run -/

/-- The handshake once kapmd has run: it sleeps only with `kapmd_running` set, and
`apm_exit` has returned only after kapmd left. -/
structure Handshake (s : Lifecycle) : Prop where
  started : s.kapmd ≠ .created
  running : s.kapmd = .sleeping → s.kapmdRunning = true
  gone : s.unload = .unloaded → s.kapmd = .exited

section steps

variable {s t : Lifecycle} {action : LifeAction}

/-- A step of kapmd starts it or wakes it. -/
theorem lifeNext_inKapmd (step : lifeNext s action = some t) (inKapmd : action.inKapmd = true) :
    s.kapmd = .created ∨ s.kapmd = .sleeping := by
  cases action with
  | start => exact .inl (by by_contra other; simp [lifeNext, other] at step)
  | wake => exact .inr (by by_contra other; simp [lifeNext, other] at step)
  | exit | recheck => cases inKapmd

/-- Once kapmd has run, a clear `kapmd_running` means it has left. -/
theorem Handshake.exited_of_stopped (handshake : Handshake s) (stopped : s.kapmdRunning = false) :
    s.kapmd = .exited := by
  cases kapmd : s.kapmd with
  | created => exact absurd kapmd handshake.started
  | sleeping => simp [handshake.running kapmd] at stopped
  | exited => rfl

theorem Handshake.step (handshake : Handshake s) (step : lifeNext s action = some t) :
    Handshake t := by
  cases action with
  | start => simp [lifeNext, handshake.started] at step
  | wake =>
    simp only [lifeNext] at step
    split at step <;> cases step
    split
    · exact ⟨by simp, by simp, by simp⟩
    · exact handshake
  | exit =>
    simp only [lifeNext] at step
    split at step <;> cases step
    refine ⟨handshake.started, handshake.running, fun unloaded => ?_⟩
    cases still : s.kapmdRunning
    · exact handshake.exited_of_stopped still
    · simp [still] at unloaded
  | recheck =>
    simp only [lifeNext] at step
    split at step <;> cases step
    split
    · exact handshake
    next stopped =>
      exact ⟨handshake.started, handshake.running,
        fun _ => handshake.exited_of_stopped (by simpa using stopped)⟩

/-- kapmd returned from `apm()` without clearing `kapmd_running`, before `apm_exit`
returned. -/
structure Stuck (s : Lifecycle) : Prop where
  exited : s.kapmd = .exited
  running : s.kapmdRunning = true
  notUnloaded : s.unload ≠ .unloaded

theorem Stuck.step (stuck : Stuck s) (step : lifeNext s action = some t) : Stuck t := by
  obtain ⟨exited, running, notUnloaded⟩ := stuck
  cases action with
  | start | wake => simp [lifeNext, exited] at step
  | exit =>
    simp only [lifeNext] at step
    split at step <;> cases step
    exact ⟨exited, running, by simp [running]⟩
  | recheck =>
    simp only [lifeNext, running, if_true] at step
    split at step <;> cases step
    exact ⟨exited, running, notUnloaded⟩

end steps

theorem runsFreedCode_of_handshake {s : Lifecycle} (handshake : Handshake s) :
    ∀ actions, runsFreedCode s actions = false
  | [] => rfl
  | action :: actions => by
      unfold runsFreedCode
      split
      next => rfl
      next t step =>
        have notFreed : (action.inKapmd && s.unload == .unloaded) = false := by
          cases inKapmd : action.inKapmd
          · rfl
          · rcases lifeNext_inKapmd step inKapmd with created | sleeping
            · exact absurd created handshake.started
            · have loaded : s.unload ≠ .unloaded := fun unloaded => by
                simpa [sleeping] using handshake.gone unloaded
              simpa using loaded
        rw [notFreed, Bool.false_or]
        exact runsFreedCode_of_handshake (handshake.step step) actions

theorem Stuck.run {s : Lifecycle} (stuck : Stuck s) :
    ∀ actions, (lifeRun s actions).map Lifecycle.unload ≠ some .unloaded
  | [] => by simpa [lifeRun] using stuck.notUnloaded
  | action :: actions => by
      simp only [lifeRun]
      cases step : lifeNext s action with
      | none => simp
      | some t => exact (stuck.step step).run actions

/-! ## What the handshake gives -/

/-- When kapmd runs before `apm_exit` begins, no run ever takes a step of kapmd after
`apm_exit` has returned, whatever the BIOS answers kapmd as it starts. -/
theorem start_first_never_runs_freed_code (doEnable : Bool) (connectionVersion : Nat)
    (info : ApmInfo) (answers : StartAnswers) (actions : List LifeAction) :
    runsFreedCode Lifecycle.init (.start doEnable connectionVersion info answers :: actions) =
      false := by
  unfold runsFreedCode
  simp only [lifeNext, Lifecycle.init, if_true]
  refine runsFreedCode_of_handshake ⟨?_, fun _ => rfl, by simp⟩ actions
  split <;> simp

/-- When the BIOS refuses to enable or to engage power management, `apm()` returns
without clearing `kapmd_running`: whatever runs next, `apm_exit` never returns. -/
theorem apmExit_hangs_after_refusal {doEnable : Bool} {connectionVersion : Nat} {info : ApmInfo}
    {answers : StartAnswers}
    (refusal : (apmStart doEnable 1 connectionVersion info answers).2 = .refused)
    (actions : List LifeAction) :
    (lifeRun Lifecycle.init (.start doEnable connectionVersion info answers :: actions)).map
      Lifecycle.unload ≠ some .unloaded := by
  simp only [lifeRun, lifeNext, Lifecycle.init, if_true, refusal, Option.some_bind]
  exact Stuck.run ⟨rfl, rfl, by simp⟩ actions

/-- A BIOS that reports power management disengaged and refuses to engage it with
`APM_NOT_ENGAGED`. -/
def disengagedBios : ApmInfo := ⟨0x102, 0x12, false, false⟩

theorem disengagedBios_unload_hangs :
    (lifeRun Lifecycle.init
        [.start false 0 disengagedBios ⟨.returned 0x102, .returned 0, .failed 0x0b00⟩, .exit,
          .recheck]).map Lifecycle.unload ≠ some .unloaded :=
  apmExit_hangs_after_refusal (by decide) [.exit, .recheck]

end Apm
end PowerManagement
