import PowerManagement.Apm.Client

/-!
# `standby`, `suspend` and the event loop of kapmd

`suspend()` blocks twice, in `pm_send_all(PM_SUSPEND, 3)` and in
`pm_send_all(PM_RESUME, 0)`, and `check_events` blocks in its own
`pm_send_all(PM_RESUME, 0)` on a resume event.  Each is split at those points: the part
before ends by leaving a thread, and the part after runs when the thread goes on.
`pm_devs_lock` serialises the broadcasts, and nothing else the driver does touches the
registry, so a broadcast is taken whole at the moment its thread goes on.
-/

namespace PowerManagement
namespace Apm

open Pm

namespace ApmState

/-- Record calls of the driver. -/
def log (s : ApmState) (calls : List ApmCall) : ApmState :=
  { s with trace := s.trace ++ calls }

/-- Leave a blocked path. -/
def block (s : ApmState) (thread : ApmThread) : ApmState :=
  { s with threads := s.threads ++ [thread] }

/-- Unlink a client from `user_list`, as the end of `do_release` does. -/
def unlink (s : ApmState) (client : Nat) : ApmState :=
  { s with users := s.users.filter (·.id != client) }

section fields

variable (s : ApmState) (calls : List ApmCall) (thread : ApmThread) (client : Nat)

@[simp] theorem log_users : (s.log calls).users = s.users := rfl
@[simp] theorem log_threads : (s.log calls).threads = s.threads := rfl
@[simp] theorem log_suspendsPending : (s.log calls).suspendsPending = s.suspendsPending := rfl
@[simp] theorem log_standbysPending : (s.log calls).standbysPending = s.standbysPending := rfl
@[simp] theorem log_nextUser : (s.log calls).nextUser = s.nextUser := rfl
@[simp] theorem log_config : (s.log calls).config = s.config := rfl
@[simp] theorem log_trace : (s.log calls).trace = s.trace ++ calls := rfl

@[simp] theorem block_users : (s.block thread).users = s.users := rfl
@[simp] theorem block_threads : (s.block thread).threads = s.threads ++ [thread] := rfl
@[simp] theorem block_suspendsPending : (s.block thread).suspendsPending = s.suspendsPending := rfl
@[simp] theorem block_standbysPending : (s.block thread).standbysPending = s.standbysPending := rfl
@[simp] theorem block_nextUser : (s.block thread).nextUser = s.nextUser := rfl
@[simp] theorem block_trace : (s.block thread).trace = s.trace := rfl

@[simp] theorem unlink_users : (s.unlink client).users = s.users.filter (·.id != client) := rfl
@[simp] theorem unlink_threads : (s.unlink client).threads = s.threads := rfl
@[simp] theorem unlink_suspendsPending : (s.unlink client).suspendsPending = s.suspendsPending := rfl
@[simp] theorem unlink_standbysPending : (s.unlink client).standbysPending = s.standbysPending := rfl
@[simp] theorem unlink_nextUser : (s.unlink client).nextUser = s.nextUser := rfl
@[simp] theorem unlink_trace : (s.unlink client).trace = s.trace := rfl

end fields

end ApmState

/-- `apm_set_power_state(APM_STATE_REJECT)`, which only BIOS interfaces after 1.0 get. -/
def reject (s : ApmState) : ApmState :=
  if s.config.connectionVersion > 0x100 then s.log [.setPowerState .reject] else s

/-- `standby()`: note the clock and put the machine in standby. -/
def standby (s : ApmState) : ApmState :=
  s.log [.standby, .getTimeDiff, .setPowerState .standby]

/-- The entry of `suspend(vetoable)`, which blocks in `pm_send_all(PM_SUSPEND, 3)`.  The
model lets the broadcast block whatever the registry holds, although only a callback can
sleep (`pm.c` 58-59): runs that interleave other paths here are possible in the kernel
only once a device with a callback is registered. -/
def enterSuspend (s : ApmState) (vetoable : Bool) (caller : SuspendCaller) : ApmState :=
  (s.log [.suspend vetoable]).block (.suspending vetoable caller)

/-- `pm_send_all(rqst, data)` on the registry, with the callbacks behaving as `cb`; and
its status. -/
def broadcast (s : ApmState) (cb : PmCallbacks) (rqst : PmRequest) (data : Int) :
    ApmState × Int :=
  ({ s.log [.pmSendAll rqst data] with pm := s.pm.sendAll cb (fun _ => true) rqst data },
    (pmSendAll cb s.pm.log s.pm.devs rqst data).status)

section broadcast

variable (s : ApmState) (cb : PmCallbacks) (rqst : PmRequest) (data : Int)

@[simp] theorem broadcast_users : (broadcast s cb rqst data).1.users = s.users := rfl
@[simp] theorem broadcast_threads : (broadcast s cb rqst data).1.threads = s.threads := rfl
@[simp] theorem broadcast_suspendsPending :
    (broadcast s cb rqst data).1.suspendsPending = s.suspendsPending := rfl
@[simp] theorem broadcast_standbysPending :
    (broadcast s cb rqst data).1.standbysPending = s.standbysPending := rfl
@[simp] theorem broadcast_nextUser : (broadcast s cb rqst data).1.nextUser = s.nextUser := rfl
@[simp] theorem broadcast_config : (broadcast s cb rqst data).1.config = s.config := rfl
@[simp] theorem broadcast_trace :
    (broadcast s cb rqst data).1.trace = s.trace ++ [.pmSendAll rqst data] := rfl

end broadcast

/-- The end of `suspend()` with result `err`: every client's `suspend_wait` cleared and
`suspend_result` set, `ignore_normal_resume` set; then its caller goes on, `do_ioctl`
returning the result and `do_release` unlinking its client. -/
def finishSuspend (s : ApmState) (err : Int) (caller : SuspendCaller) : ApmState :=
  let woken :=
    { s with
      users := s.users.map fun as => { as with suspendWait := false, suspendResult := err }
      ignoreNormalResume := true }
  match caller with
  | .checkEvents => woken
  | .ioctl client => woken.log [.ioctlReturn client err]
  | .release client => woken.unlink client

/-- `suspend(vetoable)` once `pm_send_all(PM_SUSPEND, 3)` has run with the callbacks
behaving as `cb`: a vetoable suspend that was vetoed ends with `-EBUSY`; otherwise the
BIOS suspends the machine (failing unless `biosOk`) and `suspend()` blocks in
`pm_send_all(PM_RESUME, 0)` when it resumes. -/
def suspendAfterBroadcast (s : ApmState) (vetoable : Bool) (caller : SuspendCaller)
    (cb : PmCallbacks) (biosOk : Bool) : ApmState :=
  let sent := broadcast s cb .suspend 3
  if sent.2 ≠ 0 ∧ vetoable then
    finishSuspend { reject sent.1 with waitingForResume := false } (-s.config.errno.ebusy) caller
  else
    let err := if biosOk then 0 else -s.config.errno.eio
    (sent.1.log [.getTimeDiff, .setPowerState .suspend, .setTime]).block (.resuming err caller)

/-- `suspend()` once `pm_send_all(PM_RESUME, 0)` has run: the clients hear of the
resume, and the suspend ends with the result of the BIOS suspend. -/
def suspendAfterResume (s : ApmState) (err : Int) (caller : SuspendCaller)
    (cb : PmCallbacks) : ApmState :=
  let resumed := queueEvent (broadcast s cb .resume 0).1 .normalResume none
  finishSuspend { resumed with ignoreNormalResume := true } err caller

/-- The resume case of `check_events` once its `pm_send_all(PM_RESUME, 0)` has run. -/
def resumeAfterBroadcast (s : ApmState) (event : ApmEvent) (cb : PmCallbacks) : ApmState :=
  { queueEvent (broadcast s cb .resume 0).1 event none with ignoreNormalResume := false }

/-- The suspend cases of `check_events`: refused within the bounce interval after a
resume, ignored while a suspend is already waiting for its resume, and otherwise
queued to the clients and performed at once if no privileged client holds a request. -/
def systemSuspend (s : ApmState) (event : ApmEvent) : ApmState :=
  if s.ignoreBounce then reject s
  else if s.waitingForResume then s
  else
    let queued := queueEvent { s with waitingForResume := true } event none
    if queued.suspendsPending ≤ 0 then enterSuspend queued true .checkEvents else queued

/-- The start of a round of the loop of `check_events`, at time `jiffies`: the bounce
window closes once `bounce_interval` has passed since the last resume, and any event
but a normal resume ends the wait for one to ignore. -/
def noteEvent (s : ApmState) (event : ApmEvent) (jiffies : Nat) : ApmState :=
  let s :=
    if s.ignoreBounce ∧
        unsignedLong s.config.bounceInterval < unsignedLong (jiffies - s.lastResume) then
      { s with ignoreBounce := false }
    else s
  if s.ignoreNormalResume ∧ event ≠ .normalResume then { s with ignoreNormalResume := false }
  else s

/-- The `switch` of a round of the loop of `check_events`. -/
def handleEvent (s : ApmState) (event : ApmEvent) (jiffies : Nat) : ApmState :=
  match event with
  | .sysStandby | .userStandby =>
      let queued := queueEvent s event none
      if queued.standbysPending ≤ 0 then standby queued else queued
  | .userSuspend => if s.config.ignoreUserSuspend then reject s else systemSuspend s event
  | .sysSuspend => systemSuspend s event
  | .normalResume | .criticalResume | .standbyResume =>
      let s := { s with waitingForResume := false, lastResume := jiffies, ignoreBounce := true }
      if event ≠ .normalResume ∨ s.ignoreNormalResume = false then
        (s.log [.setTime]).block (.resumeBroadcast event)
      else { s with ignoreNormalResume := false }
  | .capabilityChange | .lowBattery | .powerStatusChange => queueEvent s event none
  | .updateTime => s.log [.setTime]
  | .criticalSuspend => enterSuspend s false .checkEvents
  | .oem _ => s

/-- One round of the loop of `check_events`, on a BIOS event at time `jiffies`. -/
def checkEvent (s : ApmState) (event : ApmEvent) (jiffies : Nat) : ApmState :=
  handleEvent (noteEvent s event jiffies) event jiffies

/-- The part of `apm_event_handler` before `check_events`: while requests are pending,
every fifth round tells a BIOS after 1.0 that the machine is busy. -/
def eventHandler (s : ApmState) : ApmState :=
  if s.standbysPending > 0 ∨ s.suspendsPending > 0 then
    if s.config.connectionVersion > 0x100 then
      if s.pendingCount ≤ 0 then { s.log [.setPowerState .busy] with pendingCount := 4 }
      else { s with pendingCount := s.pendingCount - 1 }
    else s
  else { s with pendingCount := 4 }

end Apm
end PowerManagement
