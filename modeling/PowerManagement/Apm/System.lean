import PowerManagement.Apm.Kapmd

/-!
# The driver as a system of interleaved paths

Every entry into the driver is an action: `do_open`, `do_read`, `do_ioctl` and
`do_release` of any client, a round of `apm_event_handler` or of the loop of
`check_events` on a BIOS event, a blocked path going on, and an operation of another
driver on the power management registry.  An action runs atomically on a uniprocessor
kernel without preemption, up to the point where it blocks.  `apmNext` is partial:
`none` says the action cannot run in the state.

A file is not used by other paths once its `do_release` has begun, and `do_release`
runs only when no system call on the file is in progress; kapmd takes no event while
it is blocked itself.  A client's record is its file's `private_data` until then, so
`check_apm_user` never fails here.
-/

namespace PowerManagement
namespace Apm

open Pm

/-- The commands of `do_ioctl`. -/
inductive IoctlCmd
  | standby
  | suspend
  | other (cmd : Nat)
  deriving DecidableEq, Repr

/-- The acknowledgement in `do_ioctl`: a request the client has read is taken off its
counts and the global one; without one, the client's own request goes to the others. -/
def acknowledge (s : ApmState) (kind : RequestKind) (as : ApmUser) : ApmState :=
  if 0 < as.read kind then
    (s.updateUser as.id fun as => (as.addRead kind (-1)).addPending kind (-1)).addPending kind (-1)
  else queueEvent s kind.userEvent (some as.id)

/-- `do_ioctl(cmd)` of a client: only a privileged client may ask for a standby or a
suspend; a suspend that other clients still hold requests against waits in
`wait_event_interruptible` until some suspend ends. -/
def doIoctl (s : ApmState) (as : ApmUser) (cmd : IoctlCmd) : ApmState :=
  if !as.privileged then s.log [.ioctlReturn as.id (-s.config.errno.eperm)]
  else
    match cmd with
    | .standby =>
        let acked := acknowledge s .standby as
        (if acked.standbysPending ≤ 0 then standby acked else acked).log [.ioctlReturn as.id 0]
    | .suspend =>
        let acked := acknowledge s .suspend as
        if acked.suspendsPending ≤ 0 then enterSuspend acked true (.ioctl as.id)
        else (acked.updateUser as.id fun as => { as with suspendWait := true }).block
          (.waitingSuspend as.id)
    | .other _ => s.log [.ioctlReturn as.id (-s.config.errno.einval)]

/-- `do_release` of a client: its pending counts are taken off the global ones, a
standby or a suspend that becomes due is performed, and the client is unlinked, after
the suspend if one begins. -/
def doRelease (s : ApmState) (as : ApmUser) : ApmState :=
  let standbysDone :=
    if 0 < as.standbysPending then
      let released := s.addPending .standby (-as.standbysPending)
      if released.standbysPending ≤ 0 then standby released else released
    else s
  if 0 < as.suspendsPending then
    let released := standbysDone.addPending .suspend (-as.suspendsPending)
    if released.suspendsPending ≤ 0 then enterSuspend released true (.release as.id)
    else released.unlink as.id
  else standbysDone.unlink as.id

/-- An entry into the driver. -/
inductive ApmAction
  /-- `do_open`, with the capability and mode of the opener and what `kmalloc` left in
  the record. -/
  | openDevice (suser writer reader suspendWait : Bool) (suspendResult : Int)
      (events : Fin apmMaxEvents → ApmEvent)
  /-- `do_read` into a buffer of `count` bytes of which `writable` can be written. -/
  | read (client count writable : Nat) (nonblock signal : Bool)
  | ioctl (client : Nat) (cmd : IoctlCmd)
  | release (client : Nat)
  /-- The `do_ioctl` blocked at a position of `threads` leaves its wait. -/
  | wake (thread : Nat) (signal : Bool)
  | eventHandler
  | biosEvent (event : ApmEvent) (jiffies : Nat)
  /-- The path blocked at a position of `threads` goes on, with the callbacks of its
  broadcast behaving as `cb` and the BIOS suspend succeeding or not. -/
  | resume (thread : Nat) (cb : PmCallbacks) (biosOk : Bool)
  | pm (op : PmOp)

namespace ApmState

/-- The record of a client whose file other paths may use: one not being released. -/
def available (s : ApmState) (client : Nat) : Option ApmUser :=
  if s.releasing client then none else s.findUser client

/-- kapmd is blocked in `check_events`. -/
def kapmdBlocked (s : ApmState) : Bool :=
  s.threads.any ApmThread.inKapmd

/-- Take the thread at a position off the blocked paths. -/
def unblock (s : ApmState) (index : Nat) : ApmState :=
  { s with threads := s.threads.eraseIdx index }

end ApmState

/-- One action of the driver, or `none` if it cannot run.  A `suspend()` always waits
in `pm_send_all` for a `.resume` step, so the runs are those of a kernel in which some
registered callback sleeps; with no such callback the kernel runs only the runs in which
that step follows at once. -/
def apmNext (s : ApmState) : ApmAction → Option ApmState
  | .openDevice suser writer reader suspendWait suspendResult events =>
      some (doOpen s suser writer reader suspendWait suspendResult events)
  | .read client count writable nonblock signal => do
      let as ← s.available client
      let result ← doRead s.config as count writable nonblock signal
      pure (s.updateUser client fun _ => result.user)
  | .ioctl client cmd => (s.available client).map (doIoctl s · cmd)
  | .release client =>
      if s.threads.any (·.client == some client) then none
      else (s.findUser client).map (doRelease s ·)
  | .wake index signal =>
      match s.threads[index]? with
      | some (.waitingSuspend client) => do
          let as ← s.findUser client
          if as.suspendWait && !signal then none
          else pure ((s.unblock index).log [.ioctlReturn client as.suspendResult])
      | _ => none
  | .eventHandler => if s.kapmdBlocked then none else some (eventHandler s)
  | .biosEvent event jiffies => if s.kapmdBlocked then none else some (checkEvent s event jiffies)
  | .resume index cb biosOk =>
      match s.threads[index]? with
      | some (.suspending vetoable caller) =>
          some (suspendAfterBroadcast (s.unblock index) vetoable caller cb biosOk)
      | some (.resuming err caller) => some (suspendAfterResume (s.unblock index) err caller cb)
      | some (.resumeBroadcast event) => some (resumeAfterBroadcast (s.unblock index) event cb)
      | _ => none
  | .pm op => some { s with pm := pmStep s.pm op }

/-! ## What each action does -/

section inversion

variable {s s' : ApmState}

theorem apmNext_read {client count writable : Nat} {nonblock signal : Bool}
    (step : apmNext s (.read client count writable nonblock signal) = some s') :
    ∃ as result, s.available client = some as ∧
      doRead s.config as count writable nonblock signal = some result ∧
      s' = s.updateUser client fun _ => result.user := by
  simp only [apmNext, Option.bind_eq_bind, Option.bind_eq_some, Option.pure_def,
    Option.some.injEq] at step
  obtain ⟨as, found, result, read, rfl⟩ := step
  exact ⟨as, result, found, read, rfl⟩

theorem apmNext_ioctl {client : Nat} {cmd : IoctlCmd} (step : apmNext s (.ioctl client cmd) = some s') :
    ∃ as, s.available client = some as ∧ s' = doIoctl s as cmd := by
  simp only [apmNext, Option.map_eq_some'] at step
  obtain ⟨as, found, rfl⟩ := step
  exact ⟨as, found, rfl⟩

theorem apmNext_release {client : Nat} (step : apmNext s (.release client) = some s') :
    ∃ as, s.threads.any (·.client == some client) = false ∧ s.findUser client = some as ∧
      s' = doRelease s as := by
  simp only [apmNext] at step
  split at step
  next => cases step
  next idle =>
    obtain ⟨as, found, rfl⟩ := Option.map_eq_some'.1 step
    exact ⟨as, by simpa using idle, found, rfl⟩

theorem apmNext_wake {index : Nat} {signal : Bool} (step : apmNext s (.wake index signal) = some s') :
    ∃ client as, s.threads[index]? = some (.waitingSuspend client) ∧
      s.findUser client = some as ∧
      s' = (s.unblock index).log [.ioctlReturn client as.suspendResult] := by
  simp only [apmNext] at step
  split at step
  next client get =>
    simp only [Option.bind_eq_bind, Option.bind_eq_some] at step
    obtain ⟨as, found, woken⟩ := step
    split at woken
    next => cases woken
    next => exact ⟨client, as, get, found, (Option.some.inj woken).symm⟩
  next => cases step

theorem apmNext_resume {index : Nat} {cb : PmCallbacks} {biosOk : Bool}
    (step : apmNext s (.resume index cb biosOk) = some s') :
    (∃ vetoable caller, s.threads[index]? = some (.suspending vetoable caller) ∧
        s' = suspendAfterBroadcast (s.unblock index) vetoable caller cb biosOk) ∨
      (∃ err caller, s.threads[index]? = some (.resuming err caller) ∧
        s' = suspendAfterResume (s.unblock index) err caller cb) ∨
      ∃ event, s.threads[index]? = some (.resumeBroadcast event) ∧
        s' = resumeAfterBroadcast (s.unblock index) event cb := by
  simp only [apmNext] at step
  split at step
  next vetoable caller get => exact .inl ⟨vetoable, caller, get, (Option.some.inj step).symm⟩
  next err caller get => exact .inr (.inl ⟨err, caller, get, (Option.some.inj step).symm⟩)
  next event get => exact .inr (.inr ⟨event, get, (Option.some.inj step).symm⟩)
  next => cases step

end inversion

/-- The state after a sequence of actions, if each can run. -/
def apmRun (s : ApmState) : List ApmAction → Option ApmState
  | [] => some s
  | action :: actions => (apmNext s action).bind (apmRun · actions)

/-- The states the driver reaches from boot, whatever the registry and configuration. -/
inductive Reachable : ApmState → Prop
  | boot (pm : PmState) (config : ApmConfig) : Reachable (ApmState.boot pm config)
  | step {s s' : ApmState} (action : ApmAction) :
      Reachable s → apmNext s action = some s' → Reachable s'

theorem Reachable.run {s s' : ApmState} (reachable : Reachable s) :
    ∀ actions, apmRun s actions = some s' → Reachable s'
  | [], ran => by cases ran; exact reachable
  | action :: actions, ran => by
      simp only [apmRun, Option.bind_eq_some] at ran
      obtain ⟨next, stepped, ran⟩ := ran
      exact (reachable.step action stepped).run actions ran

end Apm
end PowerManagement
