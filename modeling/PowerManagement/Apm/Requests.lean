import PowerManagement.Apm.Accounting

/-!
# Standby and suspend requests across interleaved paths

What the counters of `Accounting` give the driver: a vetoable `suspend()` or a
`standby()` starts only when every client that is not being released has acknowledged
every request of its kind, and a privileged client never has fewer requests pending
than it has read and still has queued.  The global counters do not stay the sum of the
clients' counters: a request that reaches a client while `suspend(1)` in its
`do_release` is blocked is counted in the global counter and never taken off it.
`APM_IOC_SUSPEND` returns the client's `suspend_result` however its wait ends: after a
signal, or after a `suspend()` that began before the request.
-/

namespace PowerManagement
namespace Apm

open Pm

/-! ## The global counter leaks -/

/-- A device whose callback may sleep is registered (`pm.c` 58-59), so `pm_send_all` can
block.  A privileged reader holds a suspend request when it is released; `suspend(1)` in
its `do_release` blocks in `pm_send_all`, another privileged client asks for a suspend
meanwhile, and the request reaches the client being released. -/
def leakRun : List ApmAction :=
  [.pm (.register 0 0 (some 0)),
    .openDevice true true true false 0 fun _ => .lowBattery,
    .biosEvent .sysSuspend 0,
    .openDevice true true true false 0 fun _ => .lowBattery,
    .release 0,
    .ioctl 1 .suspend,
    .resume 0 (fun _ _ _ _ => 0) true,
    .resume 1 (fun _ _ _ _ => 0) true,
    .wake 0 false]

/-- After the run no path is blocked, the one client left holds no request, and the
global `suspends_pending` is `1`. -/
theorem suspendsPending_leaks_past_release :
    (apmRun (ApmState.boot PmState.empty pcConfig) leakRun).map
        (fun s => (s.suspendsPending, (s.users.map (·.suspendsPending)).sum, s.threads.length)) =
      some (1, 0, 0) := by
  decide

/-! ## Standby and suspend wait for every acknowledgement -/

/-- Every client that is not being released holds no request of a kind. -/
def NoneHeld (s : ApmState) (kind : RequestKind) : Prop :=
  ∀ as ∈ s.users, s.releasing as.id = false → as.pending kind = 0

/-- The global counter at zero or below means no client outside a release holds a
request. -/
theorem CounterInv.noneHeld {s : ApmState} (inv : CounterInv s) {kind : RequestKind}
    (zero : s.pending kind ≤ 0) : NoneHeld s kind := by
  intro as mem free
  have nonneg := (inv.accounted as mem).pending_nonneg kind
  have single : as.pending kind ≤ heldBy s.releasing s.users kind := by
    simpa [heldBy, free] using
      heldBy_sublist_le (List.singleton_sublist.2 mem) inv.accounted s.releasing kind
  have := inv.held_le kind
  omega

/-- A step enters a vetoable `suspend()` or `standby()` only with the global counter of
its kind at zero or below. -/
def Guarded (s t : ApmState) : Prop :=
  (ApmCall.suspend true ∈ t.trace.drop s.trace.length → t.suspendsPending ≤ 0) ∧
    (ApmCall.standby ∈ t.trace.drop s.trace.length → t.standbysPending ≤ 0)

theorem guarded_of_calls {s t : ApmState} {calls : List ApmCall}
    (trace : t.trace = s.trace ++ calls)
    (suspends : ApmCall.suspend true ∈ calls → t.suspendsPending ≤ 0)
    (standbys : ApmCall.standby ∈ calls → t.standbysPending ≤ 0) : Guarded s t := by
  rw [Guarded, trace, List.drop_left]
  exact ⟨suspends, standbys⟩

theorem guarded_of_quiet {s t : ApmState} {calls : List ApmCall}
    (trace : t.trace = s.trace ++ calls)
    (quiet : ApmCall.suspend true ∉ calls ∧ ApmCall.standby ∉ calls) : Guarded s t :=
  guarded_of_calls trace (absurd · quiet.1) (absurd · quiet.2)

theorem guarded_of_trace {s t : ApmState} (trace : t.trace = s.trace) : Guarded s t :=
  guarded_of_quiet (trace.trans (List.append_nil _).symm) (by simp)

/-- `Guarded` reads of the earlier state only the length of its trace. -/
theorem Guarded.of_trace_eq {s u t : ApmState} (same : u.trace = s.trace) (guarded : Guarded u t) :
    Guarded s t := by
  rwa [Guarded, ← same]

theorem guarded_standby (s : ApmState) (due : s.standbysPending ≤ 0) : Guarded s (standby s) :=
  guarded_of_calls rfl (by simp) fun _ => due

theorem guarded_reject (s : ApmState) : Guarded s (reject s) := by
  unfold reject
  split_ifs
  · exact guarded_of_quiet rfl (by simp)
  · exact guarded_of_trace rfl

theorem acknowledge_trace (s : ApmState) (kind : RequestKind) (as : ApmUser) :
    (acknowledge s kind as).trace = s.trace := by
  unfold acknowledge
  split_ifs <;> rfl

theorem guarded_doIoctl (s : ApmState) (as : ApmUser) (cmd : IoctlCmd) :
    Guarded s (doIoctl s as cmd) := by
  unfold doIoctl
  split_ifs
  · exact guarded_of_quiet rfl (by simp)
  · cases cmd with
    | standby =>
        dsimp only
        split_ifs with due
        · exact Guarded.of_trace_eq (acknowledge_trace s .standby as)
            (guarded_of_calls (List.append_assoc _ _ _) (by simp) fun _ => due)
        · exact Guarded.of_trace_eq (acknowledge_trace s .standby as)
            (guarded_of_quiet rfl (by simp))
    | suspend =>
        dsimp only
        split_ifs with due
        · exact Guarded.of_trace_eq (acknowledge_trace s .suspend as)
            (guarded_of_calls rfl (fun _ => due) (by simp))
        · exact guarded_of_trace (acknowledge_trace s .suspend as)
    | other => exact guarded_of_quiet rfl (by simp)

/-- `do_release` performs a standby only with the standby counter at zero or below after
taking off the client's count, and a suspend likewise. -/
theorem guarded_doRelease (s : ApmState) (as : ApmUser) : Guarded s (doRelease s as) := by
  unfold doRelease
  dsimp only
  generalize standbysDone : (if 0 < as.standbysPending then _ else s) = done
  obtain ⟨calls, trace, quiet, standbys⟩ : ∃ calls, done.trace = s.trace ++ calls ∧
      ApmCall.suspend true ∉ calls ∧
        (ApmCall.standby ∈ calls → done.standbysPending ≤ 0) := by
    subst standbysDone
    split_ifs with positive due
    · exact ⟨_, rfl, by simp, fun _ => due⟩
    · exact ⟨[], by simp, by simp, by simp⟩
    · exact ⟨[], by simp, by simp, by simp⟩
  split_ifs with positive due
  · refine @guarded_of_calls _ _ (calls ++ [.suspend true]) (by simp [enterSuspend, trace])
      (fun _ => due) fun mem => ?_
    simpa [enterSuspend] using standbys (by simpa using mem)
  · exact guarded_of_calls trace (absurd · quiet) fun mem => by simpa using standbys mem
  · exact guarded_of_calls trace (absurd · quiet) standbys

theorem guarded_systemSuspend (s : ApmState) (event : ApmEvent) :
    Guarded s (systemSuspend s event) := by
  unfold systemSuspend
  dsimp only
  split_ifs with bounce waiting due
  · exact guarded_reject s
  · exact guarded_of_trace rfl
  · exact guarded_of_calls rfl (fun _ => due) (by simp)
  · exact guarded_of_trace rfl

theorem guarded_handleEvent (s : ApmState) (event : ApmEvent) (jiffies : Nat) :
    Guarded s (handleEvent s event jiffies) := by
  unfold handleEvent
  cases event with
  | sysStandby | userStandby =>
      dsimp only
      split_ifs with due
      · exact Guarded.of_trace_eq rfl (guarded_standby _ due)
      · exact guarded_of_trace rfl
  | userSuspend =>
      dsimp only
      split_ifs
      · exact guarded_reject s
      · exact guarded_systemSuspend s _
  | sysSuspend => exact guarded_systemSuspend s _
  | normalResume | criticalResume | standbyResume =>
      dsimp only
      split_ifs
      · exact guarded_of_quiet rfl (by simp)
      · exact guarded_of_trace rfl
  | capabilityChange | lowBattery | powerStatusChange | oem => exact guarded_of_trace rfl
  | updateTime | criticalSuspend => exact guarded_of_quiet rfl (by simp)

theorem guarded_checkEvent (s : ApmState) (event : ApmEvent) (jiffies : Nat) :
    Guarded s (checkEvent s event jiffies) := by
  have noted : (noteEvent s event jiffies).trace = s.trace := by
    unfold noteEvent
    dsimp only
    split_ifs <;> rfl
  exact Guarded.of_trace_eq noted (guarded_handleEvent (noteEvent s event jiffies) event jiffies)

/-- A state reached from another with no `standby()` or vetoable `suspend()` recorded
between. -/
def QuietAfter (s t : ApmState) : Prop :=
  ∃ calls, t.trace = s.trace ++ calls ∧ ApmCall.suspend true ∉ calls ∧ ApmCall.standby ∉ calls

theorem QuietAfter.guarded {s t : ApmState} : QuietAfter s t → Guarded s t
  | ⟨_, trace, quiet⟩ => guarded_of_quiet trace quiet

theorem QuietAfter.trans {s u t : ApmState} : QuietAfter s u → QuietAfter u t → QuietAfter s t
  | ⟨calls, trace, suspends, standbys⟩, ⟨more, trace', suspends', standbys'⟩ =>
      ⟨calls ++ more, by rw [trace', trace, List.append_assoc], by simp [suspends, suspends'],
        by simp [standbys, standbys']⟩

theorem quietAfter_of_trace {s t : ApmState} (trace : t.trace = s.trace) : QuietAfter s t :=
  ⟨[], by simp [trace], by simp, by simp⟩

theorem quietAfter_broadcast (s : ApmState) (cb : PmCallbacks) (rqst : PmRequest) (data : Int) :
    QuietAfter s (broadcast s cb rqst data).1 :=
  ⟨_, rfl, by simp, by simp⟩

theorem quietAfter_finishSuspend (s : ApmState) (err : Int) :
    ∀ caller, QuietAfter s (finishSuspend s err caller)
  | .checkEvents | .release _ => quietAfter_of_trace rfl
  | .ioctl _ => ⟨_, rfl, by simp, by simp⟩

/-- A suspend that goes on records neither a `standby()` nor a vetoable `suspend()`. -/
theorem quietAfter_suspendAfterBroadcast (s : ApmState) (vetoable : Bool) (caller : SuspendCaller)
    (cb : PmCallbacks) (biosOk : Bool) :
    QuietAfter s (suspendAfterBroadcast s vetoable caller cb biosOk) := by
  unfold suspendAfterBroadcast
  dsimp only
  split
  · refine (quietAfter_broadcast s cb .suspend 3).trans ((?_ : QuietAfter _ (reject _)).trans
      ((quietAfter_of_trace (by rfl)).trans (quietAfter_finishSuspend _ _ caller)))
    unfold reject
    split_ifs
    · exact ⟨_, rfl, by simp, by simp⟩
    · exact quietAfter_of_trace rfl
  · exact (quietAfter_broadcast s cb .suspend 3).trans ⟨_, rfl, by simp, by simp⟩

/-- The driver's steps call `standby()` or a vetoable `suspend()` only with the global
counter of its kind at zero or below. -/
theorem apmNext_guarded {s s' : ApmState} {action : ApmAction}
    (step : apmNext s action = some s') : Guarded s s' := by
  cases action with
  | openDevice => cases step; exact guarded_of_trace rfl
  | read =>
      obtain ⟨as, result, -, -, rfl⟩ := apmNext_read step
      exact guarded_of_trace rfl
  | ioctl =>
      obtain ⟨as, -, rfl⟩ := apmNext_ioctl step
      exact guarded_doIoctl s as _
  | release =>
      obtain ⟨as, -, -, rfl⟩ := apmNext_release step
      exact guarded_doRelease s as
  | wake =>
      obtain ⟨client, as, -, -, rfl⟩ := apmNext_wake step
      exact guarded_of_quiet rfl (by simp)
  | eventHandler =>
      simp only [apmNext] at step
      split at step
      · cases step
      · cases step
        unfold eventHandler
        split_ifs <;> first | exact guarded_of_trace rfl | exact guarded_of_quiet rfl (by simp)
  | biosEvent event jiffies =>
      simp only [apmNext] at step
      split at step
      · cases step
      · cases step
        exact guarded_checkEvent s event jiffies
  | resume index cb biosOk =>
      have unblocked : QuietAfter s (s.unblock index) := quietAfter_of_trace rfl
      rcases apmNext_resume step with ⟨vetoable, caller, -, rfl⟩ | ⟨err, caller, -, rfl⟩ |
        ⟨event, -, rfl⟩
      · exact (unblocked.trans (quietAfter_suspendAfterBroadcast _ _ _ _ _)).guarded
      · exact (unblocked.trans ((quietAfter_broadcast _ cb .resume 0).trans
          ((quietAfter_of_trace (by rfl)).trans (quietAfter_finishSuspend _ err caller)))).guarded
      · exact (unblocked.trans ((quietAfter_broadcast _ cb .resume 0).trans
          (quietAfter_of_trace (by rfl)))).guarded
  | pm => cases step; exact guarded_of_trace rfl

/-- Whenever a step of the driver enters `suspend(1)`, from `check_events`,
`do_ioctl(APM_IOC_SUSPEND)` or `do_release`, every client not being released has no
suspend request pending; whenever it enters `standby()`, none has a standby request
pending. -/
theorem vetoable_suspend_and_standby_wait_for_acknowledgements {s s' : ApmState}
    {action : ApmAction} (reachable : Reachable s) (step : apmNext s action = some s') :
    (ApmCall.suspend true ∈ s'.trace.drop s.trace.length → NoneHeld s' .suspend) ∧
      (ApmCall.standby ∈ s'.trace.drop s.trace.length → NoneHeld s' .standby) := by
  have inv := (reachable.step action step).counterInv
  obtain ⟨suspends, standbys⟩ := apmNext_guarded step
  exact ⟨fun entered => inv.noneHeld (by simpa using suspends entered),
    fun entered => inv.noneHeld (by simpa using standbys entered)⟩

/-- The state after one privileged reader opens the device. -/
def loneClient : ApmState :=
  doOpen (ApmState.boot PmState.empty pcConfig) true true true false 0 fun _ => .lowBattery

/-- The lone client asks for a suspend, which starts at once. -/
def loneSuspend : ApmState :=
  doIoctl loneClient ⟨0, true, true, true, false, 0, 0, 0, 0, 0, EventQueue.empty fun _ => .lowBattery⟩
    .suspend

theorem loneClient_reachable : Reachable loneClient :=
  (Reachable.boot PmState.empty pcConfig).step
    (.openDevice true true true false 0 fun _ => .lowBattery) rfl

/-- The lone client's `APM_IOC_SUSPEND` enters `suspend(1)`, with no request held. -/
theorem lone_suspend_waits_for_acknowledgements :
    apmNext loneClient (.ioctl 0 .suspend) = some loneSuspend ∧
      ApmCall.suspend true ∈ loneSuspend.trace.drop loneClient.trace.length ∧
      ((ApmCall.suspend true ∈ loneSuspend.trace.drop loneClient.trace.length →
          NoneHeld loneSuspend .suspend) ∧
        (ApmCall.standby ∈ loneSuspend.trace.drop loneClient.trace.length →
          NoneHeld loneSuspend .standby)) :=
  ⟨rfl, by decide,
    @vetoable_suspend_and_standby_wait_for_acknowledgements _ _ (.ioctl 0 .suspend)
      loneClient_reachable rfl⟩

/-! ## What a privileged client's counters keep -/

/-- In every state the driver reaches, a client opened with `CAP_SYS_ADMIN` for writing
has read no negative number of requests, and has at least as many of each kind pending
as it has read and still has queued. -/
theorem privileged_pending_covers_read_and_queued {s : ApmState} (reachable : Reachable s) :
    ∀ as ∈ s.users, as.privileged = true →
      ∀ kind, 0 ≤ as.read kind ∧ as.read kind + as.queued kind ≤ as.pending kind :=
  fun as mem privileged kind =>
    ⟨(reachable.counterInv.accounted as mem).read_nonneg kind,
      (reachable.counterInv.accounted as mem).covers privileged kind⟩

/-- The lone client after a BIOS standby request. -/
def standbyRequested : ApmState :=
  checkEvent loneClient .sysStandby 0

theorem standbyRequested_reachable : Reachable standbyRequested :=
  loneClient_reachable.step (.biosEvent .sysStandby 0) rfl

/-- The lone client holds the standby request it has queued. -/
theorem privileged_pending_covers_standbyRequested :
    standbyRequested.users.map (fun as => (as.standbysPending, as.queued .standby)) = [(1, 1)] ∧
      ∀ as ∈ standbyRequested.users, as.privileged = true →
        ∀ kind, 0 ≤ as.read kind ∧ as.read kind + as.queued kind ≤ as.pending kind :=
  ⟨by decide, privileged_pending_covers_read_and_queued standbyRequested_reachable⟩

/-- Twenty BIOS standby requests reach a privileged reader that reads none of them: all
twenty are pending, but the ring holds only nineteen, since `queue_event` drops the
oldest event of a full ring. -/
theorem pending_requests_outnumber_ring :
    (apmRun (ApmState.boot PmState.empty pcConfig)
        (.openDevice true true true false 0 (fun _ => .lowBattery) ::
          List.replicate 20 (.biosEvent .sysStandby 0))).map
        (fun s => s.users.map fun as => (as.standbysPending, as.standbysRead, as.queued .standby)) =
      some [(20, 0, 19)] := by
  decide

/-! ## What `APM_IOC_SUSPEND` returns after its wait

`do_ioctl` returns `as->suspend_result` when `wait_event_interruptible` ends, whether
`suspend()` cleared `suspend_wait` or a signal cut the wait short (`apmNext_wake`), and
`do_open` leaves `suspend_result` as `kmalloc` found it. -/

/-- A privileged writer (client 0, whose record `kmalloc` left with `suspend_result` 7)
and a privileged reader (client 1) open the device; client 0 asks for a suspend, which
waits for client 1, and a signal ends the wait. -/
def signalledWait : List ApmAction :=
  [.openDevice true true false false 7 fun _ => .lowBattery,
    .openDevice true true true false 0 fun _ => .lowBattery,
    .ioctl 0 .suspend,
    .wake 0 true]

/-- As `signalledWait`, but with a device whose callback may sleep registered first, and
a BIOS critical suspend that begins, and blocks in `pm_send_all`, before client 0 asks;
the wait ends when that suspend does. -/
def staleWait : List ApmAction :=
  [.pm (.register 0 0 (some 0)),
    .openDevice true true false false 7 fun _ => .lowBattery,
    .openDevice true true true false 0 fun _ => .lowBattery,
    .biosEvent .criticalSuspend 0,
    .ioctl 0 .suspend,
    .resume 0 (fun _ _ _ _ => 0) true,
    .resume 1 (fun _ _ _ _ => 0) true,
    .wake 0 false]

/-- The signalled wait returns the 7 `kmalloc` left, with no `suspend()` entered; the
other wait returns the 0 of the `suspend(0)` that had begun before the request was
queued, and is the only one entered. -/
theorem ioctlSuspend_returns_unset_or_earlier_result :
    (apmRun (ApmState.boot PmState.empty pcConfig) signalledWait).map (·.trace) =
        some [.ioctlReturn 0 7] ∧
      (apmRun (ApmState.boot PmState.empty pcConfig) (staleWait.take 5)).map (·.trace) =
        some [.suspend false] ∧
      (apmRun (ApmState.boot PmState.empty pcConfig) staleWait).map (·.trace) =
        some [.suspend false, .pmSendAll .suspend 3, .getTimeDiff, .setPowerState .suspend,
          .setTime, .pmSendAll .resume 0, .ioctlReturn 0 0] := by
  decide

end Apm
end PowerManagement
