import PowerManagement.Apm.Resume

/-!
# The busy heartbeat of `apm_event_handler`

While requests are pending, `apm_event_handler` counts its passes down in
`pending_count` and, with a BIOS after 1.0, tells the BIOS that the machine is busy each
time the count runs out, so that the BIOS keeps waiting while the clients prepare.
Nothing else touches `pending_count`, so it stays between 0 and 4 in every state the
driver reaches, and `n` passes with requests pending tell the BIOS
`(n + 4 - pending_count) / 5` times that the machine is busy.  Some BIOSes repeat a
suspend event until something else happens; once `check_events` waits for the resume, a
run of suspend events is absorbed: refused with `APM_STATE_REJECT` at most, with no
client told, no counter changed, no broadcast and no path started.
-/

namespace PowerManagement
namespace Apm

open Pm

/-! ## Only `apm_event_handler` counts -/

section frame

variable (s : ApmState)

theorem noteEvent_pendingCount (event : ApmEvent) (jiffies : Nat) :
    (noteEvent s event jiffies).pendingCount = s.pendingCount := by
  unfold noteEvent
  dsimp only
  split <;> split <;> rfl

theorem reject_pendingCount : (reject s).pendingCount = s.pendingCount := by
  unfold reject; split <;> rfl

theorem systemSuspend_pendingCount (event : ApmEvent) :
    (systemSuspend s event).pendingCount = s.pendingCount := by
  unfold systemSuspend reject
  dsimp only
  (repeat' split) <;> rfl

theorem checkEvent_pendingCount (event : ApmEvent) (jiffies : Nat) :
    (checkEvent s event jiffies).pendingCount = s.pendingCount := by
  rw [checkEvent, ← noteEvent_pendingCount s event jiffies]
  generalize noteEvent s event jiffies = noted
  cases event <;> simp only [handleEvent] <;> (try split) <;>
    first
    | rfl
    | exact reject_pendingCount noted
    | exact systemSuspend_pendingCount noted _

theorem doIoctl_pendingCount (as : ApmUser) (cmd : IoctlCmd) :
    (doIoctl s as cmd).pendingCount = s.pendingCount := by
  unfold doIoctl acknowledge standby enterSuspend
  dsimp only
  (repeat' split) <;> rfl

theorem doRelease_pendingCount (as : ApmUser) :
    (doRelease s as).pendingCount = s.pendingCount := by
  unfold doRelease standby enterSuspend
  dsimp only
  (repeat' split) <;> rfl

theorem finishSuspend_pendingCount (err : Int) (caller : SuspendCaller) :
    (finishSuspend s err caller).pendingCount = s.pendingCount := by
  unfold finishSuspend
  split <;> rfl

theorem suspendAfterBroadcast_pendingCount (vetoable : Bool) (caller : SuspendCaller)
    (cb : PmCallbacks) (biosOk : Bool) :
    (suspendAfterBroadcast s vetoable caller cb biosOk).pendingCount = s.pendingCount := by
  have sent : (broadcast s cb .suspend 3).1.pendingCount = s.pendingCount := rfl
  unfold suspendAfterBroadcast
  generalize broadcast s cb .suspend 3 = result at sent ⊢
  dsimp only
  split
  · rw [finishSuspend_pendingCount]
    unfold reject
    split <;> exact sent
  · exact sent

end frame

/-- Every action but a pass of `apm_event_handler` leaves `pending_count` alone. -/
theorem apmNext_pendingCount {s s' : ApmState} {action : ApmAction}
    (step : apmNext s action = some s') (other : action ≠ .eventHandler) :
    s'.pendingCount = s.pendingCount := by
  cases action with
  | openDevice => cases step; rfl
  | read => obtain ⟨_, _, -, -, rfl⟩ := apmNext_read step; rfl
  | ioctl => obtain ⟨as, -, rfl⟩ := apmNext_ioctl step; exact doIoctl_pendingCount s as _
  | release => obtain ⟨as, -, -, rfl⟩ := apmNext_release step; exact doRelease_pendingCount s as
  | wake => obtain ⟨_, _, -, -, rfl⟩ := apmNext_wake step; rfl
  | eventHandler => exact absurd rfl other
  | biosEvent event jiffies =>
      simp only [apmNext] at step
      split at step
      · cases step
      · cases step; exact checkEvent_pendingCount s event jiffies
  | resume =>
      rcases apmNext_resume step with ⟨_, _, -, rfl⟩ | ⟨_, _, -, rfl⟩ | ⟨_, -, rfl⟩
      · exact suspendAfterBroadcast_pendingCount _ _ _ _ _
      · exact finishSuspend_pendingCount _ _ _
      · rfl
  | pm => cases step; rfl

/-! ## The count over passes -/

theorem eventHandler_pendingCount_le {s : ApmState}
    (range : 0 ≤ s.pendingCount ∧ s.pendingCount ≤ 4) :
    0 ≤ (eventHandler s).pendingCount ∧ (eventHandler s).pendingCount ≤ 4 := by
  unfold eventHandler
  split_ifs <;> (try dsimp only) <;> omega

/-- `pending_count` stays between 0 and 4 in every state the driver reaches. -/
theorem Reachable.pendingCount_le {s : ApmState} (reachable : Reachable s) :
    0 ≤ s.pendingCount ∧ s.pendingCount ≤ 4 := by
  induction reachable with
  | boot => exact ⟨by simp [ApmState.boot], by simp [ApmState.boot]⟩
  | step action _ stepped range =>
      by_cases handler : action = .eventHandler
      · subst handler
        simp only [apmNext] at stepped
        split at stepped
        · cases stepped
        · cases stepped; exact eventHandler_pendingCount_le range
      · rw [apmNext_pendingCount stepped handler]
        exact range

/-- One pass with requests pending and a BIOS after 1.0: the count goes down by one, and
when it has run out the BIOS hears that the machine is busy and the count starts at 4
again. -/
theorem eventHandler_of_pending {s : ApmState} (pending : s.standbysPending > 0 ∨ s.suspendsPending > 0)
    (version : s.config.connectionVersion > 0x100) :
    eventHandler s =
      if s.pendingCount ≤ 0 then { s.log [.setPowerState .busy] with pendingCount := 4 }
      else { s with pendingCount := s.pendingCount - 1 } := by
  rw [eventHandler, if_pos pending, if_pos version]

/-- The passes that find the count at 0, counted from a count `c` between 0 and 4: one
more pass adds one exactly when it finds the count at 0. -/
theorem busyPasses_succ {c : Int} (range : 0 ≤ c ∧ c ≤ 4) (n : Nat) :
    (n + 1 + 4 - c.toNat) / 5 = (n + 4 - c.toNat) / 5 + if (c - n) % 5 ≤ 0 then 1 else 0 := by
  obtain ⟨k, rfl⟩ := Int.eq_ofNat_of_zero_le range.1
  rw [Int.toNat_ofNat]
  split <;> omega

/-- A stretch of `n` passes of `apm_event_handler` with requests pending, a BIOS after
1.0 and no BIOS event, from a count between 0 and 4. -/
theorem eventHandler_iterate_of_range {s : ApmState} (range : 0 ≤ s.pendingCount ∧ s.pendingCount ≤ 4)
    (pending : s.standbysPending > 0 ∨ s.suspendsPending > 0)
    (version : s.config.connectionVersion > 0x100) (n : Nat) :
    (eventHandler^[n] s).trace =
        s.trace ++ List.replicate ((n + 4 - s.pendingCount.toNat) / 5) (.setPowerState .busy) ∧
      (eventHandler^[n] s).pendingCount = (s.pendingCount - n) % 5 := by
  induction n with
  | zero => refine ⟨?_, ?_⟩ <;> simp <;> omega
  | succ n ih =>
    obtain ⟨trace, count⟩ := ih
    have kept : (eventHandler^[n] s).standbysPending = s.standbysPending ∧
        (eventHandler^[n] s).suspendsPending = s.suspendsPending ∧
        (eventHandler^[n] s).config = s.config := by
      clear trace count
      induction n with
      | zero => exact ⟨rfl, rfl, rfl⟩
      | succ n ih =>
        rw [Function.iterate_succ_apply', eventHandler_of_pending (by rwa [ih.1, ih.2.1])
          (by rwa [ih.2.2])]
        split <;> exact ih
    rw [Function.iterate_succ_apply',
      eventHandler_of_pending (by rwa [kept.1, kept.2.1]) (by rwa [kept.2.2])]
    split
    next out =>
      rw [count] at out
      refine ⟨?_, show (4 : Int) = _ by omega⟩
      show ((eventHandler^[n] s).log [.setPowerState .busy]).trace = _
      rw [ApmState.log_trace, trace, List.append_assoc, ← List.replicate_succ',
        busyPasses_succ range n, if_pos out]
    next left =>
      rw [count] at left
      refine ⟨?_, show (eventHandler^[n] s).pendingCount - 1 = _ by rw [count]; omega⟩
      show (eventHandler^[n] s).trace = _
      rw [trace, busyPasses_succ range n, if_neg left]
      rfl

/-- A privileged client with a BIOS suspend request it has not acknowledged. -/
def pendingSuspend : ApmState :=
  checkEvent (doOpen (ApmState.boot PmState.empty pcConfig) true true true false 0
    fun _ => .lowBattery) .sysSuspend 0

theorem pendingSuspend_reachable : Reachable pendingSuspend :=
  ((Reachable.boot PmState.empty pcConfig).step
    (.openDevice true true true false 0 fun _ => .lowBattery) rfl).step (.biosEvent .sysSuspend 0) rfl

/-- A suspend request from the BIOS. -/
def ApmEvent.suspendRequest : ApmEvent → Bool
  | .sysSuspend | .userSuspend => true
  | _ => false

/-- What a stretch of suspend events does to the driver while a suspend waits for its
resume: nothing but answers of `APM_STATE_REJECT`. -/
structure Absorbed (s t : ApmState) : Prop where
  users : t.users = s.users
  threads : t.threads = s.threads
  suspendsPending : t.suspendsPending = s.suspendsPending
  standbysPending : t.standbysPending = s.standbysPending
  pm : t.pm = s.pm
  waitingForResume : t.waitingForResume = s.waitingForResume
  rejects : ∃ calls, t.trace = s.trace ++ calls ∧ ∀ c ∈ calls, c = .setPowerState .reject

theorem Absorbed.refl (s : ApmState) : Absorbed s s :=
  ⟨rfl, rfl, rfl, rfl, rfl, rfl, [], by simp, by simp⟩

theorem Absorbed.trans {s u t : ApmState} (first : Absorbed s u) (second : Absorbed u t) :
    Absorbed s t where
  users := second.users.trans first.users
  threads := second.threads.trans first.threads
  suspendsPending := second.suspendsPending.trans first.suspendsPending
  standbysPending := second.standbysPending.trans first.standbysPending
  pm := second.pm.trans first.pm
  waitingForResume := second.waitingForResume.trans first.waitingForResume
  rejects := by
    obtain ⟨calls, trace, rejected⟩ := first.rejects
    obtain ⟨more, trace', rejected'⟩ := second.rejects
    refine ⟨calls ++ more, by rw [trace', trace, List.append_assoc], fun c member => ?_⟩
    rcases List.mem_append.1 member with early | late
    · exact rejected c early
    · exact rejected' c late

theorem absorbed_reject (s : ApmState) : Absorbed s (reject s) := by
  unfold reject
  split
  · exact ⟨rfl, rfl, rfl, rfl, rfl, rfl, _, rfl, by simp⟩
  · exact Absorbed.refl s

theorem absorbed_noteEvent (s : ApmState) (event : ApmEvent) (jiffies : Nat) :
    Absorbed s (noteEvent s event jiffies) := by
  rw [noteEvent_eq]
  exact ⟨rfl, rfl, rfl, rfl, rfl, rfl, [], by simp, by simp⟩

/-- A suspend event while a suspend waits for its resume: refused in the bounce window,
and otherwise ignored. -/
theorem absorbed_systemSuspend {s : ApmState} (waiting : s.waitingForResume = true)
    (event : ApmEvent) : Absorbed s (systemSuspend s event) := by
  by_cases bounce : s.ignoreBounce
  · rw [systemSuspend, if_pos bounce]
    exact absorbed_reject s
  · rw [systemSuspend, if_neg bounce, if_pos waiting]
    exact Absorbed.refl s

/-- One round of `check_events` on a suspend event while a suspend waits for its resume. -/
theorem absorbed_checkEvent {s : ApmState} (waiting : s.waitingForResume = true)
    {event : ApmEvent} (request : event.suspendRequest = true) (jiffies : Nat) :
    Absorbed s (checkEvent s event jiffies) := by
  have noted := absorbed_noteEvent s event jiffies
  have still : (noteEvent s event jiffies).waitingForResume = true :=
    noted.waitingForResume.trans waiting
  refine noted.trans ?_
  unfold checkEvent
  cases event <;> simp only [ApmEvent.suspendRequest, Bool.false_eq_true] at request
  case sysSuspend => exact absorbed_systemSuspend still _
  case userSuspend =>
    rw [handleEvent]
    split
    · exact absorbed_reject _
    · exact absorbed_systemSuspend still _

/-- From every state in which `check_events` waits for the resume of a suspend, any run of
suspend events from the BIOS, inside the bounce window or not, is absorbed: the clients
hear of none, no counter moves, no broadcast is made and no path starts, and the BIOS
hears nothing but `APM_STATE_REJECT`. -/
theorem suspendRequests_absorbed {s : ApmState} (waiting : s.waitingForResume = true) :
    ∀ events : List (ApmEvent × Nat), (∀ e ∈ events, e.1.suspendRequest = true) →
      Absorbed s (events.foldl (fun s e => checkEvent s e.1 e.2) s)
  | [], _ => Absorbed.refl s
  | e :: events, requests => by
      have first := absorbed_checkEvent waiting (requests e (List.mem_cons_self _ _)) e.2
      exact first.trans (suspendRequests_absorbed (first.waitingForResume.trans waiting) events
        fun e' member => requests e' (List.mem_cons_of_mem _ member))

/-- The BIOS repeats the suspend request of `pendingSuspend` at tick 5, inside the bounce
window of no resume, and again as a user suspend at tick 400. -/
theorem pendingSuspend_repeats_absorbed :
    Absorbed pendingSuspend
      ([(.sysSuspend, 5), (.userSuspend, 400)].foldl (fun s e => checkEvent s e.1 e.2) pendingSuspend) :=
  suspendRequests_absorbed (by decide) _ (by decide)

end Apm
end PowerManagement
