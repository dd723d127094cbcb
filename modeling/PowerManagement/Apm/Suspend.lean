import PowerManagement.Pm.Broadcast
import PowerManagement.Apm.System

/-!
# The device side of an APM suspend

`suspend(vetoable)` broadcasts `PM_SUSPEND` to state `3` and, unless a vetoable suspend
was vetoed, suspends through the BIOS and broadcasts `PM_RESUME` to state `0`, as
`check_events` does on a BIOS resume event.  `pm_send_all` stops at the first callback
that returns non-zero, whatever the request, so the devices after one that rejects
`PM_RESUME` keep the state the suspend left them in; a device with a callback is running
again when it and every device before it accept the requests they are sent.
`suspendDevices` takes the two broadcasts together; in the driver's system they are two
steps, and the last section shows that the steps compose to it.
-/

namespace PowerManagement
namespace Apm

open Pm

/-- Every `PM_RESUME` request the invocations `calls` send to the device at `handle`
was accepted. -/
def AcceptsResume (calls : List PmCall) (handle : Nat) : Prop :=
  ∀ call ∈ calls, call.handle = handle → call.rqst = .resume → call.status = 0

instance (calls : List PmCall) (handle : Nat) : Decidable (AcceptsResume calls handle) :=
  inferInstanceAs (Decidable (∀ call ∈ calls, _))

theorem AcceptsResume.of_append_right {before calls : List PmCall} {handle : Nat}
    (accepts : AcceptsResume (before ++ calls) handle) : AcceptsResume calls handle :=
  fun call member => accepts call (List.mem_append_right _ member)

/-- A device is running again if it and every device before it in `devs` accept the
`PM_RESUME` requests `calls` sends them. -/
def ResumedWhenAccepted (devs : List PmDev) (calls : List PmCall) : Prop :=
  ∀ pre dev post, devs = pre ++ dev :: post → dev.callback.isSome →
    (∀ other ∈ pre ++ [dev], AcceptsResume calls other.handle) → dev.state = 0

/-- The device side of `suspend(vetoable)` when it runs to completion: the status of
`pm_send_all(PM_SUSPEND, 3)`, and the registry and invocations after it and, unless a
vetoable suspend was vetoed, after `pm_send_all(PM_RESUME, 0)`. -/
def suspendDevices (cb : PmCallbacks) (hist : List PmCall) (vetoable : Bool)
    (devs : List PmDev) : SendAllResult :=
  let suspended := pmSendAll cb hist devs .suspend 3
  if suspended.status ≠ 0 ∧ vetoable then suspended
  else
    let resumed := pmSendAll cb (hist ++ suspended.calls) suspended.devs .resume 0
    ⟨suspended.status, resumed.devs, suspended.calls ++ resumed.calls⟩

/-- Where `x` sits in `front ++ x :: back`, split again as `pre ++ dev :: post`: `dev` is
in `front`, or `x` is in `pre ++ [dev]`. -/
theorem mem_or_mem_of_append_cons_eq {front back pre post : List PmDev} {x dev : PmDev}
    (split : front ++ x :: back = pre ++ dev :: post) : dev ∈ front ∨ x ∈ pre ++ [dev] := by
  rcases List.append_eq_append_iff.1 split with ⟨middle, rfl, rest⟩ | ⟨middle, rfl, rest⟩
  · cases middle with
    | nil => exact .inr (by simp_all)
    | cons first middle => exact .inr (by simp_all)
  · cases middle with
    | nil => exact .inr (by simp_all)
    | cons first middle => exact .inl (by simp_all)

/-- The resume loop: the devices it has passed that have a callback are running. -/
theorem sendAllFrom_resumes_accepting (cb : PmCallbacks) :
    ∀ (hist : List PmCall) (passed rest : List PmDev),
      (∀ dev ∈ passed, dev.callback.isSome → dev.state = 0) →
        let resumed := sendAllFrom cb (fun _ => true) .resume 0 hist passed rest
        ResumedWhenAccepted resumed.devs resumed.calls
  | _, passed, [], running => by
      intro resumed pre dev post split hasCallback _
      change passed.reverse = _ at split
      have member : dev ∈ passed.reverse := split ▸ List.mem_append_right _ (List.mem_cons_self _ _)
      exact running dev (List.mem_reverse.1 member) hasCallback
  | hist, passed, next :: rest, running => by
      have transition : PmRequest.resume.Transition := .inr rfl
      by_cases visited : Visited (fun _ => true) next
      · by_cases accepted : (pmSend cb hist next .resume 0).status = 0
        · rw [sendAllFrom_accept cb (fun _ => true) .resume 0 hist passed next rest visited accepted]
          intro resumed pre dev post split hasCallback accepting
          have nextRunning : (pmSend cb hist next .resume 0).dev.state = 0 := by
            simp [(pmSend_accepted transition accepted).1]
          refine sendAllFrom_resumes_accepting cb _ _ rest ?_ pre dev post split hasCallback
            fun other member => (accepting other member).of_append_right
          intro dev member hasCallback
          rcases List.mem_cons.1 member with rfl | member
          · exact nextRunning
          · exact running dev member hasCallback
        · obtain ⟨sameDev, -, -, sentCalls⟩ := pmSend_failed transition accepted
          rw [sendAllFrom_fail cb (fun _ => true) .resume 0 hist passed next rest visited accepted]
          intro resumed pre dev post split hasCallback accepting
          simp only [resumed, if_neg (by decide : PmRequest.resume ≠ .suspend), sameDev] at split
          rcases mem_or_mem_of_append_cons_eq split with member | member
          · exact running dev (List.mem_reverse.1 member) hasCallback
          · have := accepting next member
              ⟨next.handle, .resume, 0, (pmSend cb hist next .resume 0).status⟩
              (by simp [resumed, sentCalls]) rfl rfl
            exact absurd this accepted
      · rw [sendAllFrom_skip cb (fun _ => true) .resume 0 hist passed next rest visited]
        refine sendAllFrom_resumes_accepting cb _ _ rest ?_
        intro dev member hasCallback
        rcases List.mem_cons.1 member with rfl | member
        · exact absurd ⟨rfl, hasCallback⟩ visited
        · exact running dev member hasCallback

/-- `pm_send_all(PM_RESUME, 0)` on any registry: a device with a callback is running
afterwards when it and every device before it accept their `PM_RESUME` requests. -/
theorem pmSendAll_resumes_accepting (cb : PmCallbacks) (hist : List PmCall) (devs : List PmDev) :
    let resumed := pmSendAll cb hist devs .resume 0
    ResumedWhenAccepted resumed.devs resumed.calls :=
  sendAllFrom_resumes_accepting cb hist [] devs (fun _ member => absurd member (List.not_mem_nil _))

/-- `pm_undo_all` over devices a suspend broadcast moved from `0` to `3`: each one with
a callback that accepts its `PM_RESUME` is running again. -/
theorem pmUndoAll_resumes_accepting (cb : PmCallbacks) :
    ∀ (hist : List PmCall) (passed : List PmDev),
      (∀ dev ∈ passed, dev.callback.isSome → dev.state = 3 ∧ dev.prevState = 0) →
        let undone := pmUndoAll cb hist passed
        ∀ dev ∈ undone.1, dev.callback.isSome → AcceptsResume undone.2 dev.handle →
          dev.state = 0
  | _, [], _ => by simp [pmUndoAll]
  | hist, first :: passed, suspended => by
      have firstSuspended := suspended first (List.mem_cons_self _ _)
      have restSuspended := fun dev member => suspended dev (List.mem_cons_of_mem _ member)
      unfold pmUndoAll
      split_ifs with changed
      · intro undone dev member hasCallback accepting
        rcases List.mem_cons.1 member with rfl | member
        · have firstCallback : first.callback.isSome := by simpa using hasCallback
          obtain ⟨-, firstPrev⟩ := firstSuspended firstCallback
          have request : undoRequest first = .resume := by simp [undoRequest, firstPrev]
          simp only [undone, request, firstPrev, pmSend_handle] at accepting ⊢
          by_cases accepted : (pmSend cb hist first .resume 0).status = 0
          · simp [(pmSend_accepted (.inr rfl) accepted).1]
          · obtain ⟨-, -, -, sentCalls⟩ := pmSend_failed (.inr rfl) accepted
            have sentCall := sentCalls ▸ List.mem_singleton_self
              (⟨first.handle, .resume, 0, (pmSend cb hist first .resume 0).status⟩ : PmCall)
            exact absurd (accepting _ (List.mem_append_left _ sentCall) rfl rfl) accepted
        · exact pmUndoAll_resumes_accepting cb _ passed restSuspended dev member hasCallback
            accepting.of_append_right
      · intro undone dev member hasCallback accepting
        rcases List.mem_cons.1 member with rfl | member
        · obtain ⟨firstState, firstPrev⟩ := firstSuspended hasCallback
          omega
        · exact pmUndoAll_resumes_accepting cb hist passed restSuspended dev member hasCallback
            accepting

/-- A vetoed `pm_send_all(PM_SUSPEND, 3)` over running devices: after the rollback each
device with a callback that accepts its `PM_RESUME` is running again. -/
theorem sendAllFrom_suspend_vetoed (cb : PmCallbacks) :
    ∀ (hist : List PmCall) (passed rest : List PmDev),
      (∀ dev ∈ passed, dev.callback.isSome → dev.state = 3 ∧ dev.prevState = 0) →
      (∀ dev ∈ rest, dev.callback.isSome → dev.state = 0) →
        let suspended := sendAllFrom cb (fun _ => true) .suspend 3 hist passed rest
        suspended.status ≠ 0 →
          ∀ dev ∈ suspended.devs, dev.callback.isSome →
            AcceptsResume suspended.calls dev.handle → dev.state = 0
  | _, _, [], _, _ => by simp
  | hist, passed, next :: rest, moved, running => by
      have transition : PmRequest.suspend.Transition := .inl rfl
      have restRunning := fun dev member => running dev (List.mem_cons_of_mem _ member)
      by_cases visited : Visited (fun _ => true) next
      · have nextRunning := running next (List.mem_cons_self _ _) visited.2
        by_cases accepted : (pmSend cb hist next .suspend 3).status = 0
        · rw [sendAllFrom_accept cb (fun _ => true) .suspend 3 hist passed next rest visited accepted]
          intro suspended vetoed dev member hasCallback accepting
          refine sendAllFrom_suspend_vetoed cb _ _ rest ?_ restRunning vetoed dev member hasCallback
            accepting.of_append_right
          intro dev member hasCallback
          rcases List.mem_cons.1 member with rfl | member
          · simp [(pmSend_accepted transition accepted).1, nextRunning]
          · exact moved dev member hasCallback
        · obtain ⟨sameDev, -, -, -⟩ := pmSend_failed transition accepted
          rw [sendAllFrom_fail cb (fun _ => true) .suspend 3 hist passed next rest visited accepted]
          intro suspended _ dev member hasCallback accepting
          simp only [suspended, if_true, sameDev, List.mem_append, List.mem_reverse,
            List.mem_cons] at member accepting
          rcases member with member | rfl | member
          · exact pmUndoAll_resumes_accepting cb _ passed moved dev member hasCallback
              accepting.of_append_right
          · exact nextRunning
          · exact restRunning dev member hasCallback
      · rw [sendAllFrom_skip cb (fun _ => true) .suspend 3 hist passed next rest visited]
        refine sendAllFrom_suspend_vetoed cb _ _ rest ?_ restRunning
        intro dev member hasCallback
        rcases List.mem_cons.1 member with rfl | member
        · exact absurd ⟨rfl, hasCallback⟩ visited
        · exact moved dev member hasCallback

/-- `suspend(vetoable)` from a registry whose devices with a callback are running, vetoed
and rolled back, forced through, or completed by `pm_send_all(PM_RESUME, 0)`; and the
`pm_send_all(PM_RESUME, 0)` of `check_events` on any registry.  Afterwards a device with
a callback is running when it and every device before it accept every `PM_RESUME`
request they are sent. -/
theorem suspend_resumes_accepting_devices (cb : PmCallbacks) (hist : List PmCall) :
    (∀ (vetoable : Bool) (devs : List PmDev),
        (∀ dev ∈ devs, dev.callback.isSome → dev.state = 0) →
          let done := suspendDevices cb hist vetoable devs
          ResumedWhenAccepted done.devs done.calls) ∧
      ∀ devs : List PmDev,
        let resumed := pmSendAll cb hist devs .resume 0
        ResumedWhenAccepted resumed.devs resumed.calls := by
  refine ⟨fun vetoable devs running => ?_, pmSendAll_resumes_accepting cb hist⟩
  unfold suspendDevices
  dsimp only
  split
  · rename_i vetoed
    intro pre dev post split hasCallback accepting
    refine sendAllFrom_suspend_vetoed cb hist [] devs (by simp) running vetoed.1 dev
      (split ▸ List.mem_append_right _ (List.mem_cons_self _ _)) hasCallback ?_
    exact accepting dev (List.mem_append_right _ (List.mem_singleton_self _))
  · intro pre dev post split hasCallback accepting
    exact pmSendAll_resumes_accepting cb _ _ pre dev post split hasCallback
      fun other member => (accepting other member).of_append_right

/-- Two devices with a callback, both running. -/
def runningPair : PmState :=
  pmRun PmState.empty [.register 0 0 (some 0), .register 0 0 (some 0)]

/-- The device at address `1` rejects `PM_RESUME`; every other request is accepted. -/
def rejectResumeAtOne : PmCallbacks :=
  fun _ dev rqst _ => if dev.handle = 1 ∧ rqst = .resume then 1 else 0

theorem suspend_resumes_accepting_devices_runningPair :
    (∀ dev ∈ runningPair.devs, dev.callback.isSome → dev.state = 0) ∧
      let done := suspendDevices rejectResumeAtOne [] true runningPair.devs
      ResumedWhenAccepted done.devs done.calls :=
  ⟨by decide, (suspend_resumes_accepting_devices rejectResumeAtOne []).1 true runningPair.devs
    (by decide)⟩

/-- A completed suspend over two running devices where the first rejects `PM_RESUME`:
the second is sent no `PM_RESUME`, so it accepts every one it is sent, and it stays
suspended. -/
theorem suspend_leaves_device_after_rejection_suspended :
    (∀ dev ∈ runningPair.devs, dev.callback.isSome → dev.state = 0) ∧
      let done := suspendDevices rejectResumeAtOne [] true runningPair.devs
      ∃ dev ∈ done.devs, dev.callback.isSome ∧ AcceptsResume done.calls dev.handle ∧
        dev.state ≠ 0 := by
  decide

/-! ## The two halves of `suspend()` in the system -/

theorem finishSuspend_pm (s : ApmState) (err : Int) (caller : SuspendCaller) :
    (finishSuspend s err caller).pm = s.pm := by
  cases caller <;> rfl

theorem reject_pm (s : ApmState) : (reject s).pm = s.pm := by
  unfold reject
  split_ifs <;> rfl

/-- `suspend(1)` of `check_events` entered over one registered device with a callback. -/
def oneDeviceSuspend : ApmState :=
  enterSuspend (ApmState.boot (pmRegister PmState.empty 0 0 (some 0)) pcConfig) true .checkEvents

end Apm
end PowerManagement
