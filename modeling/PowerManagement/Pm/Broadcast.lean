import PowerManagement.Pm.Send

/-!
# Successful broadcasts

When the loop of `pm_send_all` returns `0`, every device it visits has been moved to
the target state with its old state saved, and the callbacks invoked are exactly those
of the visited devices that were not there yet, in registry order, each once.  A
non-zero status is always the status of a callback invocation of the broadcast.
-/

namespace PowerManagement
namespace Pm

variable {cb : PmCallbacks} {select : PmDev → Bool} {rqst : PmRequest} {data : Int}

/-- A device the loop sends the request to: selected by the variant and with a
callback. -/
def Visited (select : PmDev → Bool) (dev : PmDev) : Prop :=
  select dev ∧ dev.callback.isSome

instance (select : PmDev → Bool) (dev : PmDev) : Decidable (Visited select dev) :=
  inferInstanceAs (Decidable (_ ∧ _))

/-- A device after an accepted transition to `data`, or as it was when the loop skips
it. -/
def transitioned (select : PmDev → Bool) (data : Int) (dev : PmDev) : PmDev :=
  if Visited select dev then { dev with state := data, prevState := dev.state } else dev

@[simp] theorem transitioned_callback (dev : PmDev) :
    (transitioned select data dev).callback = dev.callback := by
  unfold transitioned; split <;> rfl

@[simp] theorem transitioned_handle (dev : PmDev) :
    (transitioned select data dev).handle = dev.handle := by
  unfold transitioned; split <;> rfl

/-- A visited device that is not in the target state: the loop invokes its callback. -/
def Invoked (select : PmDev → Bool) (data : Int) (dev : PmDev) : Prop :=
  Visited select dev ∧ dev.state ≠ data

instance (select : PmDev → Bool) (data : Int) (dev : PmDev) :
    Decidable (Invoked select data dev) :=
  inferInstanceAs (Decidable (_ ∧ _))

/-- The invocation the loop makes on a device that accepts it. -/
def acceptedCall (rqst : PmRequest) (data : Int) (dev : PmDev) : PmCall :=
  ⟨dev.handle, rqst, data, 0⟩

/-- A failing `pm_send` ends the loop with its own status. -/
theorem sendAllFrom_fail_status {hist : List PmCall} {passed : List PmDev} {dev : PmDev}
    {rest : List PmDev} (visited : Visited select dev)
    (failed : (pmSend cb hist dev rqst data).status ≠ 0) :
    (sendAllFrom cb select rqst data hist passed (dev :: rest)).status =
      (pmSend cb hist dev rqst data).status := by
  rw [sendAllFrom_fail cb select rqst data hist passed dev rest visited failed]
  split <;> rfl

/-- The loop's result when it returns `0`. -/
theorem sendAllFrom_of_status_eq_zero (transition : rqst.Transition) :
    ∀ (hist : List PmCall) (passed rest : List PmDev),
      (sendAllFrom cb select rqst data hist passed rest).status = 0 →
        (sendAllFrom cb select rqst data hist passed rest).devs =
            passed.reverse ++ rest.map (transitioned select data) ∧
          (sendAllFrom cb select rqst data hist passed rest).calls =
            (rest.filter (Invoked select data ·)).map (acceptedCall rqst data)
  | _, passed, [] => by simp
  | hist, passed, dev :: rest => by
      intro succeeded
      by_cases visited : Visited select dev
      · by_cases accepted : (pmSend cb hist dev rqst data).status = 0
        · rw [sendAllFrom_accept cb select rqst data hist passed dev rest visited accepted]
            at succeeded ⊢
          obtain ⟨laterDevs, laterCalls⟩ :=
            sendAllFrom_of_status_eq_zero transition _ _ rest succeeded
          obtain ⟨sentDev, sentCalls⟩ := pmSend_accepted transition accepted
          dsimp only
          rw [laterDevs, laterCalls, sentDev, sentCalls]
          by_cases moved : dev.state = data <;>
            simp [moved, visited, visited.2, transitioned, Invoked, acceptedCall]
        · exact absurd ((sendAllFrom_fail_status visited accepted).symm.trans succeeded) accepted
      · rw [sendAllFrom_skip cb select rqst data hist passed dev rest visited] at succeeded ⊢
        obtain ⟨laterDevs, laterCalls⟩ :=
          sendAllFrom_of_status_eq_zero transition _ _ rest succeeded
        simp [laterDevs, laterCalls, transitioned, Invoked, visited]

/-- A non-zero status of the loop is the status of one of its callback invocations. -/
theorem sendAllFrom_failing_call (transition : rqst.Transition) :
    ∀ (hist : List PmCall) (passed rest : List PmDev),
      (sendAllFrom cb select rqst data hist passed rest).status ≠ 0 →
        ∃ call ∈ (sendAllFrom cb select rqst data hist passed rest).calls,
          call.status = (sendAllFrom cb select rqst data hist passed rest).status
  | _, passed, [] => by simp
  | hist, passed, dev :: rest => by
      intro failedLoop
      by_cases visited : Visited select dev
      · by_cases accepted : (pmSend cb hist dev rqst data).status = 0
        · rw [sendAllFrom_accept cb select rqst data hist passed dev rest visited accepted]
            at failedLoop ⊢
          obtain ⟨call, member, sameStatus⟩ :=
            sendAllFrom_failing_call transition _ _ rest failedLoop
          exact ⟨call, List.mem_append_right _ member, sameStatus⟩
        · obtain ⟨-, -, -, sentCalls⟩ := pmSend_failed transition accepted
          rw [sendAllFrom_fail_status visited accepted,
            sendAllFrom_fail cb select rqst data hist passed dev rest visited accepted]
          refine ⟨⟨dev.handle, rqst, data, (pmSend cb hist dev rqst data).status⟩, ?_, rfl⟩
          split <;> simp [sentCalls]
      · rw [sendAllFrom_skip cb select rqst data hist passed dev rest visited] at failedLoop ⊢
        exact sendAllFrom_failing_call transition _ _ rest failedLoop

/-- The loop returns `0` when every device it visits is already in the target state. -/
theorem sendAllFrom_status_of_settled (transition : rqst.Transition) :
    ∀ (hist : List PmCall) (passed rest : List PmDev),
      (∀ dev ∈ rest, Visited select dev → dev.state = data) →
        (sendAllFrom cb select rqst data hist passed rest).status = 0
  | _, passed, [] => fun _ => rfl
  | hist, passed, dev :: rest => by
      intro settled
      by_cases visited : Visited select dev
      · have accepted : (pmSend cb hist dev rqst data).status = 0 := by
          rw [pmSend_transition transition]
          simp [settled dev (List.mem_cons_self _ _) visited]
        rw [sendAllFrom_accept cb select rqst data hist passed dev rest visited accepted]
        exact sendAllFrom_status_of_settled transition _ _ rest
          fun other member => settled other (List.mem_cons_of_mem _ member)
      · rw [sendAllFrom_skip cb select rqst data hist passed dev rest visited]
        exact sendAllFrom_status_of_settled transition _ _ rest
          fun other member => settled other (List.mem_cons_of_mem _ member)

/-- After a successful broadcast every visited device is in the target state. -/
theorem transitioned_state_of_visited {dev : PmDev} (visited : Visited select dev) :
    (transitioned select data dev).state = data := by
  simp [transitioned, visited]

/-- A broadcast to devices already in the target state changes no state. -/
theorem transitioned_state_of_settled {dev : PmDev}
    (settled : Visited select dev → dev.state = data) :
    (transitioned select data dev).state = dev.state := by
  unfold transitioned
  split
  · exact (settled ‹_›).symm
  · rfl

/-! ## `pm_send_all` -/

/-- `pm_send_all(rqst, s)` for `PM_SUSPEND` or `PM_RESUME` returns `0` exactly when
every callback it invokes returns `0`.  Then every device with a callback is in state `s`
with its old state as `prev_state` and every other device is unchanged; the callbacks
invoked are those of the devices with a callback that were not in `s`, in registry order,
each device's at most once; and repeating the broadcast invokes no callback, returns `0`
and changes no device's state. -/
theorem pmSendAll_ok_iff_callbacks_ok (s : PmState) (cb : PmCallbacks) (hist : List PmCall)
    {rqst : PmRequest} (transition : rqst.Transition) (data : Int) :
    let sent := pmSendAll cb hist s.devs rqst data
    (sent.status = 0 ↔ ∀ call ∈ sent.calls, call.status = 0) ∧
      (sent.status = 0 →
        sent.devs = s.devs.map (transitioned (fun _ => true) data) ∧
        sent.calls = (s.devs.filter (Invoked (fun _ => true) data ·)).map (acceptedCall rqst data) ∧
        (sent.calls.map PmCall.handle).Nodup ∧
        let again := pmSendAll cb (hist ++ sent.calls) sent.devs rqst data
        again.status = 0 ∧ again.calls = [] ∧
          again.devs.map PmDev.state = sent.devs.map PmDev.state) := by
  dsimp only [pmSendAll]
  have success :=
    @sendAllFrom_of_status_eq_zero cb (fun _ => true) rqst data transition hist [] s.devs
  set sent := sendAllFrom cb (fun _ => true) rqst data hist [] s.devs
  refine ⟨⟨fun succeeded call member => ?_, fun callsOk => ?_⟩, fun succeeded => ?_⟩
  · rw [(success succeeded).2] at member
    obtain ⟨dev, -, rfl⟩ := List.mem_map.1 member
    rfl
  · by_contra failedLoop
    obtain ⟨call, member, sameStatus⟩ :=
      sendAllFrom_failing_call transition hist [] s.devs failedLoop
    exact failedLoop (sameStatus ▸ callsOk call member)
  obtain ⟨sentDevs, sentCalls⟩ := success succeeded
  simp only [List.reverse_nil, List.nil_append] at sentDevs
  have settled : ∀ dev ∈ sent.devs, Visited (fun _ => true) dev → dev.state = data := by
    intro dev member visited
    rw [sentDevs] at member
    obtain ⟨old, -, rfl⟩ := List.mem_map.1 member
    exact transitioned_state_of_visited ⟨rfl, by simpa [Visited] using visited⟩
  have againOk : (sendAllFrom cb (fun _ => true) rqst data (hist ++ sent.calls) [] sent.devs).status
      = 0 := sendAllFrom_status_of_settled transition _ [] sent.devs settled
  obtain ⟨againDevs, againCalls⟩ :=
    sendAllFrom_of_status_eq_zero transition (hist ++ sent.calls) [] sent.devs againOk
  refine ⟨sentDevs, sentCalls, ?_, againOk, ?_, ?_⟩
  · rw [sentCalls, List.map_map]
    exact s.handles_nodup.sublist ((List.filter_sublist _).map _)
  · rw [againCalls, List.map_eq_nil_iff, List.filter_eq_nil_iff]
    intro dev member
    simpa only [decide_eq_true_eq] using fun invoked : Invoked _ data dev =>
      invoked.2 (settled dev member invoked.1)
  · simp only [againDevs, List.reverse_nil, List.nil_append, List.map_map]
    exact List.map_congr_left fun dev member => transitioned_state_of_settled (settled dev member)

theorem pmSendAll_ok_iff_callbacks_ok_one_device :
    PmRequest.suspend.Transition ∧
      let s := pmRegister PmState.empty 0 0 (some 0)
      let sent := pmSendAll (fun _ _ _ _ => 0) [] s.devs .suspend 3
      (sent.status = 0 ↔ ∀ call ∈ sent.calls, call.status = 0) ∧
        (sent.status = 0 →
          sent.devs = s.devs.map (transitioned (fun _ => true) 3) ∧
          sent.calls = (s.devs.filter (Invoked (fun _ => true) 3 ·)).map (acceptedCall .suspend 3) ∧
          (sent.calls.map PmCall.handle).Nodup ∧
          let again := pmSendAll (fun _ _ _ _ => 0) ([] ++ sent.calls) sent.devs .suspend 3
          again.status = 0 ∧ again.calls = [] ∧
            again.devs.map PmDev.state = sent.devs.map PmDev.state) :=
  ⟨.inl rfl, pmSendAll_ok_iff_callbacks_ok _ _ [] (.inl rfl) 3⟩

end Pm
end PowerManagement
