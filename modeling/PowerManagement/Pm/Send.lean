import PowerManagement.Pm.Device

/-!
# Sending requests to devices

`pm_send`, the rollback `pm_undo_all` and the broadcast loop of `pm_send_all`.  The
filtered broadcasts `pm_send_all_tweak`, `pm_send_all_type` and `pm_send_all_target`
(`CONFIG_MIZI`) run the same loop and differ only in which devices they skip, so all
four are the one loop `sendAllFrom` applied to their own filter.

The loop walks `pm_devs` as a zipper: `passed` holds the entries already visited,
nearest first, which is the order in which `pm_undo_all` walks back from a failing
device through `entry.prev`.  Every function takes the callback invocations made
before it and returns the ones it makes.
-/

namespace PowerManagement
namespace Pm

/-- What `pm_send` returns, with the device afterwards and the callback invocations
it made (none or one). -/
structure SendResult where
  status : Int
  dev : PmDev
  calls : List PmCall

/-- `dev->callback(dev, rqst, data)` when the device has a callback, logged; the status
is `0` without one. -/
def invokeCallback (cb : PmCallbacks) (hist : List PmCall) (dev : PmDev)
    (rqst : PmRequest) (data : Int) : Int × List PmCall :=
  match dev.callback with
  | none => (0, [])
  | some _ => (cb hist dev rqst data, [⟨dev.handle, rqst, data, cb hist dev rqst data⟩])

/-- `pm_send(dev, rqst, data)`.  For `PM_SUSPEND` and `PM_RESUME` the data is the
target state: no call is made when the device is already there, and a successful call
records the old state in `prev_state`. -/
def pmSend (cb : PmCallbacks) (hist : List PmCall) (dev : PmDev) (rqst : PmRequest)
    (data : Int) : SendResult :=
  match rqst with
  | .suspend | .resume =>
      if dev.state ≠ data then
        let invoked := invokeCallback cb hist dev rqst data
        if invoked.1 = 0 then ⟨0, { dev with state := data, prevState := dev.state }, invoked.2⟩
        else ⟨invoked.1, dev, invoked.2⟩
      else ⟨0, { dev with prevState := dev.state }, []⟩
  | .other _ =>
      let invoked := invokeCallback cb hist dev rqst data
      ⟨invoked.1, dev, invoked.2⟩

/-- The request `pm_undo_all` sends to return a device to its previous state:
`PM_SUSPEND` when that state is non-zero (suspended), `PM_RESUME` when it is zero. -/
def undoRequest (dev : PmDev) : PmRequest :=
  if dev.prevState ≠ 0 then .suspend else .resume

/-- `pm_undo_all(last)`: walk from the entry before `last` back to the head of
`pm_devs` (`passed`, nearest first) and send every device whose state differs from its
previous state the request that returns it there.  Failures are ignored. -/
def pmUndoAll (cb : PmCallbacks) : List PmCall → List PmDev → List PmDev × List PmCall
  | _, [] => ([], [])
  | hist, dev :: rest =>
      if dev.state ≠ dev.prevState then
        let sent := pmSend cb hist dev (undoRequest dev) dev.prevState
        let undone := pmUndoAll cb (hist ++ sent.calls) rest
        (sent.dev :: undone.1, sent.calls ++ undone.2)
      else
        let undone := pmUndoAll cb hist rest
        (dev :: undone.1, undone.2)

/-- What a broadcast returns, with the registry afterwards and the callback invocations
it made, in order. -/
structure SendAllResult where
  status : Int
  devs : List PmDev
  calls : List PmCall

/-- The loop shared by `pm_send_all` and its filtered variants, at the entry `dev :: rest`
with `passed` already visited.  A device the variant's filter `select` rejects, or one
without a callback, is skipped.  The first failing `pm_send` ends the loop with its
status, after `pm_undo_all` when the request is `PM_SUSPEND`. -/
def sendAllFrom (cb : PmCallbacks) (select : PmDev → Bool) (rqst : PmRequest) (data : Int) :
    List PmCall → List PmDev → List PmDev → SendAllResult
  | _, passed, [] => ⟨0, passed.reverse, []⟩
  | hist, passed, dev :: rest =>
      if select dev ∧ dev.callback.isSome then
        let sent := pmSend cb hist dev rqst data
        if sent.status ≠ 0 then
          if rqst = .suspend then
            let undone := pmUndoAll cb (hist ++ sent.calls) passed
            ⟨sent.status, undone.1.reverse ++ sent.dev :: rest, sent.calls ++ undone.2⟩
          else ⟨sent.status, passed.reverse ++ sent.dev :: rest, sent.calls⟩
        else
          let later := sendAllFrom cb select rqst data (hist ++ sent.calls) (sent.dev :: passed) rest
          ⟨later.status, later.devs, sent.calls ++ later.calls⟩
      else sendAllFrom cb select rqst data hist (dev :: passed) rest

/-- `pm_send_all(rqst, data)`: every device of `pm_devs`. -/
def pmSendAll (cb : PmCallbacks) (hist : List PmCall) (devs : List PmDev)
    (rqst : PmRequest) (data : Int) : SendAllResult :=
  sendAllFrom cb (fun _ => true) rqst data hist [] devs

/-- `pm_send_all_tweak(rqst, data, type)`: the devices of type `type`. -/
def pmSendAllTweak (cb : PmCallbacks) (hist : List PmCall) (devs : List PmDev)
    (rqst : PmRequest) (data : Int) (type : Nat) : SendAllResult :=
  sendAllFrom cb (fun dev => dev.type = type) rqst data hist [] devs

/-- `pm_send_all_type(type, rqst, data)`: the devices of type `type`. -/
def pmSendAllType (cb : PmCallbacks) (hist : List PmCall) (devs : List PmDev)
    (type : Nat) (rqst : PmRequest) (data : Int) : SendAllResult :=
  sendAllFrom cb (fun dev => dev.type = type) rqst data hist [] devs

/-- The `unsigned long` an `int` converts to when `pm_send_all_target` compares it with
a device id (32-bit `long`). -/
def unsignedLong (value : Int) : Nat :=
  (value % 2 ^ 32).toNat

/-- `unsigned long` leaves a value of its range as it is. -/
theorem unsignedLong_of_lt {value : Int} (nonneg : 0 ≤ value) (lt : value < 2 ^ 32) :
    (unsignedLong value : Int) = value := by
  rw [unsignedLong, Int.emod_eq_of_lt nonneg lt, Int.toNat_of_nonneg nonneg]

theorem unsignedLong_lt (value : Int) : unsignedLong value < 2 ^ 32 := by
  unfold unsignedLong; omega

/-- `pm_send_all_target(type, id, rqst, data)`: the devices of type `type` and id `id`. -/
def pmSendAllTarget (cb : PmCallbacks) (hist : List PmCall) (devs : List PmDev)
    (type : Nat) (id : Int) (rqst : PmRequest) (data : Int) : SendAllResult :=
  sendAllFrom cb (fun dev => dev.type = type ∧ dev.id = unsignedLong id) rqst data hist [] devs

/-! ## Equations -/

@[simp] theorem invokeCallback_none (cb : PmCallbacks) (hist : List PmCall) (dev : PmDev)
    (rqst : PmRequest) (data : Int) (noCallback : dev.callback = none) :
    invokeCallback cb hist dev rqst data = (0, []) := by
  simp [invokeCallback, noCallback]

@[simp] theorem invokeCallback_some (cb : PmCallbacks) (hist : List PmCall) (dev : PmDev)
    (rqst : PmRequest) (data : Int) (callback : Nat) (hasCallback : dev.callback = some callback) :
    invokeCallback cb hist dev rqst data =
      (cb hist dev rqst data, [⟨dev.handle, rqst, data, cb hist dev rqst data⟩]) := by
  simp [invokeCallback, hasCallback]

@[simp] theorem sendAllFrom_nil (cb : PmCallbacks) (select : PmDev → Bool) (rqst : PmRequest)
    (data : Int) (hist : List PmCall) (passed : List PmDev) :
    sendAllFrom cb select rqst data hist passed [] = ⟨0, passed.reverse, []⟩ := rfl

theorem sendAllFrom_skip (cb : PmCallbacks) (select : PmDev → Bool) (rqst : PmRequest)
    (data : Int) (hist : List PmCall) (passed : List PmDev) (dev : PmDev) (rest : List PmDev)
    (skipped : ¬(select dev ∧ dev.callback.isSome)) :
    sendAllFrom cb select rqst data hist passed (dev :: rest) =
      sendAllFrom cb select rqst data hist (dev :: passed) rest := by
  simp [sendAllFrom, skipped]

theorem sendAllFrom_accept (cb : PmCallbacks) (select : PmDev → Bool) (rqst : PmRequest)
    (data : Int) (hist : List PmCall) (passed : List PmDev) (dev : PmDev) (rest : List PmDev)
    (visited : select dev ∧ dev.callback.isSome)
    (accepted : (pmSend cb hist dev rqst data).status = 0) :
    sendAllFrom cb select rqst data hist passed (dev :: rest) =
      let sent := pmSend cb hist dev rqst data
      let later := sendAllFrom cb select rqst data (hist ++ sent.calls) (sent.dev :: passed) rest
      ⟨later.status, later.devs, sent.calls ++ later.calls⟩ := by
  simp [sendAllFrom, visited, accepted]

theorem sendAllFrom_fail (cb : PmCallbacks) (select : PmDev → Bool) (rqst : PmRequest)
    (data : Int) (hist : List PmCall) (passed : List PmDev) (dev : PmDev) (rest : List PmDev)
    (visited : select dev ∧ dev.callback.isSome)
    (failed : (pmSend cb hist dev rqst data).status ≠ 0) :
    sendAllFrom cb select rqst data hist passed (dev :: rest) =
      let sent := pmSend cb hist dev rqst data
      if rqst = .suspend then
        let undone := pmUndoAll cb (hist ++ sent.calls) passed
        ⟨sent.status, undone.1.reverse ++ sent.dev :: rest, sent.calls ++ undone.2⟩
      else ⟨sent.status, passed.reverse ++ sent.dev :: rest, sent.calls⟩ := by
  simp [sendAllFrom, visited, failed]

/-! ## What one `pm_send` does -/

/-- A request `pm_send` handles as a transition to the state given as data. -/
def PmRequest.Transition (rqst : PmRequest) : Prop :=
  rqst = .suspend ∨ rqst = .resume

theorem pmSend_transition {rqst : PmRequest} (transition : rqst.Transition)
    (cb : PmCallbacks) (hist : List PmCall) (dev : PmDev) (data : Int) :
    pmSend cb hist dev rqst data =
      if dev.state ≠ data then
        let invoked := invokeCallback cb hist dev rqst data
        if invoked.1 = 0 then ⟨0, { dev with state := data, prevState := dev.state }, invoked.2⟩
        else ⟨invoked.1, dev, invoked.2⟩
      else ⟨0, { dev with prevState := dev.state }, []⟩ := by
  rcases transition with rfl | rfl <;> rfl

/-- An accepted transition leaves the device in the target state, its old state saved,
and invokes the callback exactly when the device has one and is not there yet. -/
theorem pmSend_accepted {rqst : PmRequest} (transition : rqst.Transition)
    {cb : PmCallbacks} {hist : List PmCall} {dev : PmDev} {data : Int}
    (accepted : (pmSend cb hist dev rqst data).status = 0) :
    (pmSend cb hist dev rqst data).dev = { dev with state := data, prevState := dev.state } ∧
      (pmSend cb hist dev rqst data).calls =
        if dev.state ≠ data ∧ dev.callback.isSome then [⟨dev.handle, rqst, data, 0⟩]
        else [] := by
  rw [pmSend_transition transition] at accepted ⊢
  by_cases moved : dev.state = data
  · simp [moved]
  · cases hasCallback : dev.callback with
    | none => simp_all
    | some callback => by_cases status : cb hist dev rqst data = 0 <;> simp_all

/-- A failed transition leaves the device as it was; it was a call to the device's
callback, which returned the status. -/
theorem pmSend_failed {rqst : PmRequest} (transition : rqst.Transition)
    {cb : PmCallbacks} {hist : List PmCall} {dev : PmDev} {data : Int}
    (failed : (pmSend cb hist dev rqst data).status ≠ 0) :
    (pmSend cb hist dev rqst data).dev = dev ∧ dev.state ≠ data ∧ dev.callback.isSome ∧
      (pmSend cb hist dev rqst data).calls =
        [⟨dev.handle, rqst, data, (pmSend cb hist dev rqst data).status⟩] := by
  rw [pmSend_transition transition] at failed ⊢
  by_cases moved : dev.state = data
  · simp [moved] at failed
  · cases hasCallback : dev.callback with
    | none => simp_all
    | some callback => by_cases status : cb hist dev rqst data = 0 <;> simp_all

/-- What `pm_send` never changes: the address, type, id and callback of a device. -/
def PmDev.identity (dev : PmDev) : Nat × Nat × Nat × Option Nat :=
  (dev.handle, dev.type, dev.id, dev.callback)

@[simp] theorem pmSend_identity (cb : PmCallbacks) (hist : List PmCall) (dev : PmDev)
    (rqst : PmRequest) (data : Int) : (pmSend cb hist dev rqst data).dev.identity = dev.identity := by
  unfold pmSend
  split <;> dsimp only <;> split_ifs <;> rfl

@[simp] theorem pmSend_handle (cb : PmCallbacks) (hist : List PmCall) (dev : PmDev)
    (rqst : PmRequest) (data : Int) : (pmSend cb hist dev rqst data).dev.handle = dev.handle :=
  congrArg Prod.fst (pmSend_identity cb hist dev rqst data)

@[simp] theorem pmSend_callback (cb : PmCallbacks) (hist : List PmCall) (dev : PmDev)
    (rqst : PmRequest) (data : Int) :
    (pmSend cb hist dev rqst data).dev.callback = dev.callback :=
  congrArg (fun key => key.2.2.2) (pmSend_identity cb hist dev rqst data)

theorem pmUndoAll_identity (cb : PmCallbacks) :
    ∀ (hist : List PmCall) (passed : List PmDev),
      (pmUndoAll cb hist passed).1.map PmDev.identity = passed.map PmDev.identity
  | _, [] => rfl
  | hist, dev :: rest => by
      unfold pmUndoAll
      split_ifs <;> simp [pmUndoAll_identity]

theorem sendAllFrom_identity (cb : PmCallbacks) (select : PmDev → Bool) (rqst : PmRequest)
    (data : Int) : ∀ (hist : List PmCall) (passed rest : List PmDev),
      (sendAllFrom cb select rqst data hist passed rest).devs.map PmDev.identity =
        (passed.reverse ++ rest).map PmDev.identity
  | _, _, [] => by simp
  | hist, passed, dev :: rest => by
      unfold sendAllFrom
      dsimp only
      split_ifs <;> simp [pmUndoAll_identity, sendAllFrom_identity]

/-- The broadcast loop keeps every device at its place in `pm_devs`. -/
theorem sendAllFrom_handles (cb : PmCallbacks) (select : PmDev → Bool) (rqst : PmRequest)
    (data : Int) (hist : List PmCall) (devs : List PmDev) :
    (sendAllFrom cb select rqst data hist [] devs).devs.map PmDev.handle =
      devs.map PmDev.handle := by
  have sameIdentity := congrArg (List.map Prod.fst) (sendAllFrom_identity cb select rqst data hist [] devs)
  simpa [List.map_map, Function.comp_def, PmDev.identity] using sameIdentity

end Pm
end PowerManagement
