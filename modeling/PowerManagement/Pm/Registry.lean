import PowerManagement.Pm.Send

/-!
# Runs of the registry

Every operation of `kernel/pm.c` as a step on the registry, and the registry a sequence
of them reaches from the empty one.  `pm_register` links a new device at the head of
`pm_devs` (`list_add`), so a traversal from the head meets the registered devices
newest first: the reverse of their registration order.
-/

namespace PowerManagement
namespace Pm

/-- An operation on the registry, with the callback behaviour it runs under. -/
inductive PmOp
  | register (type id : Nat) (callback : Option Nat)
  | unregister (dev : Option Nat)
  | unregisterAll (callback : Option Nat)
  | send (cb : PmCallbacks) (dev : Nat) (rqst : PmRequest) (data : Int)
  | sendAll (cb : PmCallbacks) (rqst : PmRequest) (data : Int)
  | sendAllTweak (cb : PmCallbacks) (rqst : PmRequest) (data : Int) (type : Nat)
  | sendAllType (cb : PmCallbacks) (type : Nat) (rqst : PmRequest) (data : Int)
  | sendAllTarget (cb : PmCallbacks) (type : Nat) (id : Int) (rqst : PmRequest) (data : Int)

/-- `pm_send(dev, rqst, data)` called directly on the registered device at address
`dev`; an address that is not registered is ignored. -/
def PmState.send (s : PmState) (cb : PmCallbacks) (dev : Nat) (rqst : PmRequest)
    (data : Int) : PmState :=
  match s.devs.find? (·.handle == dev) with
  | none => s
  | some target =>
      let sent := pmSend cb s.log target rqst data
      s.update (s.devs.map fun other => if other = target then sent.dev else other)
        sent.calls (by
          simp only [List.map_map]
          exact List.map_congr_left fun other _ => by
            by_cases same : other = target <;> simp [same, sent])

theorem send_identity (s : PmState) (cb : PmCallbacks) (dev : Nat) (rqst : PmRequest)
    (data : Int) :
    (s.send cb dev rqst data).devs.map PmDev.identity = s.devs.map PmDev.identity := by
  unfold PmState.send
  split
  · rfl
  · rename_i target _
    simp only [update_devs, List.map_map]
    exact List.map_congr_left fun other _ => by
      by_cases same : other = target <;> simp [same]

@[simp] theorem send_next (s : PmState) (cb : PmCallbacks) (dev : Nat) (rqst : PmRequest)
    (data : Int) : (s.send cb dev rqst data).next = s.next := by
  unfold PmState.send
  split <;> rfl

/-- A broadcast of the `pm_send_all` family on the registry. -/
def PmState.sendAll (s : PmState) (cb : PmCallbacks) (select : PmDev → Bool)
    (rqst : PmRequest) (data : Int) : PmState :=
  let sent := sendAllFrom cb select rqst data s.log [] s.devs
  s.update sent.devs sent.calls (sendAllFrom_handles cb select rqst data s.log s.devs)

/-- One operation on the registry. -/
def pmStep (s : PmState) : PmOp → PmState
  | .register type id callback => pmRegister s type id callback
  | .unregister dev => pmUnregister s dev
  | .unregisterAll callback => pmUnregisterAll s callback
  | .send cb dev rqst data => s.send cb dev rqst data
  | .sendAll cb rqst data => s.sendAll cb (fun _ => true) rqst data
  | .sendAllTweak cb rqst data type => s.sendAll cb (fun dev => dev.type = type) rqst data
  | .sendAllType cb type rqst data => s.sendAll cb (fun dev => dev.type = type) rqst data
  | .sendAllTarget cb type id rqst data =>
      s.sendAll cb (fun dev => dev.type = type ∧ dev.id = unsignedLong id) rqst data

/-- The registry after a sequence of operations. -/
def pmRun (s : PmState) (ops : List PmOp) : PmState :=
  ops.foldl pmStep s

@[simp] theorem sendAll_devs (s : PmState) (cb : PmCallbacks) (select : PmDev → Bool)
    (rqst : PmRequest) (data : Int) :
    (s.sendAll cb select rqst data).devs = (sendAllFrom cb select rqst data s.log [] s.devs).devs :=
  rfl

@[simp] theorem sendAll_log (s : PmState) (cb : PmCallbacks) (select : PmDev → Bool)
    (rqst : PmRequest) (data : Int) :
    (s.sendAll cb select rqst data).log =
      s.log ++ (sendAllFrom cb select rqst data s.log [] s.devs).calls := rfl

/-! ## Traversal order -/

/-- What a traversal of `pm_devs` reads of a device here: its address and callback. -/
def PmDev.entry (dev : PmDev) : Nat × Option Nat :=
  (dev.handle, dev.callback)

/-- The registration bookkeeping of one operation, in registration order: the next
address and the devices registered and not since removed, as (address, callback). -/
def registrationStep (acc : Nat × List (Nat × Option Nat)) :
    PmOp → Nat × List (Nat × Option Nat)
  | .register _ _ callback => (acc.1 + 1, acc.2 ++ [(acc.1, callback)])
  | .unregister (some dev) => (acc.1, acc.2.filter (·.1 != dev))
  | .unregisterAll (some callback) => (acc.1, acc.2.filter (·.2 != some callback))
  | _ => acc

/-- The devices still registered after a sequence of operations, in registration order:
registered, and not since removed by `pm_unregister` or by a `pm_unregister_all` whose
callback is their own. -/
def stillRegistered (ops : List PmOp) : List (Nat × Option Nat) :=
  (ops.foldl registrationStep (0, [])).2

theorem map_entry_of_identity {devs devs' : List PmDev}
    (sameIdentity : devs'.map PmDev.identity = devs.map PmDev.identity) :
    devs'.map PmDev.entry = devs.map PmDev.entry := by
  have entries := congrArg (List.map fun key => (key.1, key.2.2.2)) sameIdentity
  simpa [List.map_map, Function.comp_def, PmDev.identity, PmDev.entry] using entries

/-- The registry agrees with the bookkeeping: same next address, and its entries are
the still-registered ones, newest first. -/
def Tracks (s : PmState) (acc : Nat × List (Nat × Option Nat)) : Prop :=
  s.next = acc.1 ∧ s.devs.map PmDev.entry = acc.2.reverse

theorem pmStep_tracks {s : PmState} {acc : Nat × List (Nat × Option Nat)} (op : PmOp)
    (tracks : Tracks s acc) : Tracks (pmStep s op) (registrationStep acc op) := by
  obtain ⟨sameNext, sameEntries⟩ := tracks
  cases op with
  | register type id callback =>
      exact ⟨by simp [pmStep, registrationStep, sameNext],
        by simp [pmStep, registrationStep, sameEntries, sameNext, PmDev.entry]⟩
  | unregister dev =>
      cases dev with
      | none => exact ⟨sameNext, sameEntries⟩
      | some dev =>
          refine ⟨sameNext, ?_⟩
          simp only [pmStep, pmUnregister, registrationStep, retain_devs]
          rw [← List.filter_reverse, ← sameEntries, List.filter_map]
          rfl
  | unregisterAll callback =>
      cases callback with
      | none => exact ⟨sameNext, sameEntries⟩
      | some callback =>
          refine ⟨sameNext, ?_⟩
          simp only [pmStep, pmUnregisterAll, registrationStep, retain_devs]
          rw [← List.filter_reverse, ← sameEntries, List.filter_map]
          rfl
  | send cb dev rqst data =>
      exact ⟨by simpa [pmStep] using sameNext,
        (map_entry_of_identity (send_identity s cb dev rqst data)).trans sameEntries⟩
  | sendAll cb rqst data | sendAllTweak cb rqst data _ | sendAllType cb _ rqst data
  | sendAllTarget cb _ _ rqst data =>
      exact ⟨sameNext, (map_entry_of_identity (by
        simpa using sendAllFrom_identity cb _ rqst data s.log [] s.devs)).trans sameEntries⟩

theorem pmRun_tracks :
    ∀ (ops : List PmOp) {s : PmState} {acc : Nat × List (Nat × Option Nat)},
      Tracks s acc → Tracks (pmRun s ops) (ops.foldl registrationStep acc)
  | [], _, _, tracks => tracks
  | op :: ops, _, _, tracks => pmRun_tracks ops (pmStep_tracks op tracks)

/-- After any sequence of registry operations from the empty registry, a traversal of
`pm_devs` from its head visits exactly the still-registered devices, each once, newest
first: the reverse of their registration order. -/
theorem pmDevs_traversal_newest_first (ops : List PmOp) :
    (pmRun PmState.empty ops).devs.map PmDev.entry = (stillRegistered ops).reverse ∧
      ((pmRun PmState.empty ops).devs.map PmDev.handle).Nodup :=
  ⟨(pmRun_tracks ops (show Tracks PmState.empty (0, []) from ⟨rfl, rfl⟩)).2,
    (pmRun PmState.empty ops).handles_nodup⟩

/-- Two registrations are traversed in the reverse of their registration order. -/
theorem pmDevs_traversal_not_registration_order :
    (pmRun PmState.empty [.register 0 0 none, .register 0 0 none]).devs.map PmDev.entry ≠
      stillRegistered [.register 0 0 none, .register 0 0 none] := by
  decide

end Pm
end PowerManagement
