import PowerManagement.Pm.Broadcast
import PowerManagement.Pm.Registry

/-!
# Rollback of a vetoed suspend

`pm_undo_all` decides whom to roll back from the devices themselves: every entry before
the failing one whose `state` differs from its `prev_state` is sent back.  The forward
pass refreshes `prev_state` only on the devices it visits, so an entry it skips keeps
the `prev_state` an earlier request left: a device without a callback after a direct
`pm_send`, or, for the filtered broadcasts, a device of another type after an earlier
broadcast.  The rollback then moves a device the vetoed broadcast never touched.
-/

namespace PowerManagement
namespace Pm

/-- A callback behaviour that accepts every request. -/
def acceptAll : PmCallbacks := fun _ _ _ _ => 0

/-- A callback behaviour that vetoes every request with status `1`. -/
def vetoAll : PmCallbacks := fun _ _ _ _ => 1

/-- A device with a callback is registered, then one without; a direct `pm_send`
suspends the second to state `3`. -/
def staleRegistry : PmState :=
  pmRun PmState.empty [.register 0 0 (some 1), .register 0 0 none, .send acceptAll 1 .suspend 3]

/-- The device with a callback vetoes `pm_send_all(PM_SUSPEND, 3)`.  The rollback
resumes the device without a callback, which the broadcast skipped: it was in state `3`
before the call and is in state `0` after it. -/
theorem pmSendAll_rollback_moves_skipped_device :
    (pmSendAll vetoAll staleRegistry.log staleRegistry.devs .suspend 3).status = 1 ∧
      staleRegistry.devs.map PmDev.state = [3, 0] ∧
      (pmSendAll vetoAll staleRegistry.log staleRegistry.devs .suspend 3).devs.map PmDev.state =
        [0, 0] ∧
      (pmSendAll vetoAll staleRegistry.log staleRegistry.devs .suspend 3).calls =
        [⟨0, .suspend, 3, 1⟩] := by
  decide

/-- Devices of types `1` and `0` are registered, in that order, each with a callback;
`pm_send_all_type(0, PM_SUSPEND, 3)` suspends the type-`0` device. -/
def typedRegistry : PmState :=
  pmRun PmState.empty
    [.register 1 0 (some 2), .register 0 0 (some 1), .sendAllType acceptAll 0 .suspend 3]

/-- A callback behaviour in which only the device at address `0` vetoes. -/
def vetoFirstRegistered : PmCallbacks := fun _ dev _ _ => if dev.handle = 0 then 1 else 0

/-- The type-`1` device vetoes `pm_send_all_type(1, PM_SUSPEND, 3)`.  The rollback
invokes the callback of the type-`0` device and resumes it from `3` to `0`. -/
theorem pmSendAllType_rollback_touches_other_type :
    (pmSendAllType vetoFirstRegistered typedRegistry.log typedRegistry.devs 1 .suspend 3).status =
        1 ∧
      typedRegistry.devs.map (fun dev => (dev.type, dev.state)) = [(0, 3), (1, 0)] ∧
      (pmSendAllType vetoFirstRegistered typedRegistry.log typedRegistry.devs 1 .suspend 3).devs.map
        (fun dev => (dev.type, dev.state)) = [(0, 0), (1, 0)] ∧
      (pmSendAllType vetoFirstRegistered typedRegistry.log typedRegistry.devs 1 .suspend 3).calls =
        [⟨0, .suspend, 3, 1⟩, ⟨1, .resume, 0, 0⟩] := by
  decide

end Pm
end PowerManagement
