import Mathlib.Data.List.Basic

/-!
# APM events and the per-client event ring

The BIOS events of `<linux/apm_bios.h>` that `arch/i386/kernel/apm.c` handles, and the
ring `events[APM_MAX_EVENTS]` with `event_head` and `event_tail` that each client of the
APM device reads them from.  The ring is empty when head and tail meet; `queue_event`
advances the head and, when it reaches the tail, drops the oldest event by advancing
the tail too.  Its events are those at `event_tail + 1, ..., event_head`, modulo
`APM_MAX_EVENTS`: the window `toList` reads.
-/

namespace PowerManagement
namespace Apm

/-- The events an APM BIOS reports (`apm_event_t`); `oem` is any other code, which
`check_events` ignores. -/
inductive ApmEvent
  | sysStandby
  | sysSuspend
  | normalResume
  | criticalResume
  | lowBattery
  | powerStatusChange
  | updateTime
  | criticalSuspend
  | userStandby
  | userSuspend
  | standbyResume
  | capabilityChange
  | oem (code : Nat)
  deriving DecidableEq, Repr

/-- The two kinds of request a privileged client acknowledges. -/
inductive RequestKind
  | suspend
  | standby
  deriving DecidableEq, Repr

/-- The request an event is, as the `switch`es of `queue_event` and `do_read` sort
them: `APM_SYS_SUSPEND` and `APM_USER_SUSPEND` request a suspend, `APM_SYS_STANDBY` and
`APM_USER_STANDBY` a standby. -/
def ApmEvent.requestKind : ApmEvent → Option RequestKind
  | .sysSuspend | .userSuspend => some .suspend
  | .sysStandby | .userStandby => some .standby
  | _ => none

/-- The event a client's own `APM_IOC_SUSPEND` or `APM_IOC_STANDBY` queues to the others. -/
def RequestKind.userEvent : RequestKind → ApmEvent
  | .suspend => .userSuspend
  | .standby => .userStandby

@[simp] theorem requestKind_userEvent (kind : RequestKind) :
    kind.userEvent.requestKind = some kind := by
  cases kind <;> rfl

/-- `APM_MAX_EVENTS`. -/
def apmMaxEvents : Nat := 20

theorem apmMaxEvents_pos : 0 < apmMaxEvents := by decide

/-- A client's event ring: `events`, `event_head` and `event_tail`, both indices below
`APM_MAX_EVENTS`. -/
structure EventQueue where
  eventHead : Nat
  eventTail : Nat
  events : Fin apmMaxEvents → ApmEvent
  head_lt : eventHead < apmMaxEvents
  tail_lt : eventTail < apmMaxEvents

namespace EventQueue

/-- The slot `index` modulo `APM_MAX_EVENTS`. -/
def slot (q : EventQueue) (index : Nat) : ApmEvent :=
  q.events ⟨index % apmMaxEvents, Nat.mod_lt _ apmMaxEvents_pos⟩

/-- The empty ring of a new client (`event_tail = event_head = 0`) over whatever the
allocation left in `events`. -/
def empty (events : Fin apmMaxEvents → ApmEvent) : EventQueue :=
  ⟨0, 0, events, apmMaxEvents_pos, apmMaxEvents_pos⟩

/-- The ring part of `queue_event` for one client: advance the head, drop the oldest
event when the head meets the tail, store the event at the head.  The flag says
whether an event was dropped. -/
def push (q : EventQueue) (event : ApmEvent) : EventQueue × Bool :=
  let head := (q.eventHead + 1) % apmMaxEvents
  let full := decide (head = q.eventTail)
  (⟨head, if full then (q.eventTail + 1) % apmMaxEvents else q.eventTail,
    Function.update q.events ⟨head, Nat.mod_lt _ apmMaxEvents_pos⟩ event,
    Nat.mod_lt _ apmMaxEvents_pos, by split <;> simp [Nat.mod_lt _ apmMaxEvents_pos, q.tail_lt]⟩,
    full)

/-- The number of events in the ring. -/
def occupied (q : EventQueue) : Nat :=
  (q.eventHead + apmMaxEvents - q.eventTail) % apmMaxEvents

/-- The `count` events after the tail, oldest first. -/
def window (q : EventQueue) : Nat → List ApmEvent
  | 0 => []
  | count + 1 => q.window count ++ [q.slot (q.eventTail + 1 + count)]

/-- The events in the ring, oldest first. -/
def toList (q : EventQueue) : List ApmEvent :=
  q.window q.occupied

end EventQueue

/-- `queue_empty`: head and tail meet. -/
def queueEmpty (q : EventQueue) : Bool :=
  q.eventHead == q.eventTail

/-- `get_queued_event`: advance the tail and return the event there. -/
def getQueuedEvent (q : EventQueue) : ApmEvent × EventQueue :=
  let tail := (q.eventTail + 1) % apmMaxEvents
  (q.slot tail, { q with eventTail := tail, tail_lt := Nat.mod_lt _ apmMaxEvents_pos })

end Apm
end PowerManagement
