import PowerManagement.Apm.Event

/-!
# The event ring as a drop-oldest queue

A first-in first-out queue of bounded capacity that drops its oldest event to make room
is what a client's ring implements.  One of the `APM_MAX_EVENTS` slots is never used:
an empty ring is one whose head meets its tail, so `queue_event` drops the oldest event
as soon as the ring holds `APM_MAX_EVENTS - 1` events.  The ring refines the queue of
that capacity: `queue_empty` tests for the empty queue, `get_queued_event` takes its
oldest event, and the ring part of `queue_event` appends, dropping exactly when full.
-/

namespace PowerManagement
namespace Apm

/-- A first-in first-out queue of at most `capacity` events. -/
@[ext]
structure DropOldestFifo (capacity : Nat) where
  items : List ApmEvent
  length_le : items.length ≤ capacity

namespace DropOldestFifo

/-- Append an event, dropping the oldest one when the queue is full; the flag says
whether one was dropped. -/
def push (q : DropOldestFifo capacity) (event : ApmEvent) : DropOldestFifo capacity × Bool :=
  if room : q.items.length < capacity then (⟨q.items ++ [event], by simp; omega⟩, false)
  else (⟨(q.items ++ [event]).tail, by simpa using q.length_le⟩, true)

/-- Take the oldest event, if there is one. -/
def pop : DropOldestFifo capacity → Option (ApmEvent × DropOldestFifo capacity)
  | ⟨[], _⟩ => none
  | ⟨event :: rest, bound⟩ => some (event, ⟨rest, Nat.le_of_succ_le bound⟩)

theorem pop_of_nil {q : DropOldestFifo capacity} (empty : q.items = []) : q.pop = none := by
  obtain ⟨items, bound⟩ := q
  subst empty
  rfl

theorem pop_of_cons :
    ∀ {q : DropOldestFifo capacity} {event : ApmEvent} {rest : List ApmEvent}
      (front : q.items = event :: rest),
      q.pop = some (event, ⟨rest, by have := q.length_le; simp [front] at this; omega⟩)
  | ⟨_, _⟩, _, _, rfl => rfl

/-- After a push the queue holds the newest `capacity` of its events and the new one. -/
theorem push_items (q : DropOldestFifo capacity) (event : ApmEvent) :
    (q.push event).1.items = (q.items ++ [event]).drop (q.items.length + 1 - capacity) := by
  have := q.length_le
  unfold push
  split
  · rw [show q.items.length + 1 - capacity = 0 by omega]; rfl
  · rw [show q.items.length + 1 - capacity = 1 by omega, List.drop_one]

/-- A push drops an event exactly when the queue is already full. -/
theorem push_dropped (q : DropOldestFifo capacity) (event : ApmEvent) :
    (q.push event).2 = decide (capacity ≤ q.items.length) := by
  unfold push
  split <;> simp <;> omega

end DropOldestFifo

/-- What a client's ring is asked to do: the ring part of `queue_event`, or
`get_queued_event`, which `do_read` calls only on a ring that is not empty. -/
inductive RingOp
  | push (event : ApmEvent)
  | pop
  deriving DecidableEq, Repr

/-- Run operations one after another from a state, collecting what each gives back:
the event a pop took, and whether a push dropped one. -/
def runOps {σ : Type} (step : σ → RingOp → σ × Option ApmEvent × Bool) :
    σ → List RingOp → σ × List (Option ApmEvent × Bool)
  | s, [] => (s, [])
  | s, op :: ops =>
      ((runOps step (step s op).1 ops).1, (step s op).2 :: (runOps step (step s op).1 ops).2)

/-- A run of `step` maps to a run of `other` under `abs` when each operation does. -/
theorem runOps_simulate {σ τ : Type} {step : σ → RingOp → σ × Option ApmEvent × Bool}
    {other : τ → RingOp → τ × Option ApmEvent × Bool} (abs : σ → τ)
    (simulates : ∀ s op, other (abs s) op = (abs (step s op).1, (step s op).2)) :
    ∀ s ops, runOps other (abs s) ops = (abs (runOps step s ops).1, (runOps step s ops).2)
  | _, [] => rfl
  | s, op :: ops => by simp only [runOps, simulates, runOps_simulate abs simulates _ ops]

namespace DropOldestFifo

/-- One operation on the queue; a pop of the empty queue does nothing. -/
def step (q : DropOldestFifo capacity) : RingOp → DropOldestFifo capacity × Option ApmEvent × Bool
  | .push event => ((q.push event).1, none, (q.push event).2)
  | .pop =>
      match q.pop with
      | none => (q, none, false)
      | some (event, rest) => (rest, some event, false)

end DropOldestFifo

namespace EventQueue

theorem window_length (q : EventQueue) : ∀ count, (q.window count).length = count
  | 0 => rfl
  | count + 1 => by simp [window, window_length q count]

theorem window_getElem (q : EventQueue) :
    ∀ (count index : Nat) (inWindow : index < (q.window count).length),
      (q.window count)[index] = q.slot (q.eventTail + 1 + index)
  | 0, _, inWindow => absurd inWindow (by simp [window])
  | count + 1, index, inWindow => by
      simp only [window]
      rw [List.getElem_append]
      split
      · exact window_getElem q count index ‹_›
      · have : index = count := by simp [window_length] at inWindow ‹¬_›; omega
        simp [this]

theorem occupied_lt (q : EventQueue) : q.occupied < apmMaxEvents :=
  Nat.mod_lt _ apmMaxEvents_pos

theorem toList_length (q : EventQueue) : q.toList.length = q.occupied :=
  window_length q q.occupied

theorem slot_congr (q : EventQueue) {index other : Nat}
    (sameSlot : index % apmMaxEvents = other % apmMaxEvents) : q.slot index = q.slot other := by
  simp only [slot, sameSlot]

theorem toList_getElem (q : EventQueue) (index : Nat) (inList : index < q.toList.length) :
    q.toList[index] = q.slot (q.eventTail + 1 + index) :=
  window_getElem q q.occupied index inList

/-- The ring read as a drop-oldest queue of capacity `APM_MAX_EVENTS - 1`. -/
def fifo (q : EventQueue) : DropOldestFifo (apmMaxEvents - 1) :=
  ⟨q.toList, by have := q.occupied_lt; rw [toList_length]; omega⟩

@[simp] theorem fifo_items (q : EventQueue) : q.fifo.items = q.toList := rfl

theorem push_slot (q : EventQueue) (event : ApmEvent) (index : Nat) :
    (q.push event).1.slot index =
      if index % apmMaxEvents = (q.eventHead + 1) % apmMaxEvents then event else q.slot index := by
  simp only [push, slot, Function.update_apply, Fin.mk.injEq]

/-- While the ring holds fewer than `APM_MAX_EVENTS - 1` events, the ring part of
`queue_event` appends without dropping. -/
theorem push_of_room (q : EventQueue) (event : ApmEvent) (room : q.occupied < apmMaxEvents - 1) :
    (q.push event).2 = false ∧ (q.push event).1.toList = q.toList ++ [event] := by
  have bounds := And.intro q.head_lt q.tail_lt
  have notFull : (q.eventHead + 1) % apmMaxEvents ≠ q.eventTail := by
    simp only [occupied, apmMaxEvents] at room bounds ⊢; omega
  have pushedTail : (q.push event).1.eventTail = q.eventTail := by simp [push, notFull]
  have pushedOccupied : (q.push event).1.occupied = q.occupied + 1 := by
    simp only [occupied, push, notFull, decide_False, Bool.false_eq_true, if_false]
    simp only [occupied, apmMaxEvents] at room bounds ⊢; omega
  refine ⟨by simp [push, notFull], List.ext_getElem (by simp [toList_length, pushedOccupied]) ?_⟩
  intro index inPushed inAppended
  rw [toList_getElem, pushedTail, push_slot, List.getElem_append]
  by_cases inOld : index < q.toList.length
  · rw [dif_pos inOld, toList_getElem, if_neg]
    rw [toList_length] at inOld
    simp only [occupied, apmMaxEvents] at inOld bounds ⊢; omega
  · have last : index = q.occupied := by
      simp [toList_length, pushedOccupied] at inPushed inOld; omega
    rw [dif_neg inOld, if_pos]
    · simp [last, toList_length]
    · subst last; simp only [occupied, apmMaxEvents] at bounds ⊢; omega

/-- When the ring holds `APM_MAX_EVENTS - 1` events, the ring part of `queue_event`
drops the oldest and appends. -/
theorem push_of_full (q : EventQueue) (event : ApmEvent) (full : q.occupied = apmMaxEvents - 1) :
    (q.push event).2 = true ∧ (q.push event).1.toList = (q.toList ++ [event]).tail := by
  have bounds := And.intro q.head_lt q.tail_lt
  have isFull : (q.eventHead + 1) % apmMaxEvents = q.eventTail := by
    simp only [occupied, apmMaxEvents] at full bounds ⊢; omega
  have pushedTail : (q.push event).1.eventTail = (q.eventTail + 1) % apmMaxEvents := by
    simp [push, isFull]
  have pushedOccupied : (q.push event).1.occupied = q.occupied := by
    simp only [occupied, push, isFull, decide_True, if_true]
    simp only [occupied, apmMaxEvents] at full bounds ⊢; omega
  refine ⟨by simp [push, isFull], List.ext_getElem (by simp [toList_length, pushedOccupied]) ?_⟩
  intro index inPushed inAppended
  rw [toList_getElem, pushedTail, push_slot, List.getElem_tail, List.getElem_append]
  have inRange : index < apmMaxEvents - 1 := by
    simp [toList_length, pushedOccupied, full] at inPushed; omega
  by_cases inOld : index + 1 < q.toList.length
  · rw [dif_pos inOld, toList_getElem, if_neg, slot_congr]
    · simp only [apmMaxEvents] at bounds ⊢; omega
    · rw [toList_length, full] at inOld
      simp only [apmMaxEvents] at inOld isFull bounds ⊢; omega
  · have last : index = apmMaxEvents - 2 := by
      rw [toList_length, full] at inOld; simp only [apmMaxEvents] at inOld inRange ⊢; omega
    rw [dif_neg inOld, if_pos]
    · simp [last, toList_length, full, apmMaxEvents]
    · subst last; simp only [apmMaxEvents] at bounds isFull ⊢; omega

theorem getQueuedEvent_slot (q : EventQueue) : (getQueuedEvent q).2.slot = q.slot := rfl

/-- `get_queued_event` on a ring that is not empty returns the oldest event and leaves
the others. -/
theorem getQueuedEvent_toList (q : EventQueue) (nonempty : queueEmpty q = false) :
    q.toList = (getQueuedEvent q).1 :: (getQueuedEvent q).2.toList := by
  have bounds := And.intro q.head_lt q.tail_lt
  have differ : q.eventHead ≠ q.eventTail := by simpa [queueEmpty] using nonempty
  have poppedOccupied : (getQueuedEvent q).2.occupied + 1 = q.occupied := by
    simp only [getQueuedEvent, occupied, apmMaxEvents] at bounds differ ⊢; omega
  refine List.ext_getElem (by simp [toList_length, ← poppedOccupied]) ?_
  intro index inList _
  rw [toList_getElem]
  cases index with
  | zero => exact slot_congr q (by simp [Nat.mod_mod])
  | succ index =>
      rw [List.getElem_cons_succ, toList_getElem, getQueuedEvent_slot]
      exact slot_congr q (by simp only [getQueuedEvent, apmMaxEvents]; omega)

/-- A new client's ring holds no event, whatever its slots hold. -/
@[simp] theorem toList_empty (events : Fin apmMaxEvents → ApmEvent) :
    (EventQueue.empty events).toList = [] := by
  simp [toList, occupied, empty, window]

/-- `queue_empty` holds exactly when the ring holds no event. -/
theorem queueEmpty_iff (q : EventQueue) : queueEmpty q = true ↔ q.toList = [] := by
  have bounds := And.intro q.head_lt q.tail_lt
  rw [← List.length_eq_zero, toList_length]
  simp only [queueEmpty, beq_iff_eq, occupied, apmMaxEvents] at bounds ⊢
  omega

/-- The ring part of `queue_event` is the push of the drop-oldest queue. -/
theorem fifo_push (q : EventQueue) (event : ApmEvent) :
    q.fifo.push event = ((q.push event).1.fifo, (q.push event).2) := by
  have bound := q.occupied_lt
  have items := q.fifo.push_items event
  have dropped := q.fifo.push_dropped event
  simp only [fifo_items, toList_length] at items dropped
  by_cases room : q.occupied < apmMaxEvents - 1
  · obtain ⟨flag, list⟩ := q.push_of_room event room
    refine Prod.ext (DropOldestFifo.ext ?_) ?_
    · rw [items, fifo_items, list, show q.occupied + 1 - (apmMaxEvents - 1) = 0 by omega]; rfl
    · rw [dropped, flag, decide_eq_false (by omega)]
  · obtain ⟨flag, list⟩ := q.push_of_full event (by omega)
    refine Prod.ext (DropOldestFifo.ext ?_) ?_
    · rw [items, fifo_items, list, show q.occupied + 1 - (apmMaxEvents - 1) = 1 by omega,
        List.drop_one]
    · rw [dropped, flag, decide_eq_true (by omega)]

/-- The ring part of `queue_event` keeps the newest `APM_MAX_EVENTS - 1` of the events
and the new one. -/
theorem push_toList (q : EventQueue) (event : ApmEvent) :
    (q.push event).1.toList =
      (q.toList ++ [event]).drop (q.toList.length + 1 - (apmMaxEvents - 1)) := by
  simpa [fifo_push] using q.fifo.push_items event

/-- The ring part of `queue_event` drops an event exactly when the ring already holds
`APM_MAX_EVENTS - 1`. -/
theorem push_dropped (q : EventQueue) (event : ApmEvent) :
    (q.push event).2 = decide (apmMaxEvents - 1 ≤ q.toList.length) := by
  simpa [fifo_push] using q.fifo.push_dropped event

/-- One operation on a client's ring, as `queue_event` and `do_read` do it; a pop of the
empty ring does nothing, as `do_read` then does not call `get_queued_event`. -/
def step (q : EventQueue) : RingOp → EventQueue × Option ApmEvent × Bool
  | .push event => ((q.push event).1, none, (q.push event).2)
  | .pop =>
      if queueEmpty q then (q, none, false)
      else ((getQueuedEvent q).2, some (getQueuedEvent q).1, false)

/-- Each operation on the ring is the same operation on the queue it reads as. -/
theorem fifo_step (q : EventQueue) : ∀ op, q.fifo.step op = ((q.step op).1.fifo, (q.step op).2)
  | .push event => by simp only [DropOldestFifo.step, step, fifo_push]
  | .pop => by
      by_cases empty : queueEmpty q
      · simp only [DropOldestFifo.step, step, empty, if_true,
          @DropOldestFifo.pop_of_nil _ q.fifo ((queueEmpty_iff q).1 empty)]
      · have popped := getQueuedEvent_toList q (by simpa using empty)
        simp only [DropOldestFifo.step, step, empty,
          @DropOldestFifo.pop_of_cons _ q.fifo _ _ popped]
        rfl

/-- Over every sequence of operations the ring behaves as the drop-oldest queue of
capacity `APM_MAX_EVENTS - 1`: the same events come out, the same pushes drop one, and
the ring ends reading as the queue. -/
theorem fifo_run (q : EventQueue) (ops : List RingOp) :
    runOps DropOldestFifo.step q.fifo ops = ((runOps step q ops).1.fifo, (runOps step q ops).2) :=
  runOps_simulate fifo fifo_step q ops

end EventQueue

end Apm
end PowerManagement
