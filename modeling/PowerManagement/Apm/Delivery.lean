import PowerManagement.Apm.System

/-!
# What the clients read

`queue_event` pushes every event onto the ring of each reader but its sender, and
`do_read` takes events off the front: the rings are drop-oldest queues of capacity
`APM_MAX_EVENTS - 1`, and `notified` counts the events they drop.  A read whose copy to
the user buffer faults takes one more event off the ring than it copies; that event is
lost, and if it is a request it is neither read nor queued.
-/

namespace PowerManagement
namespace Apm

open Pm

/-! ## `queue_event` pushes onto the queues -/

theorem deliver_fifo (event : ApmEvent) (sender : Option Nat) (as : ApmUser) :
    (deliver event sender as).queue.fifo =
      if receives sender as then (as.queue.fifo.push event).1 else as.queue.fifo := by
  rw [deliver_queue]
  split <;> simp only [EventQueue.fifo_push]

/-- `queue_event` pushes the event onto the queue of every reader but the sender. -/
theorem queueEvent_fifos (s : ApmState) (event : ApmEvent) (sender : Option Nat) :
    (queueEvent s event sender).users.map (·.queue.fifo) =
      s.users.map fun as =>
        if receives sender as then (as.queue.fifo.push event).1 else as.queue.fifo := by
  rw [queueEvent_users, List.map_map]
  exact List.map_congr_left fun as _ => deliver_fifo event sender as

/-- `queue_event` raises `notified` once for each reader but the sender whose ring
already holds `APM_MAX_EVENTS - 1` events. -/
theorem queueEvent_notified (s : ApmState) (event : ApmEvent) (sender : Option Nat) :
    (queueEvent s event sender).notified =
      s.notified + s.users.countP fun as =>
        receives sender as && decide (apmMaxEvents - 1 ≤ as.queue.toList.length) := by
  show s.notified + s.users.countP (overflows event sender) = _
  congr 2
  funext as
  rw [overflows, EventQueue.push_dropped]

/-! ## `do_read` takes events off the front -/

/-- `do_read` copies the oldest events of the ring, in the order they were queued. -/
theorem doRead_copied_prefix {config : ApmConfig} {as : ApmUser} {count writable : Nat}
    {nonblock signal : Bool} {result : ReadResult}
    (read : doRead config as count writable nonblock signal = some result) :
    List.IsPrefix result.copied as.queue.toList := by
  obtain ⟨lost, queue, -, front, -⟩ :=
    doRead_spec config as count writable nonblock signal result read
  exact ⟨lost ++ queue.toList, by rw [front, List.append_assoc]⟩

/-- A reader with one power status change on its ring. -/
def statusReader : ApmUser :=
  ⟨0, false, false, true, false, 0, 0, 0, 0, 0,
    ((EventQueue.empty fun _ => .lowBattery).push .powerStatusChange).1⟩

/-! ## `do_poll` agrees with `do_read` -/

/-- `POLLIN | POLLRDNORM` of `<asm/poll.h>`, which is not among the sources; only its being
nonzero matters here. -/
def pollinRdnorm : Nat := 0x0041

/-- `do_poll` of a client: `POLLIN | POLLRDNORM` when its ring holds an event. -/
def doPoll (as : ApmUser) : Nat :=
  if !queueEmpty as.queue then pollinRdnorm else 0

/-- Once the loop has copied an event, it reports no fault and leaves no more of the buffer
than it found. -/
theorem readLoop_after_copy (eventSize count writable : Nat) :
    ∀ fuel left copied as, left < count →
      (readLoop eventSize count writable fuel left copied as).faulted = false ∧
        (readLoop eventSize count writable fuel left copied as).left ≤ left
  | 0, _, _, _, _ => by simp [readLoop]
  | fuel + 1, left, copied, as, started => by
      by_cases go : eventSize ≤ left ∧ queueEmpty as.queue = false
      · by_cases faults : writable < count - left + eventSize
        · simp [readLoop, go, faults, started]
        · rw [readLoop_copy go faults]
          obtain ⟨unfaulted, shrunk⟩ := readLoop_after_copy eventSize count writable fuel
            (left - eventSize) (copied ++ [(getQueuedEvent as.queue).1])
            ((as.withQueue (getQueuedEvent as.queue).2).countRead (getQueuedEvent as.queue).1)
            (by omega)
          exact ⟨unfaulted, by omega⟩
      · rw [readLoop_stop go]
        exact ⟨rfl, le_rfl⟩

/-- `do_poll` reports a client's file readable exactly when a read that does not block,
into a buffer with room for an event, gets events: with an event on the ring the read
copies at least one and returns a positive count; with none it returns `-EAGAIN` and
changes nothing. -/
theorem doPoll_agrees_with_doRead (config : ApmConfig) (as : ApmUser) {count writable : Nat}
    (positive : 0 < config.eventSize) (room : config.eventSize ≤ count)
    (fits : config.eventSize ≤ writable) (signal : Bool) :
    (doPoll as ≠ 0 ∧ ∃ result, doRead config as count writable true signal = some result ∧
        0 < result.ret ∧ result.copied ≠ []) ∨
      (doPoll as = 0 ∧
        doRead config as count writable true signal = some ⟨-config.errno.eagain, [], as⟩) := by
  cases empty : queueEmpty as.queue
  · refine .inl ⟨by simp [doPoll, empty, pollinRdnorm], ?_⟩
    simp only [doRead, if_neg (Nat.not_lt.2 room), empty, Bool.false_and, Bool.false_eq_true,
      if_false]
    rw [← getQueuedEvent_occupied as.queue empty, readLoop_copy ⟨room, empty⟩ (by omega),
      List.nil_append]
    obtain ⟨unfaulted, shrunk⟩ := readLoop_after_copy config.eventSize count writable
      (getQueuedEvent as.queue).2.occupied (count - config.eventSize)
      [(getQueuedEvent as.queue).1]
      ((as.withQueue (getQueuedEvent as.queue).2).countRead (getQueuedEvent as.queue).1)
      (by omega)
    obtain ⟨fresh, -, -, copied, -⟩ := readLoop_spec config.eventSize count writable
      (getQueuedEvent as.queue).2.occupied (count - config.eventSize)
      [(getQueuedEvent as.queue).1]
      ((as.withQueue (getQueuedEvent as.queue).2).countRead (getQueuedEvent as.queue).1)
    rw [unfaulted, if_neg Bool.false_ne_true, if_pos (by omega)]
    exact ⟨_, rfl, by simp only; omega, by simp [copied]⟩
  · exact .inr ⟨by simp [doPoll, empty], by simp [doRead, empty, Nat.not_lt.2 room]⟩

/-- The reader with a power status change polls readable and reads it. -/
theorem statusReader_polls_readable :
    (doPoll statusReader ≠ 0 ∧ ∃ result, doRead pcConfig statusReader 2 2 true false = some result ∧
        0 < result.ret ∧ result.copied ≠ []) ∨
      (doPoll statusReader = 0 ∧
        doRead pcConfig statusReader 2 2 true false = some ⟨-pcConfig.errno.eagain, [], statusReader⟩) :=
  doPoll_agrees_with_doRead pcConfig statusReader (by decide) (by decide) (by decide) false

/-! ## The ring is a queue of capacity `APM_MAX_EVENTS - 1` -/

/-- Every client's ring is a drop-oldest queue of capacity `APM_MAX_EVENTS - 1`: over any
sequence of pushes and pops it gives what the queue gives; `queue_empty` tests for the
empty queue and `get_queued_event` takes its oldest event; the ring part of
`queue_event` keeps the newest `APM_MAX_EVENTS - 1` events and drops one exactly when
it already holds that many; `queue_event` pushes onto the queue of every reader but the
sender and raises `notified` once for each drop; and `do_read` copies the oldest
events, in order. -/
theorem eventRing_refines_dropOldestFifo :
    (∀ (q : EventQueue) (ops : List RingOp),
      runOps DropOldestFifo.step q.fifo ops =
        ((runOps EventQueue.step q ops).1.fifo, (runOps EventQueue.step q ops).2)) ∧
    (∀ q : EventQueue, (queueEmpty q = true ↔ q.fifo.items = []) ∧
      (queueEmpty q = false →
        q.fifo.pop = some ((getQueuedEvent q).1, (getQueuedEvent q).2.fifo))) ∧
    (∀ (q : EventQueue) (event : ApmEvent),
      (q.push event).1.toList =
          (q.toList ++ [event]).drop (q.toList.length + 1 - (apmMaxEvents - 1)) ∧
        (q.push event).2 = decide (apmMaxEvents - 1 ≤ q.toList.length)) ∧
    (∀ (s : ApmState) (event : ApmEvent) (sender : Option Nat),
      (queueEvent s event sender).users.map (·.queue.fifo) =
          s.users.map (fun as =>
            if receives sender as then (as.queue.fifo.push event).1 else as.queue.fifo) ∧
        (queueEvent s event sender).notified =
          s.notified + s.users.countP fun as =>
            receives sender as && decide (apmMaxEvents - 1 ≤ as.queue.toList.length)) ∧
    (∀ (config : ApmConfig) (as : ApmUser) (count writable : Nat) (nonblock signal : Bool)
      (result : ReadResult), doRead config as count writable nonblock signal = some result →
        List.IsPrefix result.copied as.queue.toList) :=
  ⟨EventQueue.fifo_run,
    fun q => ⟨EventQueue.queueEmpty_iff q, fun nonempty =>
      DropOldestFifo.pop_of_cons (EventQueue.getQueuedEvent_toList q nonempty)⟩,
    fun q event => ⟨EventQueue.push_toList q event, EventQueue.push_dropped q event⟩,
    fun s event sender => ⟨queueEvent_fifos s event sender, queueEvent_notified s event sender⟩,
    fun _ _ _ _ _ _ _ read => doRead_copied_prefix read⟩

/-- A reader that never reads, and a BIOS that reports `count` power status changes. -/
def statusChanges (count : Nat) : List ApmAction :=
  .openDevice false false true false 0 (fun _ => .lowBattery) ::
    List.replicate count (.biosEvent .powerStatusChange 0)

/-- The ring of a client that never reads drops an event at the 20th `queue_event`,
when it holds 19 events. -/
theorem eventRing_drops_at_nineteen_events :
    (apmRun (ApmState.boot PmState.empty pcConfig) (statusChanges 19)).map
        (fun s => (s.notified, s.users.map (·.queue.toList.length))) = some (0, [19]) ∧
      (apmRun (ApmState.boot PmState.empty pcConfig) (statusChanges 20)).map
        (fun s => (s.notified, s.users.map (·.queue.toList.length))) = some (1, [19]) := by
  decide

/-! ## A faulting read loses an event -/

/-- A privileged reader that holds a BIOS suspend request on its ring. -/
def suspendQueued : ApmState :=
  checkEvent (doOpen (ApmState.boot PmState.empty pcConfig) true true true false 0
    fun _ => .lowBattery) .sysSuspend 0

/-- The reader reads into a buffer that faults at once: `do_read` returns `-EFAULT`, and
the request is off the ring, not copied and not counted as read, while still pending. -/
theorem faulting_read_drops_suspend_request :
    suspendQueued.users.map (fun as => (as.queue.toList, as.suspendsPending)) =
        [([.sysSuspend], 1)] ∧
      suspendQueued.users.map (fun as =>
          (doRead pcConfig as 2 0 false false).map fun result =>
            (result.ret, result.copied, result.user.queue.toList, result.user.suspendsRead)) =
        [some (-14, [], [], 0)] ∧
      suspendQueued.users.map (fun as =>
          (doRead pcConfig as 2 0 false false).map (·.user.suspendsPending)) = [some 1] := by
  decide

end Apm
end PowerManagement
