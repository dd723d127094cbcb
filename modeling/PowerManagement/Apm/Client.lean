import PowerManagement.Apm.State

/-!
# The client side of the APM device

`queue_event`, which delivers an event to every reader but the sender and counts the
requests of privileged clients, `do_open`, and `do_read` with its copy loop.  The user
buffer of a read is described by how many of its bytes can be written: a copy that
reaches past them faults.  `do_read` blocks in `wait_event_interruptible` on an empty
ring; it then has no result here, and the read is the step that finds the ring not
empty or a signal pending.
-/

namespace PowerManagement
namespace Apm

/-! ## `queue_event` -/

/-- `queue_event` delivers to a reader that is not the sender. -/
def receives (sender : Option Nat) (as : ApmUser) : Bool :=
  sender != some as.id && as.reader

/-- The body of `queue_event`'s loop for one client. -/
def deliver (event : ApmEvent) (sender : Option Nat) (as : ApmUser) : ApmUser :=
  if receives sender as then
    let pushed := as.withQueue (as.queue.push event).1
    if as.privileged then pushed.countRequest event else pushed
  else as

/-- A client whose pending count of a kind `queue_event` raises. -/
def counts (event : ApmEvent) (sender : Option Nat) (kind : RequestKind) (as : ApmUser) : Bool :=
  receives sender as && as.privileged && event.requestKind == some kind

/-- A client whose ring `queue_event` makes overflow. -/
def overflows (event : ApmEvent) (sender : Option Nat) (as : ApmUser) : Bool :=
  receives sender as && (as.queue.push event).2

/-- `queue_event(event, sender)`: the loop over `user_list`; the global counters rise
once for each client whose own counter rises, and `notified` once for each ring that
overflows. -/
def queueEvent (s : ApmState) (event : ApmEvent) (sender : Option Nat) : ApmState :=
  { s with
    users := s.users.map (deliver event sender)
    suspendsPending := s.suspendsPending + s.users.countP (counts event sender .suspend)
    standbysPending := s.standbysPending + s.users.countP (counts event sender .standby)
    notified := s.notified + s.users.countP (overflows event sender) }

section deliver

variable (event : ApmEvent) (sender : Option Nat) (as : ApmUser)

@[simp] theorem deliver_id : (deliver event sender as).id = as.id := by
  unfold deliver; split_ifs <;> rfl

@[simp] theorem deliver_privileged : (deliver event sender as).privileged = as.privileged := by
  unfold deliver; split_ifs <;> rfl

@[simp] theorem deliver_suspendWait : (deliver event sender as).suspendWait = as.suspendWait := by
  unfold deliver; split_ifs <;> rfl

@[simp] theorem deliver_read (kind : RequestKind) :
    (deliver event sender as).read kind = as.read kind := by
  unfold deliver; split_ifs <;> cases kind <;> rfl

@[simp] theorem deliver_queue :
    (deliver event sender as).queue =
      if receives sender as then (as.queue.push event).1 else as.queue := by
  unfold deliver; split_ifs <;> rfl

@[simp] theorem deliver_pending (kind : RequestKind) :
    (deliver event sender as).pending kind =
      as.pending kind + if counts event sender kind as then 1 else 0 := by
  unfold deliver counts
  by_cases receiving : receives sender as <;> by_cases privileged : as.privileged <;>
    simp [receiving, privileged, ApmUser.requestCount]

end deliver

section queueEvent

variable (s : ApmState) (event : ApmEvent) (sender : Option Nat)

@[simp] theorem queueEvent_users :
    (queueEvent s event sender).users = s.users.map (deliver event sender) := rfl

@[simp] theorem queueEvent_suspendsPending :
    (queueEvent s event sender).suspendsPending =
      s.suspendsPending + s.users.countP (counts event sender .suspend) := rfl

@[simp] theorem queueEvent_standbysPending :
    (queueEvent s event sender).standbysPending =
      s.standbysPending + s.users.countP (counts event sender .standby) := rfl

@[simp] theorem queueEvent_threads : (queueEvent s event sender).threads = s.threads := rfl

@[simp] theorem queueEvent_trace : (queueEvent s event sender).trace = s.trace := rfl

@[simp] theorem queueEvent_nextUser : (queueEvent s event sender).nextUser = s.nextUser := rfl

@[simp] theorem queueEvent_config : (queueEvent s event sender).config = s.config := rfl

end queueEvent

/-! ## `do_open` -/

/-- `do_open`: a new client at the head of `user_list`, with its counters at zero and an
empty ring.  `suspend_wait`, `suspend_result` and the slots of the ring are not set:
they hold what `kmalloc` left.  A failed `kmalloc` returns `-ENOMEM` and changes
nothing. -/
def doOpen (s : ApmState) (suser writer reader suspendWait : Bool) (suspendResult : Int)
    (events : Fin apmMaxEvents → ApmEvent) : ApmState :=
  { s with
    users := ⟨s.nextUser, suser, writer, reader, suspendWait, suspendResult, 0, 0, 0, 0,
      EventQueue.empty events⟩ :: s.users
    nextUser := s.nextUser + 1 }

/-! ## `do_read` -/

/-- What the copy loop of `do_read` leaves. -/
structure ReadLoop where
  /-- The loop returned `-EFAULT`. -/
  faulted : Bool
  /-- The bytes of the buffer not written, `i`. -/
  left : Nat
  /-- The events copied to the buffer, in order. -/
  copied : List ApmEvent
  user : ApmUser

/-- The copy loop of `do_read` from `i = left`, for at most `fuel` iterations.  Each
iteration takes an event off the ring before it copies it; the copy faults when it
reaches past the `writable` bytes of the buffer. -/
def readLoop (eventSize count writable : Nat) :
    (fuel left : Nat) → List ApmEvent → ApmUser → ReadLoop
  | 0, left, copied, as => ⟨false, left, copied, as⟩
  | fuel + 1, left, copied, as =>
      if eventSize ≤ left ∧ queueEmpty as.queue = false then
        let got := getQueuedEvent as.queue
        let taken := as.withQueue got.2
        if writable < count - left + eventSize then
          if left < count then ⟨false, left, copied, taken⟩ else ⟨true, left, copied, taken⟩
        else
          readLoop eventSize count writable fuel (left - eventSize) (copied ++ [got.1])
            (taken.countRead got.1)
      else ⟨false, left, copied, as⟩

/-- What `do_read` returns, the events it copied, and the client afterwards. -/
structure ReadResult where
  ret : Int
  copied : List ApmEvent
  user : ApmUser

/-- `do_read(count)` of a client into a buffer of which `writable` bytes can be written;
`none` while it is blocked in `wait_event_interruptible`.  The loop runs from
`i = count`, with as much fuel as the ring holds events. -/
def doRead (config : ApmConfig) (as : ApmUser) (count writable : Nat) (nonblock signal : Bool) :
    Option ReadResult :=
  if count < config.eventSize then some ⟨-config.errno.einval, [], as⟩
  else if queueEmpty as.queue && nonblock then some ⟨-config.errno.eagain, [], as⟩
  else if queueEmpty as.queue && !signal then none
  else
    let loop := readLoop config.eventSize count writable as.queue.occupied count [] as
    if loop.faulted then some ⟨-config.errno.efault, loop.copied, loop.user⟩
    else if loop.left < count then some ⟨count - loop.left, loop.copied, loop.user⟩
    else if signal then some ⟨-config.errno.erestartsys, loop.copied, loop.user⟩
    else some ⟨0, loop.copied, loop.user⟩

theorem getQueuedEvent_occupied (q : EventQueue) (nonempty : queueEmpty q = false) :
    (getQueuedEvent q).2.occupied + 1 = q.occupied := by
  have lengths := congrArg List.length (EventQueue.getQueuedEvent_toList q nonempty)
  simpa [EventQueue.toList_length] using lengths.symm

theorem queueEmpty_of_occupied (q : EventQueue) (none : q.occupied = 0) : queueEmpty q = true := by
  rw [EventQueue.queueEmpty_iff, ← List.length_eq_zero, EventQueue.toList_length, none]

section readLoop

variable {eventSize count writable fuel left : Nat} {copied : List ApmEvent} {as : ApmUser}

/-- The loop stops on a ring that is empty or a buffer with less than an event left. -/
theorem readLoop_stop (go : ¬(eventSize ≤ left ∧ queueEmpty as.queue = false)) :
    readLoop eventSize count writable (fuel + 1) left copied as =
      ⟨false, left, copied, as⟩ := by
  simp only [readLoop, if_neg go]

/-- A faulting copy ends the loop with the event taken off the ring and not copied. -/
theorem readLoop_fault (go : eventSize ≤ left ∧ queueEmpty as.queue = false)
    (faults : writable < count - left + eventSize) :
    (readLoop eventSize count writable (fuel + 1) left copied as).copied = copied ∧
      (readLoop eventSize count writable (fuel + 1) left copied as).user =
        as.withQueue (getQueuedEvent as.queue).2 := by
  simp only [readLoop, if_pos go, if_pos faults]
  split <;> exact ⟨rfl, rfl⟩

/-- A copy that succeeds counts the event and goes round again. -/
theorem readLoop_copy (go : eventSize ≤ left ∧ queueEmpty as.queue = false)
    (fits : ¬writable < count - left + eventSize) :
    readLoop eventSize count writable (fuel + 1) left copied as =
      readLoop eventSize count writable fuel (left - eventSize)
        (copied ++ [(getQueuedEvent as.queue).1])
        ((as.withQueue (getQueuedEvent as.queue).2).countRead (getQueuedEvent as.queue).1) := by
  simp only [readLoop, if_pos go, if_neg fits]

end readLoop

/-- The fuel of the copy loop never cuts it short: with at least as much fuel as the
ring holds events, the loop ends the same. -/
theorem readLoop_fuel (eventSize count writable : Nat) :
    ∀ (fuel other left : Nat) (copied : List ApmEvent) (as : ApmUser),
      as.queue.occupied ≤ fuel → as.queue.occupied ≤ other →
      readLoop eventSize count writable fuel left copied as =
        readLoop eventSize count writable other left copied as
  | 0, 0, _, _, _, _, _ => rfl
  | 0, other + 1, left, copied, as, enough, _ => by
      have empty := queueEmpty_of_occupied as.queue (by omega)
      rw [readLoop_stop (by simp [empty])]; rfl
  | fuel + 1, 0, left, copied, as, _, enough => by
      have empty := queueEmpty_of_occupied as.queue (by omega)
      rw [readLoop_stop (by simp [empty])]; rfl
  | fuel + 1, other + 1, left, copied, as, enough, enoughOther => by
      by_cases go : eventSize ≤ left ∧ queueEmpty as.queue = false
      · by_cases fits : writable < count - left + eventSize
        · simp only [readLoop, if_pos go, if_pos fits]
        · have popped := getQueuedEvent_occupied as.queue go.2
          rw [readLoop_copy go fits, readLoop_copy go fits]
          exact readLoop_fuel eventSize count writable fuel other _ _ _ (by simp; omega)
            (by simp; omega)
      · rw [readLoop_stop go, readLoop_stop go]

theorem countReads_withQueue (as : ApmUser) (queue : EventQueue) (events : List ApmEvent) :
    (as.withQueue queue).countReads events = (as.countReads events).withQueue queue := by
  induction events generalizing as with
  | nil => rfl
  | cons event events ih => exact ih (as.countRead event)

/-- The copy loop takes events off the front of the ring: those it copies, and at most
one more, the event whose copy faulted.  It counts the requests among the events it
copied and changes nothing else of the client. -/
theorem readLoop_spec (eventSize count writable : Nat) :
    ∀ (fuel left : Nat) (copied : List ApmEvent) (as : ApmUser),
      ∃ (fresh lost : List ApmEvent) (queue : EventQueue),
        (readLoop eventSize count writable fuel left copied as).copied = copied ++ fresh ∧
        (readLoop eventSize count writable fuel left copied as).user =
          (as.countReads fresh).withQueue queue ∧
        as.queue.toList = fresh ++ lost ++ queue.toList ∧ lost.length ≤ 1
  | 0, left, copied, as => ⟨[], [], as.queue, by simp [readLoop], rfl, by simp, by simp⟩
  | fuel + 1, left, copied, as => by
      by_cases go : eventSize ≤ left ∧ queueEmpty as.queue = false
      · have popped := EventQueue.getQueuedEvent_toList as.queue go.2
        by_cases fits : writable < count - left + eventSize
        · obtain ⟨sameCopied, sameUser⟩ :=
            @readLoop_fault eventSize count writable fuel left copied as go fits
          exact ⟨[], [(getQueuedEvent as.queue).1], (getQueuedEvent as.queue).2,
            by simp [sameCopied],
            sameUser, by simpa using popped, by simp⟩
        · obtain ⟨fresh, lost, queue, sameCopied, sameUser, sameQueue, fewLost⟩ :=
            readLoop_spec eventSize count writable fuel (left - eventSize)
              (copied ++ [(getQueuedEvent as.queue).1])
              ((as.withQueue (getQueuedEvent as.queue).2).countRead (getQueuedEvent as.queue).1)
          rw [readLoop_copy go fits]
          refine ⟨(getQueuedEvent as.queue).1 :: fresh, lost, queue, by simp [sameCopied], ?_, ?_,
            fewLost⟩
          · rw [sameUser]
            exact congrArg (·.withQueue queue) (countReads_withQueue (as.countRead _) _ fresh)
          · rw [popped]; simpa using sameQueue
      · rw [readLoop_stop go]
        exact ⟨[], [], as.queue, by simp, rfl, by simp, by simp⟩

/-- A read either leaves the client as it was with nothing copied, or returns what its
copy loop leaves. -/
theorem doRead_shape (config : ApmConfig) (as : ApmUser) (count writable : Nat)
    (nonblock signal : Bool) (result : ReadResult)
    (read : doRead config as count writable nonblock signal = some result) :
    (result.copied = [] ∧ result.user = as) ∨
      (result.copied =
          (readLoop config.eventSize count writable as.queue.occupied count [] as).copied ∧
        result.user =
          (readLoop config.eventSize count writable as.queue.occupied count [] as).user) := by
  unfold doRead at read
  generalize readLoop config.eventSize count writable as.queue.occupied count [] as = loop
    at read ⊢
  by_cases short : count < config.eventSize
  · rw [if_pos short] at read
    cases read
    exact .inl ⟨rfl, rfl⟩
  rw [if_neg short] at read
  by_cases idle : (queueEmpty as.queue && nonblock) = true
  · rw [if_pos idle] at read
    cases read
    exact .inl ⟨rfl, rfl⟩
  rw [if_neg idle] at read
  by_cases blocked : (queueEmpty as.queue && !signal) = true
  · rw [if_pos blocked] at read
    cases read
  rw [if_neg blocked] at read
  dsimp only at read
  split_ifs at read <;> cases read <;> exact .inr ⟨rfl, rfl⟩

/-- Every read takes events off the front of the ring: those it copies to the buffer,
in ring order, and at most one more; it counts the requests it copied and changes
nothing else of the client. -/
theorem doRead_spec (config : ApmConfig) (as : ApmUser) (count writable : Nat)
    (nonblock signal : Bool) (result : ReadResult)
    (read : doRead config as count writable nonblock signal = some result) :
    ∃ (lost : List ApmEvent) (queue : EventQueue),
      result.user = (as.countReads result.copied).withQueue queue ∧
        as.queue.toList = result.copied ++ lost ++ queue.toList ∧ lost.length ≤ 1 := by
  obtain ⟨fresh, lost, queue, sameCopied, sameUser, sameQueue, fewLost⟩ :=
    readLoop_spec config.eventSize count writable as.queue.occupied count [] as
  rw [List.nil_append] at sameCopied
  rcases doRead_shape config as count writable nonblock signal result read with
    ⟨copied, user⟩ | ⟨copied, user⟩
  · exact ⟨[], as.queue, by rw [user, copied]; rfl, by simp [copied], by simp⟩
  · exact ⟨lost, queue, by rw [user, sameUser, copied, sameCopied],
      by rw [copied, sameCopied, sameQueue], fewLost⟩

end Apm
end PowerManagement
