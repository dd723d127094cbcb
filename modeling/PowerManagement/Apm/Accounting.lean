import PowerManagement.Apm.System
import Mathlib.Algebra.Order.BigOperators.Group.List
import Mathlib.Data.List.Nodup

/-!
# What the request counters keep

A client opened with `CAP_SYS_ADMIN` for writing has at least as many requests pending
as it has read and still has queued: each request delivered to it is counted once, and
one it reads is counted read, but a request can leave the ring unread.  The global
counters cover the clients that are not being released, since `do_release` takes a
client's counts off before `suspend(1)` may block it while `queue_event` still counts for
the client.  `Counted excluded` states this with the clients in `excluded` left out of
the global sum; each operation keeps it for a fixed exclusion, and a step moves the
exclusion to the clients released in the new state.
-/

namespace PowerManagement
namespace Apm

open Pm

/-! ## Sums over the clients -/

/-- The requests of a kind held by the clients that are not `excluded`. -/
def heldBy (excluded : Nat → Bool) (users : List ApmUser) (kind : RequestKind) : Int :=
  (users.map fun as => if excluded as.id then 0 else as.pending kind).sum

theorem sum_map_indicator {α : Type} (l : List α) (p : α → Bool) :
    (l.map fun a => if p a then (1 : Int) else 0).sum = l.countP p := by
  induction l with
  | nil => rfl
  | cons a l ih =>
      simp only [List.map_cons, List.sum_cons, ih, List.countP_cons]
      split <;> simp [Int.add_comm]

/-- A sum over clients with distinct addresses changes, when the summand changes at one
client only, by the change there. -/
theorem sum_map_of_agree (users : List ApmUser) {as : ApmUser} (mem : as ∈ users)
    (nodup : (users.map (·.id)).Nodup) (f g : ApmUser → Int)
    (agree : ∀ other ∈ users, other.id ≠ as.id → f other = g other) :
    (users.map f).sum = (users.map g).sum - g as + f as := by
  obtain ⟨pre, post, rfl⟩ := List.append_of_mem mem
  have fresh : as.id ∉ (pre ++ post).map (·.id) := by
    simp only [List.map_append, List.map_cons] at nodup ⊢
    exact (List.nodup_cons.mp (List.nodup_middle.mp nodup)).1
  have agreeOn : ∀ part : List ApmUser, (∀ other ∈ part, other ∈ pre ++ as :: post) →
      (∀ other ∈ part, other.id ≠ as.id) → part.map f = part.map g :=
    fun part inside apart => List.map_congr_left fun other mem =>
      agree other (inside other mem) (apart other mem)
  have outside : ∀ other ∈ pre ++ post, other.id ≠ as.id := fun other mem same =>
    fresh (same ▸ List.mem_map_of_mem (·.id) mem)
  simp only [List.map_append, List.map_cons, List.sum_append, List.sum_cons]
  rw [agreeOn pre (by simp +contextual) (fun other mem => outside other (by simp [mem])),
    agreeOn post (by simp +contextual) (fun other mem => outside other (by simp [mem]))]
  omega

/-! ## The counters of one client -/

/-- What a client's counters keep: its read counts are never negative; a privileged
client has at least as many requests pending as it has read and still has queued; an
unprivileged one has none pending. -/
structure ApmUser.Accounted (as : ApmUser) : Prop where
  read_nonneg : ∀ kind, 0 ≤ as.read kind
  covers : as.privileged = true → ∀ kind, as.read kind + as.queued kind ≤ as.pending kind
  unprivileged : as.privileged = false → ∀ kind, as.pending kind = 0

theorem EventQueue.countP_push_le (q : EventQueue) (event : ApmEvent) (p : ApmEvent → Bool) :
    (q.push event).1.toList.countP p ≤ q.toList.countP p + if p event then 1 else 0 := by
  rcases Nat.lt_or_ge q.occupied (apmMaxEvents - 1) with room | full
  · rw [(q.push_of_room event room).2, List.countP_append]
    simp [List.countP_cons]
  · have full : q.occupied = apmMaxEvents - 1 := by have := q.occupied_lt; omega
    rw [(q.push_of_full event full).2]
    calc _ ≤ (q.toList ++ [event]).countP p := List.countP_tail_le p _
      _ = _ := by simp [List.countP_append, List.countP_cons]

namespace ApmUser.Accounted

variable {as : ApmUser}

/-- A client whose counters, ring and privilege are another's is accounted as that one. -/
theorem of_same (accounted : as.Accounted) {other : ApmUser}
    (read : ∀ kind, other.read kind = as.read kind)
    (pending : ∀ kind, other.pending kind = as.pending kind)
    (queue : other.queue = as.queue) (privileged : other.privileged = as.privileged) :
    other.Accounted where
  read_nonneg kind := read kind ▸ accounted.read_nonneg kind
  covers isPrivileged kind := by
    have := accounted.covers (privileged ▸ isPrivileged) kind
    simpa [queued, read, pending, queue] using this
  unprivileged unprivileged kind := (pending kind).trans (accounted.unprivileged (privileged ▸ unprivileged) kind)

theorem pending_nonneg (accounted : as.Accounted) (kind : RequestKind) : 0 ≤ as.pending kind := by
  cases privileged : as.privileged
  · rw [accounted.unprivileged privileged]
  · have := accounted.covers privileged kind
    have := accounted.read_nonneg kind
    omega

/-- `queue_event` counts a request for a privileged client exactly when its ring takes
it, and the ring drops at most what it takes. -/
theorem deliver (accounted : as.Accounted) (event : ApmEvent) (sender : Option Nat) :
    (deliver event sender as).Accounted where
  read_nonneg kind := by rw [deliver_read]; exact accounted.read_nonneg kind
  covers privileged kind := by
    rw [deliver_privileged] at privileged
    have covered := accounted.covers privileged kind
    have pushed := EventQueue.countP_push_le as.queue event (·.requestKind == some kind)
    simp only [deliver_read, deliver_pending, queued, deliver_queue, counts, privileged,
      Bool.and_true] at covered pushed ⊢
    by_cases receiving : receives sender as
    · simp only [receiving, if_true, Bool.true_and] at pushed ⊢
      split_ifs at pushed ⊢ <;> omega
    · simp only [receiving, Bool.false_eq_true, if_false, Bool.false_and] at pushed ⊢
      omega
  unprivileged unprivileged kind := by
    rw [deliver_privileged] at unprivileged
    simp [deliver_pending, counts, unprivileged, accounted.unprivileged unprivileged kind]

/-- A read leaves the client accounted: what it counts read it took off the ring. -/
theorem read (accounted : as.Accounted) {copied lost : List ApmEvent} {queue : EventQueue}
    (taken : as.queue.toList = copied ++ lost ++ queue.toList) :
    ((as.countReads copied).withQueue queue).Accounted where
  read_nonneg kind := by
    have := accounted.read_nonneg kind
    simp only [read_withQueue, read_countReads]
    omega
  covers privileged kind := by
    simp only [withQueue_privileged, countReads_privileged] at privileged
    have covered := accounted.covers privileged kind
    have parts := congrArg (List.countP (·.requestKind == some kind)) taken
    simp only [List.countP_append] at parts
    simp only [queued, read_withQueue, read_countReads, pending_withQueue, pending_countReads,
      withQueue_queue] at covered ⊢
    omega
  unprivileged unprivileged kind := by
    simp only [withQueue_privileged, countReads_privileged] at unprivileged
    simp [accounted.unprivileged unprivileged kind]

/-- An acknowledged request comes off the read and the pending count together. -/
theorem acknowledge (accounted : as.Accounted) (privileged : as.privileged = true)
    {kind : RequestKind} (wasRead : 0 < as.read kind) :
    ((as.addRead kind (-1)).addPending kind (-1)).Accounted where
  read_nonneg other := by
    have := accounted.read_nonneg other
    simp only [read_addPending, read_addRead]
    split_ifs with same
    · subst same; omega
    · omega
  covers _ other := by
    have := accounted.covers privileged other
    simp only [queued, read_addPending, read_addRead, pending_addPending, pending_addRead, addPending_queue,
      addRead_queue] at this ⊢
    split_ifs <;> omega
  unprivileged unprivileged := by
    simp [privileged] at unprivileged

end ApmUser.Accounted

/-- A new client: nothing read, nothing pending, an empty ring. -/
theorem ApmUser.accounted_new (id : Nat) (suser writer reader suspendWait : Bool)
    (suspendResult : Int) (events : Fin apmMaxEvents → ApmEvent) :
    (⟨id, suser, writer, reader, suspendWait, suspendResult, 0, 0, 0, 0, EventQueue.empty events⟩ :
      ApmUser).Accounted where
  read_nonneg kind := by cases kind <;> simp [ApmUser.read]
  covers _ kind := by cases kind <;> simp [ApmUser.read, ApmUser.pending, ApmUser.queued]
  unprivileged _ kind := by cases kind <;> rfl

/-! ## The invariant -/

/-- The counter invariant with the clients in `excluded` left out of the global sums:
distinct addresses below the next one, every client accounted, and the global counters
at least what the other clients hold. -/
structure Counted (excluded : Nat → Bool) (s : ApmState) : Prop where
  ids_nodup : (s.users.map (·.id)).Nodup
  ids_lt : ∀ as ∈ s.users, as.id < s.nextUser
  accounted : ∀ as ∈ s.users, as.Accounted
  held_le : ∀ kind, heldBy excluded s.users kind ≤ s.pending kind

/-- The invariant of the driver's counters: the global counters cover the clients that
are not being released. -/
def CounterInv (s : ApmState) : Prop :=
  Counted s.releasing s

theorem heldBy_deliver_le (excluded : Nat → Bool) (users : List ApmUser) (event : ApmEvent)
    (sender : Option Nat) (kind : RequestKind) :
    heldBy excluded (users.map (deliver event sender)) kind ≤
      heldBy excluded users kind + users.countP (counts event sender kind) := by
  unfold heldBy
  rw [List.map_map, ← sum_map_indicator, ← List.sum_map_add]
  exact List.sum_le_sum fun as _ => by
    simp only [Function.comp_apply, deliver_id, deliver_pending]
    split_ifs <;> omega

theorem heldBy_sublist_le {users users' : List ApmUser} (sub : users'.Sublist users)
    (accounted : ∀ as ∈ users, as.Accounted) (excluded : Nat → Bool) (kind : RequestKind) :
    heldBy excluded users' kind ≤ heldBy excluded users kind :=
  List.Sublist.sum_le_sum (sub.map _) fun _ inMap => by
    obtain ⟨as, mem, rfl⟩ := List.mem_map.1 inMap
    have := (accounted as mem).pending_nonneg kind
    split_ifs <;> omega

/-- Leaving one more client out of the sum takes its count off. -/
theorem heldBy_exclude_one {users : List ApmUser} {as : ApmUser} (mem : as ∈ users)
    (nodup : (users.map (·.id)).Nodup) {excluded : Nat → Bool} (free : excluded as.id = false)
    (kind : RequestKind) :
    heldBy (fun client => excluded client || client == as.id) users kind =
      heldBy excluded users kind - as.pending kind := by
  unfold heldBy
  rw [sum_map_of_agree users mem nodup
    (fun other => if excluded other.id || other.id == as.id then 0 else other.pending kind)
    (fun other => if excluded other.id then 0 else other.pending kind)
    fun other _ apart => by simp [apart]]
  simp [free]

namespace Counted

variable {excluded : Nat → Bool} {s t : ApmState}

theorem frame (counted : Counted excluded s) (users : t.users = s.users)
    (next : t.nextUser = s.nextUser) (suspends : s.suspendsPending ≤ t.suspendsPending)
    (standbys : s.standbysPending ≤ t.standbysPending) : Counted excluded t where
  ids_nodup := users ▸ counted.ids_nodup
  ids_lt := users ▸ next ▸ counted.ids_lt
  accounted := users ▸ counted.accounted
  held_le kind := by
    have := counted.held_le kind
    rw [users]
    cases kind <;> simp only [ApmState.pending_suspend, ApmState.pending_standby] at this ⊢ <;>
      omega

/-- Leaving out more clients keeps the invariant. -/
theorem exclude (counted : Counted excluded s) {other : Nat → Bool}
    (more : ∀ as ∈ s.users, excluded as.id = true → other as.id = true) : Counted other s where
  ids_nodup := counted.ids_nodup
  ids_lt := counted.ids_lt
  accounted := counted.accounted
  held_le kind := le_trans (List.sum_le_sum fun as mem => by
      have := (counted.accounted as mem).pending_nonneg kind
      have := more as mem
      split_ifs <;> simp_all) (counted.held_le kind)

theorem queueEvent (counted : Counted excluded s) (event : ApmEvent) (sender : Option Nat) :
    Counted excluded (queueEvent s event sender) where
  ids_nodup := by simpa [List.map_map, Function.comp_def] using counted.ids_nodup
  ids_lt := by simpa using counted.ids_lt
  accounted := by
    simp only [queueEvent_users, List.mem_map]
    rintro _ ⟨as, mem, rfl⟩
    exact (counted.accounted as mem).deliver event sender
  held_le kind := by
    have held := counted.held_le kind
    have delivered := heldBy_deliver_le excluded s.users event sender kind
    cases kind <;>
      simp only [queueEvent_users, ApmState.pending_suspend, ApmState.pending_standby,
        queueEvent_suspendsPending, queueEvent_standbysPending] at held ⊢ <;> omega

/-- A change to one client that the exclusion does not cover keeps the invariant when
the global counters change with its pending counts. -/
theorem update (counted : Counted excluded s) {as : ApmUser} (mem : as ∈ s.users)
    (free : excluded as.id = false) {change : ApmUser → ApmUser}
    (sameId : (change as).id = as.id) (accounted : (change as).Accounted)
    (users : t.users = (s.updateUser as.id change).users) (next : t.nextUser = s.nextUser)
    (pending : ∀ kind, s.pending kind + ((change as).pending kind - as.pending kind) ≤ t.pending kind) :
    Counted excluded t := by
  have unique : ∀ other ∈ s.users, other.id = as.id → other = as := fun other mem' same =>
    List.inj_on_of_nodup_map counted.ids_nodup mem' mem same
  have replaced : t.users = s.users.map fun other => if other.id = as.id then change as else other := by
    rw [users]
    exact List.map_congr_left fun other mem' => by
      by_cases same : other.id = as.id <;> simp [same, unique other mem']
  have ids : t.users.map (·.id) = s.users.map (·.id) := by
    rw [replaced, List.map_map]
    exact List.map_congr_left fun other _ => by
      by_cases same : other.id = as.id <;> simp [same, sameId]
  refine ⟨ids ▸ counted.ids_nodup, fun other mem' => ?_, fun other mem' => ?_, fun kind => ?_⟩
  · have inIds : other.id ∈ t.users.map (·.id) := List.mem_map_of_mem _ mem'
    rw [ids, List.mem_map] at inIds
    obtain ⟨before, mem'', same⟩ := inIds
    rw [next, ← same]
    exact counted.ids_lt before mem''
  · rw [replaced] at mem'
    obtain ⟨before, mem'', rfl⟩ := List.mem_map.1 mem'
    split_ifs
    · exact accounted
    · exact counted.accounted before mem''
  · have held := counted.held_le kind
    have shifted := pending kind
    unfold heldBy at held ⊢
    rw [replaced, List.map_map, sum_map_of_agree s.users mem counted.ids_nodup
      ((fun other => if excluded other.id then 0 else other.pending kind) ∘
        fun other => if other.id = as.id then change as else other)
      (fun other => if excluded other.id then 0 else other.pending kind)
      fun other _ apart => by simp [apart]]
    simp only [Function.comp_apply, if_pos, sameId, free, Bool.false_eq_true, if_false] at held ⊢
    omega

/-- Removing clients keeps the invariant. -/
theorem sublist (counted : Counted excluded s) (users : t.users.Sublist s.users)
    (next : t.nextUser = s.nextUser) (suspends : s.suspendsPending ≤ t.suspendsPending)
    (standbys : s.standbysPending ≤ t.standbysPending) : Counted excluded t where
  ids_nodup := counted.ids_nodup.sublist (users.map _)
  ids_lt as mem := next ▸ counted.ids_lt as (users.subset mem)
  accounted as mem := counted.accounted as (users.subset mem)
  held_le kind := by
    have := counted.held_le kind
    have := heldBy_sublist_le users counted.accounted excluded kind
    cases kind <;> simp only [ApmState.pending_suspend, ApmState.pending_standby] at * <;> omega

theorem log (counted : Counted excluded s) (calls : List ApmCall) :
    Counted excluded (s.log calls) :=
  counted.frame rfl rfl le_rfl le_rfl

theorem block (counted : Counted excluded s) (thread : ApmThread) :
    Counted excluded (s.block thread) :=
  counted.frame rfl rfl le_rfl le_rfl

theorem reject (counted : Counted excluded s) : Counted excluded (reject s) := by
  unfold Apm.reject
  split_ifs
  exacts [counted.log _, counted]

theorem broadcast (counted : Counted excluded s) (cb : PmCallbacks) (rqst : PmRequest)
    (data : Int) : Counted excluded (broadcast s cb rqst data).1 :=
  counted.frame rfl rfl le_rfl le_rfl

theorem doOpen (counted : Counted excluded s) (suser writer reader suspendWait : Bool)
    (suspendResult : Int) (events : Fin apmMaxEvents → ApmEvent) :
    Counted excluded (doOpen s suser writer reader suspendWait suspendResult events) where
  ids_nodup := List.nodup_cons.2 ⟨fun taken => by
      obtain ⟨as, mem, same⟩ := List.mem_map.1 taken
      have := counted.ids_lt as mem
      simp only at same
      omega, counted.ids_nodup⟩
  ids_lt := List.forall_mem_cons.2 ⟨Nat.lt_succ_self _, fun as mem =>
    Nat.lt_succ_of_lt (counted.ids_lt as mem)⟩
  accounted := List.forall_mem_cons.2 ⟨ApmUser.accounted_new _ _ _ _ _ _ _, counted.accounted⟩
  held_le kind := by
    have := counted.held_le kind
    cases kind <;> simpa [Apm.doOpen, heldBy, ApmUser.pending] using this

/-- Changing every client without touching what the invariant reads of it. -/
theorem map (counted : Counted excluded s) {change : ApmUser → ApmUser}
    (users : t.users = s.users.map change) (sameId : ∀ as, (change as).id = as.id)
    (samePending : ∀ as kind, (change as).pending kind = as.pending kind)
    (accounted : ∀ as, as.Accounted → (change as).Accounted) (next : t.nextUser = s.nextUser)
    (suspends : s.suspendsPending ≤ t.suspendsPending)
    (standbys : s.standbysPending ≤ t.standbysPending) : Counted excluded t := by
  have ids : t.users.map (·.id) = s.users.map (·.id) := by
    simp [users, List.map_map, Function.comp_def, sameId]
  refine ⟨ids ▸ counted.ids_nodup, fun as inUsers => ?_, fun as inUsers => ?_, fun kind => ?_⟩
  · rw [users] at inUsers
    obtain ⟨before, mem, rfl⟩ := List.mem_map.1 inUsers
    exact sameId before ▸ next ▸ counted.ids_lt before mem
  · rw [users] at inUsers
    obtain ⟨before, mem, rfl⟩ := List.mem_map.1 inUsers
    exact accounted before (counted.accounted before mem)
  · have held := counted.held_le kind
    have same : heldBy excluded t.users kind = heldBy excluded s.users kind := by
      simp [heldBy, users, List.map_map, Function.comp_def, sameId, samePending]
    cases kind <;> simp only [ApmState.pending_suspend, ApmState.pending_standby] at held ⊢ <;>
      omega

theorem finishSuspend (counted : Counted excluded s) (err : Int) (caller : SuspendCaller) :
    Counted excluded (finishSuspend s err caller) := by
  have woken : Counted excluded
      { s with
        users := s.users.map fun as => { as with suspendWait := false, suspendResult := err }
        ignoreNormalResume := true } :=
    counted.map rfl (fun _ => rfl) (fun _ kind => by cases kind <;> rfl)
      (fun _ accounted => accounted.of_same (fun kind => by cases kind <;> rfl)
        (fun kind => by cases kind <;> rfl) rfl rfl) rfl le_rfl le_rfl
  cases caller with
  | checkEvents => exact woken
  | ioctl client => exact woken.log _
  | release client => exact woken.sublist (List.filter_sublist _) rfl le_rfl le_rfl

theorem suspendAfterBroadcast (counted : Counted excluded s) (vetoable : Bool)
    (caller : SuspendCaller) (cb : PmCallbacks) (biosOk : Bool) :
    Counted excluded (suspendAfterBroadcast s vetoable caller cb biosOk) := by
  unfold Apm.suspendAfterBroadcast
  have sent := counted.broadcast cb .suspend 3
  generalize Apm.broadcast s cb .suspend 3 = result at sent ⊢
  dsimp only
  split_ifs
  · have vetoed : Counted excluded { Apm.reject result.1 with waitingForResume := false } :=
      sent.reject.frame rfl rfl le_rfl le_rfl
    exact vetoed.finishSuspend _ _
  all_goals exact (sent.log _).block _

theorem suspendAfterResume (counted : Counted excluded s) (err : Int) (caller : SuspendCaller)
    (cb : PmCallbacks) : Counted excluded (suspendAfterResume s err caller cb) := by
  have resumed : Counted excluded
      { Apm.queueEvent (Apm.broadcast s cb .resume 0).1 .normalResume none with
        ignoreNormalResume := true } :=
    ((counted.broadcast cb _ _).queueEvent _ _).frame rfl rfl le_rfl le_rfl
  exact resumed.finishSuspend _ _

theorem resumeAfterBroadcast (counted : Counted excluded s) (event : ApmEvent)
    (cb : PmCallbacks) : Counted excluded (resumeAfterBroadcast s event cb) :=
  ((counted.broadcast cb _ _).queueEvent _ _).frame rfl rfl le_rfl le_rfl

theorem systemSuspend (counted : Counted excluded s) (event : ApmEvent) :
    Counted excluded (systemSuspend s event) := by
  have waiting : Counted excluded { s with waitingForResume := true } :=
    counted.frame rfl rfl le_rfl le_rfl
  have queued := waiting.queueEvent event none
  unfold Apm.systemSuspend
  dsimp only
  split_ifs
  exacts [counted.reject, counted, queued.frame rfl rfl le_rfl le_rfl, queued]

theorem handleEvent (counted : Counted excluded s) (event : ApmEvent) (jiffies : Nat) :
    Counted excluded (handleEvent s event jiffies) := by
  have resumed : Counted excluded
      { s with waitingForResume := false, lastResume := jiffies, ignoreBounce := true } :=
    counted.frame rfl rfl le_rfl le_rfl
  cases event
  case sysStandby | userStandby =>
    simp only [Apm.handleEvent]
    split_ifs
    exacts [(counted.queueEvent _ _).log _, counted.queueEvent _ _]
  case userSuspend =>
    simp only [Apm.handleEvent]
    split_ifs
    exacts [counted.reject, counted.systemSuspend _]
  case sysSuspend => exact counted.systemSuspend _
  case normalResume | criticalResume | standbyResume =>
    simp only [Apm.handleEvent]
    split_ifs
    exacts [(resumed.log _).block _, resumed.frame rfl rfl le_rfl le_rfl]
  case capabilityChange | lowBattery | powerStatusChange => exact counted.queueEvent _ _
  case updateTime => exact counted.log _
  case criticalSuspend => exact (counted.log _).block _
  case oem => exact counted

theorem checkEvent (counted : Counted excluded s) (event : ApmEvent) (jiffies : Nat) :
    Counted excluded (checkEvent s event jiffies) := by
  have noted : Counted excluded (noteEvent s event jiffies) := by
    unfold noteEvent
    dsimp only
    split_ifs <;> exact counted.frame rfl rfl le_rfl le_rfl
  exact noted.handleEvent event jiffies

theorem eventHandler (counted : Counted excluded s) : Counted excluded (eventHandler s) := by
  unfold Apm.eventHandler
  split_ifs <;> exact counted.frame rfl rfl le_rfl le_rfl

/-- A `do_ioctl(APM_IOC_SUSPEND)` that waits sets its client's `suspend_wait`. -/
theorem waitSuspend (counted : Counted excluded s) (client : Nat) :
    Counted excluded (s.updateUser client fun as => { as with suspendWait := true }) :=
  counted.map rfl (fun as => by dsimp only; split_ifs <;> rfl)
    (fun as kind => by dsimp only; split_ifs <;> cases kind <;> rfl)
    (fun as accounted => by
      dsimp only
      split_ifs
      exacts [accounted.of_same (fun kind => by cases kind <;> rfl)
        (fun kind => by cases kind <;> rfl) rfl rfl, accounted])
    rfl le_rfl le_rfl

/-- An acknowledgement of a privileged client the exclusion does not cover. -/
theorem acknowledge (counted : Counted excluded s) {as : ApmUser} (mem : as ∈ s.users)
    (free : excluded as.id = false) (privileged : as.privileged = true) (kind : RequestKind) :
    Counted excluded (acknowledge s kind as) := by
  unfold Apm.acknowledge
  split_ifs with wasRead
  · refine counted.update mem free (by simp)
      ((counted.accounted as mem).acknowledge privileged wasRead) rfl rfl fun other => ?_
    have unchanged : (s.updateUser as.id fun as => (as.addRead kind (-1)).addPending kind (-1)).pending
        other = s.pending other := by
      cases other <;> rfl
    rw [ApmState.pending_addPending, unchanged, ApmUser.pending_addPending, ApmUser.pending_addRead]
    split_ifs <;> omega
  · exact counted.queueEvent _ _

theorem doIoctl (counted : Counted excluded s) {as : ApmUser} (mem : as ∈ s.users)
    (free : excluded as.id = false) (cmd : IoctlCmd) : Counted excluded (doIoctl s as cmd) := by
  unfold Apm.doIoctl
  split_ifs with unprivileged
  · exact counted.log _
  · have privileged : as.privileged = true := by simpa using unprivileged
    cases cmd with
    | standby =>
        have acked := counted.acknowledge mem free privileged .standby
        dsimp only
        split_ifs
        exacts [(acked.log _).log _, acked.log _]
    | suspend =>
        have acked := counted.acknowledge mem free privileged .suspend
        dsimp only
        split_ifs
        · exact (acked.log _).block _
        · exact (acked.waitSuspend as.id).block _
    | other cmd => exact counted.log _

theorem doRelease_cases (s : ApmState) (as : ApmUser) :
    (doRelease s as).nextUser = s.nextUser ∧
      (doRelease s as).suspendsPending =
        s.suspendsPending - (if 0 < as.suspendsPending then as.suspendsPending else 0) ∧
      (doRelease s as).standbysPending =
        s.standbysPending - (if 0 < as.standbysPending then as.standbysPending else 0) ∧
      ((doRelease s as).users = s.users ∧
          (doRelease s as).threads = s.threads ++ [.suspending true (.release as.id)] ∨
        (doRelease s as).users = s.users.filter (·.id != as.id) ∧
          (doRelease s as).threads = s.threads) := by
  unfold Apm.doRelease
  dsimp only
  generalize standbysDone : (if 0 < as.standbysPending then _ else s) = done
  have standbys : done.nextUser = s.nextUser ∧ done.users = s.users ∧ done.threads = s.threads ∧
      done.suspendsPending = s.suspendsPending ∧ done.standbysPending =
        s.standbysPending - (if 0 < as.standbysPending then as.standbysPending else 0) := by
    subst standbysDone
    split_ifs <;> simp [standby] <;> omega
  obtain ⟨next, users, threads, suspends, standbys⟩ := standbys
  simp only [← next, ← users, ← threads, ← suspends, ← standbys]
  split_ifs <;> simp [enterSuspend] <;> omega

/-- `do_release` of a client the exclusion does not cover takes its counts off both
sides: the client is left out from then on. -/
theorem release (counted : Counted excluded s) {as : ApmUser} (mem : as ∈ s.users)
    (free : excluded as.id = false) :
    Counted (fun client => excluded client || client == as.id) (doRelease s as) := by
  obtain ⟨next, suspends, standbys, shape⟩ := doRelease_cases s as
  have sub : (doRelease s as).users.Sublist s.users := by
    rcases shape with ⟨users, -⟩ | ⟨users, -⟩
    · rw [users]
    · rw [users]
      exact List.filter_sublist _
  refine ⟨counted.ids_nodup.sublist (sub.map _), fun other inUsers => next ▸
    counted.ids_lt other (sub.subset inUsers), fun other inUsers =>
    counted.accounted other (sub.subset inUsers), fun kind => ?_⟩
  have held := counted.held_le kind
  have dropped := heldBy_sublist_le sub counted.accounted
    (fun client => excluded client || client == as.id) kind
  have one := heldBy_exclude_one mem counted.ids_nodup free kind
  have nonneg := (counted.accounted as mem).pending_nonneg kind
  cases kind <;> simp only [ApmState.pending_suspend, ApmState.pending_standby, ApmUser.pending]
    at * <;> split_ifs at suspends standbys <;> omega

end Counted

/-! ## The clients being released -/

theorem ApmThread.client_of_releaseOf {thread : ApmThread} {client : Nat}
    (released : thread.releaseOf = some client) : thread.client = some client := by
  cases thread with
  | suspending _ caller | resuming _ caller =>
      cases caller <;> simp_all [ApmThread.releaseOf, ApmThread.client]
  | waitingSuspend _ | resumeBroadcast _ => simp [ApmThread.releaseOf] at released

namespace ApmState

theorem releasing_block (s : ApmState) (thread : ApmThread) (client : Nat) :
    (s.block thread).releasing client = (s.releasing client || thread.releaseOf == some client) := by
  simp [releasing, List.any_append]

theorem releasing_unblock (s : ApmState) {index : Nat} {thread : ApmThread}
    (get : s.threads[index]? = some thread) (client : Nat) :
    s.releasing client =
      (thread.releaseOf == some client || (s.unblock index).releasing client) := by
  obtain ⟨bound, rfl⟩ := List.getElem?_eq_some_iff.1 get
  have whole : s.threads =
      s.threads.take index ++ s.threads[index] :: s.threads.drop (index + 1) := by
    rw [← List.drop_eq_getElem_cons bound, List.take_append_drop]
  simp only [releasing, unblock, List.eraseIdx_eq_take_drop_succ]
  conv_lhs => rw [whole]
  simp only [List.any_append, List.any_cons]
  exact Bool.or_left_comm _ _ _

theorem findUser_some {s : ApmState} {client : Nat} {as : ApmUser}
    (found : s.findUser client = some as) : as ∈ s.users ∧ as.id = client :=
  ⟨List.mem_of_find?_eq_some found, by simpa using List.find?_some found⟩

theorem available_some {s : ApmState} {client : Nat} {as : ApmUser}
    (found : s.available client = some as) :
    as ∈ s.users ∧ as.id = client ∧ s.releasing client = false := by
  unfold available at found
  split at found
  next => cases found
  next free => exact ⟨(findUser_some found).1, (findUser_some found).2, by simpa using free⟩

/-- A client none of whose system calls is in progress is not being released. -/
theorem releasing_eq_false {s : ApmState} {client : Nat}
    (idle : s.threads.any (·.client == some client) = false) : s.releasing client = false := by
  simp only [releasing, List.any_eq_false, beq_iff_eq] at idle ⊢
  exact fun thread mem released => idle thread mem (ApmThread.client_of_releaseOf released)

end ApmState

theorem acknowledge_threads (s : ApmState) (kind : RequestKind) (as : ApmUser) :
    (acknowledge s kind as).threads = s.threads := by
  unfold acknowledge
  split_ifs <;> rfl

theorem releasing_doIoctl (s : ApmState) (as : ApmUser) (cmd : IoctlCmd) (client : Nat) :
    (doIoctl s as cmd).releasing client = s.releasing client := by
  have suspending : ∀ client, (ApmThread.suspending true (.ioctl client)).releaseOf = none :=
    fun _ => rfl
  have waiting : ∀ client, (ApmThread.waitingSuspend client).releaseOf = none := fun _ => rfl
  unfold doIoctl
  cases cmd <;> simp only [ApmState.releasing, ApmState.block_threads, ApmState.log_threads,
    ApmState.updateUser_threads, acknowledge_threads, standby, enterSuspend, List.any_append,
    List.any_cons, List.any_nil, suspending, waiting, Option.none_beq_some, Bool.or_false,
    apply_ite ApmState.threads,
    apply_ite (fun threads : List ApmThread => threads.any (·.releaseOf == some client)), ite_self]

theorem releasing_checkEvent (s : ApmState) (event : ApmEvent) (jiffies : Nat) (client : Nat) :
    (checkEvent s event jiffies).releasing client = s.releasing client := by
  have noted : (noteEvent s event jiffies).threads = s.threads := by
    unfold noteEvent
    dsimp only
    split_ifs <;> rfl
  have suspending : ∀ vetoable, (ApmThread.suspending vetoable .checkEvents).releaseOf = none :=
    fun _ => rfl
  have broadcasting : ∀ event, (ApmThread.resumeBroadcast event).releaseOf = none := fun _ => rfl
  unfold checkEvent handleEvent systemSuspend reject
  cases event <;> simp only [ApmState.releasing, ApmState.block_threads, ApmState.log_threads,
    queueEvent_threads, noted, standby, enterSuspend, List.any_append, List.any_cons, List.any_nil,
    suspending, broadcasting, Option.none_beq_some, Bool.or_false, apply_ite ApmState.threads,
    apply_ite (fun threads : List ApmThread => threads.any (·.releaseOf == some client)), ite_self]

theorem finishSuspend_threads (s : ApmState) (err : Int) (caller : SuspendCaller) :
    (finishSuspend s err caller).threads = s.threads := by
  cases caller <;> rfl

/-- A suspend that ends in `do_release` unlinks the client. -/
theorem finishSuspend_unlinks (s : ApmState) (err : Int) {client : Nat} :
    ∀ as ∈ (finishSuspend s err (.release client)).users, as.id ≠ client := by
  simp [finishSuspend]

theorem ApmState.releasing_of_threads {s t : ApmState} (threads : t.threads = s.threads)
    (client : Nat) : t.releasing client = s.releasing client := by
  unfold ApmState.releasing
  rw [threads]

/-- A suspend that goes on keeps the clients released before released, and leaves the
client of its own `do_release` released or unlinked. -/
def KeepsReleased (s : ApmState) (caller : SuspendCaller) (t : ApmState) : Prop :=
  (∀ client, s.releasing client = true → t.releasing client = true) ∧
    ∀ client, caller = .release client → ∀ as ∈ t.users, as.id = client →
      t.releasing client = true

theorem keepsReleased_finishSuspend {s t : ApmState} (threads : t.threads = s.threads) (err : Int)
    (caller : SuspendCaller) : KeepsReleased s caller (finishSuspend t err caller) :=
  ⟨fun client released => by
      rw [ApmState.releasing_of_threads ((finishSuspend_threads t err caller).trans threads)]
      exact released,
    fun _ same as mem named => by
      subst same
      exact absurd named (finishSuspend_unlinks t err as mem)⟩

theorem keepsReleased_suspendAfterBroadcast (s : ApmState) (vetoable : Bool)
    (caller : SuspendCaller) (cb : PmCallbacks) (biosOk : Bool) :
    KeepsReleased s caller (suspendAfterBroadcast s vetoable caller cb biosOk) := by
  have sameThreads : (broadcast s cb .suspend 3).1.threads = s.threads := rfl
  unfold suspendAfterBroadcast
  generalize broadcast s cb .suspend 3 = result at sameThreads
  dsimp only
  split_ifs
  · refine keepsReleased_finishSuspend ?_ _ _
    simp only [reject]
    split_ifs <;> exact sameThreads
  all_goals
    have logged : ∀ calls client, (result.1.log calls).releasing client = s.releasing client :=
      fun _ => ApmState.releasing_of_threads sameThreads
    exact ⟨fun client released => by simp [ApmState.releasing_block, logged, released],
      fun _ same _ _ _ => by simp [ApmState.releasing_block, same, ApmThread.releaseOf]⟩

theorem keepsReleased_suspendAfterResume (s : ApmState) (err : Int) (caller : SuspendCaller)
    (cb : PmCallbacks) : KeepsReleased s caller (suspendAfterResume s err caller cb) := by
  unfold suspendAfterResume
  refine @keepsReleased_finishSuspend s _ ?_ err caller
  rfl

/-- The path a `resume` action unblocks leaves the clients released before released: the
one whose `do_release` it was in is settled by the suspend, the others are kept. -/
theorem KeepsReleased.unblock {s t : ApmState} {index : Nat} {thread : ApmThread}
    {caller : SuspendCaller} (keeps : KeepsReleased (s.unblock index) caller t)
    (get : s.threads[index]? = some thread)
    (owner : ∀ client, thread.releaseOf = some client → caller = .release client) :
    ∀ as ∈ t.users, s.releasing as.id = true → t.releasing as.id = true := by
  intro as inUsers released
  rw [ApmState.releasing_unblock s get] at released
  simp only [Bool.or_eq_true, beq_iff_eq] at released
  rcases released with released | released
  · exact keeps.2 _ (owner _ released) as inUsers rfl
  · exact keeps.1 _ released

/-- The driver's steps keep the counter invariant. -/
theorem apmNext_counterInv {s s' : ApmState} {action : ApmAction} (inv : CounterInv s)
    (step : apmNext s action = some s') : CounterInv s' := by
  cases action with
  | openDevice suser writer reader suspendWait suspendResult events =>
      cases step
      exact inv.doOpen _ _ _ _ _ _
  | read client count writable nonblock signal =>
      obtain ⟨as, result, found, read, rfl⟩ := apmNext_read step
      obtain ⟨mem, rfl, free⟩ := ApmState.available_some found
      obtain ⟨lost, queue, user, taken, -⟩ := doRead_spec _ _ _ _ _ _ _ read
      exact inv.update mem free (by simp [user]) (user ▸ (inv.accounted as mem).read taken) rfl
        rfl fun kind => by cases kind <;> simp [user]
  | ioctl client cmd =>
      obtain ⟨as, found, rfl⟩ := apmNext_ioctl step
      obtain ⟨mem, rfl, free⟩ := ApmState.available_some found
      exact (inv.doIoctl mem free cmd).exclude fun other _ released => by
        rw [releasing_doIoctl]
        exact released
  | release client =>
      obtain ⟨as, idle, found, rfl⟩ := apmNext_release step
      obtain ⟨mem, rfl⟩ := ApmState.findUser_some found
      refine (inv.release mem (ApmState.releasing_eq_false idle)).exclude
        fun other inUsers released => ?_
      obtain ⟨-, -, -, shape⟩ := Counted.doRelease_cases s as
      rcases shape with ⟨-, threads⟩ | ⟨users, threads⟩
      · unfold ApmState.releasing at released ⊢
        rw [threads, List.any_append]
        simp only [Bool.or_eq_true, beq_iff_eq] at released
        rcases released with released | same
        · rw [released, Bool.true_or]
        · simp [same, ApmThread.releaseOf]
      · rw [users, List.mem_filter] at inUsers
        rw [ApmState.releasing_of_threads threads]
        simpa [bne_iff_ne.1 inUsers.2] using released
  | wake index signal =>
      obtain ⟨client, as, get, -, rfl⟩ := apmNext_wake step
      have woken :
          Counted s.releasing ((s.unblock index).log [.ioctlReturn client as.suspendResult]) :=
        inv.frame rfl rfl le_rfl le_rfl
      refine woken.exclude fun other _ released => ?_
      rw [ApmState.releasing_unblock s get] at released
      simpa [ApmThread.releaseOf] using released
  | eventHandler =>
      simp only [apmNext] at step
      split at step
      · cases step
      · cases step
        refine inv.eventHandler.exclude fun other _ released => ?_
        rw [ApmState.releasing_of_threads (by unfold eventHandler; split_ifs <;> rfl)]
        exact released
  | biosEvent event jiffies =>
      simp only [apmNext] at step
      split at step
      · cases step
      · cases step
        exact (inv.checkEvent event jiffies).exclude fun other _ released => by
          rw [releasing_checkEvent]
          exact released
  | resume index cb biosOk =>
      have unblocked : Counted s.releasing (s.unblock index) := inv.frame rfl rfl le_rfl le_rfl
      rcases apmNext_resume step with ⟨vetoable, caller, get, rfl⟩ | ⟨err, caller, get, rfl⟩ |
        ⟨event, get, rfl⟩
      · exact (unblocked.suspendAfterBroadcast vetoable caller cb biosOk).exclude
          ((keepsReleased_suspendAfterBroadcast _ vetoable caller cb biosOk).unblock get
            fun _ => by cases caller <;> simp [ApmThread.releaseOf])
      · exact (unblocked.suspendAfterResume err caller cb).exclude
          ((keepsReleased_suspendAfterResume _ err caller cb).unblock get
            fun _ => by cases caller <;> simp [ApmThread.releaseOf])
      · refine (unblocked.resumeAfterBroadcast event cb).exclude fun other _ released => ?_
        rw [ApmState.releasing_unblock s get] at released
        rw [ApmState.releasing_of_threads rfl]
        simpa [ApmThread.releaseOf] using released
  | pm op =>
      cases step
      exact inv.frame rfl rfl le_rfl le_rfl

/-- The counter invariant holds in every state the driver reaches. -/
theorem Reachable.counterInv {s : ApmState} (reachable : Reachable s) : CounterInv s := by
  induction reachable with
  | boot pm config => exact ⟨List.nodup_nil, by simp [ApmState.boot], by simp [ApmState.boot],
      fun kind => by cases kind <;> simp [ApmState.boot, heldBy]⟩
  | step action _ step inv => exact apmNext_counterInv inv step

end Apm
end PowerManagement
