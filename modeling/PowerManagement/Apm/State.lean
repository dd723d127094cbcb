import PowerManagement.Apm.Fifo
import PowerManagement.Pm.Registry

/-!
# The state of the APM driver

The clients of `/dev/apm_bios` (`struct apm_user` on `user_list`), the driver's global
counters and flags, the statics of `queue_event`, `check_events` and
`apm_event_handler`, the power management registry the driver broadcasts to, and the
kernel paths that are blocked.  A uniprocessor kernel without preemption runs each
path until it blocks: `suspend()` inside `pm_send_all`, and `do_ioctl` in
`wait_event_interruptible`.  Those paths are kept as `ApmThread`s; everything else is a
single step.

The calls the driver makes out of this core (BIOS power states, clock updates,
broadcasts) are appended to `trace`, with the entries of `standby()` and `suspend()`.
-/

namespace PowerManagement
namespace Apm

open Pm

/-- A client of the APM device (`struct apm_user`). -/
structure ApmUser where
  /-- The address of the record, which identifies the client. -/
  id : Nat
  suser : Bool
  writer : Bool
  reader : Bool
  suspendWait : Bool
  suspendResult : Int
  suspendsPending : Int
  standbysPending : Int
  suspendsRead : Int
  standbysRead : Int
  /-- `events`, `event_head` and `event_tail`. -/
  queue : EventQueue

namespace ApmUser

/-- A client opened with `CAP_SYS_ADMIN` for writing: the only kind whose requests
`queue_event` counts and that may issue `APM_IOC_STANDBY` and `APM_IOC_SUSPEND`. -/
def privileged (as : ApmUser) : Bool :=
  as.suser && as.writer

/-- `suspends_pending` or `standbys_pending`. -/
def pending (as : ApmUser) : RequestKind → Int
  | .suspend => as.suspendsPending
  | .standby => as.standbysPending

/-- `suspends_read` or `standbys_read`. -/
def read (as : ApmUser) : RequestKind → Int
  | .suspend => as.suspendsRead
  | .standby => as.standbysRead

/-- Add to `suspends_pending` or `standbys_pending`. -/
def addPending (as : ApmUser) (kind : RequestKind) (delta : Int) : ApmUser :=
  { as with
    suspendsPending := as.suspendsPending + if kind = .suspend then delta else 0
    standbysPending := as.standbysPending + if kind = .standby then delta else 0 }

/-- Add to `suspends_read` or `standbys_read`. -/
def addRead (as : ApmUser) (kind : RequestKind) (delta : Int) : ApmUser :=
  { as with
    suspendsRead := as.suspendsRead + if kind = .suspend then delta else 0
    standbysRead := as.standbysRead + if kind = .standby then delta else 0 }

/-- One if the event is a request of the kind, else zero. -/
def requestCount (event : ApmEvent) (kind : RequestKind) : Int :=
  if event.requestKind = some kind then 1 else 0

/-- The `switch` of `queue_event` for a privileged client: a request adds one to the
client's pending count of its kind. -/
def countRequest (as : ApmUser) (event : ApmEvent) : ApmUser :=
  { as with
    suspendsPending := as.suspendsPending + requestCount event .suspend
    standbysPending := as.standbysPending + requestCount event .standby }

/-- The `switch` of `do_read`: a request read adds one to the client's read count of its
kind. -/
def countRead (as : ApmUser) (event : ApmEvent) : ApmUser :=
  { as with
    suspendsRead := as.suspendsRead + requestCount event .suspend
    standbysRead := as.standbysRead + requestCount event .standby }

/-- The read counts after reading a sequence of events. -/
def countReads (as : ApmUser) (events : List ApmEvent) : ApmUser :=
  events.foldl countRead as

/-- The client with its ring replaced. -/
def withQueue (as : ApmUser) (queue : EventQueue) : ApmUser :=
  { as with queue := queue }

/-- The number of requests of a kind in the client's ring. -/
def queued (as : ApmUser) (kind : RequestKind) : Nat :=
  as.queue.toList.countP (·.requestKind == some kind)

@[simp] theorem pending_addPending (as : ApmUser) (kind other : RequestKind) (delta : Int) :
    (as.addPending kind delta).pending other =
      as.pending other + if kind = other then delta else 0 := by
  cases kind <;> cases other <;> simp [addPending, pending]

@[simp] theorem read_addPending (as : ApmUser) (kind other : RequestKind) (delta : Int) :
    (as.addPending kind delta).read other = as.read other := by
  cases other <;> rfl

@[simp] theorem read_addRead (as : ApmUser) (kind other : RequestKind) (delta : Int) :
    (as.addRead kind delta).read other = as.read other + if kind = other then delta else 0 := by
  cases kind <;> cases other <;> simp [addRead, read]

@[simp] theorem pending_addRead (as : ApmUser) (kind other : RequestKind) (delta : Int) :
    (as.addRead kind delta).pending other = as.pending other := by
  cases other <;> rfl

section fields

variable (as : ApmUser) (kind : RequestKind) (delta : Int)

@[simp] theorem addPending_id : (as.addPending kind delta).id = as.id := rfl
@[simp] theorem addPending_queue : (as.addPending kind delta).queue = as.queue := rfl
@[simp] theorem addPending_privileged : (as.addPending kind delta).privileged = as.privileged := rfl
@[simp] theorem addRead_id : (as.addRead kind delta).id = as.id := rfl
@[simp] theorem addRead_queue : (as.addRead kind delta).queue = as.queue := rfl
@[simp] theorem addRead_privileged : (as.addRead kind delta).privileged = as.privileged := rfl

end fields

@[simp] theorem pending_countRequest (as : ApmUser) (event : ApmEvent) (kind : RequestKind) :
    (as.countRequest event).pending kind = as.pending kind + requestCount event kind := by
  cases kind <;> rfl

@[simp] theorem read_countRequest (as : ApmUser) (event : ApmEvent) (kind : RequestKind) :
    (as.countRequest event).read kind = as.read kind := by
  cases kind <;> rfl

@[simp] theorem read_countRead (as : ApmUser) (event : ApmEvent) (kind : RequestKind) :
    (as.countRead event).read kind = as.read kind + requestCount event kind := by
  cases kind <;> rfl

@[simp] theorem pending_countRead (as : ApmUser) (event : ApmEvent) (kind : RequestKind) :
    (as.countRead event).pending kind = as.pending kind := by
  cases kind <;> rfl

@[simp] theorem countRequest_queue (as : ApmUser) (event : ApmEvent) :
    (as.countRequest event).queue = as.queue := rfl

@[simp] theorem countRead_queue (as : ApmUser) (event : ApmEvent) :
    (as.countRead event).queue = as.queue := rfl

section withQueue

variable (as : ApmUser) (queue : EventQueue) (kind : RequestKind)

@[simp] theorem withQueue_queue : (as.withQueue queue).queue = queue := rfl
@[simp] theorem withQueue_id : (as.withQueue queue).id = as.id := rfl
@[simp] theorem withQueue_privileged : (as.withQueue queue).privileged = as.privileged := rfl
@[simp] theorem pending_withQueue : (as.withQueue queue).pending kind = as.pending kind := by
  cases kind <;> rfl
@[simp] theorem read_withQueue : (as.withQueue queue).read kind = as.read kind := by
  cases kind <;> rfl

end withQueue

/-- Reading events changes nothing of a client but its read counts. -/
theorem countReads_eq (as : ApmUser) (events : List ApmEvent) :
    as.countReads events =
      { as with
        suspendsRead := (as.countReads events).suspendsRead
        standbysRead := (as.countReads events).standbysRead } := by
  induction events generalizing as with
  | nil => rfl
  | cons event events ih => exact ih (as.countRead event)

@[simp] theorem pending_countReads (as : ApmUser) (events : List ApmEvent) (kind : RequestKind) :
    (as.countReads events).pending kind = as.pending kind := by
  rw [countReads_eq]; cases kind <;> rfl

@[simp] theorem countReads_queue (as : ApmUser) (events : List ApmEvent) :
    (as.countReads events).queue = as.queue := by
  rw [countReads_eq]

@[simp] theorem countReads_id (as : ApmUser) (events : List ApmEvent) :
    (as.countReads events).id = as.id := by
  rw [countReads_eq]

@[simp] theorem countReads_privileged (as : ApmUser) (events : List ApmEvent) :
    (as.countReads events).privileged = as.privileged := by
  rw [countReads_eq]; rfl

@[simp] theorem read_countReads (as : ApmUser) (events : List ApmEvent) (kind : RequestKind) :
    (as.countReads events).read kind =
      as.read kind + events.countP (·.requestKind == some kind) := by
  induction events generalizing as with
  | nil => simp [countReads]
  | cons event events ih =>
      simp only [countReads, List.foldl_cons] at ih ⊢
      rw [ih, read_countRead, List.countP_cons]
      simp only [requestCount, beq_iff_eq]
      split_ifs <;> omega

end ApmUser

/-- The caller of a `suspend()` in progress. -/
inductive SuspendCaller
  | checkEvents
  | ioctl (client : Nat)
  | release (client : Nat)
  deriving DecidableEq, Repr

/-- A kernel path blocked where other paths may run. -/
inductive ApmThread
  /-- `suspend(vetoable)` in `pm_send_all(PM_SUSPEND, 3)`. -/
  | suspending (vetoable : Bool) (caller : SuspendCaller)
  /-- `suspend()` in `pm_send_all(PM_RESUME, 0)` after the BIOS suspend, with its
  result so far. -/
  | resuming (err : Int) (caller : SuspendCaller)
  /-- `do_ioctl(APM_IOC_SUSPEND)` in `wait_event_interruptible` until `suspend_wait`
  is cleared. -/
  | waitingSuspend (client : Nat)
  /-- `check_events` in `pm_send_all(PM_RESUME, 0)` on a resume event. -/
  | resumeBroadcast (event : ApmEvent)
  deriving DecidableEq, Repr

namespace ApmThread

/-- The client whose `do_release` a thread is in. -/
def releaseOf : ApmThread → Option Nat
  | .suspending _ (.release client) | .resuming _ (.release client) => some client
  | _ => none

/-- The client whose system call a thread is in. -/
def client : ApmThread → Option Nat
  | .suspending _ (.ioctl client) | .resuming _ (.ioctl client) => some client
  | .suspending _ (.release client) | .resuming _ (.release client) => some client
  | .waitingSuspend client => some client
  | _ => none

/-- A thread that is kapmd itself, blocked in `check_events`. -/
def inKapmd : ApmThread → Bool
  | .suspending _ .checkEvents | .resuming _ .checkEvents | .resumeBroadcast _ => true
  | _ => false

end ApmThread

/-- The BIOS power states (`APM_STATE_*`) the driver sets. -/
inductive ApmPowerState
  | ready
  | standby
  | suspend
  | off
  | busy
  | reject
  deriving DecidableEq, Repr

/-- A call of the driver recorded in the trace. -/
inductive ApmCall
  /-- `apm_set_power_state(state)`. -/
  | setPowerState (state : ApmPowerState)
  /-- `set_time()`. -/
  | setTime
  /-- `get_time_diff()`. -/
  | getTimeDiff
  /-- `pm_send_all(rqst, data)`. -/
  | pmSendAll (rqst : PmRequest) (data : Int)
  /-- Entry of `standby()`. -/
  | standby
  /-- Entry of `suspend(vetoable)`. -/
  | suspend (vetoable : Bool)
  /-- `do_ioctl` of a client returned `value`. -/
  | ioctlReturn (client : Nat) (value : Int)
  deriving DecidableEq, Repr

/-- The error numbers the driver returns negated; `<asm/errno.h>` and
`<linux/errno.h>` are not among the sources. -/
structure ErrnoCodes where
  eperm : Int
  eio : Int
  eagain : Int
  efault : Int
  ebusy : Int
  einval : Int
  erestartsys : Int

/-- What the driver is configured with: `apm_info.connection_version`,
`bounce_interval` and `CONFIG_APM_IGNORE_USER_SUSPEND`; and the constants of headers
that are not among the sources: `sizeof(apm_event_t)` from `<linux/apm_bios.h>` and the
error numbers. -/
structure ApmConfig where
  connectionVersion : Nat
  bounceInterval : Int
  ignoreUserSuspend : Bool
  eventSize : Nat
  errno : ErrnoCodes

/-- An i386 machine with a 1.2 BIOS interface: the default bounce interval at 100 Hz,
user suspends not ignored, two-byte events and the error numbers of i386 Linux. -/
def pcConfig : ApmConfig :=
  ⟨0x102, 300, false, 2, ⟨1, 5, 11, 14, 16, 22, 512⟩⟩

/-- The driver's state. -/
structure ApmState where
  /-- `user_list`, from its head. -/
  users : List ApmUser
  suspendsPending : Int
  standbysPending : Int
  waitingForResume : Bool
  ignoreNormalResume : Bool
  /-- The overflow count `notified` of `queue_event`. -/
  notified : Nat
  /-- `last_resume` and `ignore_bounce` of `check_events`. -/
  lastResume : Nat
  ignoreBounce : Bool
  /-- `pending_count` of `apm_event_handler`. -/
  pendingCount : Int
  threads : List ApmThread
  pm : PmState
  trace : List ApmCall
  /-- The address the next `kmalloc` of a client returns. -/
  nextUser : Nat
  config : ApmConfig

namespace ApmState

/-- `suspends_pending` or `standbys_pending`. -/
def pending (s : ApmState) : RequestKind → Int
  | .suspend => s.suspendsPending
  | .standby => s.standbysPending

/-- Add to `suspends_pending` or `standbys_pending`. -/
def addPending (s : ApmState) (kind : RequestKind) (delta : Int) : ApmState :=
  { s with
    suspendsPending := s.suspendsPending + if kind = .suspend then delta else 0
    standbysPending := s.standbysPending + if kind = .standby then delta else 0 }

/-- The client at an address, if it is on `user_list`. -/
def findUser (s : ApmState) (client : Nat) : Option ApmUser :=
  s.users.find? (·.id == client)

/-- Apply `change` to the client at an address. -/
def updateUser (s : ApmState) (client : Nat) (change : ApmUser → ApmUser) : ApmState :=
  { s with users := s.users.map fun as => if as.id = client then change as else as }

/-- A client whose `do_release` is in progress. -/
def releasing (s : ApmState) (client : Nat) : Bool :=
  s.threads.any (·.releaseOf == some client)

/-- The state at boot: no client, no pending request, no blocked path. -/
def boot (pm : PmState) (config : ApmConfig) : ApmState :=
  ⟨[], 0, 0, false, false, 0, 0, false, 4, [], pm, [], 0, config⟩

@[simp] theorem pending_suspend (s : ApmState) : s.pending .suspend = s.suspendsPending := rfl

@[simp] theorem pending_standby (s : ApmState) : s.pending .standby = s.standbysPending := rfl

section updateUser

variable (s : ApmState) (client : Nat) (change : ApmUser → ApmUser)

@[simp] theorem updateUser_users :
    (s.updateUser client change).users =
      s.users.map fun as => if as.id = client then change as else as := rfl
@[simp] theorem updateUser_threads : (s.updateUser client change).threads = s.threads := rfl
@[simp] theorem updateUser_suspendsPending :
    (s.updateUser client change).suspendsPending = s.suspendsPending := rfl
@[simp] theorem updateUser_standbysPending :
    (s.updateUser client change).standbysPending = s.standbysPending := rfl
@[simp] theorem updateUser_nextUser : (s.updateUser client change).nextUser = s.nextUser := rfl
@[simp] theorem updateUser_trace : (s.updateUser client change).trace = s.trace := rfl
@[simp] theorem updateUser_config : (s.updateUser client change).config = s.config := rfl

end updateUser

theorem pending_addPending (s : ApmState) (kind other : RequestKind) (delta : Int) :
    (s.addPending kind delta).pending other = s.pending other + if kind = other then delta else 0 := by
  cases kind <;> cases other <;> simp [addPending, pending]

@[simp] theorem addPending_suspendsPending (s : ApmState) (kind : RequestKind) (delta : Int) :
    (s.addPending kind delta).suspendsPending =
      s.suspendsPending + if kind = .suspend then delta else 0 := rfl

@[simp] theorem addPending_standbysPending (s : ApmState) (kind : RequestKind) (delta : Int) :
    (s.addPending kind delta).standbysPending =
      s.standbysPending + if kind = .standby then delta else 0 := rfl

@[simp] theorem addPending_users (s : ApmState) (kind : RequestKind) (delta : Int) :
    (s.addPending kind delta).users = s.users := rfl

@[simp] theorem addPending_threads (s : ApmState) (kind : RequestKind) (delta : Int) :
    (s.addPending kind delta).threads = s.threads := rfl

@[simp] theorem addPending_nextUser (s : ApmState) (kind : RequestKind) (delta : Int) :
    (s.addPending kind delta).nextUser = s.nextUser := rfl

@[simp] theorem addPending_trace (s : ApmState) (kind : RequestKind) (delta : Int) :
    (s.addPending kind delta).trace = s.trace := rfl

end ApmState

end Apm
end PowerManagement
