import PowerManagement.Apm.System

/-!
# The resume bookkeeping of `check_events`

`check_events` keeps two things about resumes.  `ignore_normal_resume` withholds the next
BIOS `APM_NORMAL_RESUME`, as the echo of the one `suspend()` queues itself; the end of
every `suspend()` sets it, vetoed or not, and every BIOS event clears it.  The statics
`last_resume` and `ignore_bounce` refuse suspend events for `bounce_interval` ticks after a
resume; the window closes only when an event arrives, by comparing the `unsigned long`
difference of two `jiffies` values with `bounce_interval` converted to `unsigned long`.
Nothing else touches the window, so over any run it follows the BIOS events alone
(`apmRun_bounceWindow`), and it agrees with the specification's debounce on runs in which
`jiffies` does not wrap (`BounceWindow.run_boot_open_iff_debounced`).
-/

namespace PowerManagement
namespace Apm

open Pm

/-! ## Withholding a normal resume -/

section normalResume

variable (s : ApmState) (event : ApmEvent) (jiffies : Nat)

/-- The top of the loop changes nothing but `ignore_bounce` and `ignore_normal_resume`. -/
theorem noteEvent_eq :
    noteEvent s event jiffies =
      { s with
        ignoreBounce := (noteEvent s event jiffies).ignoreBounce
        ignoreNormalResume := (noteEvent s event jiffies).ignoreNormalResume } := by
  unfold noteEvent; dsimp only; split <;> split <;> rfl

theorem noteEvent_trace : (noteEvent s event jiffies).trace = s.trace := by rw [noteEvent_eq]
theorem noteEvent_threads : (noteEvent s event jiffies).threads = s.threads := by rw [noteEvent_eq]
theorem noteEvent_users : (noteEvent s event jiffies).users = s.users := by rw [noteEvent_eq]
theorem noteEvent_config : (noteEvent s event jiffies).config = s.config := by rw [noteEvent_eq]
theorem noteEvent_pm : (noteEvent s event jiffies).pm = s.pm := by rw [noteEvent_eq]

end normalResume

/-- A lone privileged reader asks for a suspend while a registered device vetoes every
suspend request; then the BIOS reports a normal resume. -/
def vetoedSuspend : List ApmAction :=
  [.openDevice true true true false 0 fun _ => .lowBattery,
    .pm (.register 0 0 (some 0)),
    .ioctl 0 .suspend,
    .resume 0 (fun _ _ rqst _ => if rqst = .suspend then 1 else 0) true,
    .biosEvent .normalResume 5]

/-- The run's only `suspend()` was vetoed and never set the BIOS power state to suspend,
yet the normal resume after it is withheld: nothing is logged after the veto, no
broadcast is left to run and nothing is queued to the client. -/
theorem vetoed_suspend_withholds_normal_resume :
    (apmRun (ApmState.boot PmState.empty pcConfig) vetoedSuspend).map
        (fun s => (s.trace, s.threads, s.users.map (·.queue.toList))) =
      some ([.suspend true, .pmSendAll .suspend 3, .setPowerState .reject, .ioctlReturn 0 (-16)],
        [], [[]]) := by
  decide

/-! ## The bounce window -/

/-- The events of the resume cases of `check_events`, which open the bounce window. -/
def ApmEvent.resumes : ApmEvent → Bool
  | .normalResume | .criticalResume | .standbyResume => true
  | _ => false

/-- `bounce_interval`, and the statics `last_resume` and `ignore_bounce` of
`check_events`. -/
structure BounceWindow where
  bounceInterval : Int
  lastResume : Nat
  ignoreBounce : Bool
  deriving DecidableEq, Repr

/-- The bounce window of a state. -/
def ApmState.bounceWindow (s : ApmState) : BounceWindow :=
  ⟨s.config.bounceInterval, s.lastResume, s.ignoreBounce⟩

namespace BounceWindow

/-- A round of `check_events` on `event` at `jiffies`, as far as the window goes: the test
at the top of the loop, then the resume cases. -/
def step (w : BounceWindow) (event : ApmEvent) (jiffies : Nat) : BounceWindow :=
  if event.resumes then { w with lastResume := jiffies, ignoreBounce := true }
  else if w.ignoreBounce ∧
      unsignedLong w.bounceInterval < unsignedLong (jiffies - w.lastResume) then
    { w with ignoreBounce := false }
  else w

/-- The window after a sequence of BIOS events, each with its time. -/
def run (w : BounceWindow) (events : List (ApmEvent × Nat)) : BounceWindow :=
  events.foldl (fun w event => w.step event.1 event.2) w

@[simp] theorem step_bounceInterval (w : BounceWindow) (event : ApmEvent) (jiffies : Nat) :
    (w.step event jiffies).bounceInterval = w.bounceInterval := by
  unfold step; split <;> (try split) <;> rfl

@[simp] theorem run_nil (w : BounceWindow) : w.run [] = w := rfl

theorem run_append (w : BounceWindow) (events more : List (ApmEvent × Nat)) :
    w.run (events ++ more) = (w.run events).run more := by
  simp [run, List.foldl_append]

end BounceWindow

/-- The BIOS event an action hands to `check_events`, with its time. -/
def ApmAction.biosEvent? : ApmAction → Option (ApmEvent × Nat)
  | .biosEvent event jiffies => some (event, jiffies)
  | _ => none

section window

variable (s : ApmState)

theorem noteEvent_bounceWindow (event : ApmEvent) (jiffies : Nat) :
    (noteEvent s event jiffies).bounceWindow =
      if s.ignoreBounce ∧
          unsignedLong s.config.bounceInterval < unsignedLong (jiffies - s.lastResume) then
        { s.bounceWindow with ignoreBounce := false }
      else s.bounceWindow := by
  unfold noteEvent
  dsimp only
  split <;> split <;> rfl

theorem reject_bounceWindow : (reject s).bounceWindow = s.bounceWindow := by
  unfold reject; split <;> rfl

theorem systemSuspend_bounceWindow (event : ApmEvent) :
    (systemSuspend s event).bounceWindow = s.bounceWindow := by
  unfold systemSuspend reject
  dsimp only
  (repeat' split) <;> rfl

theorem handleEvent_bounceWindow (event : ApmEvent) (jiffies : Nat) :
    (handleEvent s event jiffies).bounceWindow =
      if event.resumes then { s.bounceWindow with lastResume := jiffies, ignoreBounce := true }
      else s.bounceWindow := by
  cases event <;> simp only [handleEvent, ApmEvent.resumes, Bool.false_eq_true, if_false,
    if_true] <;> (try split) <;>
    first
    | rfl
    | exact reject_bounceWindow s
    | exact systemSuspend_bounceWindow s _

/-- A round of `check_events` moves the window as `BounceWindow.step` says. -/
theorem checkEvent_bounceWindow (event : ApmEvent) (jiffies : Nat) :
    (checkEvent s event jiffies).bounceWindow = s.bounceWindow.step event jiffies := by
  rw [checkEvent, handleEvent_bounceWindow, noteEvent_bounceWindow, BounceWindow.step]
  by_cases resumes : event.resumes <;> simp only [resumes, if_true]
  · split <;> rfl
  · rfl

theorem doIoctl_bounceWindow (as : ApmUser) (cmd : IoctlCmd) :
    (doIoctl s as cmd).bounceWindow = s.bounceWindow := by
  unfold doIoctl acknowledge standby enterSuspend
  dsimp only
  (repeat' split) <;> rfl

theorem doRelease_bounceWindow (as : ApmUser) :
    (doRelease s as).bounceWindow = s.bounceWindow := by
  unfold doRelease standby enterSuspend
  dsimp only
  (repeat' split) <;> rfl

theorem eventHandler_bounceWindow : (eventHandler s).bounceWindow = s.bounceWindow := by
  unfold eventHandler
  (repeat' split) <;> rfl

theorem finishSuspend_bounceWindow (err : Int) (caller : SuspendCaller) :
    (finishSuspend s err caller).bounceWindow = s.bounceWindow := by
  unfold finishSuspend
  split <;> rfl

theorem suspendAfterBroadcast_bounceWindow (vetoable : Bool) (caller : SuspendCaller)
    (cb : PmCallbacks) (biosOk : Bool) :
    (suspendAfterBroadcast s vetoable caller cb biosOk).bounceWindow = s.bounceWindow := by
  have sent : (broadcast s cb .suspend 3).1.bounceWindow = s.bounceWindow := rfl
  unfold suspendAfterBroadcast
  generalize broadcast s cb .suspend 3 = result at sent ⊢
  dsimp only
  split
  · rw [finishSuspend_bounceWindow]
    unfold reject
    split <;> exact sent
  · exact sent

end window

/-- Every action but a BIOS event leaves the window alone, and a BIOS event moves it as
`BounceWindow.step` says: nothing but `check_events` touches it. -/
theorem apmNext_bounceWindow {s s' : ApmState} {action : ApmAction}
    (step : apmNext s action = some s') :
    s'.bounceWindow = s.bounceWindow.run action.biosEvent?.toList := by
  cases action with
  | openDevice => cases step; rfl
  | read => obtain ⟨_, _, -, -, rfl⟩ := apmNext_read step; rfl
  | ioctl => obtain ⟨as, -, rfl⟩ := apmNext_ioctl step; exact doIoctl_bounceWindow s as _
  | release => obtain ⟨as, -, -, rfl⟩ := apmNext_release step; exact doRelease_bounceWindow s as
  | wake => obtain ⟨_, _, -, -, rfl⟩ := apmNext_wake step; rfl
  | eventHandler =>
      simp only [apmNext] at step
      split at step
      · cases step
      · cases step; exact eventHandler_bounceWindow s
  | biosEvent event jiffies =>
      simp only [apmNext] at step
      split at step
      · cases step
      · cases step; exact checkEvent_bounceWindow s event jiffies
  | resume =>
      rcases apmNext_resume step with ⟨_, _, -, rfl⟩ | ⟨_, _, -, rfl⟩ | ⟨_, -, rfl⟩
      · exact suspendAfterBroadcast_bounceWindow _ _ _ _ _
      · exact finishSuspend_bounceWindow _ _ _
      · rfl
  | pm => cases step; rfl

/-- Over any run the window is a function of the BIOS events alone. -/
theorem apmRun_bounceWindow {s s' : ApmState} :
    ∀ actions, apmRun s actions = some s' →
      s'.bounceWindow = s.bounceWindow.run (actions.filterMap ApmAction.biosEvent?)
  | [], ran => by cases ran; rfl
  | action :: actions, ran => by
      simp only [apmRun, Option.bind_eq_some] at ran
      obtain ⟨next, stepped, ran⟩ := ran
      rw [apmRun_bounceWindow actions ran, apmNext_bounceWindow stepped, List.filterMap_cons]
      cases action.biosEvent? <;> rfl

/-! ## Suspend events inside the window -/

section bounced

variable (s : ApmState) (event : ApmEvent) (jiffies : Nat)

/-- The events the bounce check applies to: `APM_SYS_SUSPEND`, and `APM_USER_SUSPEND`
unless `CONFIG_APM_IGNORE_USER_SUSPEND` refuses it first. -/
def BounceChecked : Prop :=
  event = .sysSuspend ∨ event = .userSuspend ∧ s.config.ignoreUserSuspend = false

theorem checkEvent_of_bounceChecked (checked : BounceChecked s event) :
    checkEvent s event jiffies = systemSuspend (noteEvent s event jiffies) event := by
  have noted : BounceChecked (noteEvent s event jiffies) event := by
    simpa [BounceChecked, noteEvent_config] using checked
  rcases noted with rfl | ⟨rfl, kept⟩
  · rfl
  · simp [checkEvent, handleEvent, kept]

/-- The window after the test at the top of the loop, on an event that does not resume. -/
theorem noteEvent_ignoreBounce (checked : BounceChecked s event) :
    (noteEvent s event jiffies).ignoreBounce = (s.bounceWindow.step event jiffies).ignoreBounce := by
  have resumes : event.resumes = false := by
    rcases checked with rfl | ⟨rfl, -⟩ <;> rfl
  show (noteEvent s event jiffies).bounceWindow.ignoreBounce = _
  rw [noteEvent_bounceWindow, BounceWindow.step, resumes]
  simp only [Bool.false_eq_true, if_false]
  rfl

/-- A suspend event that finds the window open is refused: `APM_STATE_REJECT` to a BIOS
after 1.0 and nothing else; no event is queued, no path blocked and no broadcast made. -/
theorem checkEvent_bounced (checked : BounceChecked s event)
    (bounced : (s.bounceWindow.step event jiffies).ignoreBounce = true) :
    (checkEvent s event jiffies).trace =
        s.trace ++ (if s.config.connectionVersion > 0x100 then [.setPowerState .reject] else []) ∧
      (checkEvent s event jiffies).users = s.users ∧
      (checkEvent s event jiffies).threads = s.threads ∧
      (checkEvent s event jiffies).pm = s.pm := by
  rw [checkEvent_of_bounceChecked _ _ _ checked, systemSuspend,
    if_pos (by rw [noteEvent_ignoreBounce _ _ _ checked, bounced]), reject, noteEvent_config]
  split <;> simp [ApmState.log, noteEvent_trace, noteEvent_users, noteEvent_threads, noteEvent_pm]

end bounced

/-- After any run, a suspend event that finds open the window of the run's BIOS events is
refused as `checkEvent_bounced` says: the abstract window decides the driver's refusal. -/
theorem apmRun_suspend_bounced {s₀ s : ApmState} {actions : List ApmAction} {event : ApmEvent}
    {jiffies : Nat} (ran : apmRun s₀ actions = some s) (checked : BounceChecked s event)
    (bounced : ((s₀.bounceWindow.run (actions.filterMap ApmAction.biosEvent?)).step event
      jiffies).ignoreBounce = true) :
    (checkEvent s event jiffies).trace =
        s.trace ++ (if s.config.connectionVersion > 0x100 then [.setPowerState .reject] else []) ∧
      (checkEvent s event jiffies).users = s.users ∧
      (checkEvent s event jiffies).threads = s.threads ∧
      (checkEvent s event jiffies).pm = s.pm :=
  checkEvent_bounced s event jiffies checked (by rwa [apmRun_bounceWindow actions ran])

/-! ## The window against the specification's debounce

The specification counts ticks without wrapping and reads `bounce_interval` as a signed
number; the code compares `unsigned long` differences of `jiffies`.  The two agree on
every run whose ticks do not wrap past the latest resume, for every interval from 0 to
the largest `int`. -/

/-- The time of the latest resume event among `events`. -/
def latestResume (events : List (ApmEvent × Nat)) : Option Nat :=
  events.foldl (fun latest event => if event.1.resumes then some event.2 else latest) none

/-- The debounce the specification describes: a suspend event at `now` is refused when a
resume event came before it and at most `bounceInterval` ticks have passed since the
latest one. -/
def debounced (bounceInterval : Int) (events : List (ApmEvent × Nat)) (now : Nat) : Bool :=
  match latestResume events with
  | none => false
  | some resumed => decide ((now : Int) - resumed ≤ bounceInterval)

theorem latestResume_concat (events : List (ApmEvent × Nat)) (event : ApmEvent × Nat) :
    latestResume (events ++ [event]) =
      if event.1.resumes then some event.2 else latestResume events := by
  simp [latestResume, List.foldl_append]

theorem getLast?_of_latestResume {events : List (ApmEvent × Nat)} {resumed : Nat}
    (latest : latestResume events = some resumed) : ∃ last, events.getLast? = some last := by
  cases found : events.getLast? with
  | none => rw [List.getLast?_eq_none_iff.1 found] at latest; cases latest
  | some last => exact ⟨last, rfl⟩

namespace BounceWindow

theorem step_of_resumes (w : BounceWindow) {event : ApmEvent} (resumes : event.resumes = true)
    (jiffies : Nat) : w.step event jiffies = { w with lastResume := jiffies, ignoreBounce := true } := by
  simp [step, resumes]

/-- Off a resume the window only closes, when the `unsigned long` difference from the last
resume exceeds the interval. -/
theorem step_of_not_resumes (w : BounceWindow) {event : ApmEvent}
    (resumes : event.resumes = false) (jiffies : Nat) :
    w.step event jiffies =
      { w with ignoreBounce := w.ignoreBounce &&
          !decide (unsignedLong w.bounceInterval < unsignedLong (jiffies - w.lastResume)) } := by
  cases w with
  | mk interval last isOpen =>
    unfold step
    simp only [resumes, Bool.false_eq_true, if_false]
    by_cases close : unsignedLong interval < unsignedLong (jiffies - last) <;>
      cases isOpen <;> simp [close]

section agree

variable (bounceInterval : Int) (nonneg : 0 ≤ bounceInterval) (fits : bounceInterval < 2 ^ 31)
include nonneg fits

/-- The test at the top of the loop for an event at `now`, with the window open exactly
while `last` was within the interval of the resume: within a wrap of `jiffies` it stays
open exactly while `now` is. -/
theorem stays_open_iff_within {resumed last now : Nat} (resumed_le : resumed ≤ last)
    (last_le : last ≤ now) (wrap : now - resumed < 2 ^ 32) :
    (decide ((last : Int) - resumed ≤ bounceInterval) &&
        !decide (unsignedLong bounceInterval < unsignedLong (now - resumed))) =
      decide ((now : Int) - resumed ≤ bounceInterval) := by
  have diff := @unsignedLong_of_lt ((now : Int) - resumed) (by omega) (by omega)
  have bound := unsignedLong_of_lt nonneg (by omega)
  by_cases within : (now : Int) - resumed ≤ bounceInterval <;> simp [within] <;> omega

/-- The window from boot after a run of events with nondecreasing times: closed before any
resume; after one, at the latest resume, and open exactly while the latest event is within
the interval of it, as long as the two are less than a wrap of `jiffies` apart. -/
theorem run_boot : ∀ events : List (ApmEvent × Nat), (events.map (·.2)).Pairwise (· ≤ ·) →
    ((mk bounceInterval 0 false).run events).bounceInterval = bounceInterval ∧
      match latestResume events, events.getLast? with
      | some resumed, some last =>
          ((mk bounceInterval 0 false).run events).lastResume = resumed ∧ resumed ≤ last.2 ∧
            (last.2 - resumed < 2 ^ 32 →
              ((mk bounceInterval 0 false).run events).ignoreBounce =
                decide ((last.2 : Int) - resumed ≤ bounceInterval))
      | _, _ => ((mk bounceInterval 0 false).run events).ignoreBounce = false := by
  intro events
  induction events using List.reverseRecOn with
  | nil => intro _; exact ⟨rfl, rfl⟩
  | append_singleton events event ih =>
    intro sorted
    rw [List.map_append, List.pairwise_append] at sorted
    obtain ⟨sorted, -, before⟩ := sorted
    obtain ⟨interval, window⟩ := ih sorted
    rw [run_append, latestResume_concat, List.getLast?_concat]
    cases resumes : event.1.resumes
    · rw [if_neg (by simp), run, List.foldl_cons, List.foldl_nil, step_of_not_resumes _ resumes]
      refine ⟨interval, ?_⟩
      cases latest : latestResume events with
      | none =>
          have closed : ((mk bounceInterval 0 false).run events).ignoreBounce = false := by
            rw [latest] at window; exact window
          simp only [closed, Bool.false_and]
      | some resumed =>
          obtain ⟨last, last_eq⟩ := getLast?_of_latestResume latest
          rw [latest, last_eq] at window
          obtain ⟨at_resume, resumed_le, open_iff⟩ := window
          have last_le : last.2 ≤ event.2 := before _ (List.mem_map_of_mem _
            (List.mem_of_getLast?_eq_some last_eq)) _ (List.mem_singleton_self _)
          refine ⟨at_resume, by omega, fun wrap => ?_⟩
          rw [open_iff (by omega), at_resume, interval]
          exact stays_open_iff_within bounceInterval nonneg fits resumed_le last_le wrap
    · rw [if_pos rfl, run, List.foldl_cons, List.foldl_nil, step_of_resumes _ resumes]
      exact ⟨interval, rfl, le_rfl, fun _ => by simpa using nonneg⟩

/-- On every run of events with nondecreasing times, a suspend event at `now` finds the
window open exactly when the specification's debounce refuses it, unless `now` is a wrap
of `jiffies` or more after the latest resume. -/
theorem run_boot_open_iff_debounced (events : List (ApmEvent × Nat)) (now : Nat)
    (sorted : (events.map (·.2) ++ [now]).Pairwise (· ≤ ·))
    (noWrap : ∀ resumed, latestResume events = some resumed → now - resumed < 2 ^ 32) :
    (((mk bounceInterval 0 false).run events).step .sysSuspend now).ignoreBounce =
      debounced bounceInterval events now := by
  rw [List.pairwise_append] at sorted
  obtain ⟨sorted, -, before⟩ := sorted
  obtain ⟨interval, window⟩ := run_boot bounceInterval nonneg fits events sorted
  rw [step_of_not_resumes _ (show ApmEvent.sysSuspend.resumes = false from rfl), debounced]
  cases latest : latestResume events with
  | none =>
      have closed : ((mk bounceInterval 0 false).run events).ignoreBounce = false := by
        rw [latest] at window; exact window
      simp only [closed, Bool.false_and]
  | some resumed =>
      obtain ⟨last, last_eq⟩ := getLast?_of_latestResume latest
      rw [latest, last_eq] at window
      obtain ⟨at_resume, resumed_le, open_iff⟩ := window
      have last_le : last.2 ≤ now := before _ (List.mem_map_of_mem _
        (List.mem_of_getLast?_eq_some last_eq)) _ (List.mem_singleton_self _)
      have wrap := noWrap resumed latest
      rw [open_iff (by omega), at_resume, interval]
      exact stays_open_iff_within bounceInterval nonneg fits resumed_le last_le wrap

end agree

/-- A suspend event 250 ticks after a critical resume, with another suspend between. -/
theorem resumed_window_debounced :
    (((mk 300 0 false).run [(.criticalResume, 0), (.sysSuspend, 200)]).step .sysSuspend 250).ignoreBounce =
      debounced 300 [(.criticalResume, 0), (.sysSuspend, 200)] 250 :=
  run_boot_open_iff_debounced 300 (by decide) (by decide) _ 250 (by decide) fun resumed latest => by
    obtain rfl : 0 = resumed := Option.some.inj latest
    decide

/-- With `bounce_interval` at -1, that is `ULONG_MAX` as the code compares it, a window
once open never closes. -/
theorem run_open_of_interval_neg_one :
    ∀ (w : BounceWindow) (events : List (ApmEvent × Nat)), w.bounceInterval = -1 →
      w.ignoreBounce = true → (w.run events).ignoreBounce = true
  | _, [], _, isOpen => isOpen
  | w, event :: events, interval, isOpen => by
      have stays : (w.step event.1 event.2).ignoreBounce = true := by
        cases resumes : event.1.resumes
        · have := unsignedLong_lt (event.2 - w.lastResume)
          simp only [step_of_not_resumes _ resumes, interval, isOpen, Bool.true_and,
            Bool.not_eq_true', decide_eq_false_iff_not]
          show ¬(2 ^ 32 - 1 < _)
          omega
        · rw [step_of_resumes _ resumes]
      exact run_open_of_interval_neg_one (w.step event.1 event.2) events
        (by rw [step_bounceInterval, interval]) stays

/-- Suspend events more than `2 ^ 32` ticks after the window opened, and a standby. -/
theorem window_open_past_wrap :
    ((mk (-1) 0 true).run [(.sysSuspend, 2 ^ 32 + 5), (.userStandby, 7)]).ignoreBounce = true :=
  run_open_of_interval_neg_one _ _ rfl rfl

end BounceWindow

/-! ## The window across a wrap of `jiffies` -/

/-- A privileged reader opens the device, the BIOS reports a critical resume at tick 0 and
its broadcast runs, then a system suspend event comes at `tick`. -/
def bounceRun (tick : Nat) : List ApmAction :=
  [.openDevice true true true false 0 fun _ => .lowBattery,
    .biosEvent .criticalResume 0,
    .resume 0 (fun _ _ _ _ => 0) true,
    .biosEvent .sysSuspend tick]

/-- With the PC's interval of 300 ticks, the suspend event 301 ticks after the resume is
queued, but the one 2^32 + 1 ticks after it is refused, with nothing queued and no
broadcast; with an interval of -1 the event is refused 3000 ticks after the resume. -/
theorem bounce_check_refuses_after_jiffies_wrap :
    (apmRun (ApmState.boot PmState.empty pcConfig) (bounceRun 301)).map
        (fun s => (s.trace, s.users.map (·.queue.toList))) =
      some ([.setTime, .pmSendAll .resume 0], [[.criticalResume, .sysSuspend]]) ∧
    (apmRun (ApmState.boot PmState.empty pcConfig) (bounceRun (2 ^ 32 + 1))).map
        (fun s => (s.trace, s.users.map (·.queue.toList))) =
      some ([.setTime, .pmSendAll .resume 0, .setPowerState .reject], [[.criticalResume]]) ∧
    (apmRun (ApmState.boot PmState.empty { pcConfig with bounceInterval := -1 })
        (bounceRun 3000)).map (fun s => (s.trace, s.users.map (·.queue.toList))) =
      some ([.setTime, .pmSendAll .resume 0, .setPowerState .reject], [[.criticalResume]]) := by
  decide

end Apm
end PowerManagement
