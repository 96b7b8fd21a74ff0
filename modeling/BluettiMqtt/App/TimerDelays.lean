import BluettiMqtt.App.AdaptiveBackoff
import BluettiMqtt.App.LoopBooks
import BluettiMqtt.Cli.CliConfig
import BluettiMqtt.Library.Deadline
import Mathlib.Algebra.Group.Subgroup.Ker

namespace BluettiMqtt
open Promise Transition ClampedWalk

/-- What `setTimeout` makes of a delay: a fraction is cut off, and a delay that
is out of range becomes one millisecond. -/
def setTimeoutDelay (ms : ℚ) : ℚ :=
  if 1 ≤ ms ∧ ms ≤ MAX_TIMER_MS then ⌊ms⌋ else 1

/-- The delay that a phase passes to `sleep`, if it sleeps. -/
def LoopPhase.delay : LoopPhase → Option ℚ
  | .waiting ms => some ms
  | .command _ _ _ _ _ ms => ms
  | .settling _ _ ms => some ms
  | .reconnectDelay => some STARTUP_RETRY_DELAY_MS
  | _ => none

def ServerPhase.delay : ServerPhase → Option ℚ
  | .startupDelay => some STARTUP_RETRY_DELAY_MS
  | _ => none

/-- The delays that are being slept. -/
def Server.delays (s : Server) : List ℚ :=
  s.phase.delay.toList ++ s.loops.filterMap fun loop => loop.phase.delay

/-- A whole number of milliseconds that a timer can wait. -/
def FitsTimer (delay : ℚ) : Prop :=
  ∃ n : ℕ, 1 ≤ n ∧ n ≤ 2147483647 ∧ delay = n

theorem FitsTimer.kept {delay : ℚ} (fits : FitsTimer delay) :
    1 ≤ delay ∧ delay ≤ MAX_TIMER_MS ∧ setTimeoutDelay delay = delay := by
  obtain ⟨n, positive, bound, rfl⟩ := fits
  have least : (1 : ℚ) ≤ n := by exact_mod_cast positive
  have greatest : (n : ℚ) ≤ MAX_TIMER_MS := by
    unfold MAX_TIMER_MS
    exact_mod_cast bound
  refine ⟨least, greatest, ?_⟩
  rw [setTimeoutDelay, if_pos ⟨least, greatest⟩, Int.floor_natCast, Int.cast_natCast]

/-- The whole numbers. -/
def wholes : AddSubgroup ℚ :=
  (Int.castAddHom ℚ).range

theorem natCast_mem_wholes (n : ℕ) : (n : ℚ) ∈ wholes :=
  ⟨n, by simp⟩

theorem FitsTimer.mem_wholes {delay : ℚ} (fits : FitsTimer delay) : delay ∈ wholes := by
  obtain ⟨n, -, -, rfl⟩ := fits
  exact natCast_mem_wholes n

theorem FitsTimer.bounds {delay : ℚ} (fits : FitsTimer delay) : 1 ≤ delay ∧ delay ≤ MAX_TIMER_MS :=
  ⟨fits.kept.1, fits.kept.2.1⟩

theorem FitsTimer.of_whole {delay : ℚ} (whole : delay ∈ wholes) (positive : 0 < delay) (bound : delay ≤ MAX_TIMER_MS) :
    FitsTimer delay := by
  obtain ⟨n, rfl⟩ := whole
  simp only [Int.coe_castAddHom, Int.cast_pos] at positive bound
  unfold MAX_TIMER_MS at bound
  have limit : n ≤ 2147483647 := by exact_mod_cast bound
  refine ⟨n.toNat, by omega, by omega, ?_⟩
  have same : (n.toNat : ℤ) = n := Int.toNat_of_nonneg positive.le
  simp only [Int.coe_castAddHom]
  exact_mod_cast same.symm

/-- Options whose intervals timers can wait. -/
structure TimerOptions (options : PollingOptions) : Prop where
  fastIntervalMs : FitsTimer options.fastIntervalMs
  maxFastIntervalMs : FitsTimer options.maxFastIntervalMs
  commandDelayMs : FitsTimer options.commandDelayMs
  maxCommandDelayMs : FitsTimer options.maxCommandDelayMs
  fullIntervalMs : ∃ n : ℕ, 1 ≤ n ∧ options.fullIntervalMs = n
  maxFullIntervalMs : ∃ n : ℕ, 1 ≤ n ∧ options.maxFullIntervalMs = n
  busyPenaltyMs : ∃ n : ℕ, options.busyPenaltyMs = n
  recoveryStepMs : ∃ n : ℕ, options.recoveryStepMs = n

theorem TimerOptions.of_intervals {fast full : ℕ} (positive : 1 ≤ fast) (limit : fast ≤ 2147483647) (least : 1 ≤ full) :
    TimerOptions { DEFAULT_POLLING_OPTIONS with fastIntervalMs := fast, fullIntervalMs := full } where
  fastIntervalMs := ⟨fast, positive, limit, rfl⟩
  maxFastIntervalMs := ⟨8000, by decide, by decide, rfl⟩
  commandDelayMs := ⟨150, by decide, by decide, rfl⟩
  maxCommandDelayMs := ⟨750, by decide, by decide, rfl⟩
  fullIntervalMs := ⟨full, least, rfl⟩
  maxFullIntervalMs := ⟨45000, by decide, rfl⟩
  busyPenaltyMs := ⟨750, rfl⟩
  recoveryStepMs := ⟨50, rfl⟩

/-- The full interval may be longer than a timer can wait. -/
theorem timerOptions_interval {n : ℕ} (bound : n ≤ 2147483647) :
    TimerOptions (normalizePollingOptions (.intervalMs n)) := by
  rcases Nat.eq_zero_or_pos n with rfl | positive
  · exact @TimerOptions.of_intervals 2500 15000 (by decide) (by decide) (by decide)
  · have above : ¬((n : ℚ) ≤ 0) := not_le.mpr (by exact_mod_cast positive)
    have full : max ((n : ℚ) * 4) DEFAULT_POLLING_OPTIONS.fullIntervalMs = (max (n * 4) 15000 : ℕ) := by
      push_cast
      rfl
    rw [normalizePollingOptions, if_neg above, full]
    exact .of_intervals positive bound (by omega)

/-- The intervals that the schedule of a device goes through. -/
def FastWalk (options : PollingOptions) : ℚ → Prop :=
  Walk options.busyPenaltyMs options.recoveryStepMs options.fastIntervalMs options.maxFastIntervalMs options.fastIntervalMs

def FullWalk (options : PollingOptions) : ℚ → Prop :=
  Walk (options.busyPenaltyMs * 2) (options.recoveryStepMs * 2) options.fullIntervalMs options.maxFullIntervalMs
    (max options.fullIntervalMs options.fastIntervalMs)

def DelayWalk (options : PollingOptions) : ℚ → Prop :=
  Walk options.recoveryStepMs options.recoveryStepMs options.commandDelayMs options.maxCommandDelayMs options.commandDelayMs

section Walks

variable {options : PollingOptions} (timer : TimerOptions options) {value : ℚ}
include timer

theorem TimerOptions.nonneg : 0 ≤ options.busyPenaltyMs ∧ 0 ≤ options.recoveryStepMs := by
  obtain ⟨n, penalty⟩ := timer.busyPenaltyMs
  obtain ⟨m, step⟩ := timer.recoveryStepMs
  rw [penalty, step]
  exact ⟨Nat.cast_nonneg n, Nat.cast_nonneg m⟩

theorem TimerOptions.steps_whole : options.busyPenaltyMs ∈ wholes ∧ options.recoveryStepMs ∈ wholes := by
  obtain ⟨n, penalty⟩ := timer.busyPenaltyMs
  obtain ⟨m, step⟩ := timer.recoveryStepMs
  rw [penalty, step]
  exact ⟨natCast_mem_wholes n, natCast_mem_wholes m⟩

theorem TimerOptions.fastWalk (walk : FastWalk options value) : value ∈ wholes ∧
    min options.fastIntervalMs options.maxFastIntervalMs ≤ value ∧ value ≤ MAX_TIMER_MS := by
  have low := timer.fastIntervalMs
  have high := timer.maxFastIntervalMs
  obtain ⟨rises, falls⟩ := timer.steps_whole
  obtain ⟨least, greatest⟩ := walk.within timer.nonneg.1 timer.nonneg.2 (le_refl _)
  exact ⟨walk.mem low.mem_wholes rises falls low.mem_wholes high.mem_wholes, least,
    greatest.trans (max_le low.bounds.2 high.bounds.2)⟩

theorem TimerOptions.fullWalk (walk : FullWalk options value) : value ∈ wholes ∧
    min options.fullIntervalMs options.maxFullIntervalMs ≤ value := by
  obtain ⟨n, _, low⟩ := timer.fullIntervalMs
  obtain ⟨m, _, high⟩ := timer.maxFullIntervalMs
  obtain ⟨rises, falls⟩ := timer.steps_whole
  have lowWhole : options.fullIntervalMs ∈ wholes := low ▸ natCast_mem_wholes n
  have highWhole : options.maxFullIntervalMs ∈ wholes := high ▸ natCast_mem_wholes m
  have base : max options.fullIntervalMs options.fastIntervalMs ∈ wholes := by
    rcases max_choice options.fullIntervalMs options.fastIntervalMs with same | same <;> rw [same]
    · exact lowWhole
    · exact timer.fastIntervalMs.mem_wholes
  have twice {x : ℚ} (whole : x ∈ wholes) : x * 2 ∈ wholes := mul_two x ▸ wholes.add_mem whole whole
  have forward {x : ℚ} (nonneg : 0 ≤ x) : 0 ≤ x * 2 := mul_nonneg nonneg (by norm_num)
  exact ⟨walk.mem base (twice rises) (twice falls) lowWhole highWhole,
    (walk.within (forward timer.nonneg.1) (forward timer.nonneg.2) (le_max_left _ _)).1⟩

theorem TimerOptions.delayWalk (walk : DelayWalk options value) : FitsTimer value := by
  have low := timer.commandDelayMs
  have high := timer.maxCommandDelayMs
  obtain ⟨-, step⟩ := timer.steps_whole
  obtain ⟨least, greatest⟩ := walk.within timer.nonneg.2 timer.nonneg.2 (le_refl _)
  have positive : 0 < value := (lt_min (one_pos.trans_le low.bounds.1) (one_pos.trans_le high.bounds.1)).trans_le least
  exact .of_whole (walk.mem low.mem_wholes step step low.mem_wholes high.mem_wholes) positive
    (greatest.trans (max_le low.bounds.2 high.bounds.2))

end Walks

namespace BookEntry

/-- The reading from which an entry schedules the next fast cycle. -/
def fastScheduledAt : BookEntry → Option ℚ
  | .closed _ _ clock => some clock.nextAt
  | .rescheduled now => some now
  | _ => none

/-- The reading from which an entry schedules the next full cycle. -/
def fullScheduledAt : BookEntry → Option ℚ
  | .closed cycle _ clock => if cycle.shouldRunFull then some clock.nextAt else none
  | .rescheduled now => some now
  | _ => none

theorem fastScheduledAt_of_full {entry : BookEntry} {reading : ℚ} (full : entry.fullScheduledAt = some reading) :
    entry.fastScheduledAt = some reading := by
  cases entry with
  | closed cycle busy clock => exact (Option.ite_none_right_eq_some.mp full).2
  | rescheduled now => exact full
  | _ => cases full

end BookEntry

open BookEntry

/-- The reading from which an entry schedules the next cycle of a kind. -/
def scheduledAt (full : Bool) : BookEntry → Option ℚ :=
  if full then fullScheduledAt else fastScheduledAt

theorem fullScheduledAt_sublist (entries : List BookEntry) :
    (entries.filterMap fullScheduledAt).Sublist (entries.filterMap fastScheduledAt) := by
  induction entries with
  | nil => exact List.Sublist.refl _
  | cons entry rest ih =>
    cases full : entry.fullScheduledAt with
    | some reading =>
      rw [List.filterMap_cons_some full, List.filterMap_cons_some (fastScheduledAt_of_full full)]
      exact ih.cons_cons reading
    | none =>
      rw [List.filterMap_cons_none full, List.filterMap_cons]
      split
      · exact ih
      · exact ih.cons _

/-- The least interval that a device is polled at by cycles of a kind. -/
def leastInterval (options : PollingOptions) (full : Bool) : ℚ :=
  if full then min options.fullIntervalMs options.maxFullIntervalMs
  else min options.fastIntervalMs options.maxFastIntervalMs

theorem TimerOptions.one_le_leastInterval {options : PollingOptions} (timer : TimerOptions options) (full : Bool) :
    1 ≤ leastInterval options full := by
  have natural {n : ℕ} (positive : 1 ≤ n) : (1 : ℚ) ≤ n := by exact_mod_cast positive
  cases full with
  | true =>
    obtain ⟨n, low, same⟩ := timer.fullIntervalMs
    obtain ⟨m, high, same'⟩ := timer.maxFullIntervalMs
    exact le_min (same ▸ natural low) (same' ▸ natural high)
  | false => exact le_min timer.fastIntervalMs.bounds.1 timer.maxFastIntervalMs.bounds.1

/-- The schedule of a device by the entries in its books. -/
structure Scheduled (options : PollingOptions) (entries : List BookEntry) (state : DevicePollingState) : Prop where
  fast : FastWalk options state.fastIntervalMs
  full : FullWalk options state.fullIntervalMs
  pause : DelayWalk options state.commandDelayMs
  nextFast : Deadline (FastWalk options) (entries.filterMap fastScheduledAt) state.nextFastPollAt
  nextFull : Deadline (FullWalk options) (entries.filterMap fullScheduledAt) state.nextFullPollAt

namespace Scheduled

variable {options : PollingOptions} {entries : List BookEntry} {state : DevicePollingState}

theorem create (options : PollingOptions) : Scheduled options [] (createDevicePollingState options) :=
  ⟨.start, .start, .start, .start, .start⟩

/-- An entry that schedules nothing. -/
theorem silent (scheduled : Scheduled options entries state) {entry : BookEntry} (fast : entry.fastScheduledAt = none)
    (full : entry.fullScheduledAt = none) : Scheduled options (entries ++ [entry]) state where
  fast := scheduled.fast
  full := scheduled.full
  pause := scheduled.pause
  nextFast := by rw [filterMap_silent fast]; exact scheduled.nextFast
  nextFull := by rw [filterMap_silent full]; exact scheduled.nextFull

theorem adapt (scheduled : Scheduled options entries state) (busy : Bool) : Scheduled options entries
    (if busy then applyBusyBackoff state options else recoverPollingState state options) := by
  cases busy with
  | true => exact ⟨scheduled.fast.raise, scheduled.full.raise, scheduled.pause.raise, scheduled.nextFast, scheduled.nextFull⟩
  | false => exact ⟨scheduled.fast.lower, scheduled.full.lower, scheduled.pause.lower, scheduled.nextFast, scheduled.nextFull⟩

theorem closed (scheduled : Scheduled options entries state) (cycle : PollingCycle) (busy : Bool) (clock : CycleClock) :
    Scheduled options (entries ++ [.closed cycle busy clock]) (schedule options state (.closed cycle busy clock)) := by
  have adapted := scheduled.adapt busy
  simp only [schedule]
  refine ⟨adapted.fast, adapted.full, adapted.pause, ?_, ?_⟩
  · rw [filterMap_noted rfl]
    exact .append _ _ adapted.fast
  · cases full : cycle.shouldRunFull with
    | true =>
      have noted : (BookEntry.closed cycle busy clock).fullScheduledAt = some clock.nextAt := if_pos full
      rw [filterMap_noted noted]
      exact .append _ _ adapted.full
    | false =>
      rw [filterMap_silent (if_neg (by simp [full]))]
      exact adapted.nextFull

theorem rescheduled (scheduled : Scheduled options entries state) (now : ℚ) :
    Scheduled options (entries ++ [.rescheduled now]) (scheduleNextPoll state now) := by
  refine ⟨scheduled.fast, scheduled.full, scheduled.pause, ?_, ?_⟩
  · rw [filterMap_noted rfl]
    exact .append _ _ scheduled.fast
  · rw [filterMap_noted rfl]
    exact .append _ _ scheduled.full

/-- The books of a device and its schedule agree. -/
theorem of_entries (options : PollingOptions) (entries : List BookEntry) :
    Scheduled options entries (entries.foldl (schedule options) (createDevicePollingState options)) := by
  induction entries using List.reverseRecOn with
  | nil => exact create options
  | append_singleton earlier last ih =>
    rw [List.foldl_append]
    cases last with
    | begun full startedAt => exact ih.silent rfl rfl
    | read published outcome startedAt now finishedAt => exact ih.silent rfl rfl
    | closed cycle busy clock => exact ih.closed cycle busy clock
    | rescheduled now => exact ih.rescheduled now
    | written => exact ih.silent rfl rfl

/-- The delays that a device is given fit a timer, for all the length of its full interval. -/
theorem paces (scheduled : Scheduled options entries state) (timer : TimerOptions options) {event : LoopEvent}
    (whole : ∀ reading ∈ entries.filterMap fastScheduledAt, reading ∈ wholes)
    (read : ∀ reading ∈ event.readings, reading ∈ wholes ∧ 0 ≤ reading ∧
      ∀ earlier ∈ entries.filterMap fastScheduledAt, earlier ≤ reading) : Server.Paces FitsTimer state event where
  wait now startedAt same beforeFull beforeFast := by
    subst same
    obtain ⟨nowWhole, begun, past⟩ := read now (by simp [LoopEvent.readings])
    have fullWhole : ∀ reading ∈ entries.filterMap fullScheduledAt, reading ∈ wholes := fun reading member => by
      obtain ⟨entry, made, full⟩ := List.mem_filterMap.mp member
      exact whole reading (List.mem_filterMap.mpr ⟨entry, made, fastScheduledAt_of_full full⟩)
    have fast : state.nextFastPollAt ∈ wholes := scheduled.nextFast.mem whole fun _ walk => (timer.fastWalk walk).1
    have full : state.nextFullPollAt ∈ wholes := scheduled.nextFull.mem fullWhole fun _ walk => (timer.fullWalk walk).1
    have soon : state.nextFastPollAt - now ≤ MAX_TIMER_MS :=
      scheduled.nextFast.sub_le begun past (fun _ walk => (timer.fastWalk walk).2.2) beforeFast
    have ahead : 0 < min state.nextFastPollAt state.nextFullPollAt - now := sub_pos.mpr (lt_min beforeFast beforeFull)
    have next : min state.nextFastPollAt state.nextFullPollAt ∈ wholes := by
      rcases min_choice state.nextFastPollAt state.nextFullPollAt with same | same <;> rw [same]
      · exact fast
      · exact full
    rw [max_eq_right ahead.le]
    exact .of_whole (wholes.sub_mem next nowWhole) ahead ((sub_le_sub_right (min_le_left _ _) now).trans soon)
  pause _ := timer.delayWalk scheduled.pause
  settle := by
    rcases max_choice MIN_PACK_SWITCH_DELAY_MS state.commandDelayMs with same | same <;> rw [same]
    · exact ⟨500, by decide, by decide, rfl⟩
    · exact timer.delayWalk scheduled.pause

end Scheduled

theorem LoopPhase.Fits.delay {instant : ℚ → Prop} {phase : LoopPhase} (fits : phase.Fits instant FitsTimer) {delay : ℚ}
    (sleeps : phase.delay = some delay) : FitsTimer delay := by
  cases phase with
  | waiting ms => exact Option.some.inj sleeps ▸ fits
  | command cycle set command rest saw ms => exact fits.2 delay sleeps
  | settling cycle pack ms => exact Option.some.inj sleeps ▸ fits.2
  | reconnectDelay => exact Option.some.inj sleeps ▸ ⟨5000, by decide, by decide, rfl⟩
  | _ => cases sleeps

namespace Server

variable {s t initial : Server} {trace : List ServerEvent} {event : ServerEvent} {delay : ℚ → Prop}
  {options : PollingOptions} {addresses : List String} {runOnce : Bool} {address : String}

theorem fastScheduledAt_mem {entry : BookEntry} {reading : ℚ} (scheduled : entry.fastScheduledAt = some reading) :
    reading ∈ entry.readings := by
  cases entry with
  | closed cycle busy clock =>
    cases scheduled
    simp [readings]
  | rescheduled now =>
    cases scheduled
    simp [readings]
  | _ => cases scheduled

/-- A cycle is scheduled from a reading of the event that ends the one before. -/
theorem entries_scheduled {made : String × BookEntry} {reading : ℚ} (member : made ∈ s.entries event)
    (scheduled : made.2.fastScheduledAt = some reading) : reading ∈ event.readings := by
  obtain ⟨address, entry⟩ := made
  rcases entries_makes member with ⟨_, rfl⟩ | ⟨index, loop, happened, rfl, _, _, makes⟩
  · cases scheduled
  cases makes with
  | begun => cases scheduled
  | read => cases scheduled
  | closed =>
    cases scheduled
    simp [ServerEvent.readings, LoopEvent.readings]
  | rescheduled =>
    cases scheduled
    simp [ServerEvent.readings, LoopEvent.readings]

theorem entries_length (s : Server) (event : ServerEvent) : (s.entries event).length ≤ 1 := by
  unfold entries
  split
  · split
    · exact Option.length_toList_le
    · exact Nat.zero_le 1
  · exact le_refl 1
  · exact Nat.zero_le 1

theorem Booked.scheduled_read (booked : Booked delay initial trace s) {reading : ℚ}
    (member : reading ∈ (entriesAt address (initial.bookkeeping trace)).filterMap fastScheduledAt) :
    reading ∈ clockReadings trace := by
  obtain ⟨entry, made, scheduled⟩ := List.mem_filterMap.mp member
  exact (booked.dated _ (mem_entriesAt.mp made)).mem reading (fastScheduledAt_mem scheduled)

/-- The cycles of a device are scheduled one after the other. -/
theorem scheduled_in_order (fresh : initial.loops = []) (reach : Reach step (fun _ _ => True) initial trace s)
    (clocked : Clocked trace) (address : String) :
    ((entriesAt address (initial.bookkeeping trace)).filterMap fastScheduledAt).Pairwise (· ≤ ·) := by
  induction reach with
  | start => simp [bookkeeping, observed, entriesAt]
  | @next trace s event t reach _ run ih =>
    have history : initial.bookkeeping (trace ++ [event]) = initial.bookkeeping trace ++ s.entries event :=
      reach.observed_next event
    rw [history, entriesAt_append, List.filterMap_append, List.pairwise_append]
    refine ⟨ih clocked.initial, ?_, fun earlier old later new => ?_⟩
    · have few : ((entriesAt address (s.entries event)).filterMap fastScheduledAt).length ≤ 1 := by
        refine (List.length_filterMap_le _ _).trans ?_
        simp only [entriesAt, List.length_map]
        exact (List.length_filter_le _ _).trans (entries_length s event)
      rcases found : (entriesAt address (s.entries event)).filterMap fastScheduledAt with _ | ⟨only, _ | ⟨next, rest⟩⟩
      · exact List.Pairwise.nil
      · exact List.pairwise_singleton _ _
      · rw [found] at few
        exact absurd few (by simp)
    · obtain ⟨entry, made, scheduled⟩ := List.mem_filterMap.mp new
      have read := (booked_of_run fresh reach clocked.initial).scheduled_read old
      exact clocked.before read (entries_scheduled (mem_entriesAt.mp made) scheduled)

theorem Booked.scheduled (booked : Booked delay (create addresses runOnce options) trace s) (address : String) :
    Scheduled options (entriesAt address ((create addresses runOnce options).bookkeeping trace)) (s.getPollingState address) := by
  have books := booked.books address
  have fresh : (create addresses runOnce options).books address =
      (createDevicePollingState options, createDeviceTelemetry) := rfl
  rw [fresh, foldl_enter] at books
  have state : s.getPollingState address = _ := congrArg Prod.fst books
  exact state ▸ Scheduled.of_entries options _

theorem Clocked.mem_wholes (clocked : Clocked trace) {reading : ℚ} (read : reading ∈ clockReadings trace) :
    reading ∈ wholes ∧ 0 ≤ reading := by
  obtain ⟨n, rfl⟩ := clocked.whole reading read
  exact ⟨natCast_mem_wholes n, Nat.cast_nonneg n⟩

/-- Along a run every delay fits a timer. -/
theorem timed_of_run (timer : TimerOptions options)
    (reach : Reach step (fun _ _ => True) (create addresses runOnce options) trace s) (clocked : Clocked trace) :
    Booked FitsTimer (create addresses runOnce options) trace s := by
  induction reach with
  | start =>
    have booked : Booked (fun _ => True) (create addresses runOnce options) [] (create addresses runOnce options) :=
      booked_of_run rfl .start clocked
    exact ⟨booked.options, booked.books, fun _ member => absurd member List.not_mem_nil, booked.dated⟩
  | @next trace s event t reach _ run ih =>
    have booked := ih clocked.initial
    refine booked.next reach clocked run fun index loop happened current same => ?_
    subst same
    refine (booked.scheduled loop.address).paces timer (fun reading member => ?_) fun reading member => ?_
    · exact (Clocked.mem_wholes clocked.initial (booked.scheduled_read member)).1
    · have read : reading ∈ clockReadings (trace ++ [.loop index happened]) := by
        rw [clockReadings_append]
        exact List.mem_append_right _ member
      obtain ⟨whole, begun⟩ := Clocked.mem_wholes clocked read
      exact ⟨whole, begun, fun earlier old => clocked.before (booked.scheduled_read old) member⟩

theorem delays_fit (booked : Booked FitsTimer initial trace s) {ms : ℚ} (slept : ms ∈ s.delays) : FitsTimer ms := by
  rcases List.mem_append.mp slept with startup | sleeping
  · rw [Option.mem_toList] at startup
    unfold ServerPhase.delay at startup
    split at startup <;> cases startup
    exact ⟨5000, by decide, by decide, rfl⟩
  · obtain ⟨loop, member, sleeps⟩ := List.mem_filterMap.mp sleeping
    exact (booked.loops loop member).delay sleeps

/-- The turn of a loop that begins a cycle finds it due. -/
theorem begun_due {full : Bool} {startedAt : ℚ} (begun : (address, .begun full startedAt) ∈ s.entries event) :
    ∃ index now, event = .loop index (.turn now startedAt) ∧
      (if full then (s.getPollingState address).nextFullPollAt else (s.getPollingState address).nextFastPollAt) ≤ now := by
  obtain ⟨_, other⟩ | ⟨index, loop, happened, rfl, _, rfl, makes⟩ := entries_makes begun
  · cases other
  cases makes with
  | begun now _ _ due => exact ⟨index, now, rfl, due⟩

/-- From the reading that schedules a cycle to the next cycle of its kind at
least the shortest interval passes. -/
theorem begun_after_interval (timer : TimerOptions options)
    (reach : Reach step (fun _ _ => True) (create addresses runOnce options) trace s) (clocked : Clocked (trace ++ [event]))
    {full : Bool} {startedAt : ℚ} (begun : (address, .begun full startedAt) ∈ s.entries event) {reading : ℚ}
    (scheduled : reading ∈ (entriesAt address ((create addresses runOnce options).bookkeeping trace)).filterMap
      (scheduledAt full)) : reading + leastInterval options full ≤ startedAt := by
  obtain ⟨index, now, rfl, due⟩ := begun_due begun
  have ordered := scheduled_in_order rfl reach clocked.initial address
  have state := (timed_of_run timer reach clocked.initial).scheduled address
  have later : now ≤ startedAt := (List.pairwise_cons.mp clocked.within).1 startedAt (List.mem_singleton_self _)
  refine le_trans ?_ (due.trans later)
  cases full with
  | true =>
    exact state.nextFull.least_le (ordered.sublist (fullScheduledAt_sublist _)) (fun _ walk => (timer.fullWalk walk).2) scheduled
  | false => exact state.nextFast.least_le ordered (fun _ walk => (timer.fastWalk walk).2.1) scheduled

/-- With an interval that the command line accepts every delay that is slept is
one that a timer waits as it is, and no cycle follows at once on the one that
scheduled it. -/
theorem delays_fit_timer {rawValue helpText : String} {interval : Number}
    (accepted : parseIntervalSeconds rawValue helpText = .ok interval) (addresses : List String) (runOnce : Bool) :
    ∃ ms, interval = .finite ms ∧ ∀ trace s,
      Reach step (fun _ _ => True) (create addresses runOnce (normalizePollingOptions (.intervalMs ms))) trace s →
      Clocked trace →
        (∀ delay ∈ s.delays, 1 ≤ delay ∧ delay ≤ MAX_TIMER_MS ∧ setTimeoutDelay delay = delay) ∧
        ∀ event t address full startedAt, s.step event = some t → Clocked (trace ++ [event]) →
          (address, .begun full startedAt) ∈ s.entries event →
          1 ≤ leastInterval (normalizePollingOptions (.intervalMs ms)) full ∧
            ∀ reading ∈ (entriesAt address ((create addresses runOnce
                (normalizePollingOptions (.intervalMs ms))).bookkeeping trace)).filterMap (scheduledAt full),
              reading + leastInterval (normalizePollingOptions (.intervalMs ms)) full ≤ startedAt := by
  obtain ⟨n, bound, rfl⟩ := parseInterval_ok accepted
  have timer := timerOptions_interval bound
  refine ⟨n, rfl, fun trace s reach clocked => ⟨fun delay slept => ?_, ?_⟩⟩
  · exact (delays_fit (timed_of_run timer reach clocked) slept).kept
  · intro event t address full startedAt run later begun
    exact ⟨timer.one_le_leastInterval full, fun reading scheduled => begun_after_interval timer reach later begun scheduled⟩

/-- With the longest interval that is accepted the full interval is longer than a
timer can wait, and the loop sleeps the fast one. -/
theorem delays_fit_timer_longest : ∃ trace s,
    Reach step (fun _ _ => True)
      (create ["24:4C:AB:2C:24:8E"] false (normalizePollingOptions (.intervalMs 2147483647))) trace s ∧
      MAX_TIMER_MS < (s.getPollingState "24:4C:AB:2C:24:8E").fullIntervalMs ∧ s.delays = [2147483647] ∧
      ∀ delay ∈ s.delays, 1 ≤ delay ∧ delay ≤ MAX_TIMER_MS ∧ setTimeoutDelay delay = delay := by
  let trace : List ServerEvent :=
    [.mqttConnected (.fulfilled ()), .mqttSubscribed (.fulfilled ()), .startPolling,
     .initialized (.fulfilled "AC602237000003358"), .connectAllReturned, .startLoops, .loop 0 (.turn 1000 1000),
     .loop 0 (.nextCommand 1000), .loop 0 .workStarted, .loop 0 (.workSettled true (.fulfilled ()) 1100 1100),
     .loop 0 (.cycleEnded ⟨1100, 1100, 1100, 1100, 1100⟩), .loop 0 (.turn 1100 1100)]
  have run : (trace.foldlM step (create ["24:4C:AB:2C:24:8E"] false (normalizePollingOptions (.intervalMs 2147483647)))).any
      (fun s => decide (MAX_TIMER_MS < (s.getPollingState "24:4C:AB:2C:24:8E").fullIntervalMs ∧
        s.delays = [2147483647])) = true := by
    decide +kernel
  obtain ⟨s, reach, found⟩ := Reach.of_foldlM (fun _ _ _ => trivial) run
  obtain ⟨longer, slept⟩ := of_decide_eq_true found
  have accepted : parseIntervalSeconds "2147483.647" "" = .ok (.finite 2147483647) := by decide +kernel
  have clocked : Clocked trace := .of_numbers (by decide +kernel) (by decide +kernel)
  obtain ⟨ms, same, delays⟩ := delays_fit_timer accepted ["24:4C:AB:2C:24:8E"] false
  cases same
  exact ⟨trace, s, reach, longer, slept, (delays trace s reach clocked).1⟩

end Server

end BluettiMqtt
