import BluettiMqtt.App.DeviceWorkQueue
import BluettiMqtt.Library.Transition

namespace BluettiMqtt
open Promise Transition

/-- A call of `sleep` whose promise waits for the timer or for `stop`. -/
def SleepCall.pending : SleepCall where
  finished := false
  timerArmed := true
  resolutions := 0

/-- A call of `sleep` whose promise was resolved, with no timer left. -/
def SleepCall.resolved : SleepCall where
  finished := true
  timerArmed := false
  resolutions := 1

/-- What `done` does to its call. -/
def SleepCall.done (record : SleepCall) : SleepCall :=
  if record.finished then record
  else { finished := true, timerArmed := false, resolutions := record.resolutions + 1 }

@[simp] theorem SleepCall.done_pending : SleepCall.pending.done = .resolved := rfl

@[simp] theorem SleepCall.done_resolved : SleepCall.resolved.done = .resolved := rfl

theorem SleepCall.pending_ne_resolved : SleepCall.pending ≠ .resolved := by decide

namespace DeviceWorkQueue

variable {ε α : Type*} {q t : DeviceWorkQueue ε α} {call : Nat} {record : SleepCall}

/-- Every sleep is pending or resolved, and the set holds the wake functions of
the pending ones. After a stop request there are none. -/
structure Tracked (q : DeviceWorkQueue ε α) : Prop where
  known : ∀ call record, q.sleeps call = some record → record = .pending ∨ record = .resolved
  waiting : ∀ call, call ∈ q.sleepWaiters ↔ q.sleeps call = some .pending
  distinct : q.sleepWaiters.Nodup
  awake : q.stopRequested = true → q.sleepWaiters = []

theorem wake_sleeps (q : DeviceWorkQueue ε α) (call : Nat) :
    (q.wake call).sleeps = q.sleeps.adjust (some call) SleepCall.done := by
  unfold wake
  split
  · next record entry =>
    rw [Table.adjust_eq_insert _ entry]
    split
    · next finished =>
      funext other
      by_cases here : other = call
      · rw [here, entry, Table.insert_self, SleepCall.done, if_pos finished]
      · rw [Table.insert_of_ne _ _ here]
    · next running => rw [SleepCall.done, if_neg running]
  · next missing =>
    funext other
    by_cases here : other = call
    · simp [Table.adjust, here, missing]
    · rw [Table.adjust_of_ne _ _ (by simpa using Ne.symm here)]

theorem wake_stopRequested (q : DeviceWorkQueue ε α) (call : Nat) :
    (q.wake call).stopRequested = q.stopRequested := by
  unfold wake
  split
  · split <;> rfl
  · rfl

theorem foldl_wake (calls : List Nat) (q : DeviceWorkQueue ε α) :
    (calls.foldl wake q).stopRequested = q.stopRequested ∧
      (calls.foldl wake q).sleeps = calls.foldl (fun sleeps call => sleeps.adjust (some call) SleepCall.done) q.sleeps := by
  induction calls generalizing q with
  | nil => exact ⟨rfl, rfl⟩
  | cons first rest ih =>
    obtain ⟨flag, sleeps⟩ := ih (q.wake first)
    exact ⟨flag.trans (wake_stopRequested q first), by rw [List.foldl_cons, List.foldl_cons, sleeps, wake_sleeps]⟩

/-- `stop` calls every wake function of the set. -/
theorem stop_sleeps (tracked : Tracked q) (call : Nat) :
    q.stop.sleeps call = (q.sleeps call).map SleepCall.done := by
  have woken : q.stop.sleeps call =
      (q.sleepWaiters.foldl (fun sleeps call => sleeps.adjust (some call) SleepCall.done) q.sleeps) call :=
    congrFun (foldl_wake q.sleepWaiters { q with stopRequested := true }).2 call
  rw [woken, Table.foldl_adjust SleepCall.done tracked.distinct]
  split
  · rfl
  · next absent =>
    cases entry : q.sleeps call with
    | none => rfl
    | some record =>
      rcases tracked.known call record entry with rfl | rfl
      · exact absurd ((tracked.waiting call).mpr entry) absent
      · rfl

theorem Tracked.stop (tracked : Tracked q) : Tracked q.stop where
  known call record entry := by
    rw [stop_sleeps tracked] at entry
    obtain ⟨old, before, rfl⟩ := Option.map_eq_some_iff.mp entry
    rcases tracked.known call old before with rfl | rfl
    · exact Or.inr rfl
    · exact Or.inr rfl
  waiting call := by
    rw [stop_sleeps tracked]
    refine ⟨fun member => absurd member List.not_mem_nil, fun entry => ?_⟩
    obtain ⟨old, before, same⟩ := Option.map_eq_some_iff.mp entry
    rcases tracked.known call old before with rfl | rfl
    · exact absurd same.symm SleepCall.pending_ne_resolved
    · exact absurd same.symm SleepCall.pending_ne_resolved
  distinct := List.nodup_nil
  awake _ := rfl

/-- The timer of a pending sleep fires. -/
theorem Tracked.wake (tracked : Tracked q) (entry : q.sleeps call = some .pending) : Tracked (q.wake call) := by
  have woken : q.wake call =
      { q with
        sleeps := q.sleeps.insert call .resolved
        sleepWaiters := q.sleepWaiters.filter (· ≠ call) } := by
    unfold DeviceWorkQueue.wake
    rw [entry]
    rfl
  rw [woken]
  refine ⟨fun other record found => ?_, fun other => ?_, tracked.distinct.filter _, fun stopped => ?_⟩
  · rcases Table.insert_eq_some.mp found with ⟨-, rfl⟩ | ⟨-, found⟩
    · exact Or.inr rfl
    · exact tracked.known other record found
  · simp only [List.mem_filter, decide_eq_true_eq, tracked.waiting, Table.insert_eq_some]
    constructor
    · rintro ⟨found, apart⟩
      exact Or.inr ⟨apart, found⟩
    · rintro (⟨-, same⟩ | ⟨apart, found⟩)
      · exact absurd same SleepCall.pending_ne_resolved
      · exact ⟨found, apart⟩
  · simp only [tracked.awake stopped, List.filter_nil]

theorem sleep_cases (q : DeviceWorkQueue ε α) (call : Nat) (ms : Number) :
    q.sleep call ms = { q with sleeps := q.sleeps.insert call .resolved } ∨
      q.stopRequested = false ∧ q.sleep call ms =
        { q with
          sleeps := q.sleeps.insert call .pending
          sleepWaiters := q.sleepWaiters ++ [call] } := by
  unfold DeviceWorkQueue.sleep
  split
  · exact Or.inl rfl
  · next open_ =>
    rw [Bool.or_eq_true, not_or, Bool.not_eq_true] at open_
    exact Or.inr ⟨open_.1, rfl⟩

theorem Tracked.sleep (tracked : Tracked q) (fresh : q.sleeps call = none) (ms : Number) :
    Tracked (q.sleep call ms) := by
  have absent : call ∉ q.sleepWaiters := by
    intro member
    rw [tracked.waiting, fresh] at member
    cases member
  rcases q.sleep_cases call ms with same | ⟨running, same⟩
  · rw [same]
    refine ⟨fun other record found => ?_, fun other => ?_, tracked.distinct, tracked.awake⟩
    · rcases Table.insert_eq_some.mp found with ⟨-, rfl⟩ | ⟨-, found⟩
      · exact Or.inr rfl
      · exact tracked.known other record found
    · simp only [tracked.waiting, Table.insert_eq_some]
      constructor
      · intro found
        refine Or.inr ⟨fun here => ?_, found⟩
        rw [here, fresh] at found
        cases found
      · rintro (⟨-, same⟩ | ⟨-, found⟩)
        · exact absurd same SleepCall.pending_ne_resolved
        · exact found
  · rw [same]
    refine ⟨fun other record found => ?_, fun other => ?_, ?_, fun stopped => ?_⟩
    · rcases Table.insert_eq_some.mp found with ⟨-, rfl⟩ | ⟨-, found⟩
      · exact Or.inl rfl
      · exact tracked.known other record found
    · simp only [List.mem_append, List.mem_singleton, tracked.waiting, Table.insert_eq_some]
      by_cases here : other = call
      · simp [here]
      · simp [here]
    · exact List.nodup_append.mpr ⟨tracked.distinct, List.pairwise_singleton _ call, fun one member other single same =>
        absent (List.mem_singleton.mp single ▸ same ▸ member)⟩
    · exact absurd (running.symm.trans stopped) (by decide)

/-- Steps that are not about sleeping. -/
theorem Tracked.frame (tracked : Tracked q) (flag : t.stopRequested = true → q.stopRequested = true)
    (waiters : t.sleepWaiters = q.sleepWaiters) (sleeps : t.sleeps = q.sleeps) : Tracked t where
  known := by
    rw [sleeps]
    exact tracked.known
  waiting := by
    rw [waiters, sleeps]
    exact tracked.waiting
  distinct := by
    rw [waiters]
    exact tracked.distinct
  awake stopped := by
    rw [waiters]
    exact tracked.awake (flag stopped)

theorem Tracked.step {event : WorkQueueEvent ε α} (tracked : Tracked q) (run : q.step event = some t) :
    Tracked t := by
  cases event with
  | enqueue work address =>
    obtain ⟨-, run⟩ := Option.ite_none_right_eq_some.mp run
    cases run
    exact tracked.frame id rfl rfl
  | start work thrown =>
    simp only [DeviceWorkQueue.step] at run
    split at run
    · obtain ⟨-, run⟩ := Option.ite_none_right_eq_some.mp run
      cases thrown with
      | none =>
        cases run
        exact tracked.frame id rfl rfl
      | some error =>
        cases run
        exact tracked.frame id rfl rfl
    · cases run
  | workSettled work outcome =>
    simp only [DeviceWorkQueue.step] at run
    split at run
    · obtain ⟨-, run⟩ := Option.ite_none_right_eq_some.mp run
      cases run
      exact tracked.frame id rfl rfl
    · cases run
  | finish work =>
    simp only [DeviceWorkQueue.step] at run
    split at run
    · split at run
      · cases run
        exact tracked.frame id rfl rfl
      · cases run
    · cases run
  | stop =>
    cases run
    exact tracked.stop
  | reset =>
    cases run
    exact tracked.frame (fun stopped => nomatch stopped) rfl rfl
  | sleep call ms =>
    obtain ⟨fresh, run⟩ := Option.ite_none_right_eq_some.mp run
    cases run
    exact tracked.sleep (Option.isNone_iff_eq_none.mp fresh) ms
  | sleepTimer call =>
    simp only [DeviceWorkQueue.step] at run
    split at run
    · next record entry =>
      obtain ⟨armed, run⟩ := Option.ite_none_right_eq_some.mp run
      cases run
      rcases tracked.known call record entry with rfl | rfl
      · exact tracked.wake entry
      · cases armed
    · cases run

theorem tracked_of_reach {trace : List (WorkQueueEvent ε α)}
    (reach : Reach DeviceWorkQueue.step (fun _ _ => True) create trace q) : Tracked q := by
  refine reach.invariant (P := Tracked) ⟨?_, ?_, List.nodup_nil, fun _ => rfl⟩ fun _ _ _ tracked _ run => tracked.step run
  · exact fun _ _ entry => nomatch entry
  · exact fun call => ⟨fun member => absurd member List.not_mem_nil, fun entry => nomatch entry⟩

/-- No wake-up is lost: whatever the order of sleeps, timers, stops and resets, a
sleep resolves at most once, a stop resolves all that are pending and clears
their timers, and none blocks while the stop is requested. The set of waiters
holds the pending sleeps and no others. -/
theorem no_lost_wakeup {trace : List (WorkQueueEvent ε α)}
    (reach : Reach DeviceWorkQueue.step (fun _ _ => True) create trace q) :
    (∀ call record, q.sleeps call = some record → record.resolutions ≤ 1) ∧
    (∀ t, q.step .stop = some t → ∀ call record, q.sleeps call = some record → record.resolutions = 0 →
      t.sleeps call = some { finished := true, timerArmed := false, resolutions := 1 }) ∧
    (q.stopRequested = true → ∀ call ms t, q.step (.sleep call ms) = some t →
      t.sleeps call = some { finished := true, timerArmed := false, resolutions := 1 }) ∧
    (q.sleepWaiters.Nodup ∧ ∀ call, call ∈ q.sleepWaiters ↔
      ∃ record, q.sleeps call = some record ∧ record.resolutions = 0) ∧
    (q.stopRequested = true → q.sleepWaiters = []) := by
  have tracked := tracked_of_reach reach
  refine ⟨fun call record entry => ?_, fun t run call record entry unresolved => ?_, fun stopped call ms t run => ?_,
    ⟨tracked.distinct, fun call => ?_⟩, tracked.awake⟩
  · rcases tracked.known call record entry with rfl | rfl
    · exact Nat.zero_le 1
    · exact le_rfl
  · cases run
    rw [stop_sleeps tracked, entry]
    rcases tracked.known call record entry with rfl | rfl
    · rfl
    · cases unresolved
  · obtain ⟨-, run⟩ := Option.ite_none_right_eq_some.mp run
    cases run
    rcases q.sleep_cases call ms with same | ⟨running, -⟩
    · rw [same]
      exact Table.insert_self _ _ _
    · exact absurd (running.symm.trans stopped) (by decide)
  · rw [tracked.waiting]
    constructor
    · intro entry
      exact ⟨.pending, entry, rfl⟩
    · rintro ⟨record, entry, unresolved⟩
      rcases tracked.known call record entry with rfl | rfl
      · exact entry
      · cases unresolved

/-- Two sleeps, of which the timer of the first has fired, and a stop. -/
theorem no_lost_wakeup_stopped : ∃ q : DeviceWorkQueue Unit Unit,
    Reach DeviceWorkQueue.step (fun _ _ => True) create
      [.sleep 0 (.finite 500), .sleep 1 (.finite 5000), .sleepTimer 0, .stop] q ∧
    q.sleepWaiters = [] ∧ ∀ call record, q.sleeps call = some record → record.resolutions ≤ 1 := by
  have run : ([.sleep 0 (.finite 500), .sleep 1 (.finite 5000), .sleepTimer 0, .stop].foldlM
      DeviceWorkQueue.step (create : DeviceWorkQueue Unit Unit)).any (fun q => q.stopRequested) = true := by
    decide +kernel
  obtain ⟨q, reach, stopped⟩ := Reach.of_foldlM (fun _ _ _ => trivial) run
  obtain ⟨once, -, -, -, awake⟩ := no_lost_wakeup reach
  exact ⟨q, reach, awake stopped, once⟩

end DeviceWorkQueue

end BluettiMqtt
