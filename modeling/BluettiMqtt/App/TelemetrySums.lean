import BluettiMqtt.App.LoopBooks
import BluettiMqtt.App.LoopMoves
import BluettiMqtt.App.RunSettlement
import BluettiMqtt.Library.Samples

namespace BluettiMqtt
open Promise Transition Samples

namespace BookEntry

/-- How long a read has taken, whatever came of it. -/
def commandDuration : BookEntry → Option ℚ
  | .read _ _ startedAt _ finishedAt => some (finishedAt - startedAt)
  | _ => none

/-- How long a read that succeeded has taken. -/
def successDuration : BookEntry → Option ℚ
  | .read _ (.ok .ok) startedAt _ finishedAt => some (finishedAt - startedAt)
  | _ => none

/-- How long a read that did not succeed has taken. -/
def failureDuration : BookEntry → Option ℚ
  | .read _ (.ok .ok) _ _ _ => none
  | .read _ _ startedAt _ finishedAt => some (finishedAt - startedAt)
  | _ => none

/-- How long a cycle that came to its end has taken. -/
def cycleDuration : BookEntry → Option ℚ
  | .closed cycle _ clock => some (clock.completedAt - cycle.cycleStartedAt)
  | _ => none

theorem commandDuration_sum (entries : List BookEntry) : (entries.filterMap commandDuration).sum =
    (entries.filterMap successDuration).sum + (entries.filterMap failureDuration).sum := by
  induction entries with
  | nil => simp
  | cons entry rest ih =>
    have head {f : BookEntry → Option ℚ} :
        ((entry :: rest).filterMap f).sum = ((f entry).toList).sum + (rest.filterMap f).sum := by
      cases found : f entry <;> simp [found]
    have split : entry.commandDuration.toList.sum =
        entry.successDuration.toList.sum + entry.failureDuration.toList.sum := by
      cases entry with
      | read published outcome =>
        rcases outcome with error | (_ | _ | _ | _) <;> simp [commandDuration, successDuration, failureDuration]
      | _ => simp [commandDuration, successDuration, failureDuration]
    rw [head, head, head, split, ih]
    ring

theorem count_written {entries : List BookEntry} (written : ∀ entry ∈ entries, entry = .written)
    (telemetry : DeviceTelemetry) : (entries.foldl count telemetry).cycleCount = telemetry.cycleCount := by
  induction entries generalizing telemetry with
  | nil => rfl
  | cons entry rest ih =>
    obtain ⟨rfl, later⟩ := List.forall_mem_cons.mp written
    exact (ih later telemetry.countWrite).trans telemetry.countWrite_cycleCount

end BookEntry

open BookEntry

/-- What the counters of a device amount to by the entries in its books. -/
structure Accounted (entries : List BookEntry) (telemetry : DeviceTelemetry) : Prop where
  commands : telemetry.totalCommandDurationMs = (entries.filterMap commandDuration).sum
  longestCommand : telemetry.maxCommandDurationMs = peak (entries.filterMap commandDuration)
  successes : telemetry.successfulCommandCount = (entries.filterMap successDuration).length
  cycles : telemetry.totalCycleDurationMs = (entries.filterMap cycleDuration).sum
  longestCycle : telemetry.maxCycleDurationMs = peak (entries.filterMap cycleDuration)
  kinds : telemetry.cycleCount = telemetry.fastCycleCount + telemetry.fullCycleCount

namespace Accounted

variable {entries : List BookEntry} {telemetry : DeviceTelemetry}

theorem create : Accounted [] createDeviceTelemetry :=
  ⟨by simp [createDeviceTelemetry], rfl, rfl, by simp [createDeviceTelemetry], rfl, rfl⟩

/-- An entry that takes no time. -/
theorem silent (accounted : Accounted entries telemetry) {entry : BookEntry} (command : entry.commandDuration = none)
    (success : entry.successDuration = none) (cycle : entry.cycleDuration = none) :
    Accounted (entries ++ [entry]) telemetry where
  commands := by rw [filterMap_silent command]; exact accounted.commands
  longestCommand := by rw [filterMap_silent command]; exact accounted.longestCommand
  successes := by rw [filterMap_silent success]; exact accounted.successes
  cycles := by rw [filterMap_silent cycle]; exact accounted.cycles
  longestCycle := by rw [filterMap_silent cycle]; exact accounted.longestCycle
  kinds := accounted.kinds

theorem begun (accounted : Accounted entries telemetry) (full : Bool) (startedAt : ℚ) :
    Accounted (entries ++ [.begun full startedAt]) (telemetry.countCycle full startedAt) := by
  have kinds := accounted.kinds
  refine { accounted.silent rfl rfl rfl with kinds := ?_ }
  cases full <;> simp [DeviceTelemetry.countCycle] <;> omega

theorem read (accounted : Accounted entries telemetry) (published : Bool) (outcome : Except Failure CommandResult)
    (startedAt now finishedAt : ℚ) : Accounted (entries ++ [.read published outcome startedAt now finishedAt])
      (Server.countRead telemetry published outcome startedAt now finishedAt) := by
  let entry : BookEntry := .read published outcome startedAt now finishedAt
  let counted := Server.countRead telemetry published outcome startedAt now finishedAt
  have sums : counted.totalCommandDurationMs = telemetry.totalCommandDurationMs + (finishedAt - startedAt) ∧
      counted.maxCommandDurationMs = max telemetry.maxCommandDurationMs (finishedAt - startedAt) ∧
      counted.successfulCommandCount = telemetry.successfulCommandCount + entry.successDuration.toList.length ∧
      counted.totalCycleDurationMs = telemetry.totalCycleDurationMs ∧
      counted.maxCycleDurationMs = telemetry.maxCycleDurationMs ∧
      counted.cycleCount = telemetry.cycleCount ∧ counted.fastCycleCount = telemetry.fastCycleCount ∧
      counted.fullCycleCount = telemetry.fullCycleCount := by
    cases published <;> rcases outcome with error | (_ | _ | _ | _) <;> exact ⟨rfl, rfl, rfl, rfl, rfl, rfl, rfl, rfl⟩
  obtain ⟨total, longest, successes, cycles, longestCycle, count, fast, full⟩ := sums
  refine ⟨?_, ?_, ?_, ?_, ?_, ?_⟩
  · rw [filterMap_noted rfl, List.sum_append, List.sum_singleton, ← accounted.commands]
    exact total
  · rw [filterMap_noted rfl, peak_append, ← accounted.longestCommand]
    exact longest
  · refine successes.trans ?_
    rw [accounted.successes, List.filterMap_append, List.length_append]
    cases found : entry.successDuration <;> simp [entry, found] at found ⊢
  · rw [filterMap_silent rfl, ← accounted.cycles]
    exact cycles
  · rw [filterMap_silent rfl, ← accounted.longestCycle]
    exact longestCycle
  · exact count.trans (fast ▸ full ▸ accounted.kinds)

theorem maybeLogBusyWarning (accounted : Accounted entries telemetry) (now : ℚ) :
    Accounted entries (telemetry.maybeLogBusyWarning now) := by
  unfold DeviceTelemetry.maybeLogBusyWarning
  split
  · exact { accounted with }
  · exact { accounted with }

theorem maybeLogTelemetrySummary (accounted : Accounted entries telemetry) (now : ℚ) :
    Accounted entries (telemetry.maybeLogTelemetrySummary now) := by
  unfold DeviceTelemetry.maybeLogTelemetrySummary
  split
  · exact accounted
  · exact { accounted with }

theorem closed (accounted : Accounted entries telemetry) (cycle : PollingCycle) (busy : Bool) (clock : CycleClock) :
    Accounted (entries ++ [.closed cycle busy clock]) (Server.countCycleEnd telemetry cycle busy clock) := by
  have warned : Accounted entries
      (if busy then (telemetry.countBusy clock.busyAt).maybeLogBusyWarning clock.warningAt else telemetry) := by
    split
    · have busied : Accounted entries (telemetry.countBusy clock.busyAt) := { accounted with }
      exact busied.maybeLogBusyWarning clock.warningAt
    · exact accounted
  refine Accounted.maybeLogTelemetrySummary ?_ clock.summaryAt
  refine ⟨?_, ?_, ?_, ?_, ?_, warned.kinds⟩
  · rw [filterMap_silent rfl]
    exact warned.commands
  · rw [filterMap_silent rfl]
    exact warned.longestCommand
  · rw [filterMap_silent rfl]
    exact warned.successes
  · rw [filterMap_noted rfl, List.sum_append, List.sum_singleton, ← warned.cycles]
    rfl
  · rw [filterMap_noted rfl, peak_append, ← warned.longestCycle]
    rfl

/-- The books of a device and its counters agree. -/
theorem of_entries (entries : List BookEntry) : Accounted entries (entries.foldl count createDeviceTelemetry) := by
  induction entries using List.reverseRecOn with
  | nil => exact create
  | append_singleton earlier last ih =>
    rw [List.foldl_append]
    cases last with
    | begun full startedAt => exact ih.begun full startedAt
    | read published outcome startedAt now finishedAt => exact ih.read published outcome startedAt now finishedAt
    | closed cycle busy clock => exact ih.closed cycle busy clock
    | rescheduled now => exact ih.silent rfl rfl rfl
    | written => exact { ih.silent rfl rfl rfl with }

end Accounted

/-- The phases of a loop from the start of a cycle to its end. -/
def LoopPhase.inCycle : LoopPhase → Bool
  | .command _ _ _ _ _ _ => true
  | .queued _ _ => true
  | .working _ _ _ => true
  | .settling _ _ _ => true
  | .cycleEnd _ _ => true
  | _ => false

/-- How many cycles an event brings to their end. -/
def LoopEvent.closes : LoopEvent → ℕ
  | .cycleEnded _ => 1
  | _ => 0

namespace Server

variable {s t initial : Server} {trace : List ServerEvent} {index : Nat} {loop : PollingLoop} {address : String}

def cyclesUnderWay (s : Server) (address : String) : ℕ :=
  s.loops.countP fun loop => decide (loop.address = address) && loop.phase.inCycle

theorem Reconnects.not_inCycle {phase : LoopPhase} {calls : List ServerOperation} (reconnects : Reconnects s loop phase calls) :
    phase.inCycle = false := by
  cases reconnects <;> rfl

/-- A cycle is begun before it is under way, and is not under way once it has ended. -/
theorem LoopMove.cycles_le {before phase : LoopPhase} {event : LoopEvent} {calls : List ServerOperation} {cycles : Nat}
    (move : LoopMove s loop before event phase calls cycles) :
    phase.inCycle.toNat + event.closes ≤ before.inCycle.toNat + cycles := by
  cases move with
  | retries reconnects => rw [reconnects.not_inCycle]; decide
  | beginsEmpty => exact (Bool.toNat_le _).trans (le_refl 1)
  | cuts => exact (Bool.toNat_le _).trans (le_refl 1)
  | returned => exact (Bool.toNat_le _).trans (le_refl 1)
  | skipped => exact (Bool.toNat_le _).trans (le_refl 1)
  | lost => exact (Bool.toNat_le _).trans (le_refl 1)
  | _ => simp [LoopPhase.inCycle, LoopEvent.closes]

theorem Makes.closes {event : LoopEvent} {entry : BookEntry} (makes : Makes s loop event entry) :
    entry.cycleDuration.toList.length ≤ event.closes := by
  cases makes with
  | closed => exact le_refl 1
  | _ => exact le_refl 0

/-- A step of a loop brings at most one cycle of its device to an end. -/
theorem entries_closes (current : s.loops[index]? = some loop) (event : LoopEvent) (address : String) :
    ((entriesAt address (s.entries (.loop index event))).filterMap cycleDuration).length ≤
      if loop.address = address then event.closes else 0 := by
  simp only [entries, current]
  cases enters : s.loopEntry loop event with
  | none => exact Nat.zero_le _
  | some entry =>
    have closes := (loopEntry_makes enters).closes
    split
    · next here =>
      cases found : entry.cycleDuration <;> simp_all [entriesAt]
    · next away => simp [entriesAt, away]

theorem cyclesUnderWay_set {phase : LoopPhase} (current : s.loops[index]? = some loop)
    (moved : t.loops = s.loops.set index { loop with phase := phase }) (address : String) :
    t.cyclesUnderWay address + (if loop.address = address then loop.phase.inCycle.toNat else 0) =
      s.cyclesUnderWay address + if loop.address = address then phase.inCycle.toNat else 0 := by
  obtain ⟨bound, own⟩ := List.getElem?_eq_some_iff.mp current
  let counts (loop : PollingLoop) : Bool := decide (loop.address = address) && loop.phase.inCycle
  have counted := List.countP_set (p := counts) (a := { loop with phase := phase }) bound
  rw [own, ← moved] at counted
  have positive : counts loop = true → 0 < s.loops.countP counts := fun holds =>
    List.countP_pos_iff.mpr ⟨loop, List.mem_of_getElem? current, holds⟩
  change t.loops.countP counts + _ = s.loops.countP counts + _
  rw [counted]
  by_cases here : loop.address = address
  · have old : counts loop = loop.phase.inCycle := by simp [counts, here]
    have new : counts { loop with phase := phase } = phase.inCycle := by simp [counts, here]
    rw [old] at positive ⊢
    rw [new, if_pos here, if_pos here]
    cases before : loop.phase.inCycle with
    | false => cases phase.inCycle <;> rfl
    | true =>
      have live := positive before
      cases phase.inCycle
      · exact Nat.sub_add_cancel live
      · exact congrArg (· + 1) (Nat.sub_add_cancel live)
  · simp [counts, here]

/-- Only the start of the loops changes them outside their own steps. -/
theorem loops_of_step {event : ServerEvent} (run : s.step event = some t) (other : ∀ index e, event ≠ .loop index e) :
    t.loops = s.loops ∨ ∀ loop ∈ t.loops, loop.phase = .head := by
  cases step_effect run with
  | moved => exact Or.inl rfl
  | entered => exact Or.inl (connectAllWithRecovery_loops _).1
  | initialized address rest transport place result =>
    cases result with
    | fulfilled name => exact Or.inl (connectNext_loops _ _).1
    | rejected error => exact Or.inl rfl
  | connectAllReturned _ _ _ _ accounts => exact Or.inl accounts.loops
  | retried => exact Or.inl (connectAllWithRecovery_loops s).1
  | started =>
    refine Or.inr fun loop member => ?_
    obtain ⟨address, _, made⟩ := List.mem_filterMap.mp member
    obtain ⟨device, _, rfl⟩ := Option.map_eq_some_iff.mp made
    rfl
  | loop index e => exact absurd rfl (other index e)
  | joined => exact Or.inl rfl
  | cleanup outcome => exact Or.inl (s.disconnectNext_settled outcome).2.1
  | disconnected _ outcome address => exact Or.inl (disconnectNext_settled { s with sessions := s.sessions.delete address } outcome).2.1
  | commandWritten => exact Or.inl rfl
  | stop => exact Or.inl rfl

/-- Of the cycles that have begun, those that have ended and those under way are
different ones. -/
def CyclesKept (initial : Server) (trace : List ServerEvent) (s : Server) : Prop :=
  ∀ address, ((entriesAt address (initial.bookkeeping trace)).filterMap cycleDuration).length + s.cyclesUnderWay address ≤
    s.cycleCount address

theorem CyclesKept.loopStep {event : LoopEvent} (kept : CyclesKept initial trace s)
    (reach : Reach step (fun _ _ => True) initial trace s) (current : s.loops[index]? = some loop)
    (run : s.loopStep index loop event = some t) : CyclesKept initial (trace ++ [.loop index event]) t := by
  intro address
  obtain ⟨phase, calls, cycles, move, arrives⟩ := loopStep_moves run
  have history : initial.bookkeeping (trace ++ [.loop index event]) =
      initial.bookkeeping trace ++ s.entries (.loop index event) := reach.observed_next _
  have closes := entries_closes current event address
  have underWay := cyclesUnderWay_set current arrives.loops address
  have moved := move.cycles_le
  have before := kept address
  rw [history, entriesAt_append, List.filterMap_append, List.length_append]
  by_cases here : loop.address = address
  · have begun := arrives.cycles
    simp only [here, if_true] at closes underWay begun
    omega
  · have same : t.cycleCount address = s.cycleCount address := by
      have untouched := arrives.frame.telemetry address (Ne.symm here)
      simp only [cycleCount, getTelemetry, untouched]
    simp only [here, if_false] at closes underWay
    omega

theorem CyclesKept.otherStep {event : ServerEvent} {delay : ℚ → Prop} (kept : CyclesKept initial trace s)
    (reach : Reach step (fun _ _ => True) initial trace s) (booked : Booked delay initial trace s)
    (after : Booked delay initial (trace ++ [event]) t) (other : ∀ index e, event ≠ .loop index e)
    (run : s.step event = some t) : CyclesKept initial (trace ++ [event]) t := by
  intro address
  have history : initial.bookkeeping (trace ++ [event]) = initial.bookkeeping trace ++ s.entries event :=
    reach.observed_next event
  have written : ∀ entry ∈ entriesAt address (s.entries event), entry = .written := by
    intro entry member
    rcases entries_makes (mem_entriesAt.mp member) with ⟨_, written⟩ | ⟨index, loop, happened, made, _⟩
    · exact written
    · exact absurd made (other index happened)
  have closed : (entriesAt address (s.entries event)).filterMap cycleDuration = [] :=
    List.filterMap_eq_nil_iff.mpr fun entry member => by rw [written entry member]; rfl
  have same : t.cycleCount address = s.cycleCount address := by
    have books : t.books address = (entriesAt address (s.entries event)).foldl
        (enter initial.defaultPollingOptions) (s.getPollingState address, s.getTelemetry address) := by
      rw [after.books, history, entriesAt_append, List.foldl_append, ← booked.books]
      rfl
    rw [foldl_enter] at books
    exact (congrArg (fun books => books.2.cycleCount) books).trans (count_written written _)
  have fewer : t.cyclesUnderWay address ≤ s.cyclesUnderWay address := by
    rcases loops_of_step run other with loops | heads
    · exact (congrArg (List.countP _) loops).le
    · refine (List.countP_eq_zero.mpr fun loop member => ?_).le.trans (Nat.zero_le _)
      simp [heads loop member, LoopPhase.inCycle]
  have before := kept address
  rw [history, entriesAt_append, List.filterMap_append, closed, List.append_nil, same]
  omega

theorem cyclesKept_of_run (fresh : initial.loops = []) (reach : Reach step (fun _ _ => True) initial trace s)
    (clocked : Clocked trace) : CyclesKept initial trace s := by
  induction reach with
  | start => exact fun address => by simp [bookkeeping, observed, entriesAt, cyclesUnderWay, fresh]
  | @next trace s event t reach _ run ih =>
    have kept := ih clocked.initial
    have booked := booked_of_run fresh reach clocked.initial
    have after := booked_of_run fresh (.next reach trivial run) clocked
    cases event with
    | loop index e =>
      simp only [step] at run
      split at run
      · exact kept.loopStep reach ‹_› run
      · cases run
    | _ => exact kept.otherStep reach booked after (fun _ _ => ServerEvent.noConfusion) run

end Server

section Durations

variable {trace : List ServerEvent} {entry : BookEntry} {duration : ℚ}

/-- The readings of the clock are whole and in order, and so is the time between them. -/
theorem Clocked.elapsed (clocked : Clocked trace) {earlier later : ℚ} (first : earlier ∈ clockReadings trace)
    (second : later ∈ clockReadings trace) (forward : earlier ≤ later) :
    0 ≤ later - earlier ∧ ∃ n : ℤ, later - earlier = n := by
  obtain ⟨before, rfl⟩ := clocked.whole earlier first
  obtain ⟨after, rfl⟩ := clocked.whole later second
  exact ⟨sub_nonneg.mpr forward, after - before, by push_cast; rfl⟩

theorem commandDuration_whole (clocked : Clocked trace) (dated : entry.Dated (clockReadings trace))
    (timed : entry.commandDuration = some duration) : 0 ≤ duration ∧ ∃ n : ℤ, duration = n := by
  cases entry with
  | read published outcome startedAt now finishedAt =>
    cases timed
    have forward : startedAt ≤ finishedAt := (List.pairwise_cons.mp dated.forward).1 finishedAt (by simp)
    exact clocked.elapsed (dated.mem startedAt (by simp [readings])) (dated.mem finishedAt (by simp [readings])) forward
  | _ => cases timed

theorem cycleDuration_whole (clocked : Clocked trace) (dated : entry.Dated (clockReadings trace))
    (timed : entry.cycleDuration = some duration) : ∃ n : ℤ, duration = n := by
  cases entry with
  | closed cycle busy clock =>
    cases timed
    have forward : cycle.cycleStartedAt ≤ clock.completedAt :=
      (List.pairwise_cons.mp dated.forward).1 clock.completedAt (by simp)
    exact (clocked.elapsed (dated.mem _ (by simp [readings])) (dated.mem _ (by simp [readings])) forward).2
  | _ => cases timed

/-- A read that succeeds is a read, and so is one that does not. -/
theorem commandDuration_of_success (timed : entry.successDuration = some duration) :
    entry.commandDuration = some duration := by
  cases entry with
  | read published outcome => rcases outcome with error | (_ | _ | _ | _) <;> first | exact timed | cases timed
  | _ => cases timed

theorem commandDuration_of_failure (timed : entry.failureDuration = some duration) :
    entry.commandDuration = some duration := by
  cases entry with
  | read published outcome => rcases outcome with error | (_ | _ | _ | _) <;> first | exact timed | cases timed
  | _ => cases timed

end Durations

/-- The averages are at most the maxima, the total is that of the successful
commands, and every cycle is a fast or a full one. -/
structure ConsistentTelemetry (telemetry : DeviceTelemetry) (entries : List BookEntry) : Prop where
  commands : ((summarizeTelemetry telemetry).averageCommandDurationMs : ℚ) ≤
    (summarizeTelemetry telemetry).maxCommandDurationMs
  cycles : ((summarizeTelemetry telemetry).averageCycleDurationMs : ℚ) ≤ (summarizeTelemetry telemetry).maxCycleDurationMs
  total : telemetry.totalCommandDurationMs = (entries.filterMap successDuration).sum
  kinds : telemetry.cycleCount = telemetry.fastCycleCount + telemetry.fullCycleCount

namespace Server

variable {s : Server} {trace : List ServerEvent} {addresses : List String} {runOnce : Bool} {options : PollingOptions}

theorem accounted_of_run (reach : Reach step (fun _ _ => True) (create addresses runOnce options) trace s)
    (clocked : Clocked trace) (address : String) :
    Accounted (entriesAt address ((create addresses runOnce options).bookkeeping trace)) (s.getTelemetry address) := by
  have books := (booked_of_run rfl reach clocked).books address
  have fresh : (create addresses runOnce options).books address =
      (createDevicePollingState options, createDeviceTelemetry) := rfl
  rw [fresh, foldl_enter] at books
  have telemetry : s.getTelemetry address = _ := congrArg Prod.snd books
  exact telemetry ▸ Accounted.of_entries _

/-- The average duration of a cycle is at most the greatest, though a cycle that
lost its connection counts with the others. -/
theorem cycle_average_le (reach : Reach step (fun _ _ => True) (create addresses runOnce options) trace s)
    (clocked : Clocked trace) (address : String) :
    ((summarizeTelemetry (s.getTelemetry address)).averageCycleDurationMs : ℚ) ≤
      (summarizeTelemetry (s.getTelemetry address)).maxCycleDurationMs := by
  have booked := booked_of_run rfl reach clocked
  have accounted := accounted_of_run reach clocked address
  have enough : _ ≤ (s.getTelemetry address).cycleCount :=
    (Nat.le_add_right _ _).trans (cyclesKept_of_run rfl reach clocked address)
  have whole : ∀ duration ∈ (entriesAt address ((create addresses runOnce options).bookkeeping trace)).filterMap cycleDuration,
      ∃ n : ℤ, duration = n := fun duration member => by
    obtain ⟨entry, made, timed⟩ := List.mem_filterMap.mp member
    exact cycleDuration_whole clocked (booked.dated _ (mem_entriesAt.mp made)) timed
  have rounded := rounded_mean_le_peak whole enough
  rw [← accounted.cycles, ← accounted.longestCycle] at rounded
  simp only [summarizeTelemetry]
  split
  · rw [accounted.longestCycle, Int.cast_zero]
    exact peak_nonneg _
  · exact rounded

/-- The telemetry of a device is consistent exactly when no read that failed has
taken any time. -/
theorem telemetry_consistent_iff (reach : Reach step (fun _ _ => True) (create addresses runOnce options) trace s)
    (clocked : Clocked trace) (address : String) :
    ConsistentTelemetry (s.getTelemetry address) (entriesAt address ((create addresses runOnce options).bookkeeping trace)) ↔
      ∀ duration ∈ (entriesAt address ((create addresses runOnce options).bookkeeping trace)).filterMap failureDuration,
        duration = 0 := by
  have booked := booked_of_run rfl reach clocked
  have accounted := accounted_of_run reach clocked address
  have split := commandDuration_sum (entriesAt address ((create addresses runOnce options).bookkeeping trace))
  have cycles := cycle_average_le reach clocked address
  generalize made : entriesAt address ((create addresses runOnce options).bookkeeping trace) = entries at *
  have whole {entry : BookEntry} {duration : ℚ} (member : entry ∈ entries) (timed : entry.commandDuration = some duration) :
      0 ≤ duration ∧ ∃ n : ℤ, duration = n :=
    commandDuration_whole clocked (booked.dated _ (mem_entriesAt.mp (made ▸ member))) timed
  constructor
  · intro consistent duration member
    have sum : (entries.filterMap failureDuration).sum = 0 := by
      have total := consistent.total
      rw [accounted.commands, split] at total
      linarith
    refine List.all_zero_of_le_zero_le_of_sum_eq_zero (fun other found => ?_) sum member
    obtain ⟨entry, member, timed⟩ := List.mem_filterMap.mp found
    exact (whole member (commandDuration_of_failure timed)).1
  · intro instant
    have sum : (entries.filterMap failureDuration).sum = 0 := List.sum_eq_zero instant
    have total : (s.getTelemetry address).totalCommandDurationMs = (entries.filterMap successDuration).sum := by
      rw [accounted.commands, split, sum, add_zero]
    refine ⟨?_, cycles, total, accounted.kinds⟩
    have successes : ∀ duration ∈ entries.filterMap successDuration, ∃ n : ℤ, duration = n := fun duration member => by
      obtain ⟨entry, member, timed⟩ := List.mem_filterMap.mp member
      exact (whole member (commandDuration_of_success timed)).2
    have among : ∀ duration ∈ entries.filterMap successDuration, duration ∈ entries.filterMap commandDuration :=
      fun duration member => by
        obtain ⟨entry, member, timed⟩ := List.mem_filterMap.mp member
        exact List.mem_filterMap.mpr ⟨entry, member, commandDuration_of_success timed⟩
    have rounded := (rounded_mean_le_peak successes accounted.successes.ge).trans (peak_le_peak among)
    rw [← total, ← accounted.longestCommand] at rounded
    simp only [summarizeTelemetry]
    split
    · rw [accounted.longestCommand, Int.cast_zero]
      exact peak_nonneg _
    · exact rounded

/-- A station whose first read succeeds after one millisecond. -/
def firstReadSucceeded : List ServerEvent :=
  [.mqttConnected (.fulfilled ()), .mqttSubscribed (.fulfilled ()), .startPolling,
   .initialized (.fulfilled "AC602237000003358"), .connectAllReturned, .startLoops, .loop 0 (.turn 1000 1000),
   .loop 0 (.nextCommand 1000), .loop 0 .workStarted, .loop 0 (.workSettled true (.fulfilled ()) 1001 1001)]

theorem telemetry_consistent_after_success : ∃ s,
    Reach step (fun _ _ => True) (create ["24:4C:AB:2C:24:8E"] false DEFAULT_POLLING_OPTIONS) firstReadSucceeded s ∧
      (s.getTelemetry "24:4C:AB:2C:24:8E").successfulCommandCount = 1 ∧
      ConsistentTelemetry (s.getTelemetry "24:4C:AB:2C:24:8E") (entriesAt "24:4C:AB:2C:24:8E"
        ((create ["24:4C:AB:2C:24:8E"] false DEFAULT_POLLING_OPTIONS).bookkeeping firstReadSucceeded)) := by
  have run : (firstReadSucceeded.foldlM step (create ["24:4C:AB:2C:24:8E"] false DEFAULT_POLLING_OPTIONS)).any (fun s =>
      decide ((s.getTelemetry "24:4C:AB:2C:24:8E").successfulCommandCount = 1)) = true := by
    decide +kernel
  obtain ⟨s, reach, found⟩ := Reach.of_foldlM (fun _ _ _ => trivial) run
  have clocked : Clocked firstReadSucceeded := .of_numbers (by decide +kernel) (by decide +kernel)
  refine ⟨s, reach, of_decide_eq_true found, (telemetry_consistent_iff reach clocked _).mpr ?_⟩
  decide +kernel

/-- The read of the next cycle times out after ten seconds: the one command that
succeeded took a millisecond, the average is 10001 ms and the maximum 10000 ms. -/
theorem failed_read_counted : ∃ trace s,
    Reach step (fun _ _ => True) (create ["24:4C:AB:2C:24:8E"] false DEFAULT_POLLING_OPTIONS) trace s ∧ Clocked trace ∧
      (summarizeTelemetry (s.getTelemetry "24:4C:AB:2C:24:8E")).averageCommandDurationMs = 10001 ∧
      (summarizeTelemetry (s.getTelemetry "24:4C:AB:2C:24:8E")).maxCommandDurationMs = 10000 ∧
      ¬ConsistentTelemetry (s.getTelemetry "24:4C:AB:2C:24:8E") (entriesAt "24:4C:AB:2C:24:8E"
        ((create ["24:4C:AB:2C:24:8E"] false DEFAULT_POLLING_OPTIONS).bookkeeping trace)) := by
  let trace : List ServerEvent := firstReadSucceeded ++
    [.loop 0 (.cycleEnded ⟨1001, 1001, 1001, 1001, 1001⟩), .loop 0 (.turn 4000 4000), .loop 0 (.nextCommand 4000),
     .loop 0 .workStarted, .loop 0 (.workSettled false (.rejected (.commandTimeoutError
       "Timed out waiting for response from 24:4C:AB:2C:24:8E after 10000 ms")) 14000 14000)]
  have run : (trace.foldlM step (create ["24:4C:AB:2C:24:8E"] false DEFAULT_POLLING_OPTIONS)).any (fun s =>
      decide ((summarizeTelemetry (s.getTelemetry "24:4C:AB:2C:24:8E")).averageCommandDurationMs = 10001 ∧
        (summarizeTelemetry (s.getTelemetry "24:4C:AB:2C:24:8E")).maxCommandDurationMs = 10000)) = true := by
    decide +kernel
  obtain ⟨s, reach, found⟩ := Reach.of_foldlM (fun _ _ _ => trivial) run
  obtain ⟨average, longest⟩ := of_decide_eq_true found
  have clocked : Clocked trace := .of_numbers (by decide +kernel) (by decide +kernel)
  refine ⟨trace, s, reach, clocked, average, longest, fun consistent => ?_⟩
  have exceeded := consistent.commands
  rw [average, longest] at exceeded
  norm_num at exceeded

end Server

end BluettiMqtt
