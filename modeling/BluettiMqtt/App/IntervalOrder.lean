import BluettiMqtt.App.AdaptiveBackoff

namespace BluettiMqtt
open Transition ClampedWalk

variable {options : PollingOptions} {state : DevicePollingState} {outcomes : List CycleOutcome}

/-- Full polling is no more frequent than fast polling. -/
def Ordered (state : DevicePollingState) : Prop :=
  state.fastIntervalMs ≤ state.fullIntervalMs

/-- A step of the recovery, of which the full interval takes two, does not bring
the full interval below the fast one. -/
structure RecoveryFits (options : PollingOptions) (state : DevicePollingState) : Prop where
  floor : options.fastIntervalMs ≤ options.fullIntervalMs ∨
    options.fastIntervalMs + options.recoveryStepMs * 2 ≤ state.fullIntervalMs
  step : state.fastIntervalMs ≤ options.fullIntervalMs + options.recoveryStepMs ∨
    state.fastIntervalMs + options.recoveryStepMs ≤ state.fullIntervalMs

theorem createDevicePollingState_ordered (options : PollingOptions) : Ordered (createDevicePollingState options) :=
  le_max_right _ _

theorem Ordered.applyBusyBackoff (ordered : Ordered state) (penalty : 0 ≤ options.busyPenaltyMs)
    (maxima : options.maxFastIntervalMs ≤ options.maxFullIntervalMs) : Ordered (applyBusyBackoff state options) := by
  have twice : state.fastIntervalMs + options.busyPenaltyMs ≤ state.fullIntervalMs + options.busyPenaltyMs * 2 := by
    unfold Ordered at ordered
    linarith
  exact min_le_min twice maxima

theorem recoverPollingState_ordered_iff : Ordered (recoverPollingState state options) ↔ RecoveryFits options state := by
  have floor : options.fastIntervalMs ≤ state.fullIntervalMs - options.recoveryStepMs * 2 ↔
      options.fastIntervalMs + options.recoveryStepMs * 2 ≤ state.fullIntervalMs := le_sub_iff_add_le
  have near : state.fastIntervalMs - options.recoveryStepMs ≤ options.fullIntervalMs ↔
      state.fastIntervalMs ≤ options.fullIntervalMs + options.recoveryStepMs := sub_le_iff_le_add
  have apart : state.fastIntervalMs - options.recoveryStepMs ≤ state.fullIntervalMs - options.recoveryStepMs * 2 ↔
      state.fastIntervalMs + options.recoveryStepMs ≤ state.fullIntervalMs := by
    constructor <;> intro bound <;> linarith
  rw [Ordered, recoverPollingState, max_le_iff, le_max_iff, le_max_iff, floor, near, apart]
  exact ⟨fun ⟨first, second⟩ => ⟨first, second⟩, fun fits => ⟨fits.floor, fits.step⟩⟩

/-- A history in which every recovery fits leaves the schedule ordered. -/
theorem ordered_of_fits (penalty : 0 ≤ options.busyPenaltyMs)
    (maxima : options.maxFastIntervalMs ≤ options.maxFullIntervalMs) (reach : AdaptiveReach options outcomes state)
    (fits : ∀ before state, before ++ [.recovered] <+: outcomes → AdaptiveReach options before state →
      RecoveryFits options state) : Ordered state := by
  induction reach with
  | start => exact createDevicePollingState_ordered _
  | @next before earlier outcome _ reach _ run ih =>
    cases run
    have ordered := ih fun first state initial => fits first state (initial.trans (List.prefix_append _ _))
    cases outcome with
    | busy => exact ordered.applyBusyBackoff penalty maxima
    | recovered => exact recoverPollingState_ordered_iff.mpr (fits before earlier (List.prefix_refl _) reach)

/-- The fast interval never exceeds the configured full one by more than a step
of the recovery. -/
structure Roomy (options : PollingOptions) : Prop where
  penalty : 0 ≤ options.busyPenaltyMs
  step : 0 ≤ options.recoveryStepMs
  maxima : options.maxFastIntervalMs ≤ options.maxFullIntervalMs
  floor : options.fastIntervalMs ≤ options.fullIntervalMs
  near : options.maxFastIntervalMs ≤ options.fullIntervalMs + options.recoveryStepMs

theorem Roomy.recoveryFits (roomy : Roomy options) (reach : AdaptiveReach options outcomes state) :
    RecoveryFits options state := by
  have floor := roomy.floor
  have step := roomy.step
  have bounded : state.fastIntervalMs ≤ options.fullIntervalMs + options.recoveryStepMs := by
    obtain ⟨fast, -, -⟩ := reach.walks
    generalize state.fastIntervalMs = value at fast
    induction fast with
    | start => linarith
    | raise => exact (min_le_right _ _).trans roomy.near
    | lower => exact max_le (by linarith) (by linarith)
  exact ⟨Or.inl floor, Or.inl bounded⟩

/-- The intervals of the command line leave room for every recovery. -/
theorem roomy_interval (intervalMs : ℚ) : Roomy (normalizePollingOptions (.intervalMs intervalMs)) := by
  by_cases small : intervalMs ≤ 0
  · have resolved : normalizePollingOptions (.intervalMs intervalMs) = DEFAULT_POLLING_OPTIONS := if_pos small
    rw [resolved]
    exact ⟨by decide, by decide, by decide, by decide, by decide +kernel⟩
  · have resolved : normalizePollingOptions (.intervalMs intervalMs) =
        { DEFAULT_POLLING_OPTIONS with
          fastIntervalMs := intervalMs
          fullIntervalMs := max (intervalMs * 4) DEFAULT_POLLING_OPTIONS.fullIntervalMs } := if_neg small
    have fast := le_max_left (intervalMs * 4) DEFAULT_POLLING_OPTIONS.fullIntervalMs
    have full := le_max_right (intervalMs * 4) DEFAULT_POLLING_OPTIONS.fullIntervalMs
    rw [resolved]
    simp only [DEFAULT_POLLING_OPTIONS] at fast full ⊢
    constructor <;> simp only <;> linarith

/-- With an interval from the command line full polling is never more frequent
than fast polling. -/
theorem interval_schedule_ordered (intervalMs : ℚ)
    (reach : AdaptiveReach (normalizePollingOptions (.intervalMs intervalMs)) outcomes state) : Ordered state := by
  have roomy := roomy_interval intervalMs
  exact ordered_of_fits roomy.penalty roomy.maxima reach fun _ _ _ earlier => roomy.recoveryFits earlier

end BluettiMqtt
