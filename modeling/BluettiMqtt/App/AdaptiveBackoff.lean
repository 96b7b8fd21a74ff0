import BluettiMqtt.App.PollingState
import BluettiMqtt.Library.ClampedWalk
import BluettiMqtt.Library.Transition
import Mathlib.Tactic.Linarith

namespace BluettiMqtt
open Transition ClampedWalk

/-- The outcome of a polling cycle, as far as the schedule depends on it. -/
inductive CycleOutcome
  | busy
  | recovered
  deriving DecidableEq

def adaptPollingState (options : PollingOptions) (state : DevicePollingState) :
    CycleOutcome → DevicePollingState
  | .busy => applyBusyBackoff state options
  | .recovered => recoverPollingState state options

variable {options : PollingOptions} {state : DevicePollingState} {outcomes : List CycleOutcome}

/-- The states after any sequence of outcomes. -/
abbrev AdaptiveReach (options : PollingOptions) (outcomes : List CycleOutcome) (state : DevicePollingState) :
    Prop :=
  Reach (fun state outcome => some (adaptPollingState options state outcome)) (fun _ _ => True)
    (createDevicePollingState options) outcomes state

/-- A busy device is polled no more often than before, a recovered one no more
rarely, and none more often than configured. -/
structure Adaptive (options : PollingOptions) (state : DevicePollingState) : Prop where
  slower : state.fastIntervalMs ≤ (applyBusyBackoff state options).fastIntervalMs ∧
    state.fullIntervalMs ≤ (applyBusyBackoff state options).fullIntervalMs ∧
    state.commandDelayMs ≤ (applyBusyBackoff state options).commandDelayMs
  faster : (recoverPollingState state options).fastIntervalMs ≤ state.fastIntervalMs ∧
    (recoverPollingState state options).fullIntervalMs ≤ state.fullIntervalMs ∧
    (recoverPollingState state options).commandDelayMs ≤ state.commandDelayMs
  base : options.fastIntervalMs ≤ state.fastIntervalMs ∧ options.fullIntervalMs ≤ state.fullIntervalMs ∧
    options.commandDelayMs ≤ state.commandDelayMs

/-- Each of the three values walks between its base and its maximum. -/
theorem AdaptiveReach.walks (reach : AdaptiveReach options outcomes state) :
    Walk options.busyPenaltyMs options.recoveryStepMs options.fastIntervalMs options.maxFastIntervalMs
        options.fastIntervalMs state.fastIntervalMs ∧
      Walk (options.busyPenaltyMs * 2) (options.recoveryStepMs * 2) options.fullIntervalMs
        options.maxFullIntervalMs (max options.fullIntervalMs options.fastIntervalMs) state.fullIntervalMs ∧
      Walk options.recoveryStepMs options.recoveryStepMs options.commandDelayMs options.maxCommandDelayMs
        options.commandDelayMs state.commandDelayMs := by
  induction reach with
  | start => exact ⟨.start, .start, .start⟩
  | @next _ before outcome _ _ _ run ih =>
    obtain ⟨fast, full, delay⟩ := ih
    cases run
    cases outcome with
    | busy => exact ⟨fast.raise, full.raise, delay.raise⟩
    | recovered => exact ⟨fast.lower, full.lower, delay.lower⟩

/-- The schedule is adaptive in every reachable state exactly when it starts
within the maxima. -/
theorem adaptive_iff (penalty : 0 ≤ options.busyPenaltyMs) (step : 0 ≤ options.recoveryStepMs) :
    (∀ outcomes state, AdaptiveReach options outcomes state → Adaptive options state) ↔
      options.fastIntervalMs ≤ options.maxFastIntervalMs ∧
        max options.fullIntervalMs options.fastIntervalMs ≤ options.maxFullIntervalMs ∧
        options.commandDelayMs ≤ options.maxCommandDelayMs := by
  constructor
  · intro adaptive
    obtain ⟨fast, full, delay⟩ := (adaptive [] _ .start).slower
    exact ⟨fast.trans (min_le_right _ _), full.trans (min_le_right _ _), delay.trans (min_le_right _ _)⟩
  · rintro ⟨fastFits, fullFits, delayFits⟩ outcomes state reach
    obtain ⟨fast, full, delay⟩ := reach.walks
    obtain ⟨fastUp, fastDown, fastBase⟩ := (monotone_iff penalty step le_rfl).mpr fastFits _ fast
    obtain ⟨fullUp, fullDown, fullBase⟩ :=
      (monotone_iff (mul_nonneg penalty two_pos.le) (mul_nonneg step two_pos.le) (le_max_left _ _)).mpr fullFits _ full
    obtain ⟨delayUp, delayDown, delayBase⟩ := (monotone_iff step step le_rfl).mpr delayFits _ delay
    exact
      { slower := ⟨fastUp, fullUp, delayUp⟩
        faster := ⟨fastDown, fullDown, delayDown⟩
        base := ⟨fastBase, fullBase, delayBase⟩ }

/-- A polling interval of `n` milliseconds gives an adaptive schedule exactly
when it is at most the maximum of eight seconds. -/
theorem adaptive_backoff_iff (intervalMs : ℕ) :
    (∀ outcomes state, AdaptiveReach (normalizePollingOptions (.intervalMs intervalMs)) outcomes state →
      Adaptive (normalizePollingOptions (.intervalMs intervalMs)) state) ↔ intervalMs ≤ 8000 := by
  obtain rfl | positive := Nat.eq_zero_or_pos intervalMs
  · exact (adaptive_iff (by decide) (by decide)).trans (by decide)
  · have resolved : normalizePollingOptions (.intervalMs intervalMs) =
        { DEFAULT_POLLING_OPTIONS with
          fastIntervalMs := intervalMs
          fullIntervalMs := max (intervalMs * 4) DEFAULT_POLLING_OPTIONS.fullIntervalMs } :=
      if_neg (by exact_mod_cast positive.not_ge)
    rw [resolved]
    have penalty : (0 : ℚ) ≤ 750 := by decide
    have step : (0 : ℚ) ≤ 50 := by decide
    refine (adaptive_iff penalty step).trans ?_
    simp only [DEFAULT_POLLING_OPTIONS]
    constructor
    · rintro ⟨fast, -, -⟩
      exact_mod_cast fast
    · intro bound
      have small : (intervalMs : ℚ) ≤ 8000 := by exact_mod_cast bound
      refine ⟨small, max_le (max_le ?_ ?_) ?_, ?_⟩
      · linarith
      · norm_num
      · linarith
      · norm_num

/-- With `--interval 10` the first busy answer shortens the interval from ten
seconds to eight. -/
theorem busy_shortens_long_intervals :
    (applyBusyBackoff (createDevicePollingState (normalizePollingOptions (.intervalMs 10000)))
        (normalizePollingOptions (.intervalMs 10000))).fastIntervalMs = 8000 ∧
      ¬∀ outcomes state, AdaptiveReach (normalizePollingOptions (.intervalMs 10000)) outcomes state →
        Adaptive (normalizePollingOptions (.intervalMs 10000)) state := by
  have shortened : (applyBusyBackoff (createDevicePollingState (normalizePollingOptions (.intervalMs 10000)))
      (normalizePollingOptions (.intervalMs 10000))).fastIntervalMs = 8000 := by
    decide +kernel
  refine ⟨shortened, fun adaptive => ?_⟩
  have slower := (adaptive [] _ .start).slower.1
  rw [shortened] at slower
  exact absurd slower (by decide +kernel)

end BluettiMqtt
