import BluettiMqtt.Core.Failure
import Mathlib.Algebra.Order.Floor.Defs
import Mathlib.Data.Rat.Floor

namespace BluettiMqtt

/-- `Required<PollingOptions>`, in milliseconds. -/
structure PollingOptions where
  fastIntervalMs : ℚ
  fullIntervalMs : ℚ
  commandDelayMs : ℚ
  busyPenaltyMs : ℚ
  recoveryStepMs : ℚ
  maxFastIntervalMs : ℚ
  maxFullIntervalMs : ℚ
  maxCommandDelayMs : ℚ
  deriving DecidableEq

structure DevicePollingState where
  nextFastPollAt : ℚ
  nextFullPollAt : ℚ
  fastIntervalMs : ℚ
  fullIntervalMs : ℚ
  commandDelayMs : ℚ
  deriving DecidableEq

/-- The counters of one address. The `last…At` entries are the instants whose
ISO texts the program keeps. -/
structure DeviceTelemetry where
  cycleCount : Nat
  fastCycleCount : Nat
  fullCycleCount : Nat
  successfulCommandCount : Nat
  expectedErrorCount : Nat
  busyErrorCount : Nat
  commandWriteCount : Nat
  parserPublishCount : Nat
  totalCycleDurationMs : ℚ
  totalCommandDurationMs : ℚ
  maxCycleDurationMs : ℚ
  maxCommandDurationMs : ℚ
  lastCycleStartedAt : Option ℚ
  lastCycleCompletedAt : Option ℚ
  lastBusyAt : Option ℚ
  lastErrorAt : Option ℚ
  lastBusyWarningAtMs : ℚ
  suppressedBusyWarningCount : Nat
  lastSummaryAtMs : ℚ
  deriving DecidableEq

inductive CommandResult
  | ok
  | expectedError
  | busy
  | connectionError
  deriving DecidableEq

def DEFAULT_POLLING_OPTIONS : PollingOptions where
  fastIntervalMs := 2500
  fullIntervalMs := 15000
  commandDelayMs := 150
  busyPenaltyMs := 750
  recoveryStepMs := 50
  maxFastIntervalMs := 8000
  maxFullIntervalMs := 45000
  maxCommandDelayMs := 750

/-- A number of milliseconds, or options of which some may be missing. -/
inductive IntervalOrOptions
  | intervalMs (value : ℚ)
  | options (fastIntervalMs fullIntervalMs commandDelayMs busyPenaltyMs recoveryStepMs maxFastIntervalMs
      maxFullIntervalMs maxCommandDelayMs : Option ℚ)
  deriving DecidableEq

def normalizePollingOptions : IntervalOrOptions → PollingOptions
  | .intervalMs value =>
    if value ≤ 0 then DEFAULT_POLLING_OPTIONS
    else
      { DEFAULT_POLLING_OPTIONS with
        fastIntervalMs := value
        fullIntervalMs := max (value * 4) DEFAULT_POLLING_OPTIONS.fullIntervalMs }
  | .options fast full delay penalty step maxFast maxFull maxDelay =>
    { fastIntervalMs := fast.getD DEFAULT_POLLING_OPTIONS.fastIntervalMs
      fullIntervalMs := full.getD DEFAULT_POLLING_OPTIONS.fullIntervalMs
      commandDelayMs := delay.getD DEFAULT_POLLING_OPTIONS.commandDelayMs
      busyPenaltyMs := penalty.getD DEFAULT_POLLING_OPTIONS.busyPenaltyMs
      recoveryStepMs := step.getD DEFAULT_POLLING_OPTIONS.recoveryStepMs
      maxFastIntervalMs := maxFast.getD DEFAULT_POLLING_OPTIONS.maxFastIntervalMs
      maxFullIntervalMs := maxFull.getD DEFAULT_POLLING_OPTIONS.maxFullIntervalMs
      maxCommandDelayMs := maxDelay.getD DEFAULT_POLLING_OPTIONS.maxCommandDelayMs }

def TELEMETRY_SUMMARY_INTERVAL_MS : ℚ := 60000

def BUSY_WARNING_INTERVAL_MS : ℚ := 60000

def STARTUP_RETRY_DELAY_MS : ℚ := 5000

def MIN_PACK_SWITCH_DELAY_MS : ℚ := 500

def createDevicePollingState (options : PollingOptions) : DevicePollingState where
  nextFastPollAt := 0
  nextFullPollAt := 0
  fastIntervalMs := options.fastIntervalMs
  fullIntervalMs := max options.fullIntervalMs options.fastIntervalMs
  commandDelayMs := options.commandDelayMs

def scheduleNextPoll (state : DevicePollingState) (nextAt : ℚ) : DevicePollingState :=
  { state with
    nextFastPollAt := nextAt + state.fastIntervalMs
    nextFullPollAt := nextAt + state.fullIntervalMs }

def createDeviceTelemetry : DeviceTelemetry where
  cycleCount := 0
  fastCycleCount := 0
  fullCycleCount := 0
  successfulCommandCount := 0
  expectedErrorCount := 0
  busyErrorCount := 0
  commandWriteCount := 0
  parserPublishCount := 0
  totalCycleDurationMs := 0
  totalCommandDurationMs := 0
  maxCycleDurationMs := 0
  maxCommandDurationMs := 0
  lastCycleStartedAt := none
  lastCycleCompletedAt := none
  lastBusyAt := none
  lastErrorAt := none
  lastBusyWarningAtMs := 0
  suppressedBusyWarningCount := 0
  lastSummaryAtMs := 0

def applyBusyBackoff (state : DevicePollingState) (options : PollingOptions) : DevicePollingState :=
  { state with
    fastIntervalMs := min (state.fastIntervalMs + options.busyPenaltyMs) options.maxFastIntervalMs
    fullIntervalMs := min (state.fullIntervalMs + options.busyPenaltyMs * 2) options.maxFullIntervalMs
    commandDelayMs := min (state.commandDelayMs + options.recoveryStepMs) options.maxCommandDelayMs }

def recoverPollingState (state : DevicePollingState) (options : PollingOptions) : DevicePollingState :=
  { state with
    fastIntervalMs := max options.fastIntervalMs (state.fastIntervalMs - options.recoveryStepMs)
    fullIntervalMs := max options.fullIntervalMs (state.fullIntervalMs - options.recoveryStepMs * 2)
    commandDelayMs := max options.commandDelayMs (state.commandDelayMs - options.recoveryStepMs) }

/-- The `catch` blocks of `executeReadCommand` and `trySelectPack`; `none` when
the error is thrown on. -/
def CommandResult.ofFailure : Failure → Option CommandResult
  | .deviceBusyError _ _ => some .busy
  | .badConnectionError _ => some .connectionError
  | .commandTimeoutError _ => some .expectedError
  | .modbusError _ _ => some .expectedError
  | .parseError _ => some .expectedError
  | .error _ => none
  | .rangeError _ _ => none
  | .value _ => none

/-- `Math.round`, which takes halves up. -/
def mathRound (value : ℚ) : ℤ :=
  ⌊value + 1 / 2⌋

/-- What `summarizeTelemetry` puts into the log. -/
structure TelemetrySummary where
  cycleCount : Nat
  fastCycleCount : Nat
  fullCycleCount : Nat
  successfulCommandCount : Nat
  expectedErrorCount : Nat
  busyErrorCount : Nat
  commandWriteCount : Nat
  parserPublishCount : Nat
  averageCycleDurationMs : ℤ
  averageCommandDurationMs : ℤ
  maxCycleDurationMs : ℚ
  maxCommandDurationMs : ℚ
  lastCycleStartedAt : Option ℚ
  lastCycleCompletedAt : Option ℚ
  lastBusyAt : Option ℚ
  lastErrorAt : Option ℚ
  deriving DecidableEq

def summarizeTelemetry (telemetry : DeviceTelemetry) : TelemetrySummary where
  cycleCount := telemetry.cycleCount
  fastCycleCount := telemetry.fastCycleCount
  fullCycleCount := telemetry.fullCycleCount
  successfulCommandCount := telemetry.successfulCommandCount
  expectedErrorCount := telemetry.expectedErrorCount
  busyErrorCount := telemetry.busyErrorCount
  commandWriteCount := telemetry.commandWriteCount
  parserPublishCount := telemetry.parserPublishCount
  averageCycleDurationMs :=
    if telemetry.cycleCount = 0 then 0 else mathRound (telemetry.totalCycleDurationMs / telemetry.cycleCount)
  averageCommandDurationMs :=
    if telemetry.successfulCommandCount = 0 then 0
    else mathRound (telemetry.totalCommandDurationMs / telemetry.successfulCommandCount)
  maxCycleDurationMs := telemetry.maxCycleDurationMs
  maxCommandDurationMs := telemetry.maxCommandDurationMs
  lastCycleStartedAt := telemetry.lastCycleStartedAt
  lastCycleCompletedAt := telemetry.lastCycleCompletedAt
  lastBusyAt := telemetry.lastBusyAt
  lastErrorAt := telemetry.lastErrorAt

namespace DeviceTelemetry

variable (telemetry : DeviceTelemetry)

/-- A cycle starts. -/
def countCycle (full : Bool) (startedAt : ℚ) : DeviceTelemetry :=
  { telemetry with
    cycleCount := telemetry.cycleCount + 1
    lastCycleStartedAt := some startedAt
    fullCycleCount := if full then telemetry.fullCycleCount + 1 else telemetry.fullCycleCount
    fastCycleCount := if full then telemetry.fastCycleCount else telemetry.fastCycleCount + 1 }

/-- A command goes to the session. -/
def countWrite : DeviceTelemetry :=
  { telemetry with commandWriteCount := telemetry.commandWriteCount + 1 }

/-- The counters that a classified outcome of a read changes. -/
def countResult (result : CommandResult) (now : ℚ) : DeviceTelemetry :=
  match result with
  | .ok => { telemetry with successfulCommandCount := telemetry.successfulCommandCount + 1 }
  | .busy => { telemetry with lastBusyAt := some now }
  | .connectionError | .expectedError =>
    { telemetry with
      expectedErrorCount := telemetry.expectedErrorCount + 1
      lastErrorAt := some now }

/-- The `finally` block of `executeReadCommand`. -/
def countCommandDuration (commandDurationMs : ℚ) : DeviceTelemetry :=
  { telemetry with
    totalCommandDurationMs := telemetry.totalCommandDurationMs + commandDurationMs
    maxCommandDurationMs := max telemetry.maxCommandDurationMs commandDurationMs }

def countBusy (busyAt : ℚ) : DeviceTelemetry :=
  { telemetry with
    busyErrorCount := telemetry.busyErrorCount + 1
    lastBusyAt := some busyAt }

def maybeLogBusyWarning (now : ℚ) : DeviceTelemetry :=
  if now - telemetry.lastBusyWarningAtMs < BUSY_WARNING_INTERVAL_MS then
    { telemetry with suppressedBusyWarningCount := telemetry.suppressedBusyWarningCount + 1 }
  else
    { telemetry with
      lastBusyWarningAtMs := now
      suppressedBusyWarningCount := 0 }

def countCycleDuration (startedAt completedAt : ℚ) : DeviceTelemetry :=
  { telemetry with
    totalCycleDurationMs := telemetry.totalCycleDurationMs + (completedAt - startedAt)
    maxCycleDurationMs := max telemetry.maxCycleDurationMs (completedAt - startedAt)
    lastCycleCompletedAt := some completedAt }

def maybeLogTelemetrySummary (now : ℚ) : DeviceTelemetry :=
  if now - telemetry.lastSummaryAtMs < TELEMETRY_SUMMARY_INTERVAL_MS then telemetry
  else { telemetry with lastSummaryAtMs := now }

@[simp] theorem countWrite_cycleCount : telemetry.countWrite.cycleCount = telemetry.cycleCount := rfl

@[simp] theorem countResult_cycleCount (result : CommandResult) (now : ℚ) :
    (telemetry.countResult result now).cycleCount = telemetry.cycleCount := by
  cases result <;> rfl

@[simp] theorem countCommandDuration_cycleCount (commandDurationMs : ℚ) :
    (telemetry.countCommandDuration commandDurationMs).cycleCount = telemetry.cycleCount := rfl

@[simp] theorem countBusy_cycleCount (busyAt : ℚ) :
    (telemetry.countBusy busyAt).cycleCount = telemetry.cycleCount := rfl

@[simp] theorem maybeLogBusyWarning_cycleCount (now : ℚ) :
    (telemetry.maybeLogBusyWarning now).cycleCount = telemetry.cycleCount := by
  unfold maybeLogBusyWarning
  split <;> rfl

@[simp] theorem countCycleDuration_cycleCount (startedAt completedAt : ℚ) :
    (telemetry.countCycleDuration startedAt completedAt).cycleCount = telemetry.cycleCount := rfl

@[simp] theorem maybeLogTelemetrySummary_cycleCount (now : ℚ) :
    (telemetry.maybeLogTelemetrySummary now).cycleCount = telemetry.cycleCount := by
  unfold maybeLogTelemetrySummary
  split <;> rfl

end DeviceTelemetry

end BluettiMqtt
