import BluettiMqtt.App.ServerSteps

namespace BluettiMqtt
open Promise Transition

/-- `mqttBridge.run()` is in progress, or has just returned: `DeviceHandler.run`
has not been called. -/
def ServerPhase.isStartingMqtt : ServerPhase → Bool
  | .mqttConnecting => true
  | .mqttSubscribing => true
  | .mqttReady => true
  | _ => false

namespace Server

/-- A stop is requested, and no code is left to run that takes the request back. -/
structure StopHolds (s : Server) : Prop where
  requested : s.stopRequested = true
  entered : s.phase.isStartingMqtt = false

variable {s t : Server}

theorem connectNext_entered (requested : s.stopRequested = true) (addresses : List String) :
    StopHolds (s.connectNext addresses) ∧ Uncounted s (s.connectNext addresses) := by
  rcases s.connectNext_cases addresses with same | ⟨address, rest, _, same⟩
  · rw [same]
    exact ⟨⟨requested, rfl⟩, Uncounted.refl s⟩
  · rw [same]
    exact ⟨⟨requested, rfl⟩, Uncounted.refl s⟩

theorem disconnectNext_entered (requested : s.stopRequested = true) (outcome : Settlement Failure Unit) :
    StopHolds (s.disconnectNext outcome) ∧ Uncounted s (s.disconnectNext outcome) := by
  rcases s.disconnectNext_cases outcome with ⟨_, same⟩ | ⟨address, session, _, same⟩
  · rw [same]
    exact ⟨⟨requested, rfl⟩, Uncounted.refl s⟩
  · rw [same]
    exact ⟨⟨requested, rfl⟩, Uncounted.refl s⟩

theorem connectAll_entered (requested : s.stopRequested = true) :
    StopHolds s.connectAllWithRecovery ∧ Uncounted s s.connectAllWithRecovery := by
  rw [connectAllWithRecovery, if_pos requested]
  exact ⟨⟨requested, rfl⟩, Uncounted.refl s⟩

theorem accounts_entered {phase : ServerPhase} (requested : s.stopRequested = true)
    (after : ServerPhase.afterConnectAll phase) (accounts : Accounts { s with phase := phase } t) :
    StopHolds t ∧ Uncounted s t := by
  have entered : phase.isStartingMqtt = false := by
    rcases after with rfl | rfl | ⟨error, rfl⟩
    · rfl
    · rfl
    · rfl
  exact ⟨⟨accounts.stopRequested.trans requested, (congrArg _ accounts.phase).trans entered⟩,
    accounts.uncounted requested⟩

theorem PhaseMove.entered {event : ServerEvent} {before after : ServerPhase} (move : PhaseMove before event after)
    (entered : before.isStartingMqtt = false) : after.isStartingMqtt = false := by
  cases move with
  | mqttCleanedUp => rfl
  | mqttStopped => rfl
  | _ => cases entered

/-- Once the handler runs, every step keeps the stop request, starts no cycle
and makes no call of the manager. -/
theorem StopHolds.step {event : ServerEvent} (holds : StopHolds s) (run : s.step event = some t) :
    StopHolds t ∧ Uncounted s t := by
  obtain ⟨requested, entered⟩ := holds
  cases step_effect run with
  | moved phase move => exact ⟨⟨requested, move.entered entered⟩, Uncounted.refl s⟩
  | entered place =>
    rw [place] at entered
    cases entered
  | initialized address rest transport place result =>
    cases result with
    | fulfilled name =>
      exact connectNext_entered (s := { s with sessions := s.sessions.set address ⟨transport, name⟩ })
        requested rest
    | rejected error => exact ⟨⟨requested, rfl⟩, Uncounted.refl s⟩
  | connectAllReturned result place phase after accounts => exact accounts_entered requested after accounts
  | retried => exact connectAll_entered requested
  | started => exact ⟨⟨requested, rfl⟩, Uncounted.refl s⟩
  | loop index event loop current active effect =>
    obtain ⟨flag, phase, quiet⟩ := effect.frame
    exact ⟨⟨flag.trans requested, (congrArg _ phase).trans entered⟩, quiet requested⟩
  | joined => exact ⟨⟨requested, rfl⟩, Uncounted.refl s⟩
  | cleanup outcome => exact disconnectNext_entered requested outcome
  | disconnected result outcome address place =>
    exact disconnectNext_entered (s := { s with sessions := s.sessions.delete address }) requested outcome
  | commandWritten address =>
    exact ⟨⟨requested, entered⟩,
      (Accounts.setTelemetry s (DeviceTelemetry.countWrite_cycleCount _)).uncounted requested⟩
  | stop => exact ⟨⟨rfl, entered⟩, Uncounted.refl s⟩

theorem StopHolds.reach {guard : Server → ServerEvent → Prop} {trace : List ServerEvent} (holds : StopHolds s)
    (reach : Reach Server.step guard s trace t) : StopHolds t ∧ Uncounted s t := by
  induction reach with
  | start => exact ⟨holds, Uncounted.refl s⟩
  | next _ _ run ih =>
    obtain ⟨kept, quiet⟩ := ih.1.step run
    exact ⟨kept, ih.2.trans quiet⟩

theorem connectNext_operations (s : Server) (addresses : List String) :
    (s.connectNext addresses).operations = s.operations := by
  rcases s.connectNext_cases addresses with same | ⟨address, rest, _, same⟩
  · rw [same]
  · rw [same]
    rfl

/-- `DeviceHandler.run` forgets an earlier stop request and connects. -/
theorem runHandler_managerCalls (s : Server) : s.runHandler.managerCalls = s.managerCalls ++ [.connectAll] := by
  simp [runHandler, connectAllWithRecovery, managerCalls, connectNext_operations, record,
    ServerOperation.isManagerCall]

/-- While MQTT starts, the run can still reach the handler. -/
theorem startingMqtt_connects (starting : s.phase.isStartingMqtt = true) :
    ∃ trace t, Reach Server.step (fun _ _ => True) s trace t ∧
      t.managerCalls = s.managerCalls ++ [.connectAll] := by
  have ready : ∀ s : Server, s.phase = .mqttReady →
      ∃ trace t, Reach Server.step (fun _ _ => True) s trace t ∧
        t.managerCalls = s.managerCalls ++ [.connectAll] := by
    intro s place
    have run : s.step .startPolling = some s.runHandler := by simp [Server.step, place]
    exact ⟨_, _, .cons trivial run .start, s.runHandler_managerCalls⟩
  have subscribing : ∀ s : Server, s.phase = .mqttSubscribing →
      ∃ trace t, Reach Server.step (fun _ _ => True) s trace t ∧
        t.managerCalls = s.managerCalls ++ [.connectAll] := by
    intro s place
    have run : s.step (.mqttSubscribed (.fulfilled ())) = some { s with phase := .mqttReady } := by
      simp [Server.step, place]
    obtain ⟨trace, t, reach, calls⟩ := ready { s with phase := .mqttReady } rfl
    exact ⟨_, t, .cons trivial run reach, calls⟩
  cases place : s.phase with
  | mqttConnecting =>
    have run : s.step (.mqttConnected (.fulfilled ())) = some { s with phase := .mqttSubscribing } := by
      simp [Server.step, place]
    obtain ⟨trace, t, reach, calls⟩ := subscribing { s with phase := .mqttSubscribing } rfl
    exact ⟨_, t, .cons trivial run reach, calls⟩
  | mqttSubscribing => exact subscribing s place
  | mqttReady => exact ready s place
  | _ =>
    rw [place] at starting
    cases starting

/-- A call of `stop` is never lost exactly when `DeviceHandler.run` has been
entered before it, or never will be. -/
theorem stop_kept_iff (s : Server) :
    (∀ trace t, Reach Server.step (fun _ _ => True) s.stop trace t → Uncounted s.stop t) ↔
      s.phase.isStartingMqtt = false := by
  constructor
  · intro kept
    rw [← Bool.not_eq_true]
    intro starting
    obtain ⟨trace, t, reach, calls⟩ := startingMqtt_connects (s := s.stop) starting
    have same := (kept trace t reach).1
    rw [calls] at same
    exact absurd same (by simp)
  · intro entered trace t reach
    exact (StopHolds.reach (s := s.stop) ⟨rfl, entered⟩ reach).2

/-- A stop request made while the bridge subscribes to its topics is forgotten:
the server goes on to connect its device and to poll it. -/
theorem stop_lost_at_startup : ∃ before t,
    Reach Server.step (fun _ _ => True) (create ["24:4C:AB:2C:24:8E"] false DEFAULT_POLLING_OPTIONS)
      [.mqttConnected (.fulfilled ())] before ∧
    Reach Server.step (fun _ _ => True) before.stop
      [.mqttSubscribed (.fulfilled ()), .startPolling, .initialized (.fulfilled "AC602237000003358"),
       .connectAllReturned, .startLoops, .loop 0 (.turn 1000 1000)] t ∧
    t.managerCalls = before.stop.managerCalls ++ [.connectAll] ∧
    t.cycleCount "24:4C:AB:2C:24:8E" = before.stop.cycleCount "24:4C:AB:2C:24:8E" + 1 := by
  let before : Server :=
    { create ["24:4C:AB:2C:24:8E"] false DEFAULT_POLLING_OPTIONS with phase := .mqttSubscribing }
  let later : List ServerEvent :=
    [.mqttSubscribed (.fulfilled ()), .startPolling, .initialized (.fulfilled "AC602237000003358"),
     .connectAllReturned, .startLoops, .loop 0 (.turn 1000 1000)]
  have run : (later.foldlM Server.step before.stop).any (fun t =>
      t.managerCalls = [.connectAll] ∧ t.cycleCount "24:4C:AB:2C:24:8E" = 1) = true := by
    decide +kernel
  obtain ⟨t, reach, found⟩ := Reach.of_foldlM (fun _ _ _ => trivial) run
  obtain ⟨calls, cycles⟩ := of_decide_eq_true found
  exact ⟨before, t, .cons trivial rfl .start, reach, calls, cycles⟩

end Server

end BluettiMqtt
