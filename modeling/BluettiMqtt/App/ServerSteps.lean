import BluettiMqtt.App.Server
import BluettiMqtt.Library.Transition

namespace BluettiMqtt
open Promise

def ServerOperation.isManagerCall : ServerOperation → Bool
  | .connectAll => true
  | .reconnect _ => true
  | .perform _ _ => false

/-- The phases in which a loop is inside `manager.reconnect`. -/
def LoopPhase.reconnecting : LoopPhase → Bool
  | .releasing => true
  | .replacing _ => true
  | _ => false

namespace Server

def managerCalls (s : Server) : List ServerOperation :=
  s.operations.filter ServerOperation.isManagerCall

def cycleCount (s : Server) (address : String) : Nat :=
  (s.getTelemetry address).cycleCount

/-- Between the two states no polling cycle has started and no call of
`manager.connectAll` or `manager.reconnect` has been made. -/
def Uncounted (s t : Server) : Prop :=
  t.managerCalls = s.managerCalls ∧ ∀ address, t.cycleCount address = s.cycleCount address

theorem Uncounted.refl (s : Server) : Uncounted s s :=
  ⟨rfl, fun _ => rfl⟩

theorem Uncounted.trans {s t u : Server} (first : Uncounted s t) (second : Uncounted t u) : Uncounted s u :=
  ⟨second.1.trans first.1, fun address => (second.2 address).trans (first.2 address)⟩

/-- The second state differs from the first in the accounts kept of devices,
schedules, telemetry and operations only. A cycle or a call of the manager is
entered there only while no stop is requested. -/
structure Accounts (s t : Server) : Prop where
  addresses : t.addresses = s.addresses
  stopRequested : t.stopRequested = s.stopRequested
  phase : t.phase = s.phase
  sessions : t.sessions = s.sessions
  transports : t.transports = s.transports
  created : t.created = s.created
  loops : t.loops = s.loops
  failure : t.failure = s.failure
  uncounted : s.stopRequested = true → Uncounted s t

namespace Accounts

variable {s t u : Server}

theorem refl (s : Server) : Accounts s s :=
  ⟨rfl, rfl, rfl, rfl, rfl, rfl, rfl, rfl, fun _ => Uncounted.refl s⟩

theorem trans (first : Accounts s t) (second : Accounts t u) : Accounts s u where
  addresses := second.addresses.trans first.addresses
  stopRequested := second.stopRequested.trans first.stopRequested
  phase := second.phase.trans first.phase
  sessions := second.sessions.trans first.sessions
  transports := second.transports.trans first.transports
  created := second.created.trans first.created
  loops := second.loops.trans first.loops
  failure := second.failure.trans first.failure
  uncounted stopped :=
    (first.uncounted stopped).trans (second.uncounted (first.stopRequested.trans stopped))

theorem setLoop (accounts : Accounts s t) (index : Nat) (loop : PollingLoop) (phase : LoopPhase) :
    Accounts (s.setLoop index loop phase) (t.setLoop index loop phase) :=
  { accounts with
    loops := congrArg (·.set index { loop with phase := phase }) accounts.loops }

theorem failLoop (accounts : Accounts s t) (index : Nat) (loop : PollingLoop) (error : Failure) :
    Accounts (s.failLoop index loop error) (t.failLoop index loop error) :=
  { accounts.setLoop index loop (.failed error) with
    failure := congrArg (·.or (some error)) accounts.failure }

theorem release (accounts : Accounts s t) (transport : Nat) :
    Accounts (s.release transport) (t.release transport) :=
  { accounts with
    transports := by simp only [Server.release, accounts.transports] }

theorem openTransport (accounts : Accounts s t) : Accounts s.openTransport t.openTransport :=
  { accounts with
    transports := by simp only [Server.openTransport, accounts.transports, accounts.created]
    created := congrArg (· + 1) accounts.created }

theorem replaceSession (accounts : Accounts s t) (index : Nat) (loop : PollingLoop) :
    Accounts (s.replaceSession index loop) (t.replaceSession index loop) := by
  unfold Server.replaceSession
  rw [accounts.created]
  exact accounts.openTransport.setLoop index loop (.replacing s.created)

theorem deleteSession (accounts : Accounts s t) (address : String) :
    Accounts { s with sessions := s.sessions.delete address } { t with sessions := t.sessions.delete address } :=
  { accounts with
    sessions := congrArg (OrderedMap.delete · address) accounts.sessions }

theorem setSession (accounts : Accounts s t) (address : String) (session : ManagedSession) :
    Accounts { s with sessions := s.sessions.set address session }
      { t with sessions := t.sessions.set address session } :=
  { accounts with
    sessions := by simp only [accounts.sessions] }

theorem cycleCount_setTelemetry (s : Server) {address : String} {telemetry : DeviceTelemetry}
    (same : telemetry.cycleCount = s.cycleCount address) (other : String) :
    (s.setTelemetry address telemetry).cycleCount other = s.cycleCount other := by
  by_cases here : other = address
  · simpa [here, cycleCount, getTelemetry, Server.setTelemetry] using same
  · simp [here, cycleCount, getTelemetry, Server.setTelemetry, Table.insert]

theorem setTelemetry (s : Server) {address : String} {telemetry : DeviceTelemetry}
    (same : telemetry.cycleCount = s.cycleCount address) : Accounts s (s.setTelemetry address telemetry) where
  addresses := rfl
  stopRequested := rfl
  phase := rfl
  sessions := rfl
  transports := rfl
  created := rfl
  loops := rfl
  failure := rfl
  uncounted _ := ⟨rfl, cycleCount_setTelemetry s same⟩

theorem setPollingState (s : Server) (address : String) (state : DevicePollingState) :
    Accounts s (s.setPollingState address state) :=
  ⟨rfl, rfl, rfl, rfl, rfl, rfl, rfl, rfl, fun _ => ⟨rfl, fun _ => rfl⟩⟩

theorem countCycle {s : Server} (running : s.stopRequested = false) (address : String)
    (telemetry : DeviceTelemetry) : Accounts s (s.setTelemetry address telemetry) :=
  ⟨rfl, rfl, rfl, rfl, rfl, rfl, rfl, rfl, fun stopped => by rw [running] at stopped; cases stopped⟩

theorem recordPerform (s : Server) (address : String) (command : DeviceCommand) :
    Accounts s (s.record (.perform address command)) :=
  ⟨rfl, rfl, rfl, rfl, rfl, rfl, rfl, rfl, fun _ =>
    ⟨by simp [managerCalls, record, ServerOperation.isManagerCall], fun _ => rfl⟩⟩

theorem recordCall {s : Server} (running : s.stopRequested = false) (operation : ServerOperation) :
    Accounts s (s.record operation) :=
  ⟨rfl, rfl, rfl, rfl, rfl, rfl, rfl, rfl, fun stopped => by rw [running] at stopped; cases stopped⟩

theorem register (s : Server) (address : String) (device : BluettiDevice) :
    Accounts s (s.register address device) where
  addresses := rfl
  stopRequested := rfl
  phase := rfl
  sessions := rfl
  transports := rfl
  created := rfl
  loops := rfl
  failure := rfl
  uncounted _ := by
    refine ⟨rfl, fun other => ?_⟩
    by_cases here : other = address
    · simp [here, cycleCount, getTelemetry, Server.register]
    · simp [here, cycleCount, getTelemetry, Server.register, Table.insert]

end Accounts

/-- What a step of a polling loop does to the rest of the server, up to the
accounts. -/
inductive LoopEffect (s : Server) (index : Nat) (loop : PollingLoop) (event : LoopEvent) (t : Server) : Prop
  | moved (phase : LoopPhase) (before : loop.phase.reconnecting = false) (after : phase.reconnecting = false)
      (unfailed : ∀ error, phase ≠ .failed error) (accounts : Accounts (s.setLoop index loop phase) t)
  | failed (error : Failure) (published : Bool) (now finishedAt : ℚ) (before : loop.phase.reconnecting = false)
      (cause : event = .workSettled published (.rejected error) now finishedAt)
      (unclassified : CommandResult.ofFailure error = none)
      (accounts : Accounts (s.failLoop index loop error) t)
  | released (existing : ManagedSession) (before : loop.phase.reconnecting = false)
      (current : s.sessions.get? loop.address = some existing)
      (accounts : Accounts ((s.release existing.transport).setLoop index loop .releasing) t)
  | opened (before : loop.phase.reconnecting = false) (vacant : s.sessions.get? loop.address = none)
      (accounts : Accounts (s.replaceSession index loop) t)
  | swapped (before : loop.phase = .releasing)
      (accounts : Accounts ({ s with sessions := s.sessions.delete loop.address }.replaceSession index loop) t)
  | replaced (transport : Nat) (name : String) (before : loop.phase = .replacing transport)
      (accounts : Accounts ({ s with
        sessions := s.sessions.set loop.address { transport := transport, name := name }
        }.setLoop index loop .head) t)
  | unreplaced (transport : Nat) (before : loop.phase = .replacing transport)
      (accounts : Accounts ((s.release transport).setLoop index loop .reconnectDelay) t)

namespace LoopEffect

variable {s t : Server} {index : Nat} {loop : PollingLoop} {event : LoopEvent} {cycle : PollingCycle}

/-- Changes of the accounts may come before the effect. -/
theorem after {s' : Server} (accounts : Accounts s s') (effect : LoopEffect s' index loop event t) :
    LoopEffect s index loop event t := by
  cases effect with
  | moved phase before calm unfailed rest =>
    exact .moved phase before calm unfailed ((accounts.setLoop index loop phase).trans rest)
  | failed error published now finishedAt before cause unclassified rest =>
    exact .failed error published now finishedAt before cause unclassified
      ((accounts.failLoop index loop error).trans rest)
  | released existing before current rest =>
    rw [accounts.sessions] at current
    exact .released existing before current
      (((accounts.release existing.transport).setLoop index loop .releasing).trans rest)
  | opened before vacant rest =>
    rw [accounts.sessions] at vacant
    exact .opened before vacant ((accounts.replaceSession index loop).trans rest)
  | swapped before rest =>
    exact .swapped before (((accounts.deleteSession loop.address).replaceSession index loop).trans rest)
  | replaced transport name before rest =>
    exact .replaced transport name before
      (((accounts.setSession loop.address _).setLoop index loop .head).trans rest)
  | unreplaced transport before rest =>
    exact .unreplaced transport before
      (((accounts.release transport).setLoop index loop .reconnectDelay).trans rest)

theorem setLoop (before : loop.phase.reconnecting = false) (phase : LoopPhase)
    (calm : phase.reconnecting = false) (unfailed : ∀ error, phase ≠ .failed error) :
    LoopEffect s index loop event (s.setLoop index loop phase) :=
  .moved phase before calm unfailed (Accounts.refl _)

theorem reconnect (before : loop.phase.reconnecting = false) :
    LoopEffect s index loop event (s.reconnect index loop) := by
  unfold Server.reconnect
  split
  · exact .released _ before ‹_› (Accounts.refl _)
  · exact .opened before ‹_› (Accounts.refl _)

theorem recoverDeviceConnection (before : loop.phase.reconnecting = false) :
    LoopEffect s index loop event (s.recoverDeviceConnection index loop) := by
  unfold Server.recoverDeviceConnection
  split
  · exact setLoop before .ended rfl (by simp)
  · rename_i running
    exact (reconnect before).after (Accounts.recordCall (by simpa using running) _)

theorem connectionLost (before : loop.phase.reconnecting = false) :
    LoopEffect s index loop event (s.connectionLost index loop) := by
  unfold Server.connectionLost
  split
  · exact setLoop before .ended rfl (by simp)
  · exact recoverDeviceConnection before

theorem packsReturned (before : loop.phase.reconnecting = false) (result : CommandResult) :
    LoopEffect s index loop event (s.packsReturned index loop cycle result) := by
  cases result with
  | connectionError => exact connectionLost before
  | busy => exact setLoop before (.cycleEnd cycle true) rfl (by simp)
  | ok => exact setLoop before (.cycleEnd cycle false) rfl (by simp)
  | expectedError => exact setLoop before (.cycleEnd cycle false) rfl (by simp)

theorem runPackReads (before : loop.phase.reconnecting = false) (pack : Nat) :
    LoopEffect s index loop event (s.runPackReads index loop cycle pack) := by
  unfold Server.runPackReads
  split
  · exact packsReturned before .ok
  · exact setLoop before _ rfl (by simp)

theorem nextPack (before : loop.phase.reconnecting = false) (pack : Nat) :
    LoopEffect s index loop event (s.nextPack index loop cycle pack) := by
  unfold Server.nextPack
  split
  · exact packsReturned before .ok
  · split
    · exact setLoop before _ rfl (by simp)
    · exact runPackReads before pack

theorem runPackCommands (before : loop.phase.reconnecting = false) :
    LoopEffect s index loop event (s.runPackCommands index loop cycle) := by
  unfold Server.runPackCommands
  split
  · exact packsReturned before .ok
  · exact nextPack before 1

theorem commandSetReturned (before : loop.phase.reconnecting = false) (set : CommandSet)
    (result : CommandResult) :
    LoopEffect s index loop event (s.commandSetReturned index loop cycle set result) := by
  unfold Server.commandSetReturned
  split
  · exact connectionLost before
  · exact setLoop before _ rfl (by simp)
  · split
    · exact runPackCommands before
    · exact setLoop before _ rfl (by simp)
  · exact packsReturned before .busy
  · exact nextPack before _

theorem beginCycle (before : loop.phase.reconnecting = false) :
    LoopEffect s index loop event (s.beginCycle index loop cycle) := by
  unfold Server.beginCycle
  generalize (if cycle.shouldRunFull = true then loop.device.fastPollingCommands ++ loop.device.slowPollingCommands
    else loop.device.fastPollingCommands) = commands
  cases commands with
  | nil => exact commandSetReturned before .polling .ok
  | cons command rest => exact setLoop before _ rfl (by simp)

theorem turn (before : loop.phase.reconnecting = false) (now cycleStartedAt : ℚ) :
    LoopEffect s index loop event (s.turn index loop now cycleStartedAt) := by
  unfold Server.turn
  dsimp only
  split
  · exact setLoop before .ended rfl (by simp)
  · rename_i running
    have unstopped : s.stopRequested = false := by simpa using running
    split
    · exact (beginCycle before).after (Accounts.countCycle unstopped _ _)
    · exact setLoop before _ rfl (by simp)

theorem nextCommand (before : loop.phase.reconnecting = false) (set : CommandSet)
    (command : ReadHoldingRegisters) (rest : List ReadHoldingRegisters) (saw : Bool) (startedAt : ℚ) :
    LoopEffect s index loop event (s.nextCommand index loop cycle set command rest saw startedAt) := by
  unfold Server.nextCommand
  split
  · exact commandSetReturned before set _
  · exact setLoop before _ rfl (by simp)

theorem startWork (before : loop.phase.reconnecting = false) (work : LoopWork) :
    LoopEffect s index loop event (s.startWork index loop cycle work) := by
  unfold Server.startWork
  split
  · exact (setLoop before _ rfl (by simp)).after (Accounts.recordPerform _ _ _)
  · exact setLoop before _ rfl (by simp)

theorem failLoop {published : Bool} {result : Settlement Failure Unit} {now finishedAt : ℚ} {error : Failure}
    (before : loop.phase.reconnecting = false) (outcome : classify result = .error error) :
    LoopEffect s index loop (.workSettled published result now finishedAt) (s.failLoop index loop error) := by
  cases result with
  | fulfilled => simp [classify] at outcome
  | rejected reason =>
    simp only [classify] at outcome
    split at outcome
    · cases outcome
    · rename_i unclassified
      cases outcome
      exact .failed error published now finishedAt before rfl unclassified (Accounts.refl _)

theorem readReturned {published : Bool} {result : Settlement Failure Unit} {now finishedAt : ℚ}
    (before : loop.phase.reconnecting = false) (set : CommandSet) (rest : List ReadHoldingRegisters)
    (saw : Bool) :
    LoopEffect s index loop (.workSettled published result now finishedAt)
      (s.readReturned index loop cycle set rest saw (classify result)) := by
  unfold Server.readReturned
  split
  · exact failLoop before ‹_›
  · exact commandSetReturned before set .busy
  · exact commandSetReturned before set .connectionError
  · split
    · exact commandSetReturned before set _
    · exact setLoop before _ rfl (by simp)

theorem selectReturned {published : Bool} {result : Settlement Failure Unit} {now finishedAt : ℚ}
    (before : loop.phase.reconnecting = false) (pack : Nat) :
    LoopEffect s index loop (.workSettled published result now finishedAt)
      (s.selectReturned index loop cycle pack (classify result)) := by
  unfold Server.selectReturned
  split
  · exact failLoop before ‹_›
  · exact setLoop before _ rfl (by simp)
  · exact nextPack before _
  · exact packsReturned before .busy
  · exact packsReturned before .connectionError

end LoopEffect

theorem countRead_cycleCount (telemetry : DeviceTelemetry) (published : Bool)
    (outcome : Except Failure CommandResult) (startedAt now finishedAt : ℚ) :
    (countRead telemetry published outcome startedAt now finishedAt).cycleCount = telemetry.cycleCount := by
  cases published <;> cases outcome <;> simp [countRead]

theorem countCycleEnd_cycleCount (telemetry : DeviceTelemetry) (cycle : PollingCycle) (busy : Bool)
    (clock : CycleClock) : (countCycleEnd telemetry cycle busy clock).cycleCount = telemetry.cycleCount := by
  cases busy <;> simp [countCycleEnd]

theorem workSettled_effect {s : Server} {index : Nat} {loop : PollingLoop} {cycle : PollingCycle}
    (before : loop.phase.reconnecting = false) (published : Bool) (result : Settlement Failure Unit)
    (now finishedAt : ℚ) (work : LoopWork) :
    LoopEffect s index loop (.workSettled published result now finishedAt)
      (s.workSettled index loop cycle published result now finishedAt work) := by
  cases work with
  | read set command rest saw startedAt =>
    have counted := Accounts.setTelemetry s (countRead_cycleCount (s.getTelemetry loop.address) published
      (classify result) startedAt now finishedAt)
    exact (LoopEffect.readReturned before set rest saw).after counted
  | selectPack pack => exact LoopEffect.selectReturned before pack

theorem cycleEnded_effect {s : Server} {index : Nat} {loop : PollingLoop} {event : LoopEvent}
    (before : loop.phase.reconnecting = false) (cycle : PollingCycle) (busy : Bool) (clock : CycleClock) :
    LoopEffect s index loop event (s.cycleEnded index loop cycle busy clock) := by
  have scheduled := Accounts.setPollingState s loop.address
    (s.adjustPollingState loop.address cycle busy clock.nextAt)
  have counted := Accounts.setTelemetry (s.setPollingState loop.address
    (s.adjustPollingState loop.address cycle busy clock.nextAt))
    (countCycleEnd_cycleCount (s.getTelemetry loop.address) cycle busy clock)
  unfold cycleEnded
  split
  · exact (LoopEffect.setLoop before .ended rfl (by simp)).after (scheduled.trans counted)
  · exact (LoopEffect.setLoop before .head rfl (by simp)).after (scheduled.trans counted)

theorem replaced_effect {s : Server} {index : Nat} {loop : PollingLoop} {event : LoopEvent} {transport : Nat}
    (before : loop.phase = .replacing transport) (result : Settlement Failure String) (now : ℚ) :
    LoopEffect s index loop event (s.replaced index loop transport now result) := by
  cases result with
  | fulfilled name =>
    exact .replaced transport name before ((Accounts.setPollingState _ _ _).setLoop index loop .head)
  | rejected => exact .unreplaced transport before (Accounts.refl _)

/-- Only active loops take steps, and each step has one of the effects above. -/
theorem loopStep_effect {s t : Server} {index : Nat} {loop : PollingLoop} {event : LoopEvent}
    (run : s.loopStep index loop event = some t) :
    loop.phase.isActive = true ∧ LoopEffect s index loop event t := by
  cases event with
  | turn now cycleStartedAt =>
    obtain ⟨place, run⟩ := Option.ite_none_right_eq_some.mp run
    cases run
    exact ⟨by rw [place]; rfl, LoopEffect.turn (by rw [place]; rfl) now cycleStartedAt⟩
  | waited =>
    simp only [loopStep] at run
    split at run
    · rename_i ms place
      cases run
      exact ⟨by rw [place]; rfl, LoopEffect.setLoop (by rw [place]; rfl) .head rfl (by simp)⟩
    · cases run
  | nextCommand startedAt =>
    simp only [loopStep] at run
    split at run
    · rename_i place
      cases run
      exact ⟨by rw [place]; rfl, LoopEffect.nextCommand (by rw [place]; rfl) _ _ _ _ _⟩
    · cases run
  | workStarted =>
    simp only [loopStep] at run
    split at run
    · rename_i place
      cases run
      exact ⟨by rw [place]; rfl, LoopEffect.startWork (by rw [place]; rfl) _⟩
    · cases run
  | workSettled published result now finishedAt =>
    simp only [loopStep] at run
    split at run
    · rename_i place
      obtain ⟨_, run⟩ := Option.ite_none_right_eq_some.mp run
      cases run
      exact ⟨by rw [place]; rfl, workSettled_effect (by rw [place]; rfl) published result now finishedAt _⟩
    · cases run
  | packSettled =>
    simp only [loopStep] at run
    split at run
    · rename_i place
      cases run
      exact ⟨by rw [place]; rfl, LoopEffect.runPackReads (by rw [place]; rfl) _⟩
    · cases run
  | cycleEnded clock =>
    simp only [loopStep] at run
    split at run
    · rename_i place
      cases run
      exact ⟨by rw [place]; rfl, cycleEnded_effect (by rw [place]; rfl) _ _ clock⟩
    · cases run
  | oldReleased result =>
    obtain ⟨place, run⟩ := Option.ite_none_right_eq_some.mp run
    cases run
    exact ⟨by rw [place]; rfl, .swapped place (Accounts.refl _)⟩
  | replaced result now =>
    simp only [loopStep] at run
    split at run
    · rename_i place
      cases run
      exact ⟨by rw [place]; rfl, replaced_effect place result now⟩
    · cases run
  | reconnectDelayOver =>
    obtain ⟨place, run⟩ := Option.ite_none_right_eq_some.mp run
    cases run
    exact ⟨by rw [place]; rfl, LoopEffect.recoverDeviceConnection (by rw [place]; rfl)⟩

/-- A loop's step leaves the stop flag and the phase of the run alone, and after
a stop request it neither starts a cycle nor calls the manager. -/
theorem LoopEffect.frame {s t : Server} {index : Nat} {loop : PollingLoop} {event : LoopEvent}
    (effect : LoopEffect s index loop event t) :
    t.stopRequested = s.stopRequested ∧ t.phase = s.phase ∧ (s.stopRequested = true → Uncounted s t) := by
  cases effect with
  | moved _ _ _ _ accounts => exact ⟨accounts.stopRequested, accounts.phase, accounts.uncounted⟩
  | failed _ _ _ _ _ _ _ accounts => exact ⟨accounts.stopRequested, accounts.phase, accounts.uncounted⟩
  | released _ _ _ accounts => exact ⟨accounts.stopRequested, accounts.phase, accounts.uncounted⟩
  | opened _ _ accounts => exact ⟨accounts.stopRequested, accounts.phase, accounts.uncounted⟩
  | swapped _ accounts => exact ⟨accounts.stopRequested, accounts.phase, accounts.uncounted⟩
  | replaced _ _ _ accounts => exact ⟨accounts.stopRequested, accounts.phase, accounts.uncounted⟩
  | unreplaced _ _ accounts => exact ⟨accounts.stopRequested, accounts.phase, accounts.uncounted⟩

/-- `connectAll` of the manager ends or waits for a session it does not have. -/
theorem connectNext_cases (s : Server) (addresses : List String) :
    s.connectNext addresses = { s with phase := .connectAllSettled (.fulfilled ()) } ∨
      ∃ address rest, s.sessions.get? address = none ∧
        s.connectNext addresses = { s.openTransport with phase := .connecting address rest s.created } := by
  induction addresses with
  | nil => exact Or.inl rfl
  | cons address rest ih =>
    by_cases known : s.sessions.has address = true
    · rw [connectNext, if_pos known]
      exact ih
    · refine Or.inr ⟨address, rest, ?_, by rw [connectNext, if_neg known]⟩
      simpa [OrderedMap.has] using known

/-- The phases that `connectAll` of the handler can end in. -/
def ServerPhase.afterConnectAll (phase : ServerPhase) : Prop :=
  phase = .connected ∨ phase = .startupDelay ∨ ∃ error, phase = .settled (.rejected error)

theorem connectAllFailed_cases (s : Server) (error : Failure) :
    ∃ phase, ServerPhase.afterConnectAll phase ∧ s.connectAllFailed error = { s with phase := phase } := by
  unfold connectAllFailed
  split
  · exact ⟨.settled (.rejected error), Or.inr (Or.inr ⟨error, rfl⟩), rfl⟩
  · exact ⟨.startupDelay, Or.inr (Or.inl rfl), rfl⟩

theorem Accounts.setPhase {s t : Server} (accounts : Accounts s t) (phase : ServerPhase) :
    Accounts { s with phase := phase } { t with phase := phase } :=
  { accounts with
    phase := rfl }

theorem registerDevices_cases (s : Server) (addresses : List String) :
    ∃ phase, ServerPhase.afterConnectAll phase ∧
      Accounts { s with phase := phase } (s.registerDevices addresses) := by
  induction addresses generalizing s with
  | nil => exact ⟨.connected, Or.inl rfl, Accounts.refl _⟩
  | cons address rest ih =>
    unfold registerDevices
    split
    · rename_i device _
      obtain ⟨phase, after, accounts⟩ := ih (s.register address device)
      exact ⟨phase, after, ((Accounts.register s address device).setPhase phase).trans accounts⟩
    · rename_i error _
      obtain ⟨phase, after, failed⟩ := s.connectAllFailed_cases error
      exact ⟨phase, after, failed ▸ Accounts.refl _⟩

/-- `disconnectAll` ends or takes the first session that is left. -/
theorem disconnectNext_cases (s : Server) (outcome : Settlement Failure Unit) :
    s.sessions.entries = [] ∧ s.disconnectNext outcome = { s with phase := .mqttStopping outcome } ∨
      ∃ address session, s.sessions.get? address = some session ∧
        s.disconnectNext outcome =
          { s.release session.transport with phase := .disconnecting outcome address } := by
  unfold disconnectNext
  split
  · exact Or.inl ⟨‹_›, rfl⟩
  · rename_i address session rest entries
    exact Or.inr ⟨address, session, OrderedMap.get?_eq_some.mpr (by simp [entries]), rfl⟩

/-- The steps that take the run from one phase to the next and do nothing else. -/
inductive PhaseMove : ServerPhase → ServerEvent → ServerPhase → Prop
  | mqttConnected : PhaseMove .mqttConnecting (.mqttConnected (.fulfilled ())) .mqttSubscribing
  | mqttRefused (error : Failure) :
      PhaseMove .mqttConnecting (.mqttConnected (.rejected error)) (.done (.rejected error))
  | mqttSubscribed : PhaseMove .mqttSubscribing (.mqttSubscribed (.fulfilled ())) .mqttReady
  | mqttUnsubscribed (error : Failure) :
      PhaseMove .mqttSubscribing (.mqttSubscribed (.rejected error)) (.mqttCleaningUp error)
  | mqttCleanedUp (error : Failure) : PhaseMove (.mqttCleaningUp error) .mqttCleanedUp (.done (.rejected error))
  | mqttStopped (outcome : Settlement Failure Unit) :
      PhaseMove (.mqttStopping outcome) .mqttStopped (.done outcome)

/-- What a step of the server does, with what must hold before it. -/
inductive ServerEffect (s : Server) : ServerEvent → Server → Prop
  | moved {event : ServerEvent} (phase : ServerPhase) (move : PhaseMove s.phase event phase) :
      ServerEffect s event { s with phase := phase }
  | entered (place : s.phase = .mqttReady) : ServerEffect s .startPolling s.runHandler
  | initialized (address : String) (rest : List String) (transport : Nat)
      (place : s.phase = .connecting address rest transport) (result : Settlement Failure String) :
      ServerEffect s (.initialized result) (s.initialized address rest transport result)
  | connectAllReturned (result : Settlement Failure Unit) (place : s.phase = .connectAllSettled result)
      (phase : ServerPhase) (after : ServerPhase.afterConnectAll phase) {t : Server}
      (accounts : Accounts { s with phase := phase } t) : ServerEffect s .connectAllReturned t
  | retried (place : s.phase = .startupDelay) : ServerEffect s .startupDelayOver s.connectAllWithRecovery
  | started (place : s.phase = .connected) : ServerEffect s .startLoops s.startLoops
  | loop (index : Nat) (event : LoopEvent) (loop : PollingLoop) (current : s.loops[index]? = some loop)
      (active : loop.phase.isActive = true) {t : Server} (effect : LoopEffect s index loop event t) :
      ServerEffect s (.loop index event) t
  | joined (place : s.phase = .polling) (outcome : Settlement Failure Unit)
      (cause : s.failure ≠ none ∨ ∀ loop ∈ s.loops, loop.phase.isActive = false) :
      ServerEffect s .joined { s with phase := .settled outcome }
  | cleanup (outcome : Settlement Failure Unit) (place : s.phase = .settled outcome) :
      ServerEffect s .cleanup (s.disconnectNext outcome)
  | disconnected (result : Settlement Failure Unit) (outcome : Settlement Failure Unit) (address : String)
      (place : s.phase = .disconnecting outcome address) :
      ServerEffect s (.disconnected result)
        ({ s with sessions := s.sessions.delete address }.disconnectNext outcome)
  | commandWritten (address : String) (stored : s.sessions.has address = true) :
      ServerEffect s (.commandWritten address) (s.setTelemetry address (s.getTelemetry address).countWrite)
  | stop : ServerEffect s .stop s.stop

/-- Every step has one of the effects above. -/
theorem step_effect {s t : Server} {event : ServerEvent} (run : s.step event = some t) :
    ServerEffect s event t := by
  cases event with
  | mqttConnected result =>
    simp only [step] at run
    split at run
    · rename_i place
      cases run
      exact .moved _ (place ▸ .mqttConnected)
    · rename_i error place
      cases run
      exact .moved _ (place ▸ .mqttRefused error)
    · cases run
  | mqttSubscribed result =>
    simp only [step] at run
    split at run
    · rename_i place
      cases run
      exact .moved _ (place ▸ .mqttSubscribed)
    · rename_i error place
      cases run
      exact .moved _ (place ▸ .mqttUnsubscribed error)
    · cases run
  | mqttCleanedUp =>
    simp only [step] at run
    split at run
    · rename_i error place
      cases run
      exact .moved _ (place ▸ .mqttCleanedUp error)
    · cases run
  | startPolling =>
    obtain ⟨place, run⟩ := Option.ite_none_right_eq_some.mp run
    cases run
    exact .entered place
  | initialized result =>
    simp only [step] at run
    split at run
    · cases run
      exact .initialized _ _ _ ‹_› result
    · cases run
  | connectAllReturned =>
    simp only [step] at run
    split at run
    · cases run
      obtain ⟨phase, after, accounts⟩ := s.registerDevices_cases s.addresses
      exact .connectAllReturned _ ‹_› phase after accounts
    · rename_i error place
      cases run
      obtain ⟨phase, after, failed⟩ := s.connectAllFailed_cases error
      exact .connectAllReturned _ place phase after (failed ▸ Accounts.refl _)
    · cases run
  | startupDelayOver =>
    obtain ⟨place, run⟩ := Option.ite_none_right_eq_some.mp run
    cases run
    exact .retried place
  | startLoops =>
    obtain ⟨place, run⟩ := Option.ite_none_right_eq_some.mp run
    cases run
    exact .started place
  | loop index event =>
    simp only [step] at run
    split at run
    · obtain ⟨active, effect⟩ := loopStep_effect run
      exact .loop index event _ ‹_› active effect
    · cases run
  | joined =>
    obtain ⟨place, run⟩ := Option.ite_none_right_eq_some.mp run
    unfold Server.joined at run
    split at run
    · rename_i error failure
      cases run
      exact .joined place (.rejected error) (Or.inl (by simp [failure]))
    · obtain ⟨all, run⟩ := Option.ite_none_right_eq_some.mp run
      cases run
      exact .joined place (.fulfilled ()) (Or.inr (by simpa using all))
  | cleanup =>
    simp only [step] at run
    split at run
    · cases run
      exact .cleanup _ ‹_›
    · cases run
  | disconnected result =>
    simp only [step] at run
    split at run
    · cases run
      exact .disconnected result _ _ ‹_›
    · cases run
  | mqttStopped =>
    simp only [step] at run
    split at run
    · rename_i outcome place
      cases run
      exact .moved _ (place ▸ .mqttStopped outcome)
    · cases run
  | commandWritten address =>
    obtain ⟨stored, run⟩ := Option.ite_none_right_eq_some.mp run
    cases run
    exact .commandWritten address stored
  | stop =>
    cases run
    exact .stop

end Server

end BluettiMqtt
