import BluettiMqtt.App.ServerSteps

namespace BluettiMqtt
open Promise

namespace Server

/-- What a step of the loop of one device leaves alone. -/
structure LoopFrame (s t : Server) (address : String) : Prop where
  addresses : t.addresses = s.addresses
  runOnce : t.runOnce = s.runOnce
  stopRequested : t.stopRequested = s.stopRequested
  phase : t.phase = s.phase
  devices : t.devices = s.devices
  sessions : ∀ other, other ≠ address → t.sessions.get? other = s.sessions.get? other
  pollingState : ∀ other, other ≠ address → t.pollingState other = s.pollingState other
  telemetry : ∀ other, other ≠ address → t.telemetry other = s.telemetry other

/-- The loop is at another phase; `calls` are the operations it has entered and
`cycles` tells whether it has begun a cycle. -/
structure Arrives (s : Server) (index : Nat) (loop : PollingLoop) (phase : LoopPhase)
    (calls : List ServerOperation) (cycles : Nat) (t : Server) : Prop where
  frame : LoopFrame s t loop.address
  loops : t.loops = s.loops.set index { loop with phase := phase }
  operations : t.operations = s.operations ++ calls
  cycles : t.cycleCount loop.address = s.cycleCount loop.address + cycles
  failure : (∀ error, phase ≠ .failed error) → t.failure = s.failure

/-- What a loop does once its connection is to be replaced. -/
inductive Reconnects (s : Server) (loop : PollingLoop) : LoopPhase → List ServerOperation → Prop
  | ended (stopped : s.stopRequested = true) : Reconnects s loop .ended []
  | releasing (running : s.stopRequested = false) : Reconnects s loop .releasing [.reconnect loop.address]
  | replacing (running : s.stopRequested = false) (transport : Nat) :
      Reconnects s loop (.replacing transport) [.reconnect loop.address]

inductive Loses (s : Server) (loop : PollingLoop) : LoopPhase → List ServerOperation → Prop
  | ended (once : s.runOnce = true) : Loses s loop .ended []
  | reconnects {phase : LoopPhase} {calls : List ServerOperation} (lasting : s.runOnce = false)
      (reconnects : Reconnects s loop phase calls) : Loses s loop phase calls

/-- The test of `runPackCommands` before each pack. -/
def selectsPacks (device : BluettiDevice) : Bool :=
  decide (1 < device.packNumMax) && device.hasFieldSetter "pack_num"

/-- What comes before the reads of a pack, or after those of the last. -/
inductive PackMove (loop : PollingLoop) (cycle : PollingCycle) (pack : Nat) : LoopPhase → Prop
  | done : PackMove loop cycle pack (.cycleEnd cycle false)
  | selects (bound : pack ≤ loop.device.packNumMax) (selecting : selectsPacks loop.device = true) :
      PackMove loop cycle pack (.queued cycle (.selectPack pack))
  | reads (bound : pack ≤ loop.device.packNumMax) (command : ReadHoldingRegisters) (rest : List ReadHoldingRegisters)
      (plain : selectsPacks loop.device = false) :
      PackMove loop cycle pack (.command cycle (.pack pack) command rest false none)

/-- What comes after a command set, by its result. -/
inductive SetMove (s : Server) (loop : PollingLoop) (cycle : PollingCycle) :
    CommandSet → CommandResult → LoopPhase → List ServerOperation → Prop
  | lost {phase : LoopPhase} {calls : List ServerOperation} (loses : Loses s loop phase calls) :
      SetMove s loop cycle .polling .connectionError phase calls
  | busy (set : CommandSet) : SetMove s loop cycle set .busy (.cycleEnd cycle true) []
  | ended (result : CommandResult) (good : result = .ok ∨ result = .expectedError) :
      SetMove s loop cycle .polling result (.cycleEnd cycle false) []
  | packs (result : CommandResult) (good : result = .ok ∨ result = .expectedError) {phase : LoopPhase}
      (move : PackMove loop cycle 1 phase) : SetMove s loop cycle .polling result phase []
  | next (pack : Nat) (result : CommandResult) (patient : result ≠ .busy) {phase : LoopPhase}
      (move : PackMove loop cycle (pack + 1) phase) : SetMove s loop cycle (.pack pack) result phase []

/-- The operation that the start of a work enters. -/
def startedCalls (s : Server) (loop : PollingLoop) (work : LoopWork) : List ServerOperation :=
  match s.request loop work with
  | .ok command => [.perform loop.address command]
  | .error _ => []

/-- What a work has thrown before it reaches the session. -/
def startFailure (s : Server) (loop : PollingLoop) (work : LoopWork) : Option Failure :=
  match s.request loop work with
  | .ok _ => none
  | .error error => some error

/-- Where each event takes a loop, with the operations it enters and the cycles
it begins. -/
inductive LoopMove (s : Server) (loop : PollingLoop) :
    LoopPhase → LoopEvent → LoopPhase → List ServerOperation → Nat → Prop
  | stopped (now startedAt : ℚ) (stopped : s.stopRequested = true) :
      LoopMove s loop .head (.turn now startedAt) .ended [] 0
  | waits (now startedAt ms : ℚ) (running : s.stopRequested = false)
      (early : now < (s.getPollingState loop.address).nextFastPollAt) :
      LoopMove s loop .head (.turn now startedAt) (.waiting ms) [] 0
  | begins (now startedAt : ℚ) (running : s.stopRequested = false) (cycle : PollingCycle)
      (command : ReadHoldingRegisters) (rest : List ReadHoldingRegisters) :
      LoopMove s loop .head (.turn now startedAt) (.command cycle .polling command rest false none) [] 1
  | beginsEmpty (now startedAt : ℚ) (running : s.stopRequested = false) (cycle : PollingCycle)
      (nothing : loop.device.fastPollingCommands = []) {phase : LoopPhase} {calls : List ServerOperation}
      (move : SetMove s loop cycle .polling .ok phase calls) : LoopMove s loop .head (.turn now startedAt) phase calls 1
  | woke (ms : ℚ) : LoopMove s loop (.waiting ms) .waited .head [] 0
  | enqueues {cycle : PollingCycle} {set : CommandSet} {command : ReadHoldingRegisters}
      {rest : List ReadHoldingRegisters} {saw : Bool} {delay : Option ℚ} (startedAt : ℚ)
      (running : s.stopRequested = false) :
      LoopMove s loop (.command cycle set command rest saw delay) (.nextCommand startedAt)
        (.queued cycle (.read set command rest saw startedAt)) [] 0
  | cuts {cycle : PollingCycle} {set : CommandSet} {command : ReadHoldingRegisters}
      {rest : List ReadHoldingRegisters} {saw : Bool} {delay : Option ℚ} (startedAt : ℚ)
      (stopped : s.stopRequested = true) {phase : LoopPhase} {calls : List ServerOperation}
      (move : SetMove s loop cycle set (setResult saw) phase calls) :
      LoopMove s loop (.command cycle set command rest saw delay) (.nextCommand startedAt) phase calls 0
  | starts {cycle : PollingCycle} {work : LoopWork} : LoopMove s loop (.queued cycle work) .workStarted
      (.working cycle work (startFailure s loop work)) (startedCalls s loop work) 0
  | fails {cycle : PollingCycle} {work : LoopWork} {thrown : Option Failure} (published : Bool) (error : Failure)
      (now finishedAt : ℚ) (unclassified : CommandResult.ofFailure error = none) :
      LoopMove s loop (.working cycle work thrown) (.workSettled published (.rejected error) now finishedAt)
        (.failed error) [] 0
  | returned {cycle : PollingCycle} {set : CommandSet} {command : ReadHoldingRegisters}
      {rest : List ReadHoldingRegisters} {saw : Bool} {startedAt : ℚ} {thrown : Option Failure} (published : Bool)
      (outcome : Settlement Failure Unit) (now finishedAt : ℚ) (result : CommandResult)
      (classified : classify outcome = .ok result)
      (over_ : result = .busy ∨ result = .connectionError ∨ rest = [])
      (final : CommandResult) (same : result = .busy ∨ result = .connectionError → final = result)
      (mild : result = .ok ∨ result = .expectedError → final = .ok ∨ final = .expectedError)
      {phase : LoopPhase} {calls : List ServerOperation} (move : SetMove s loop cycle set final phase calls) :
      LoopMove s loop (.working cycle (.read set command rest saw startedAt) thrown)
        (.workSettled published outcome now finishedAt) phase calls 0
  | nextRead {cycle : PollingCycle} {set : CommandSet} {command next : ReadHoldingRegisters}
      {rest : List ReadHoldingRegisters} {saw : Bool} {startedAt : ℚ} {thrown : Option Failure} (published : Bool)
      (outcome : Settlement Failure Unit) (now finishedAt : ℚ) (result : CommandResult)
      (classified : classify outcome = .ok result) (good : result = .ok ∨ result = .expectedError)
      (delay : Option ℚ) :
      LoopMove s loop (.working cycle (.read set command (next :: rest) saw startedAt) thrown)
        (.workSettled published outcome now finishedAt)
        (.command cycle set next rest (saw || decide (result = .expectedError)) delay) [] 0
  | selected {cycle : PollingCycle} {pack : Nat} {thrown : Option Failure} (published : Bool) (now finishedAt ms : ℚ) :
      LoopMove s loop (.working cycle (.selectPack pack) thrown) (.workSettled published (.fulfilled ()) now finishedAt)
        (.settling cycle pack ms) [] 0
  | skipped {cycle : PollingCycle} {pack : Nat} {thrown : Option Failure} (published : Bool) (error : Failure)
      (now finishedAt : ℚ) (classified : CommandResult.ofFailure error = some .expectedError) {phase : LoopPhase}
      (move : PackMove loop cycle (pack + 1) phase) :
      LoopMove s loop (.working cycle (.selectPack pack) thrown)
        (.workSettled published (.rejected error) now finishedAt) phase [] 0
  | busy {cycle : PollingCycle} {pack : Nat} {thrown : Option Failure} (published : Bool) (error : Failure)
      (now finishedAt : ℚ) (classified : CommandResult.ofFailure error = some .busy) :
      LoopMove s loop (.working cycle (.selectPack pack) thrown)
        (.workSettled published (.rejected error) now finishedAt) (.cycleEnd cycle true) [] 0
  | lost {cycle : PollingCycle} {pack : Nat} {thrown : Option Failure} (published : Bool) (error : Failure)
      (now finishedAt : ℚ) (classified : CommandResult.ofFailure error = some .connectionError)
      {phase : LoopPhase} {calls : List ServerOperation} (loses : Loses s loop phase calls) :
      LoopMove s loop (.working cycle (.selectPack pack) thrown)
        (.workSettled published (.rejected error) now finishedAt) phase calls 0
  | settled {cycle : PollingCycle} {pack : Nat} {ms : ℚ} {command : ReadHoldingRegisters}
      {rest : List ReadHoldingRegisters} :
      LoopMove s loop (.settling cycle pack ms) .packSettled (.command cycle (.pack pack) command rest false none) [] 0
  | unread {cycle : PollingCycle} {pack : Nat} {ms : ℚ} :
      LoopMove s loop (.settling cycle pack ms) .packSettled (.cycleEnd cycle false) [] 0
  | ends {cycle : PollingCycle} {busy : Bool} (clock : CycleClock) (lasting : s.runOnce = false)
      (running : s.stopRequested = false) : LoopMove s loop (.cycleEnd cycle busy) (.cycleEnded clock) .head [] 0
  | leaves {cycle : PollingCycle} {busy : Bool} (clock : CycleClock)
      (last : s.runOnce = true ∨ s.stopRequested = true) :
      LoopMove s loop (.cycleEnd cycle busy) (.cycleEnded clock) .ended [] 0
  | released (result : Settlement Failure Unit) (transport : Nat) :
      LoopMove s loop .releasing (.oldReleased result) (.replacing transport) [] 0
  | replaced (transport : Nat) (name : String) (now : ℚ) :
      LoopMove s loop (.replacing transport) (.replaced (.fulfilled name) now) .head [] 0
  | unreplaced (transport : Nat) (error : Failure) (now : ℚ) :
      LoopMove s loop (.replacing transport) (.replaced (.rejected error) now) .reconnectDelay [] 0
  | retries {phase : LoopPhase} {calls : List ServerOperation} (reconnects : Reconnects s loop phase calls) :
      LoopMove s loop .reconnectDelay .reconnectDelayOver phase calls 0

variable {s t u : Server} {index : Nat} {loop : PollingLoop} {cycle : PollingCycle} {address : String}

theorem LoopFrame.trans (first : LoopFrame s t address) (second : LoopFrame t u address) : LoopFrame s u address where
  addresses := second.addresses.trans first.addresses
  runOnce := second.runOnce.trans first.runOnce
  stopRequested := second.stopRequested.trans first.stopRequested
  phase := second.phase.trans first.phase
  devices := second.devices.trans first.devices
  sessions other different := (second.sessions other different).trans (first.sessions other different)
  pollingState other different := (second.pollingState other different).trans (first.pollingState other different)
  telemetry other different := (second.telemetry other different).trans (first.telemetry other different)

theorem LoopFrame.setTelemetry (s : Server) (address : String) (telemetry : DeviceTelemetry) :
    LoopFrame s (s.setTelemetry address telemetry) address :=
  ⟨rfl, rfl, rfl, rfl, rfl, fun _ _ => rfl, fun _ _ => rfl, fun _ different => Table.insert_of_ne _ _ different⟩

theorem LoopFrame.setPollingState (s : Server) (address : String) (state : DevicePollingState) :
    LoopFrame s (s.setPollingState address state) address :=
  ⟨rfl, rfl, rfl, rfl, rfl, fun _ _ => rfl, fun _ different => Table.insert_of_ne _ _ different, fun _ _ => rfl⟩

theorem LoopFrame.record (s : Server) (address : String) (operation : ServerOperation) :
    LoopFrame s (s.record operation) address :=
  ⟨rfl, rfl, rfl, rfl, rfl, fun _ _ => rfl, fun _ _ => rfl, fun _ _ => rfl⟩

/-- The loop moves after accounts of its device have been kept. -/
theorem Arrives.after {phase : LoopPhase} {first calls : List ServerOperation} {cycles begun : Nat}
    (frame : LoopFrame s t loop.address) (loops : t.loops = s.loops) (operations : t.operations = s.operations ++ first)
    (counted : t.cycleCount loop.address = s.cycleCount loop.address + begun) (failure : t.failure = s.failure)
    (arrives : Arrives t index loop phase calls cycles u) : Arrives s index loop phase (first ++ calls) (begun + cycles) u where
  frame := frame.trans arrives.frame
  loops := by rw [arrives.loops, loops]
  operations := by rw [arrives.operations, operations, List.append_assoc]
  cycles := by rw [arrives.cycles, counted, Nat.add_assoc]
  failure unfailed := (arrives.failure unfailed).trans failure

theorem Arrives.setLoop (s : Server) (index : Nat) (loop : PollingLoop) (phase : LoopPhase) :
    Arrives s index loop phase [] 0 (s.setLoop index loop phase) :=
  ⟨⟨rfl, rfl, rfl, rfl, rfl, fun _ _ => rfl, fun _ _ => rfl, fun _ _ => rfl⟩, rfl, (List.append_nil _).symm, rfl,
    fun _ => rfl⟩

theorem reconnect_arrives (s : Server) (index : Nat) (loop : PollingLoop) :
    (∃ transport, Arrives s index loop (.replacing transport) [] 0 (s.reconnect index loop)) ∨
      Arrives s index loop .releasing [] 0 (s.reconnect index loop) := by
  unfold Server.reconnect
  split
  · exact Or.inr ⟨⟨rfl, rfl, rfl, rfl, rfl, fun _ _ => rfl, fun _ _ => rfl, fun _ _ => rfl⟩, rfl,
      (List.append_nil _).symm, rfl, fun _ => rfl⟩
  · exact Or.inl ⟨s.created, ⟨rfl, rfl, rfl, rfl, rfl, fun _ _ => rfl, fun _ _ => rfl, fun _ _ => rfl⟩, rfl,
      (List.append_nil _).symm, rfl, fun _ => rfl⟩

theorem recoverDeviceConnection_arrives (s : Server) (index : Nat) (loop : PollingLoop) :
    ∃ phase calls, Reconnects s loop phase calls ∧
      Arrives s index loop phase calls 0 (s.recoverDeviceConnection index loop) := by
  unfold Server.recoverDeviceConnection
  cases stopped : s.stopRequested with
  | true => exact ⟨.ended, [], .ended stopped, .setLoop s index loop .ended⟩
  | false =>
    have frame := LoopFrame.record s loop.address (.reconnect loop.address)
    rcases (s.record (.reconnect loop.address)).reconnect_arrives index loop with ⟨transport, arrives⟩ | arrives
    · exact ⟨.replacing transport, _, .replacing stopped transport, arrives.after frame rfl rfl rfl rfl⟩
    · exact ⟨.releasing, _, .releasing stopped, arrives.after frame rfl rfl rfl rfl⟩

theorem connectionLost_arrives (s : Server) (index : Nat) (loop : PollingLoop) :
    ∃ phase calls, Loses s loop phase calls ∧ Arrives s index loop phase calls 0 (s.connectionLost index loop) := by
  unfold Server.connectionLost
  cases once : s.runOnce with
  | true => exact ⟨.ended, [], .ended once, .setLoop s index loop .ended⟩
  | false =>
    obtain ⟨phase, calls, reconnects, arrives⟩ := s.recoverDeviceConnection_arrives index loop
    exact ⟨phase, calls, .reconnects once reconnects, arrives⟩

theorem runPackReads_arrives (s : Server) (index : Nat) (loop : PollingLoop) (cycle : PollingCycle) (pack : Nat) :
    Arrives s index loop (.cycleEnd cycle false) [] 0 (s.runPackReads index loop cycle pack) ∨
      ∃ command rest, Arrives s index loop (.command cycle (.pack pack) command rest false none) [] 0
        (s.runPackReads index loop cycle pack) := by
  unfold Server.runPackReads
  split
  · exact Or.inl (.setLoop s index loop _)
  · rename_i command rest _
    exact Or.inr ⟨command, rest, .setLoop s index loop _⟩

theorem nextPack_arrives (s : Server) (index : Nat) (loop : PollingLoop) (cycle : PollingCycle) (pack : Nat) :
    ∃ phase, PackMove loop cycle pack phase ∧ Arrives s index loop phase [] 0 (s.nextPack index loop cycle pack) := by
  unfold Server.nextPack
  split
  · exact ⟨_, .done, .setLoop s index loop _⟩
  · rename_i going
    have bound : pack ≤ loop.device.packNumMax := by
      have within := (Bool.or_eq_false_iff.mp (Bool.eq_false_iff.mpr going)).1
      exact Nat.le_of_not_lt (of_decide_eq_false within)
    split
    · rename_i selecting
      exact ⟨_, .selects bound selecting, .setLoop s index loop _⟩
    · rename_i plain
      rcases s.runPackReads_arrives index loop cycle pack with arrives | ⟨command, rest, arrives⟩
      · exact ⟨_, .done, arrives⟩
      · exact ⟨_, .reads bound command rest (Bool.eq_false_iff.mpr plain), arrives⟩

theorem runPackCommands_arrives (s : Server) (index : Nat) (loop : PollingLoop) (cycle : PollingCycle) :
    ∃ phase, PackMove loop cycle 1 phase ∧ Arrives s index loop phase [] 0 (s.runPackCommands index loop cycle) := by
  unfold Server.runPackCommands
  split
  · exact ⟨_, .done, .setLoop s index loop _⟩
  · exact s.nextPack_arrives index loop cycle 1

theorem commandSetReturned_arrives (s : Server) (index : Nat) (loop : PollingLoop) (cycle : PollingCycle)
    (set : CommandSet) (result : CommandResult) :
    ∃ phase calls, SetMove s loop cycle set result phase calls ∧
      Arrives s index loop phase calls 0 (s.commandSetReturned index loop cycle set result) := by
  cases set with
  | polling =>
    have good (result : CommandResult) (good : result = .ok ∨ result = .expectedError) :
        ∃ phase calls, SetMove s loop cycle .polling result phase calls ∧ Arrives s index loop phase calls 0
          (if cycle.shouldRunFull then s.runPackCommands index loop cycle
            else s.setLoop index loop (.cycleEnd cycle false)) := by
      split
      · obtain ⟨phase, move, arrives⟩ := s.runPackCommands_arrives index loop cycle
        exact ⟨phase, [], .packs result good move, arrives⟩
      · exact ⟨_, [], .ended result good, .setLoop s index loop _⟩
    cases result with
    | ok => exact good .ok (Or.inl rfl)
    | busy => exact ⟨_, [], .busy .polling, .setLoop s index loop _⟩
    | connectionError =>
      obtain ⟨phase, calls, loses, arrives⟩ := s.connectionLost_arrives index loop
      exact ⟨phase, calls, .lost loses, arrives⟩
    | expectedError => exact good .expectedError (Or.inr rfl)
  | pack pack =>
    obtain ⟨phase, move, arrives⟩ := s.nextPack_arrives index loop cycle (pack + 1)
    cases result with
    | busy => exact ⟨_, [], .busy (.pack pack), .setLoop s index loop _⟩
    | ok => exact ⟨phase, [], .next pack .ok (by decide) move, arrives⟩
    | connectionError => exact ⟨phase, [], .next pack .connectionError (by decide) move, arrives⟩
    | expectedError => exact ⟨phase, [], .next pack .expectedError (by decide) move, arrives⟩

/-- Where one event of a loop takes it. -/
def Moves (s : Server) (index : Nat) (loop : PollingLoop) (event : LoopEvent) (t : Server) : Prop :=
  ∃ phase calls cycles, LoopMove s loop loop.phase event phase calls cycles ∧
    Arrives s index loop phase calls cycles t

theorem getTelemetry_setTelemetry (s : Server) (address : String) (telemetry : DeviceTelemetry) :
    (s.setTelemetry address telemetry).getTelemetry address = telemetry := by
  simp [getTelemetry, setTelemetry]

theorem setTelemetry_cycleCount {telemetry : DeviceTelemetry} {cycles : Nat}
    (counted : telemetry.cycleCount = s.cycleCount address + cycles) :
    (s.setTelemetry address telemetry).cycleCount address = s.cycleCount address + cycles := by
  rw [cycleCount, getTelemetry_setTelemetry, counted]

theorem Reconnects.before {phase : LoopPhase} {calls : List ServerOperation} (frame : LoopFrame s t address)
    (reconnects : Reconnects t loop phase calls) : Reconnects s loop phase calls := by
  cases reconnects with
  | ended stopped => exact .ended (frame.stopRequested.symm.trans stopped)
  | releasing running => exact .releasing (frame.stopRequested.symm.trans running)
  | replacing running transport => exact .replacing (frame.stopRequested.symm.trans running) transport

theorem Loses.before {phase : LoopPhase} {calls : List ServerOperation} (frame : LoopFrame s t address)
    (loses : Loses t loop phase calls) : Loses s loop phase calls := by
  cases loses with
  | ended once => exact .ended (frame.runOnce.symm.trans once)
  | reconnects lasting reconnects => exact .reconnects (frame.runOnce.symm.trans lasting) (reconnects.before frame)

/-- What comes after a command set reads nothing that keeping accounts changes. -/
theorem SetMove.before {set : CommandSet} {result : CommandResult} {phase : LoopPhase}
    {calls : List ServerOperation} (frame : LoopFrame s t address) (move : SetMove t loop cycle set result phase calls) :
    SetMove s loop cycle set result phase calls := by
  cases move with
  | lost loses => exact .lost (loses.before frame)
  | busy => exact .busy set
  | ended _ good => exact .ended result good
  | packs _ good move => exact .packs result good move
  | next pack _ patient move => exact .next pack result patient move

theorem turn_moves (place : loop.phase = .head) (now cycleStartedAt : ℚ) :
    Moves s index loop (.turn now cycleStartedAt) (s.turn index loop now cycleStartedAt) := by
  unfold Moves Server.turn
  rw [place]
  cases stopped : s.stopRequested with
  | true => exact ⟨.ended, [], 0, .stopped now cycleStartedAt stopped, .setLoop s index loop .ended⟩
  | false =>
    dsimp only
    rw [if_neg (by simp)]
    generalize decide ((s.getPollingState loop.address).nextFullPollAt ≤ now) = full
    split
    · let t := s.setTelemetry loop.address ((s.getTelemetry loop.address).countCycle full cycleStartedAt)
      have frame : LoopFrame s t loop.address := .setTelemetry s loop.address _
      have counted : t.cycleCount loop.address = s.cycleCount loop.address + 1 := setTelemetry_cycleCount rfl
      change ∃ phase calls cycles, _ ∧ Arrives s index loop phase calls cycles
        (t.beginCycle index loop ⟨full, cycleStartedAt⟩)
      have after {phase : LoopPhase} {calls : List ServerOperation} {u : Server}
          (arrives : Arrives t index loop phase calls 0 u) : Arrives s index loop phase calls 1 u :=
        arrives.after frame rfl (List.append_nil _).symm counted rfl
      unfold Server.beginCycle
      dsimp only
      split
      · rename_i nothing
        obtain ⟨phase, calls, move, arrives⟩ :=
          t.commandSetReturned_arrives index loop ⟨full, cycleStartedAt⟩ .polling .ok
        refine ⟨phase, calls, 1, .beginsEmpty now cycleStartedAt stopped _ ?_ (move.before frame), after arrives⟩
        cases full with
        | true => exact (List.append_eq_nil_iff.mp nothing).1
        | false => exact nothing
      · rename_i command rest _
        exact ⟨_, [], 1, .begins now cycleStartedAt stopped _ command rest, after (.setLoop t index loop _)⟩
    · rename_i idle
      have early : now < (s.getPollingState loop.address).nextFastPollAt :=
        not_le.mp fun due => idle (by simp [due])
      exact ⟨_, [], 0, .waits now cycleStartedAt _ stopped early, .setLoop s index loop _⟩

theorem nextCommand_moves {set : CommandSet} {command : ReadHoldingRegisters} {rest : List ReadHoldingRegisters}
    {saw : Bool} {delay : Option ℚ} (place : loop.phase = .command cycle set command rest saw delay) (startedAt : ℚ) :
    Moves s index loop (.nextCommand startedAt) (s.nextCommand index loop cycle set command rest saw startedAt) := by
  unfold Moves Server.nextCommand
  rw [place]
  cases stopped : s.stopRequested with
  | true =>
    obtain ⟨phase, calls, move, arrives⟩ := s.commandSetReturned_arrives index loop cycle set (setResult saw)
    exact ⟨phase, calls, 0, .cuts startedAt stopped move, arrives⟩
  | false => exact ⟨_, [], 0, .enqueues startedAt stopped, .setLoop s index loop _⟩

theorem startWork_arrives (s : Server) (index : Nat) (loop : PollingLoop) (cycle : PollingCycle) (work : LoopWork) :
    Arrives s index loop (.working cycle work (startFailure s loop work)) (startedCalls s loop work) 0
      (s.startWork index loop cycle work) := by
  unfold startFailure startedCalls Server.startWork
  cases s.request loop work with
  | ok command =>
    have arrives := Arrives.setLoop (s.record (.perform loop.address command)) index loop (.working cycle work none)
    exact arrives.after (.record s loop.address _) rfl rfl rfl rfl
  | error error => exact .setLoop s index loop _

theorem startWork_moves {work : LoopWork} (place : loop.phase = .queued cycle work) :
    Moves s index loop .workStarted (s.startWork index loop cycle work) := by
  unfold Moves
  rw [place]
  exact ⟨_, _, 0, .starts, s.startWork_arrives index loop cycle work⟩

theorem classify_error {outcome : Settlement Failure Unit} {error : Failure}
    (unclassified : classify outcome = .error error) :
    outcome = .rejected error ∧ CommandResult.ofFailure error = none := by
  cases outcome with
  | fulfilled => cases unclassified
  | rejected reason =>
    simp only [classify] at unclassified
    split at unclassified
    · cases unclassified
    · cases unclassified
      exact ⟨rfl, ‹_›⟩

theorem classify_ok {outcome : Settlement Failure Unit} {result : CommandResult}
    (classified : classify outcome = .ok result) :
    outcome = .fulfilled () ∧ result = .ok ∨
      ∃ error, outcome = .rejected error ∧ CommandResult.ofFailure error = some result := by
  cases outcome with
  | fulfilled =>
    cases classified
    exact Or.inl ⟨rfl, rfl⟩
  | rejected error =>
    simp only [classify] at classified
    split at classified
    · cases classified
      exact Or.inr ⟨error, rfl, ‹_›⟩
    · cases classified

theorem ofFailure_ne_ok (error : Failure) : CommandResult.ofFailure error ≠ some .ok := by
  cases error <;> simp [CommandResult.ofFailure]

theorem failLoop_arrives (s : Server) (index : Nat) (loop : PollingLoop) (error : Failure) :
    Arrives s index loop (.failed error) [] 0 (s.failLoop index loop error) :=
  ⟨⟨rfl, rfl, rfl, rfl, rfl, fun _ _ => rfl, fun _ _ => rfl, fun _ _ => rfl⟩, rfl, (List.append_nil _).symm, rfl,
    fun unfailed => absurd rfl (unfailed error)⟩

theorem selectReturned_moves {pack : Nat} {thrown : Option Failure} (published : Bool)
    (outcome : Settlement Failure Unit) (now finishedAt : ℚ) :
    ∃ phase calls cycles, LoopMove s loop (.working cycle (.selectPack pack) thrown)
      (.workSettled published outcome now finishedAt) phase calls cycles ∧
      Arrives s index loop phase calls cycles (s.selectReturned index loop cycle pack (classify outcome)) := by
  cases classified : classify outcome with
  | error error =>
    obtain ⟨rfl, unclassified⟩ := classify_error classified
    exact ⟨_, [], 0, .fails published error now finishedAt unclassified, s.failLoop_arrives index loop error⟩
  | ok result =>
    rcases classify_ok classified with ⟨rfl, rfl⟩ | ⟨error, rfl, known⟩
    · exact ⟨_, [], 0, .selected published now finishedAt _, .setLoop s index loop _⟩
    · cases result with
      | ok => exact absurd known (ofFailure_ne_ok error)
      | busy => exact ⟨_, [], 0, .busy published error now finishedAt known, .setLoop s index loop _⟩
      | connectionError =>
        obtain ⟨phase, calls, loses, arrives⟩ := s.connectionLost_arrives index loop
        exact ⟨phase, calls, 0, .lost published error now finishedAt known loses, arrives⟩
      | expectedError =>
        obtain ⟨phase, move, arrives⟩ := s.nextPack_arrives index loop cycle (pack + 1)
        exact ⟨phase, [], 0, .skipped published error now finishedAt known move, arrives⟩

section Reads

variable {set : CommandSet} {command : ReadHoldingRegisters} {rest : List ReadHoldingRegisters} {saw : Bool}
  {startedAt : ℚ} {thrown : Option Failure} {result : CommandResult} {outcome : Settlement Failure Unit}

/-- A read that ends its command set at once. -/
theorem severe_read_moves (severe : result = .busy ∨ result = .connectionError) (classified : classify outcome = .ok result)
    (published : Bool) (now finishedAt : ℚ) :
    ∃ phase calls cycles, LoopMove s loop (.working cycle (.read set command rest saw startedAt) thrown)
      (.workSettled published outcome now finishedAt) phase calls cycles ∧
      Arrives s index loop phase calls cycles (s.commandSetReturned index loop cycle set result) := by
  obtain ⟨phase, calls, move, arrives⟩ := s.commandSetReturned_arrives index loop cycle set result
  exact ⟨phase, calls, 0, .returned published outcome now finishedAt result classified (severe.imp_right Or.inl) result
    (fun _ => rfl) id move, arrives⟩

theorem readReturned_mild (good : result = .ok ∨ result = .expectedError) :
    s.readReturned index loop cycle set rest saw (.ok result) =
      match rest with
      | [] => s.commandSetReturned index loop cycle set (setResult (saw || decide (result = .expectedError)))
      | next :: rest => s.setLoop index loop (.command cycle set next rest (saw || decide (result = .expectedError))
          (if 0 < (s.getPollingState loop.address).commandDelayMs then
            some (s.getPollingState loop.address).commandDelayMs else none)) := by
  rcases good with rfl | rfl <;> rfl

/-- A read after which its command set goes on, if there are more commands. -/
theorem mild_read_moves (good : result = .ok ∨ result = .expectedError) (classified : classify outcome = .ok result)
    (published : Bool) (now finishedAt : ℚ) :
    ∃ phase calls cycles, LoopMove s loop (.working cycle (.read set command rest saw startedAt) thrown)
      (.workSettled published outcome now finishedAt) phase calls cycles ∧
      Arrives s index loop phase calls cycles (s.readReturned index loop cycle set rest saw (.ok result)) := by
  rw [readReturned_mild good]
  cases rest with
  | nil =>
    obtain ⟨phase, calls, move, arrives⟩ := s.commandSetReturned_arrives index loop cycle set
      (setResult (saw || decide (result = .expectedError)))
    refine ⟨phase, calls, 0, .returned published outcome now finishedAt result classified (Or.inr (Or.inr rfl)) _
      ?_ (fun _ => ?_) move, arrives⟩
    · rintro (rfl | rfl) <;> rcases good with absurd | absurd <;> cases absurd
    · unfold setResult
      split
      · exact Or.inr rfl
      · exact Or.inl rfl
  | cons next rest =>
    exact ⟨_, [], 0, .nextRead published outcome now finishedAt result classified good _, .setLoop s index loop _⟩

theorem readReturned_moves (published : Bool) (outcome : Settlement Failure Unit) (now finishedAt : ℚ) :
    ∃ phase calls cycles, LoopMove s loop (.working cycle (.read set command rest saw startedAt) thrown)
      (.workSettled published outcome now finishedAt) phase calls cycles ∧
      Arrives s index loop phase calls cycles (s.readReturned index loop cycle set rest saw (classify outcome)) := by
  cases classified : classify outcome with
  | error error =>
    obtain ⟨rfl, unclassified⟩ := classify_error classified
    exact ⟨_, [], 0, .fails published error now finishedAt unclassified, s.failLoop_arrives index loop error⟩
  | ok result =>
    cases result with
    | ok => exact mild_read_moves (Or.inl rfl) classified published now finishedAt
    | busy => exact severe_read_moves (Or.inl rfl) classified published now finishedAt
    | connectionError => exact severe_read_moves (Or.inr rfl) classified published now finishedAt
    | expectedError => exact mild_read_moves (Or.inr rfl) classified published now finishedAt

end Reads

theorem LoopMove.before {before after : LoopPhase} {event : LoopEvent} {calls : List ServerOperation} {cycles : Nat}
    {published : Bool} {outcome : Settlement Failure Unit} {now finishedAt : ℚ} (frame : LoopFrame s t address)
    (settled : event = .workSettled published outcome now finishedAt) (move : LoopMove t loop before event after calls cycles) :
    LoopMove s loop before event after calls cycles := by
  subst settled
  cases move with
  | fails _ error _ _ unclassified => exact .fails published error now finishedAt unclassified
  | returned _ _ _ _ result classified over_ final same mild move =>
    exact .returned published outcome now finishedAt result classified over_ final same mild (move.before frame)
  | nextRead _ _ _ _ result classified good delay =>
    exact .nextRead published outcome now finishedAt result classified good delay
  | selected _ _ _ ms => exact .selected published now finishedAt ms
  | skipped _ error _ _ classified move => exact .skipped published error now finishedAt classified move
  | busy _ error _ _ classified => exact .busy published error now finishedAt classified
  | lost _ error _ _ classified loses => exact .lost published error now finishedAt classified (loses.before frame)

theorem workSettled_moves {work : LoopWork} {thrown : Option Failure} (place : loop.phase = .working cycle work thrown)
    (published : Bool) (outcome : Settlement Failure Unit) (now finishedAt : ℚ) :
    Moves s index loop (.workSettled published outcome now finishedAt)
      (s.workSettled index loop cycle published outcome now finishedAt work) := by
  unfold Moves
  rw [place]
  cases work with
  | read set command rest saw startedAt =>
    let t := s.setTelemetry loop.address
      (countRead (s.getTelemetry loop.address) published (classify outcome) startedAt now finishedAt)
    have frame : LoopFrame s t loop.address := .setTelemetry s loop.address _
    have counted : t.cycleCount loop.address = s.cycleCount loop.address + 0 :=
      setTelemetry_cycleCount (countRead_cycleCount _ _ _ _ _ _)
    obtain ⟨phase, calls, cycles, move, arrives⟩ := readReturned_moves published outcome now finishedAt
    refine ⟨phase, calls, cycles, move.before frame rfl, ?_⟩
    rw [← Nat.zero_add cycles]
    exact arrives.after frame rfl (List.append_nil _).symm counted rfl
  | selectPack pack => exact selectReturned_moves published outcome now finishedAt

theorem cycleEnded_moves {busy : Bool} (place : loop.phase = .cycleEnd cycle busy) (clock : CycleClock) :
    Moves s index loop (.cycleEnded clock) (s.cycleEnded index loop cycle busy clock) := by
  unfold Moves
  rw [place]
  let scheduled := s.setPollingState loop.address (s.adjustPollingState loop.address cycle busy clock.nextAt)
  let t := scheduled.setTelemetry loop.address (countCycleEnd (s.getTelemetry loop.address) cycle busy clock)
  have frame : LoopFrame s t loop.address :=
    (LoopFrame.setPollingState s loop.address _).trans (.setTelemetry scheduled loop.address _)
  have counted : t.cycleCount loop.address = s.cycleCount loop.address + 0 :=
    setTelemetry_cycleCount (s := scheduled) (countCycleEnd_cycleCount _ _ _ _)
  have after (phase : LoopPhase) : Arrives s index loop phase [] 0 (t.setLoop index loop phase) :=
    (Arrives.setLoop t index loop phase).after frame rfl (List.append_nil _).symm counted rfl
  unfold Server.cycleEnded
  cases once : s.runOnce with
  | true => exact ⟨.ended, [], 0, .leaves clock (Or.inl once), after .ended⟩
  | false =>
    cases stopped : s.stopRequested with
    | true => exact ⟨.ended, [], 0, .leaves clock (Or.inr stopped), after .ended⟩
    | false => exact ⟨.head, [], 0, .ends clock once stopped, after .head⟩

theorem oldReleased_moves (place : loop.phase = .releasing) (result : Settlement Failure Unit) :
    Moves s index loop (.oldReleased result)
      ({ s with sessions := s.sessions.delete loop.address }.replaceSession index loop) := by
  unfold Moves
  rw [place]
  refine ⟨_, [], 0, .released result s.created,
    ⟨rfl, rfl, rfl, rfl, rfl, fun other different => ?_, fun _ _ => rfl, fun _ _ => rfl⟩, rfl,
    (List.append_nil _).symm, rfl, fun _ => rfl⟩
  change (s.sessions.delete loop.address).get? other = _
  rw [OrderedMap.get?_delete, Table.erase, if_neg different]

theorem replaced_moves {transport : Nat} (place : loop.phase = .replacing transport) (result : Settlement Failure String)
    (now : ℚ) : Moves s index loop (.replaced result now) (s.replaced index loop transport now result) := by
  unfold Moves
  rw [place]
  cases result with
  | fulfilled name =>
    refine ⟨_, [], 0, .replaced transport name now, ⟨rfl, rfl, rfl, rfl, rfl, fun other different => ?_,
      fun other different => Table.insert_of_ne _ _ different, fun _ _ => rfl⟩, rfl, (List.append_nil _).symm, rfl,
      fun _ => rfl⟩
    change (s.sessions.set loop.address _).get? other = _
    rw [OrderedMap.get?_set, Table.insert_of_ne _ _ different]
  | rejected error =>
    exact ⟨_, [], 0, .unreplaced transport error now,
      ⟨rfl, rfl, rfl, rfl, rfl, fun _ _ => rfl, fun _ _ => rfl, fun _ _ => rfl⟩, rfl, (List.append_nil _).symm, rfl,
      fun _ => rfl⟩

/-- Every step of a loop is one of the moves. -/
theorem loopStep_moves {event : LoopEvent} (run : s.loopStep index loop event = some t) : Moves s index loop event t := by
  cases event with
  | turn now cycleStartedAt =>
    obtain ⟨place, run⟩ := Option.ite_none_right_eq_some.mp run
    cases run
    exact turn_moves place now cycleStartedAt
  | waited =>
    simp only [loopStep] at run
    split at run
    · rename_i ms place
      cases run
      exact ⟨.head, [], 0, place ▸ LoopMove.woke ms, .setLoop s index loop .head⟩
    · cases run
  | nextCommand startedAt =>
    simp only [loopStep] at run
    split at run
    · cases run
      exact nextCommand_moves ‹_› startedAt
    · cases run
  | workStarted =>
    simp only [loopStep] at run
    split at run
    · cases run
      exact startWork_moves ‹_›
    · cases run
  | workSettled published result now finishedAt =>
    simp only [loopStep] at run
    split at run
    · rename_i place
      obtain ⟨_, run⟩ := Option.ite_none_right_eq_some.mp run
      cases run
      exact workSettled_moves place published result now finishedAt
    · cases run
  | packSettled =>
    simp only [loopStep] at run
    split at run
    · rename_i cycle pack ms place
      cases run
      rcases s.runPackReads_arrives index loop cycle pack with arrives | ⟨command, rest, arrives⟩
      · exact ⟨_, [], 0, place ▸ LoopMove.unread, arrives⟩
      · exact ⟨_, [], 0, place ▸ LoopMove.settled, arrives⟩
    · cases run
  | cycleEnded clock =>
    simp only [loopStep] at run
    split at run
    · cases run
      exact cycleEnded_moves ‹_› clock
    · cases run
  | oldReleased result =>
    obtain ⟨place, run⟩ := Option.ite_none_right_eq_some.mp run
    cases run
    exact oldReleased_moves place result
  | replaced result now =>
    simp only [loopStep] at run
    split at run
    · cases run
      exact replaced_moves ‹_› result now
    · cases run
  | reconnectDelayOver =>
    obtain ⟨place, run⟩ := Option.ite_none_right_eq_some.mp run
    cases run
    obtain ⟨phase, calls, reconnects, arrives⟩ := s.recoverDeviceConnection_arrives index loop
    exact ⟨phase, calls, 0, place ▸ LoopMove.retries reconnects, arrives⟩

end Server

end BluettiMqtt
