import BluettiMqtt.App.PollingState
import BluettiMqtt.Devices.Registry
import BluettiMqtt.Library.Promise

namespace BluettiMqtt
open Promise

/-- A session in the manager's map, by its transport and the name it has read. -/
structure ManagedSession where
  transport : Nat
  name : String
  deriving DecidableEq

/-- A transport is `connected` from the first `connect` call of its session's
`connectAndInitialize` until `disconnect` is called for good. -/
inductive TransportStatus
  | connected
  | released
  deriving DecidableEq

/-- The locals of one turn of a polling loop. -/
structure PollingCycle where
  shouldRunFull : Bool
  cycleStartedAt : ℚ
  deriving DecidableEq

/-- The two calls of `runCommandSet` in a cycle. -/
inductive CommandSet
  | polling
  | pack (pack : Nat)
  deriving DecidableEq

/-- What a loop puts on its device's queue: the read of one command of a set,
with the commands that follow it, or the selection of a pack. -/
inductive LoopWork
  | read (set : CommandSet) (command : ReadHoldingRegisters) (rest : List ReadHoldingRegisters)
      (sawExpectedError : Bool) (startedAt : ℚ)
  | selectPack (pack : Nat)
  deriving DecidableEq

/-- Where a polling loop stands. The head of the loop and of the iteration over
a command set are places of their own, with the delay slept before, if any. In
`working` the work has begun; `thrown` is what it threw before it reached the
session. -/
inductive LoopPhase
  | head
  | waiting (ms : ℚ)
  | command (cycle : PollingCycle) (set : CommandSet) (command : ReadHoldingRegisters)
      (rest : List ReadHoldingRegisters) (sawExpectedError : Bool) (delay : Option ℚ)
  | queued (cycle : PollingCycle) (work : LoopWork)
  | working (cycle : PollingCycle) (work : LoopWork) (thrown : Option Failure)
  | settling (cycle : PollingCycle) (pack : Nat) (ms : ℚ)
  | cycleEnd (cycle : PollingCycle) (busy : Bool)
  | releasing
  | replacing (transport : Nat)
  | reconnectDelay
  | ended
  | failed (error : Failure)
  deriving DecidableEq

def LoopPhase.isActive : LoopPhase → Bool
  | .ended => false
  | .failed _ => false
  | _ => true

structure PollingLoop where
  address : String
  device : BluettiDevice
  phase : LoopPhase
  deriving DecidableEq

/-- Where `BluettiMqttServer.run` stands. In `settled` the promise of
`DeviceHandler.run` has settled and the `finally` block has not begun. -/
inductive ServerPhase
  | mqttConnecting
  | mqttSubscribing
  | mqttCleaningUp (error : Failure)
  | mqttReady
  | connecting (address : String) (rest : List String) (transport : Nat)
  | connectAllSettled (result : Settlement Failure Unit)
  | startupDelay
  | connected
  | polling
  | settled (outcome : Settlement Failure Unit)
  | disconnecting (outcome : Settlement Failure Unit) (address : String)
  | mqttStopping (outcome : Settlement Failure Unit)
  | done (outcome : Settlement Failure Unit)
  deriving DecidableEq

/-- The calls a stop request or the end of the run must put an end to. -/
inductive ServerOperation
  | connectAll
  | reconnect (address : String)
  | perform (address : String) (command : DeviceCommand)
  deriving DecidableEq

/-- The server with its manager, handler and polling loops. `failure` is the
first rejection `Promise.all` has seen; `operations` (oldest first) is a history
variable. -/
structure Server where
  addresses : List String
  runOnce : Bool
  defaultPollingOptions : PollingOptions
  stopRequested : Bool
  phase : ServerPhase
  sessions : OrderedMap String ManagedSession
  transports : Table Nat TransportStatus
  created : Nat
  devices : Table String BluettiDevice
  pollingState : Table String DevicePollingState
  telemetry : Table String DeviceTelemetry
  loops : List PollingLoop
  failure : Option Failure
  operations : List ServerOperation

/-- The readings of the clock at the end of a cycle. -/
structure CycleClock where
  busyAt : ℚ
  warningAt : ℚ
  completedAt : ℚ
  summaryAt : ℚ
  nextAt : ℚ
  deriving DecidableEq

/-- What can happen to one polling loop. A sleep may end at any time, by its
timer or by a stop request. -/
inductive LoopEvent
  | turn (now cycleStartedAt : ℚ)
  | waited
  | nextCommand (startedAt : ℚ)
  | workStarted
  | workSettled (published : Bool) (result : Settlement Failure Unit) (now finishedAt : ℚ)
  | packSettled
  | cycleEnded (clock : CycleClock)
  | oldReleased (result : Settlement Failure Unit)
  | replaced (result : Settlement Failure String) (now : ℚ)
  | reconnectDelayOver
  deriving DecidableEq

inductive ServerEvent
  | mqttConnected (result : Settlement Failure Unit)
  | mqttSubscribed (result : Settlement Failure Unit)
  | mqttCleanedUp
  | startPolling
  | initialized (result : Settlement Failure String)
  | connectAllReturned
  | startupDelayOver
  | startLoops
  | loop (index : Nat) (event : LoopEvent)
  | joined
  | cleanup
  | disconnected (result : Settlement Failure Unit)
  | mqttStopped
  | commandWritten (address : String)
  | stop
  deriving DecidableEq

namespace Server

/-- A new server whose `run` has been called. -/
def create (addresses : List String) (runOnce : Bool) (options : PollingOptions) : Server where
  addresses := addresses
  runOnce := runOnce
  defaultPollingOptions := options
  stopRequested := false
  phase := .mqttConnecting
  sessions := OrderedMap.empty
  transports := fun _ => none
  created := 0
  devices := fun _ => none
  pollingState := fun _ => none
  telemetry := fun _ => none
  loops := []
  failure := none
  operations := []

def getPollingState (s : Server) (address : String) : DevicePollingState :=
  (s.pollingState address).getD (createDevicePollingState s.defaultPollingOptions)

def getTelemetry (s : Server) (address : String) : DeviceTelemetry :=
  (s.telemetry address).getD createDeviceTelemetry

def setPollingState (s : Server) (address : String) (state : DevicePollingState) : Server :=
  { s with pollingState := s.pollingState.insert address state }

def setTelemetry (s : Server) (address : String) (telemetry : DeviceTelemetry) : Server :=
  { s with telemetry := s.telemetry.insert address telemetry }

def setLoop (s : Server) (index : Nat) (loop : PollingLoop) (phase : LoopPhase) : Server :=
  { s with loops := s.loops.set index { loop with phase := phase } }

def record (s : Server) (operation : ServerOperation) : Server :=
  { s with operations := s.operations ++ [operation] }

/-- `transportFactory.create()` and the start of `connectAndInitialize`. -/
def openTransport (s : Server) : Server :=
  { s with
    transports := s.transports.insert s.created .connected
    created := s.created + 1 }

def release (s : Server) (transport : Nat) : Server :=
  { s with transports := s.transports.insert transport .released }

/-- `connectAll` of the manager, from the given addresses on. -/
def connectNext (s : Server) : List String → Server
  | [] => { s with phase := .connectAllSettled (.fulfilled ()) }
  | address :: rest =>
    if s.sessions.has address then s.connectNext rest
    else { s.openTransport with phase := .connecting address rest s.created }

def initialized (s : Server) (address : String) (rest : List String) (transport : Nat) :
    Settlement Failure String → Server
  | .fulfilled name =>
    { s with sessions := s.sessions.set address { transport := transport, name := name } }.connectNext rest
  | .rejected error => { s.release transport with phase := .connectAllSettled (.rejected error) }

/-- One turn of the loop in `connectAllWithRecovery`. -/
def connectAllWithRecovery (s : Server) : Server :=
  if s.stopRequested then { s with phase := .settled (.fulfilled ()) }
  else (s.record .connectAll).connectNext s.addresses

/-- `DeviceHandler.run` up to its first `await`. -/
def runHandler (s : Server) : Server :=
  { s with stopRequested := false }.connectAllWithRecovery

def isBadConnectionError : Failure → Bool
  | .badConnectionError _ => true
  | _ => false

/-- The `catch` block of `connectAllWithRecovery`. -/
def connectAllFailed (s : Server) (error : Failure) : Server :=
  if s.runOnce || !isBadConnectionError error then { s with phase := .settled (.rejected error) }
  else { s with phase := .startupDelay }

/-- `devices.get(address)`, or a new device by the name the session has read. -/
def deviceFor (s : Server) (address : String) : Except Failure BluettiDevice :=
  match s.devices address with
  | some device => .ok device
  | none =>
    match s.sessions.get? address with
    | some session => createDeviceFromAdvertisement address session.name
    | none => .error (.error s!"No connected device name for {address}")

def register (s : Server) (address : String) (device : BluettiDevice) : Server :=
  { s with
    devices := s.devices.insert address device
    pollingState := s.pollingState.insert address (s.getPollingState address)
    telemetry := s.telemetry.insert address (s.getTelemetry address) }

/-- `connectAll` of the handler, after that of the manager. -/
def registerDevices (s : Server) : List String → Server
  | [] => { s with phase := .connected }
  | address :: rest =>
    match s.deviceFor address with
    | .ok device => (s.register address device).registerDevices rest
    | .error error => s.connectAllFailed error

/-- The call of `Promise.all`. An address without a device has a loop that
returns at once. -/
def startLoops (s : Server) : Server :=
  { s with
    phase := .polling
    loops := s.addresses.filterMap fun address =>
      (s.devices address).map fun device => { address := address, device := device, phase := .head } }

/-- A loop's promise is rejected. -/
def failLoop (s : Server) (index : Nat) (loop : PollingLoop) (error : Failure) : Server :=
  { s.setLoop index loop (.failed error) with failure := s.failure.or (some error) }

/-- The part of `reconnect` that creates and initializes the replacement. -/
def replaceSession (s : Server) (index : Nat) (loop : PollingLoop) : Server :=
  s.openTransport.setLoop index loop (.replacing s.created)

def reconnect (s : Server) (index : Nat) (loop : PollingLoop) : Server :=
  match s.sessions.get? loop.address with
  | some existing => (s.release existing.transport).setLoop index loop .releasing
  | none => s.replaceSession index loop

/-- One turn of the loop in `recoverDeviceConnection`. -/
def recoverDeviceConnection (s : Server) (index : Nat) (loop : PollingLoop) : Server :=
  if s.stopRequested then s.setLoop index loop .ended
  else (s.record (.reconnect loop.address)).reconnect index loop

/-- The handling of a connection error in the body of the polling loop. -/
def connectionLost (s : Server) (index : Nat) (loop : PollingLoop) : Server :=
  if s.runOnce then s.setLoop index loop .ended else s.recoverDeviceConnection index loop

/-- The body of the polling loop after `runPackCommands`. -/
def packsReturned (s : Server) (index : Nat) (loop : PollingLoop) (cycle : PollingCycle) :
    CommandResult → Server
  | .connectionError => s.connectionLost index loop
  | .busy => s.setLoop index loop (.cycleEnd cycle true)
  | .ok => s.setLoop index loop (.cycleEnd cycle false)
  | .expectedError => s.setLoop index loop (.cycleEnd cycle false)

/-- `runCommandSet` for the commands of one pack. `runPackCommands` has made
sure that there are some. -/
def runPackReads (s : Server) (index : Nat) (loop : PollingLoop) (cycle : PollingCycle) (pack : Nat) :
    Server :=
  match loop.device.packPollingCommands with
  | [] => s.packsReturned index loop cycle .ok
  | command :: rest => s.setLoop index loop (.command cycle (.pack pack) command rest false none)

/-- The loop in `runPackCommands`, from the given pack on. -/
def nextPack (s : Server) (index : Nat) (loop : PollingLoop) (cycle : PollingCycle) (pack : Nat) : Server :=
  if loop.device.packNumMax < pack || s.stopRequested then s.packsReturned index loop cycle .ok
  else if 1 < loop.device.packNumMax && loop.device.hasFieldSetter "pack_num" then
    s.setLoop index loop (.queued cycle (.selectPack pack))
  else s.runPackReads index loop cycle pack

def runPackCommands (s : Server) (index : Nat) (loop : PollingLoop) (cycle : PollingCycle) : Server :=
  if loop.device.packPollingCommands = [] then s.packsReturned index loop cycle .ok
  else s.nextPack index loop cycle 1

/-- The callers of `runCommandSet` after it has returned. -/
def commandSetReturned (s : Server) (index : Nat) (loop : PollingLoop) (cycle : PollingCycle) :
    CommandSet → CommandResult → Server
  | .polling, .connectionError => s.connectionLost index loop
  | .polling, .busy => s.setLoop index loop (.cycleEnd cycle true)
  | .polling, _ =>
    if cycle.shouldRunFull then s.runPackCommands index loop cycle
    else s.setLoop index loop (.cycleEnd cycle false)
  | .pack _, .busy => s.packsReturned index loop cycle .busy
  | .pack pack, _ => s.nextPack index loop cycle (pack + 1)

/-- The value of `runCommandSet` once its loop is over. -/
def setResult (sawExpectedError : Bool) : CommandResult :=
  if sawExpectedError then .expectedError else .ok

/-- The first `await` of a cycle. -/
def beginCycle (s : Server) (index : Nat) (loop : PollingLoop) (cycle : PollingCycle) : Server :=
  let commands :=
    if cycle.shouldRunFull then loop.device.fastPollingCommands ++ loop.device.slowPollingCommands
    else loop.device.fastPollingCommands
  match commands with
  | [] => s.commandSetReturned index loop cycle .polling .ok
  | command :: rest => s.setLoop index loop (.command cycle .polling command rest false none)

/-- The body of the polling loop up to its first `await`. -/
def turn (s : Server) (index : Nat) (loop : PollingLoop) (now cycleStartedAt : ℚ) : Server :=
  let state := s.getPollingState loop.address
  let shouldRunFull := decide (state.nextFullPollAt ≤ now)
  let shouldRunFast := shouldRunFull || decide (state.nextFastPollAt ≤ now)
  if s.stopRequested then
    s.setLoop index loop .ended
  else if shouldRunFast then
    (s.setTelemetry loop.address ((s.getTelemetry loop.address).countCycle shouldRunFull cycleStartedAt)
      ).beginCycle index loop { shouldRunFull := shouldRunFull, cycleStartedAt := cycleStartedAt }
  else
    s.setLoop index loop (.waiting (max 0 (min state.nextFastPollAt state.nextFullPollAt - now)))

/-- The body of the loop in `runCommandSet` up to `enqueueDeviceWork`. -/
def nextCommand (s : Server) (index : Nat) (loop : PollingLoop) (cycle : PollingCycle) (set : CommandSet)
    (command : ReadHoldingRegisters) (rest : List ReadHoldingRegisters) (sawExpectedError : Bool)
    (startedAt : ℚ) : Server :=
  if s.stopRequested then s.commandSetReturned index loop cycle set (setResult sawExpectedError)
  else s.setLoop index loop (.queued cycle (.read set command rest sawExpectedError startedAt))

/-- The request a work makes of the session, or what it throws on the way there. -/
def request (s : Server) (loop : PollingLoop) (work : LoopWork) : Except Failure DeviceCommand := do
  let command ← match work with
    | .read _ command _ _ _ => Except.ok (DeviceCommand.readHoldingRegisters command)
    | .selectPack pack =>
      DeviceCommand.writeSingleRegister <$> loop.device.buildSetterCommand "pack_num" (.number (.ofInt pack))
  let address := loop.address
  if s.sessions.has address then return command
  else throw (.error s!"No active session for {address}")

/-- The queue calls the work, which calls `session.perform`. -/
def startWork (s : Server) (index : Nat) (loop : PollingLoop) (cycle : PollingCycle) (work : LoopWork) :
    Server :=
  match s.request loop work with
  | .ok command => (s.record (.perform loop.address command)).setLoop index loop (.working cycle work none)
  | .error error => s.setLoop index loop (.working cycle work (some error))

/-- The `try` statements of `executeReadCommand` and `trySelectPack`. -/
def classify : Settlement Failure Unit → Except Failure CommandResult
  | .fulfilled _ => .ok .ok
  | .rejected error =>
    match CommandResult.ofFailure error with
    | some result => .ok result
    | none => .error error

/-- The telemetry of one `executeReadCommand`. -/
def countRead (telemetry : DeviceTelemetry) (published : Bool) (outcome : Except Failure CommandResult)
    (startedAt now finishedAt : ℚ) : DeviceTelemetry :=
  let parsed :=
    if published then { telemetry with parserPublishCount := telemetry.parserPublishCount + 1 }
    else telemetry
  let counted :=
    match outcome with
    | .ok result => parsed.countResult result now
    | .error _ => parsed
  counted.countCommandDuration (finishedAt - startedAt)

/-- `runCommandSet` after a read, up to its next `await`. -/
def readReturned (s : Server) (index : Nat) (loop : PollingLoop) (cycle : PollingCycle) (set : CommandSet)
    (rest : List ReadHoldingRegisters) (sawExpectedError : Bool) : Except Failure CommandResult → Server
  | .error error => s.failLoop index loop error
  | .ok .busy => s.commandSetReturned index loop cycle set .busy
  | .ok .connectionError => s.commandSetReturned index loop cycle set .connectionError
  | .ok result =>
    let saw := sawExpectedError || result = .expectedError
    let commandDelayMs := (s.getPollingState loop.address).commandDelayMs
    match rest with
    | [] => s.commandSetReturned index loop cycle set (setResult saw)
    | command :: rest =>
      s.setLoop index loop (.command cycle set command rest saw
        (if 0 < commandDelayMs then some commandDelayMs else none))

/-- `runPackCommands` after `trySelectPack` has classified the outcome. -/
def selectReturned (s : Server) (index : Nat) (loop : PollingLoop) (cycle : PollingCycle) (pack : Nat) :
    Except Failure CommandResult → Server
  | .error error => s.failLoop index loop error
  | .ok .ok =>
    s.setLoop index loop (.settling cycle pack
      (max MIN_PACK_SWITCH_DELAY_MS (s.getPollingState loop.address).commandDelayMs))
  | .ok .expectedError => s.nextPack index loop cycle (pack + 1)
  | .ok .busy => s.packsReturned index loop cycle .busy
  | .ok .connectionError => s.packsReturned index loop cycle .connectionError

def workSettled (s : Server) (index : Nat) (loop : PollingLoop) (cycle : PollingCycle) (published : Bool)
    (result : Settlement Failure Unit) (now finishedAt : ℚ) : LoopWork → Server
  | .read set _ rest sawExpectedError startedAt =>
    (s.setTelemetry loop.address
      (countRead (s.getTelemetry loop.address) published (classify result) startedAt now finishedAt)
      ).readReturned index loop cycle set rest sawExpectedError (classify result)
  | .selectPack pack => s.selectReturned index loop cycle pack (classify result)

/-- The polling state after a cycle. -/
def adjustPollingState (s : Server) (address : String) (cycle : PollingCycle) (busy : Bool) (nextAt : ℚ) :
    DevicePollingState :=
  let adjusted :=
    if busy then applyBusyBackoff (s.getPollingState address) s.defaultPollingOptions
    else recoverPollingState (s.getPollingState address) s.defaultPollingOptions
  { adjusted with
    nextFastPollAt := nextAt + adjusted.fastIntervalMs
    nextFullPollAt :=
      if cycle.shouldRunFull then nextAt + adjusted.fullIntervalMs else adjusted.nextFullPollAt }

/-- The telemetry after a cycle. -/
def countCycleEnd (telemetry : DeviceTelemetry) (cycle : PollingCycle) (busy : Bool) (clock : CycleClock) :
    DeviceTelemetry :=
  let warned :=
    if busy then (telemetry.countBusy clock.busyAt).maybeLogBusyWarning clock.warningAt else telemetry
  (warned.countCycleDuration cycle.cycleStartedAt clock.completedAt).maybeLogTelemetrySummary clock.summaryAt

/-- The end of the body of the polling loop. -/
def cycleEnded (s : Server) (index : Nat) (loop : PollingLoop) (cycle : PollingCycle) (busy : Bool)
    (clock : CycleClock) : Server :=
  ((s.setPollingState loop.address (s.adjustPollingState loop.address cycle busy clock.nextAt)).setTelemetry
    loop.address (countCycleEnd (s.getTelemetry loop.address) cycle busy clock)).setLoop index loop
      (if s.runOnce || s.stopRequested then .ended else .head)

/-- `reconnect` and `recoverDeviceConnection` after the replacement's
`connectAndInitialize`. A rejected one has disconnected the transport, see
`DeviceSession.failed_initialization_disconnects`. -/
def replaced (s : Server) (index : Nat) (loop : PollingLoop) (transport : Nat) (now : ℚ) :
    Settlement Failure String → Server
  | .fulfilled name =>
    ({ s with sessions := s.sessions.set loop.address { transport := transport, name := name } }.setPollingState
      loop.address (scheduleNextPoll (s.getPollingState loop.address) now)).setLoop index loop .head
  | .rejected _ => (s.release transport).setLoop index loop .reconnectDelay

/-- One step of a polling loop; `none` when the event is not enabled. -/
def loopStep (s : Server) (index : Nat) (loop : PollingLoop) : LoopEvent → Option Server
  | .turn now cycleStartedAt =>
    if loop.phase = .head then some (s.turn index loop now cycleStartedAt) else none
  | .waited =>
    match loop.phase with
    | .waiting _ => some (s.setLoop index loop .head)
    | _ => none
  | .nextCommand startedAt =>
    match loop.phase with
    | .command cycle set command rest saw _ => some (s.nextCommand index loop cycle set command rest saw startedAt)
    | _ => none
  | .workStarted =>
    match loop.phase with
    | .queued cycle work => some (s.startWork index loop cycle work)
    | _ => none
  | .workSettled published result now finishedAt =>
    match loop.phase with
    | .working cycle work thrown =>
      if thrown.all fun error => result = .rejected error && !published then
        some (s.workSettled index loop cycle published result now finishedAt work)
      else none
    | _ => none
  | .packSettled =>
    match loop.phase with
    | .settling cycle pack _ => some (s.runPackReads index loop cycle pack)
    | _ => none
  | .cycleEnded clock =>
    match loop.phase with
    | .cycleEnd cycle busy => some (s.cycleEnded index loop cycle busy clock)
    | _ => none
  | .oldReleased _ =>
    if loop.phase = .releasing then
      some ({ s with sessions := s.sessions.delete loop.address }.replaceSession index loop)
    else none
  | .replaced result now =>
    match loop.phase with
    | .replacing transport => some (s.replaced index loop transport now result)
    | _ => none
  | .reconnectDelayOver =>
    if loop.phase = .reconnectDelay then some (s.recoverDeviceConnection index loop) else none

/-- `disconnectAll` from the first entry that is left. It has deleted those it
has visited. -/
def disconnectNext (s : Server) (outcome : Settlement Failure Unit) : Server :=
  match s.sessions.entries with
  | [] => { s with phase := .mqttStopping outcome }
  | (address, session) :: _ => { s.release session.transport with phase := .disconnecting outcome address }

/-- The work of `handleCommand` up to `session.perform`, where the manager has a
session. -/
def commandWritten (s : Server) (address : String) : Option Server :=
  if s.sessions.has address then some (s.setTelemetry address (s.getTelemetry address).countWrite) else none

/-- `stop`, which raises the queue's flag. The sleeps it ends are steps of their own. -/
def stop (s : Server) : Server :=
  { s with stopRequested := true }

/-- `Promise.all` and with it `DeviceHandler.run`: rejected by the first
rejection, fulfilled when all loops have returned. -/
def joined (s : Server) : Option Server :=
  match s.failure with
  | some error => some { s with phase := .settled (.rejected error) }
  | none =>
    if s.loops.all fun loop => !loop.phase.isActive then some { s with phase := .settled (.fulfilled ()) }
    else none

/-- One step; `none` when the event is not enabled. -/
def step (s : Server) : ServerEvent → Option Server
  | .mqttConnected result =>
    match s.phase, result with
    | .mqttConnecting, .fulfilled _ => some { s with phase := .mqttSubscribing }
    | .mqttConnecting, .rejected error => some { s with phase := .done (.rejected error) }
    | _, _ => none
  | .mqttSubscribed result =>
    match s.phase, result with
    | .mqttSubscribing, .fulfilled _ => some { s with phase := .mqttReady }
    | .mqttSubscribing, .rejected error => some { s with phase := .mqttCleaningUp error }
    | _, _ => none
  | .mqttCleanedUp =>
    match s.phase with
    | .mqttCleaningUp error => some { s with phase := .done (.rejected error) }
    | _ => none
  | .startPolling => if s.phase = .mqttReady then some s.runHandler else none
  | .initialized result =>
    match s.phase with
    | .connecting address rest transport => some (s.initialized address rest transport result)
    | _ => none
  | .connectAllReturned =>
    match s.phase with
    | .connectAllSettled (.fulfilled _) => some (s.registerDevices s.addresses)
    | .connectAllSettled (.rejected error) => some (s.connectAllFailed error)
    | _ => none
  | .startupDelayOver => if s.phase = .startupDelay then some s.connectAllWithRecovery else none
  | .startLoops => if s.phase = .connected then some s.startLoops else none
  | .loop index event =>
    match s.loops[index]? with
    | some loop => s.loopStep index loop event
    | none => none
  | .joined => if s.phase = .polling then s.joined else none
  | .cleanup =>
    match s.phase with
    | .settled outcome => some (s.disconnectNext outcome)
    | _ => none
  | .disconnected _ =>
    match s.phase with
    | .disconnecting outcome address =>
      some ({ s with sessions := s.sessions.delete address }.disconnectNext outcome)
    | _ => none
  | .mqttStopped =>
    match s.phase with
    | .mqttStopping outcome => some { s with phase := .done outcome }
    | _ => none
  | .commandWritten address => s.commandWritten address
  | .stop => some s.stop

end Server

end BluettiMqtt
