import BluettiMqtt.App.DeviceWorkQueue
import BluettiMqtt.App.Server
import BluettiMqtt.Bluetooth.Manager

namespace BluettiMqtt
open Promise

/-- Who has put a work on the queue. -/
inductive WorkSource
  | handleCommand (command : DeviceCommand)
  | loop (index : Nat) (work : LoopWork)
  deriving DecidableEq

/-- Whether the work goes on to parse and publish the response. -/
def WorkSource.publishes : WorkSource → Bool
  | .loop _ (.read ..) => true
  | .loop _ (.selectPack _) => false
  | .handleCommand _ => false

/-- How far a work has come. In `performing` it has called `perform` on the
session of a transport; `thrown` is what it threw on the way there. -/
inductive WorkProgress
  | waiting
  | thrown (error : Failure)
  | performing (transport : Nat)
  deriving DecidableEq

structure HandlerWork where
  source : WorkSource
  progress : WorkProgress
  deriving DecidableEq

/-- A command that `perform` has handed to the transport. -/
structure Frame where
  address : String
  source : WorkSource
  command : DeviceCommand
  deriving DecidableEq

/-- The server with the queue of its handler and the session of each transport.
`awaited` tells the call of `enqueue` that each polling loop has made last, and
`frames` (oldest first) is a history variable. -/
structure DeviceHandler where
  server : Server
  queue : DeviceWorkQueue Failure Unit
  works : Table Nat HandlerWork
  awaited : Table Nat Nat
  sessions : Nat → DeviceSession
  frames : List Frame

/-- `handleCommand` is called by the listener on the bus. `start`, `settle` and
`finish` are the steps of a work on the queue; `loop` names the call of
`enqueue` its step makes, if it makes one. -/
inductive HandlerEvent
  | server (event : ServerEvent)
  | loop (index : Nat) (event : LoopEvent) (work : Nat)
  | handleCommand (work : Nat) (address : String) (command : DeviceCommand)
  | start (work : Nat)
  | settle (work : Nat) (outcome : Settlement Failure Unit)
  | finish (work : Nat)
  | session (transport : Nat) (event : SessionEvent)

/-- The calls of a session's methods, which the other events make. -/
def SessionEvent.isCall : SessionEvent → Bool
  | .perform _ _ => true
  | event => event.isOwners

namespace DeviceHandler

def create (addresses : List String) (runOnce : Bool) (options : PollingOptions) : DeviceHandler where
  server := Server.create addresses runOnce options
  queue := DeviceWorkQueue.create
  works := fun _ => none
  awaited := fun _ => none
  sessions := fun _ => DeviceSession.create "" DeviceSession.DEFAULT_COMMAND_TIMEOUT_MS
  frames := []

/-- What `connectAndInitialize` has settled with, with the name it has read. -/
def initialization (h : DeviceHandler) (transport : Nat) : Option (Settlement Failure String) :=
  match (h.sessions transport).initializations 0 with
  | some (.settled (.fulfilled _)) => some (.fulfilled ((h.sessions transport).name.getD ""))
  | some (.settled (.rejected error)) => some (.rejected error)
  | _ => none

/-- A call of `disconnect` on the session that the manager has for an address. -/
def disconnection (h : DeviceHandler) (address : String) (call : CallId) : Option DisconnectPhase :=
  (h.server.sessions.get? address).bind fun session => (h.sessions session.transport).disconnects call

/-- What the last `enqueue` of a loop has settled with. -/
def outcome (h : DeviceHandler) (index : Nat) : Option (Settlement Failure Unit) := do
  let work ← h.awaited index
  let record ← h.queue.works work
  match record.phase with
  | .settled outcome => some outcome
  | _ => none

/-- A new transport gets its session, whose initialization begins. -/
def openTransport (h : DeviceHandler) (transport : Nat) (address : String) : DeviceHandler :=
  { h with
    sessions := Function.update h.sessions transport (MultiDeviceManager.openSession address 0) }

/-- `session.disconnect()`, from `reconnect` or from `disconnectAll`. -/
def release (h : DeviceHandler) (transport : Nat) (call : CallId) : DeviceHandler :=
  { h with
    sessions := Function.update h.sessions transport ((h.sessions transport).disconnect call) }

/-- The steps of the server agree with the sessions, and those of the loops and the
commands that are written come with events of their own. -/
def allows (h : DeviceHandler) : ServerEvent → Bool
  | .initialized result =>
    match h.server.phase with
    | .connecting _ _ transport => h.initialization transport = some result
    | _ => false
  | .disconnected result =>
    match h.server.phase with
    | .disconnecting _ address => h.disconnection address 1 = some (.settled result)
    | _ => false
  | .loop _ _ => false
  | .commandWritten _ => false
  | _ => true

/-- What a step of the server other than `stop` does to the sessions. -/
def entered (h : DeviceHandler) (server : Server) : DeviceHandler :=
  match server.phase with
  | .connecting address _ transport => { h with server := server }.openTransport transport address
  | .disconnecting _ address =>
    match server.sessions.get? address with
    | some session => { h with server := server }.release session.transport 1
    | none => { h with server := server }
  | _ => { h with server := server }

/-- The steps of the loops agree with the queue and the sessions. A loop's work
is started by the queue. -/
def continues (h : DeviceHandler) (index : Nat) (loop : PollingLoop) : LoopEvent → Bool
  | .workStarted => false
  | .workSettled _ result _ _ => h.outcome index = some result
  | .replaced result _ =>
    match loop.phase with
    | .replacing transport => h.initialization transport = some result
    | _ => false
  | .oldReleased result => h.disconnection loop.address 0 = some (.settled result)
  | _ => true

/-- What a step of a loop does to the queue and to the sessions. -/
def advanced (h : DeviceHandler) (index : Nat) (address : String) (server : Server) (work : Nat) :
    LoopPhase → Option DeviceHandler
  | .queued _ task =>
    (h.queue.step (.enqueue work address)).map fun queue =>
      { h with
        server := server
        queue := queue
        works := h.works.insert work { source := .loop index task, progress := .waiting }
        awaited := h.awaited.insert index work }
  | .replacing transport => some ({ h with server := server }.openTransport transport address)
  | .releasing =>
    match h.server.sessions.get? address with
    | some session => some ({ h with server := server }.release session.transport 0)
    | none => some { h with server := server }
  | _ => some { h with server := server }

def setProgress (h : DeviceHandler) (work : Nat) (source : WorkSource) (progress : WorkProgress) : DeviceHandler :=
  { h with works := h.works.insert work { source := source, progress := progress } }

/-- `session.perform(command)` up to its first `await`. -/
def perform (h : DeviceHandler) (work : Nat) (source : WorkSource) (address : String) (transport : Nat)
    (command : DeviceCommand) : DeviceHandler :=
  { h.setProgress work source (.performing transport) with
    sessions := Function.update h.sessions transport ((h.sessions transport).perform work command)
    frames :=
      if (h.sessions transport).isReady then
        h.frames ++ [{ address := address, source := source, command := command }]
      else h.frames }

/-- A work from `getSession` to its first `await`. -/
def begin (h : DeviceHandler) (work : Nat) (source : WorkSource) (address : String) :
    Except Failure DeviceCommand → DeviceHandler
  | .ok command =>
    match h.server.sessions.get? address with
    | some session => h.perform work source address session.transport command
    | none => h.setProgress work source (.thrown (.error s!"No active session for {address}"))
  | .error error => h.setProgress work source (.thrown error)

/-- The queue calls a work. -/
def startWork (h : DeviceHandler) (work : Nat) (address : String) : WorkSource → Option DeviceHandler
  | .handleCommand command =>
    let server := (h.server.step (.commandWritten address)).getD h.server
    some ({ h with server := server }.begin work (.handleCommand command) address (.ok command))
  | .loop index task =>
    match h.server.loops[index]? with
    | some loop =>
      (h.server.step (.loop index .workStarted)).map fun server =>
        { h with server := server }.begin work (.loop index task) address (h.server.request loop task)
    | none => none

/-- What a work can settle with once its `perform` has. Parsing and publishing
may fail in ways of their own. -/
def settles (h : DeviceHandler) (work : Nat) (entry : HandlerWork) (outcome : Settlement Failure Unit) : Bool :=
  match entry.progress with
  | .waiting => false
  | .thrown error => outcome = .rejected error
  | .performing transport =>
    match (h.sessions transport).phaseOf work with
    | some (.settled (.rejected error)) => outcome = .rejected error
    | some (.settled (.fulfilled _)) => entry.source.publishes || outcome = .fulfilled ()
    | _ => false

/-- One step; `none` when the event is not enabled. -/
def step (h : DeviceHandler) : HandlerEvent → Option DeviceHandler
  | .server .stop => some { h with server := h.server.stop }
  | .server event => if h.allows event then (h.server.step event).map h.entered else none
  | .loop index event work =>
    match h.server.loops[index]? with
    | some loop =>
      if h.continues index loop event then
        (h.server.step (.loop index event)).bind fun server =>
          (server.loops[index]?).bind fun moved => h.advanced index loop.address server work moved.phase
      else none
    | none => none
  | .handleCommand work address command =>
    (h.queue.step (.enqueue work address)).map fun queue =>
      { h with queue := queue }.setProgress work (.handleCommand command) .waiting
  | .start work =>
    match h.queue.works work, h.works work with
    | some record, some entry =>
      (h.queue.step (.start work none)).bind fun queue =>
        { h with queue := queue }.startWork work record.address entry.source
    | _, _ => none
  | .settle work outcome =>
    match h.works work with
    | some entry =>
      if h.settles work entry outcome then
        (h.queue.step (.workSettled work outcome)).map fun queue => { h with queue := queue }
      else none
    | none => none
  | .finish work => (h.queue.step (.finish work)).map fun queue => { h with queue := queue }
  | .session transport event =>
    if event.isCall then none
    else ((h.sessions transport).step event).map fun session =>
      { h with sessions := Function.update h.sessions transport session }

end DeviceHandler

end BluettiMqtt
