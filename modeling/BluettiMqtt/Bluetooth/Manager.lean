import BluettiMqtt.Bluetooth.DeviceSession
import BluettiMqtt.Library.OrderedMap

namespace BluettiMqtt
open Promise

/-- Where a call of `connectAll`, `reconnect` or `disconnectAll` stands, by the
session whose method it awaits. -/
inductive ManagerPhase
  | connectingAll (address : String) (rest : List String) (session : Nat)
  | releasing (address : String) (existing : Nat)
  | replacing (address : String) (session : Nat)
  | disconnectingAll (address : String) (session : Nat) (failures : List Failure)
  | settled (outcome : Settlement Rejection Unit)
  deriving DecidableEq

def ManagerPhase.inProgress : ManagerPhase → Bool
  | .settled _ => false
  | _ => true

/-- The manager with the sessions it has created, each with a transport of its
own and named by the order of creation. The calls of `connectAndInitialize` and
`disconnect` are named by the call of the manager that makes them. -/
structure MultiDeviceManager where
  addresses : List String
  sessions : OrderedMap String Nat
  objects : Table Nat DeviceSession
  created : Nat
  calls : Table Nat ManagerPhase

/-- `returned` goes on with a call whose awaited call has settled. The events of
a session are those that the manager does not cause. -/
inductive ManagerEvent
  | connectAll (call : CallId)
  | reconnect (call : CallId) (address : String)
  | disconnectAll (call : CallId)
  | session (session : Nat) (event : SessionEvent)
  | returned (call : CallId)

/-- The calls that only the manager makes. -/
def SessionEvent.isOwners : SessionEvent → Bool
  | .connectAndInitialize _ => true
  | .disconnect _ => true
  | _ => false

def DeviceSession.DEFAULT_COMMAND_TIMEOUT_MS : Nat := 10000

namespace MultiDeviceManager

/-- The constructor. -/
def create (addresses : List String) : MultiDeviceManager where
  addresses := addresses
  sessions := OrderedMap.empty
  objects := fun _ => none
  created := 0
  calls := fun _ => none

def setCall (m : MultiDeviceManager) (call : CallId) (phase : ManagerPhase) : MultiDeviceManager :=
  { m with calls := m.calls.insert call phase }

def getSession (m : MultiDeviceManager) (address : String) : Except Failure Nat :=
  match m.sessions.get? address with
  | some session => .ok session
  | none => .error (.error s!"No active session for {address}")

/-- `new DeviceSession(…)` up to the first `await` of its `connectAndInitialize`. -/
def openSession (address : String) (call : CallId) : DeviceSession :=
  { DeviceSession.create address DeviceSession.DEFAULT_COMMAND_TIMEOUT_MS with
    lifecycle := [.initializing call] }.connectAttempt call 0

def startSession (m : MultiDeviceManager) (call : CallId) (address : String) (phase : ManagerPhase) :
    MultiDeviceManager :=
  { m with
    objects := m.objects.insert m.created (openSession address call)
    created := m.created + 1 }.setCall call phase

/-- `session.disconnect()` up to its `await`. -/
def endSession (m : MultiDeviceManager) (call : CallId) (session : Nat) (phase : ManagerPhase) :
    MultiDeviceManager :=
  { m with objects := m.objects.adjust (some session) fun object => object.disconnect call }.setCall call phase

/-- The loop of `connectAll`, from the given addresses on. -/
def connectNext (m : MultiDeviceManager) (call : CallId) : List String → MultiDeviceManager
  | [] => m.setCall call (.settled (.fulfilled ()))
  | address :: rest =>
    if m.sessions.has address then m.connectNext call rest
    else m.startSession call address (.connectingAll address rest m.created)

def connectAll (m : MultiDeviceManager) (call : CallId) : MultiDeviceManager :=
  m.connectNext call m.addresses

/-- `reconnect` after the old session is gone. -/
def replace (m : MultiDeviceManager) (call : CallId) (address : String) : MultiDeviceManager :=
  m.startSession call address (.replacing address m.created)

def reconnect (m : MultiDeviceManager) (call : CallId) (address : String) : MultiDeviceManager :=
  match m.sessions.get? address with
  | some existing => m.endSession call existing (.releasing address existing)
  | none => m.replace call address

/-- The end of `disconnectAll`. -/
def disconnectOutcome : List Failure → Settlement Rejection Unit
  | [] => .fulfilled ()
  | failures => .rejected (.aggregateError failures "Failed to disconnect one or more Bluetooth sessions")

/-- The loop of `disconnectAll` from the first entry that is left. It has
deleted those it has visited. -/
def disconnectNext (m : MultiDeviceManager) (call : CallId) (failures : List Failure) : MultiDeviceManager :=
  match m.sessions.entries with
  | [] => m.setCall call (.settled (disconnectOutcome failures))
  | (address, session) :: _ => m.endSession call session (.disconnectingAll address session failures)

def disconnectAll (m : MultiDeviceManager) (call : CallId) : MultiDeviceManager :=
  m.disconnectNext call []

def initialization (m : MultiDeviceManager) (call : CallId) (session : Nat) : Option InitializePhase :=
  (m.objects session).bind fun object => object.initializations call

def disconnection (m : MultiDeviceManager) (call : CallId) (session : Nat) : Option DisconnectPhase :=
  (m.objects session).bind fun object => object.disconnects call

/-- The failure that `disconnectAll` pushes for one session. -/
def disconnectFailure : Settlement Failure Unit → Option Failure
  | .fulfilled _ => none
  | .rejected error => some error.toError

/-- A call after its `await` of a session's method. -/
def returned (m : MultiDeviceManager) (call : CallId) : ManagerPhase → Option MultiDeviceManager
  | .connectingAll address rest session =>
    match m.initialization call session with
    | some (.settled (.fulfilled _)) =>
      some ({ m with sessions := m.sessions.set address session }.connectNext call rest)
    | some (.settled (.rejected error)) => some (m.setCall call (.settled (.rejected (.failure error))))
    | _ => none
  | .releasing address existing =>
    match m.disconnection call existing with
    | some (.settled _) => some ({ m with sessions := m.sessions.delete address }.replace call address)
    | _ => none
  | .replacing address session =>
    match m.initialization call session with
    | some (.settled (.fulfilled _)) =>
      some ({ m with sessions := m.sessions.set address session }.setCall call (.settled (.fulfilled ())))
    | some (.settled (.rejected error)) => some (m.setCall call (.settled (.rejected (.failure error))))
    | _ => none
  | .disconnectingAll address session failures =>
    match m.disconnection call session with
    | some (.settled result) =>
      some ({ m with sessions := m.sessions.delete address }.disconnectNext call
        (failures ++ (disconnectFailure result).toList))
    | _ => none
  | .settled _ => none

/-- One step; `none` when the event is not enabled. -/
def step (m : MultiDeviceManager) : ManagerEvent → Option MultiDeviceManager
  | .connectAll call => if (m.calls call).isNone then some (m.connectAll call) else none
  | .reconnect call address => if (m.calls call).isNone then some (m.reconnect call address) else none
  | .disconnectAll call => if (m.calls call).isNone then some (m.disconnectAll call) else none
  | .session session event =>
    if event.isOwners then none
    else
      match m.objects session with
      | some object =>
        (object.step event).map fun object => { m with objects := m.objects.insert session object }
      | none => none
  | .returned call => (m.calls call).bind fun phase => m.returned call phase

end MultiDeviceManager

end BluettiMqtt
