import BluettiMqtt.Bluetooth.Errors
import BluettiMqtt.Core.Commands
import BluettiMqtt.Core.Types
import BluettiMqtt.Library.Promise
import BluettiMqtt.Library.Table

namespace BluettiMqtt
open Promise

inductive DeviceSessionState
  | notConnected
  | connected
  | ready
  | performingCommand
  | commandErrorWait
  | disconnecting
  deriving DecidableEq

/-- Outstanding calls of one asynchronous method are told apart by a number
chosen by the caller. -/
abbrev CallId := Nat

inductive PerformPhase
  | writing
  | awaitingResponse
  | settled (outcome : Settlement Failure (List Byte))
  deriving DecidableEq

/-- One call of `perform`. `settlements` lists the invocations of the resolver
functions of its response promise, of which the first decides the promise;
`timerArmed` says whether the timer the call has set is still armed. -/
structure PerformCall where
  command : DeviceCommand
  phase : PerformPhase
  settlements : List (Settlement Failure (List Byte))
  timerArmed : Bool
  deriving DecidableEq

def PerformCall.response (call : PerformCall) : Option (Settlement Failure (List Byte)) :=
  call.settlements.head?

def PerformCall.isSettled (call : PerformCall) : Bool :=
  match call.phase with
  | .settled _ => true
  | .writing => false
  | .awaitingResponse => false

/-- One call of `connectAndInitialize`, by the operation it awaits. -/
inductive InitializePhase
  | connecting (attempt : Nat)
  | readingName (attempt : Nat)
  | subscribing (attempt : Nat)
  | cleaningUp (attempt : Nat) (error : Failure)
  | retryDelay (attempt : Nat)
  | settled (outcome : Settlement Failure Unit)
  deriving DecidableEq

inductive DisconnectPhase
  | disconnecting
  | settled (outcome : Settlement Failure Unit)
  deriving DecidableEq

inductive TransportCall
  | connect (address : String)
  | readCharacteristic (uuid : String)
  | subscribe (uuid : String)
  | writeCharacteristic (uuid : String) (data : List Byte)
  | disconnect
  deriving DecidableEq

/-- What happened to the session's subscription, for the history variable. -/
inductive LifecycleMark
  | initializing (call : CallId)
  | initialized (call : CallId)
  | attemptFailed (call : CallId)
  | disconnectCalled
  deriving DecidableEq

/-- The object together with its outstanding calls. The fields down to
`pendingTimeout` are the object's own; resolvers and timers are named by the
call that created them. `transportCalls` (oldest first) and `lifecycle` (newest
first) are history variables no method reads. -/
structure DeviceSession where
  address : String
  commandTimeoutMs : Nat
  state : DeviceSessionState
  name : Option String
  currentCommand : Option DeviceCommand
  responseBuffer : List Byte
  pendingResponse : Option CallId
  pendingTimeout : Option CallId
  performs : Table CallId PerformCall
  initializations : Table CallId InitializePhase
  disconnects : Table CallId DisconnectPhase
  transportCalls : List TransportCall
  lifecycle : List LifecycleMark

/-- The observable moments of a session: calls of its methods, settlements of
the transport operations they await, notifications and timers. Every event
runs to the next `await`. -/
inductive SessionEvent
  | perform (call : CallId) (command : DeviceCommand)
  | writeSettled (call : CallId) (result : Settlement Failure Unit)
  | responseSettled (call : CallId)
  | notification (data : List Byte)
  | commandTimer (call : CallId)
  | connectAndInitialize (call : CallId)
  | connectSettled (call : CallId) (result : Settlement Failure Unit)
  | nameSettled (call : CallId) (result : Settlement Failure (List Byte))
  | subscribeSettled (call : CallId) (result : Settlement Failure Unit)
  | cleanupSettled (call : CallId) (result : Settlement Failure Unit)
  | retryElapsed (call : CallId)
  | disconnect (call : CallId)
  | disconnectSettled (call : CallId) (result : Settlement Failure Unit)

def AT_CONTROL_NAME_MESSAGE : List Char :=
  ['A', 'T', '+', 'N', 'A', 'M', 'E', '?', '\r']

def AT_CONTROL_ADV_MESSAGE : List Char :=
  ['A', 'T', '+', 'A', 'D', 'V', '?', '\r']

def isAsciiControlMessage (data : List Byte) : Bool :=
  asciiText data == AT_CONTROL_NAME_MESSAGE || asciiText data == AT_CONTROL_ADV_MESSAGE

def concatBytes (left right : List Byte) : List Byte :=
  left ++ right

namespace DeviceSession

def CONNECT_RETRY_COUNT : Nat := 3

def WRITE_UUID : String := "0000ff02-0000-1000-8000-00805f9b34fb"

def NOTIFY_UUID : String := "0000ff01-0000-1000-8000-00805f9b34fb"

def DEVICE_NAME_UUID : String := "00002a00-0000-1000-8000-00805f9b34fb"

def UNKNOWN_ERROR_CODE : Int := -1

/-- The constructor. -/
def create (address : String) (commandTimeoutMs : Nat) : DeviceSession where
  address := address
  commandTimeoutMs := commandTimeoutMs
  state := .notConnected
  name := none
  currentCommand := none
  responseBuffer := []
  pendingResponse := none
  pendingTimeout := none
  performs := fun _ => none
  initializations := fun _ => none
  disconnects := fun _ => none
  transportCalls := []
  lifecycle := []

def isReady (s : DeviceSession) : Bool :=
  s.state == .ready || s.state == .performingCommand

def phaseOf (s : DeviceSession) (call : CallId) : Option PerformPhase :=
  (s.performs call).map PerformCall.phase

def responseOf (s : DeviceSession) (call : CallId) : Option (Settlement Failure (List Byte)) :=
  (s.performs call).bind PerformCall.response

def setPhase (s : DeviceSession) (call : CallId) (phase : PerformPhase) : DeviceSession :=
  { s with performs := s.performs.adjust (some call) fun record => { record with phase := phase } }

/-- `clearTimeout` on a handle that may be `null`. -/
def clearTimeout (s : DeviceSession) (timeout : Option CallId) : DeviceSession :=
  { s with performs := s.performs.adjust timeout fun record => { record with timerArmed := false } }

/-- `this.pendingResponse?.resolve(…)` and `this.pendingResponse?.reject(…)`. -/
def settleResponse (s : DeviceSession) (outcome : Settlement Failure (List Byte)) : DeviceSession :=
  { s with performs := s.performs.adjust s.pendingResponse fun record =>
      { record with settlements := record.settlements ++ [outcome] } }

def clearPendingState (s : DeviceSession) : DeviceSession :=
  { s.clearTimeout s.pendingTimeout with
    pendingTimeout := none
    pendingResponse := none
    currentCommand := none
    responseBuffer := [] }

@[simp] theorem setPhase_initializations (s : DeviceSession) (call : CallId) (phase : PerformPhase) :
    (s.setPhase call phase).initializations = s.initializations := rfl

@[simp] theorem setPhase_lifecycle (s : DeviceSession) (call : CallId) (phase : PerformPhase) :
    (s.setPhase call phase).lifecycle = s.lifecycle := rfl

@[simp] theorem clearTimeout_initializations (s : DeviceSession) (timeout : Option CallId) :
    (s.clearTimeout timeout).initializations = s.initializations := rfl

@[simp] theorem clearTimeout_lifecycle (s : DeviceSession) (timeout : Option CallId) :
    (s.clearTimeout timeout).lifecycle = s.lifecycle := rfl

@[simp] theorem settleResponse_initializations (s : DeviceSession) (outcome : Settlement Failure (List Byte)) :
    (s.settleResponse outcome).initializations = s.initializations := rfl

@[simp] theorem settleResponse_lifecycle (s : DeviceSession) (outcome : Settlement Failure (List Byte)) :
    (s.settleResponse outcome).lifecycle = s.lifecycle := rfl

@[simp] theorem clearPendingState_initializations (s : DeviceSession) :
    s.clearPendingState.initializations = s.initializations := rfl

@[simp] theorem clearPendingState_lifecycle (s : DeviceSession) :
    s.clearPendingState.lifecycle = s.lifecycle := rfl

def resolvePending (s : DeviceSession) (response : List Byte) : DeviceSession :=
  (s.settleResponse (.fulfilled response)).clearPendingState

def rejectPending (s : DeviceSession) (error : Failure) : DeviceSession :=
  (s.settleResponse (.rejected error)).clearPendingState

/-- `response[2] ?? UNKNOWN_ERROR_CODE`. -/
def exceptionCode (response : List Byte) : Int :=
  match response[2]? with
  | some byte => byte.toNat
  | none => UNKNOWN_ERROR_CODE

def exceptionMessage (command : DeviceCommand) (code : Int) : String :=
  let functionCode := command.functionCode.toNat
  s!"MODBUS exception for function {functionCode}: code {code}"

def buildModbusException (command : DeviceCommand) (response : List Byte) : Failure :=
  let code := exceptionCode response
  if code = 5 then
    .deviceBusyError (exceptionMessage command code) code
  else
    .modbusError (exceptionMessage command code) code

def handleNotification (s : DeviceSession) (data : List Byte) : DeviceSession :=
  match s.pendingResponse, s.currentCommand with
  | some _, some command =>
    if isAsciiControlMessage data then
      { s.rejectPending (.badConnectionError
          "Received AT control notification instead of MODBUS response") with
        state := .disconnecting }
    else
      let responseBuffer := concatBytes s.responseBuffer data
      let received := { s with responseBuffer := responseBuffer }
      if command.isExceptionResponse responseBuffer then
        { received.rejectPending (buildModbusException command responseBuffer) with
          state := .ready }
      else if responseBuffer.length = command.responseSize then
        if command.isValidResponse responseBuffer then
          { received.resolvePending responseBuffer with state := .ready }
        else
          { received.rejectPending (.parseError "Response CRC validation failed") with
            state := .commandErrorWait }
      else if command.responseSize < responseBuffer.length then
        { received.rejectPending
            (.parseError "Notification payload exceeded expected response size") with
          state := .commandErrorWait }
      else
        received
  | _, _ => s

/-- `perform` up to its first `await`. A refused call creates neither a
response promise nor a timer. -/
def perform (s : DeviceSession) (call : CallId) (command : DeviceCommand) : DeviceSession :=
  let address := s.address
  if s.isReady then
    { s with
      state := .performingCommand
      currentCommand := some command
      responseBuffer := []
      pendingResponse := some call
      pendingTimeout := some call
      performs := s.performs.insert call
        { command := command, phase := .writing, settlements := [], timerArmed := true }
      transportCalls := s.transportCalls ++ [.writeCharacteristic WRITE_UUID command.toBytes] }
  else
    { s with
      performs := s.performs.insert call
        { command := command, settlements := [], timerArmed := false
          phase := .settled (.rejected (.badConnectionError s!"Device {address} is not ready")) } }

/-- `perform` after the write: the failure is handled at once, success goes on
to `await responsePromise`. -/
def writeSettled (s : DeviceSession) (call : CallId) : Settlement Failure Unit → DeviceSession
  | .fulfilled _ => s.setPhase call .awaitingResponse
  | .rejected error =>
    ((({ s with state := .disconnecting }).settleResponse (.rejected error)).clearPendingState).setPhase
      call (.settled (.rejected error))

/-- `perform` after `await responsePromise`. -/
def responseSettled (s : DeviceSession) (call : CallId) :
    Settlement Failure (List Byte) → DeviceSession
  | .fulfilled response =>
    (({ s with state := .ready }).clearPendingState).setPhase call (.settled (.fulfilled response))
  | .rejected error => s.clearPendingState.setPhase call (.settled (.rejected error))

/-- The callback of the timer set by `perform`. -/
def commandTimer (s : DeviceSession) (call : CallId) : DeviceSession :=
  let address := s.address
  let commandTimeoutMs := s.commandTimeoutMs
  { (s.clearTimeout (some call)) with state := .commandErrorWait }.rejectPending
    (.commandTimeoutError
      s!"Timed out waiting for response from {address} after {commandTimeoutMs} ms")

def setInitialization (s : DeviceSession) (call : CallId) (phase : InitializePhase) : DeviceSession :=
  { s with initializations := s.initializations.insert call phase }

/-- The head of the retry loop: `transport.connect` of the given attempt. -/
def connectAttempt (s : DeviceSession) (call : CallId) (attempt : Nat) : DeviceSession :=
  { s.setInitialization call (.connecting attempt) with
    transportCalls := s.transportCalls ++ [.connect s.address] }

/-- The `catch` block up to the end of its best-effort `transport.disconnect`. -/
def attemptFailed (s : DeviceSession) (call : CallId) (attempt : Nat) (error : Failure) :
    DeviceSession :=
  { s.clearPendingState.setInitialization call (.cleaningUp attempt error) with
    state := .notConnected
    name := none
    transportCalls := s.transportCalls ++ [.disconnect]
    lifecycle := .attemptFailed call :: s.lifecycle }

def connectSettled (s : DeviceSession) (call : CallId) (attempt : Nat) :
    Settlement Failure Unit → DeviceSession
  | .fulfilled _ =>
    { s.setInitialization call (.readingName attempt) with
      state := .connected
      transportCalls := s.transportCalls ++ [.readCharacteristic DEVICE_NAME_UUID] }
  | .rejected error => s.attemptFailed call attempt error

def nameSettled (s : DeviceSession) (call : CallId) (attempt : Nat) :
    Settlement Failure (List Byte) → DeviceSession
  | .fulfilled rawName =>
    { s.setInitialization call (.subscribing attempt) with
      name := some (String.ofList (asciiText rawName))
      transportCalls := s.transportCalls ++ [.subscribe NOTIFY_UUID] }
  | .rejected error => s.attemptFailed call attempt error

def subscribeSettled (s : DeviceSession) (call : CallId) (attempt : Nat) :
    Settlement Failure Unit → DeviceSession
  | .fulfilled _ =>
    { s.setInitialization call (.settled (.fulfilled ())) with
      state := .ready
      lifecycle := .initialized call :: s.lifecycle }
  | .rejected error => s.attemptFailed call attempt error

/-- The end of the `catch` block. The retry test fails on the last attempt, so
the `throw` after the loop is never reached. -/
def cleanupSettled (s : DeviceSession) (call : CallId) (attempt : Nat) (error : Failure) :
    DeviceSession :=
  if attempt < CONNECT_RETRY_COUNT - 1 && isRetryableInitializationError error then
    s.setInitialization call (.retryDelay attempt)
  else
    s.setInitialization call (.settled (.rejected error))

def setDisconnect (s : DeviceSession) (call : CallId) (phase : DisconnectPhase) : DeviceSession :=
  { s with disconnects := s.disconnects.insert call phase }

def disconnect (s : DeviceSession) (call : CallId) : DeviceSession :=
  { s.clearPendingState.setDisconnect call .disconnecting with
    state := .disconnecting
    transportCalls := s.transportCalls ++ [.disconnect]
    lifecycle := .disconnectCalled :: s.lifecycle }

/-- The `finally` block of `disconnect`. -/
def disconnectSettled (s : DeviceSession) (call : CallId) (result : Settlement Failure Unit) :
    DeviceSession :=
  { s.setDisconnect call (.settled result) with name := none, state := .notConnected }

/-- One step; `none` when the event is not enabled. Notifications are always
enabled, whatever the transport has subscribed. -/
def step (s : DeviceSession) : SessionEvent → Option DeviceSession
  | .perform call command =>
    if (s.performs call).isNone then some (s.perform call command) else none
  | .writeSettled call result =>
    if s.phaseOf call = some .writing then some (s.writeSettled call result) else none
  | .responseSettled call =>
    match s.phaseOf call, s.responseOf call with
    | some .awaitingResponse, some outcome => some (s.responseSettled call outcome)
    | _, _ => none
  | .notification data => some (s.handleNotification data)
  | .commandTimer call =>
    if (s.performs call).map PerformCall.timerArmed = some true then
      some (s.commandTimer call)
    else none
  | .connectAndInitialize call =>
    if (s.initializations call).isNone then
      some ({ s with lifecycle := .initializing call :: s.lifecycle }.connectAttempt call 0)
    else none
  | .connectSettled call result =>
    match s.initializations call with
    | some (.connecting attempt) => some (s.connectSettled call attempt result)
    | _ => none
  | .nameSettled call result =>
    match s.initializations call with
    | some (.readingName attempt) => some (s.nameSettled call attempt result)
    | _ => none
  | .subscribeSettled call result =>
    match s.initializations call with
    | some (.subscribing attempt) => some (s.subscribeSettled call attempt result)
    | _ => none
  | .cleanupSettled call _ =>
    match s.initializations call with
    | some (.cleaningUp attempt error) => some (s.cleanupSettled call attempt error)
    | _ => none
  | .retryElapsed call =>
    match s.initializations call with
    | some (.retryDelay attempt) => some (s.connectAttempt call (attempt + 1))
    | _ => none
  | .disconnect call =>
    if (s.disconnects call).isNone then some (s.disconnect call) else none
  | .disconnectSettled call result =>
    if s.disconnects call = some .disconnecting then some (s.disconnectSettled call result)
    else none

/-- A new session whose `connectAndInitialize` went through at the first
attempt. -/
def opened (address : String) (commandTimeoutMs : Nat) (rawName : List Byte) : DeviceSession :=
  ((({ create address commandTimeoutMs with lifecycle := [.initializing 0] }.connectAttempt 0 0
    ).connectSettled 0 0 (.fulfilled ())).nameSettled 0 0 (.fulfilled rawName)).subscribeSettled 0 0
      (.fulfilled ())

/-- A read of the output registers, as the polling loops send it. -/
def readStatus : DeviceCommand :=
  .readHoldingRegisters (.of 36 40)

/-- The same session with a status read written and not yet answered. -/
def readingStatus (address : String) (commandTimeoutMs : Nat) (rawName : List Byte) : DeviceSession :=
  ((opened address commandTimeoutMs rawName).perform 0 readStatus).setPhase 0 .awaitingResponse

end DeviceSession

end BluettiMqtt
