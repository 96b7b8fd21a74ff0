import BluettiMqtt.Broker.PayloadUtils
import BluettiMqtt.Library.Promise

namespace BluettiMqtt
open Promise

def COMMAND_SUBSCRIPTION_TOPIC : String := "bluetti/command/#"

def deviceKey (device : BluettiDevice) : String :=
  device.type ++ "-" ++ device.serialNumber

/-- `[a-z0-9_]`, in either case. -/
def isFieldCharacter (c : Char) : Bool :=
  c.isAlphanum || c = '_'

/-- The literal part of `COMMAND_TOPIC`, which matches in either case. -/
def COMMAND_TOPIC_START : List Char := "bluetti/command/".toList

/-- `/^bluetti\/command\/([A-Z0-9]+)-(\d+)\/([a-z0-9_]+)$/i` with its groups. A
group ends at the first character that does not belong to its class. -/
def COMMAND_TOPIC (topic : String) : Option (String × String × String) :=
  let start := topic.toList.take COMMAND_TOPIC_START.length
  let (model, afterModel) := (topic.toList.drop COMMAND_TOPIC_START.length).span Char.isAlphanum
  let (serialNumber, afterSerial) := (afterModel.drop 1).span Char.isDigit
  let fieldName := afterSerial.drop 1
  if start.map Char.toLower = COMMAND_TOPIC_START ∧ model ≠ [] ∧ afterModel.head? = some '-' ∧
      serialNumber ≠ [] ∧ afterSerial.head? = some '/' ∧ fieldName ≠ [] ∧
      fieldName.all isFieldCharacter = true then
    some (String.ofList model, String.ofList serialNumber, String.ofList fieldName)
  else none

/-- A message on the command topic of the event bus. -/
structure CommandMessage where
  device : BluettiDevice
  command : WriteSingleRegister
  deriving DecidableEq

/-- A client that the connector has returned. Its message listeners are named
by the calls of `run` that made them. -/
structure RawMqttClient where
  ended : Bool
  listeners : List Nat
  deriving DecidableEq

/-- Where a call of `run` or `stop` stands. In `cleaning` it awaits `endAsync`;
`startup` is the error that a call of `run` throws on after that. -/
inductive BridgePhase
  | connecting
  | subscribing (client : Nat)
  | cleaning (client : Nat) (startup : Option Failure) (failures : List Failure)
  | settled (outcome : Settlement Rejection Unit)
  deriving DecidableEq

def BridgePhase.inProgress : BridgePhase → Bool
  | .settled _ => false
  | _ => true

/-- The bridge with its calls, the clients of its connector and its listeners on
the bus. `seen` and `published` (oldest first) are history variables. -/
structure MqttBridge where
  devices : Table String BluettiDevice
  rawClient : Option Nat
  removeParserListener : Option Nat
  messageListener : Option Nat
  parserListeners : List Nat
  clients : Table Nat RawMqttClient
  calls : Table Nat BridgePhase
  seen : List BluettiDevice
  published : List CommandMessage

/-- The settlements come with what the calls of `on` and `off` that follow them
throw. A client is told from all others by its number. -/
inductive BridgeEvent
  | run (call : Nat)
  | connected (call : Nat) (result : Settlement Failure Nat)
  | subscribed (call : Nat) (result : Settlement Failure Unit) (onError offError : Option Failure)
  | stop (call : Nat) (offError : Option Failure)
  | ended (call : Nat) (result : Settlement Failure Unit)
  | parserMessage (device : BluettiDevice)
  | message (client : Nat) (topic : String) (payload : List Byte)

namespace MqttBridge

def create : MqttBridge where
  devices := fun _ => none
  rawClient := none
  removeParserListener := none
  messageListener := none
  parserListeners := []
  clients := fun _ => none
  calls := fun _ => none
  seen := []
  published := []

def setCall (b : MqttBridge) (call : Nat) (phase : BridgePhase) : MqttBridge :=
  { b with calls := b.calls.insert call phase }

def setClient (b : MqttBridge) (client : Nat) (change : RawMqttClient → RawMqttClient) : MqttBridge :=
  { b with clients := b.clients.adjust (some client) change }

/-- `removeParserListener?.()`. -/
def dropParserListener (b : MqttBridge) : MqttBridge :=
  { b with
    parserListeners := b.parserListeners.filter fun listener => some listener ≠ b.removeParserListener
    removeParserListener := none }

/-- The call of `client.off` in `cleanupClient`, with what it leaves in `failures`. -/
def dropMessageListener (b : MqttBridge) (client : Nat) (offError : Option Failure) :
    MqttBridge × List Failure :=
  match b.messageListener, offError with
  | none, _ => (b, [])
  | some _, some error => ({ b with messageListener := none }, [error])
  | some listener, none =>
    ({ b with messageListener := none }.setClient client fun record =>
      { record with listeners := record.listeners.filter (· ≠ listener) }, [])

/-- `cleanupClient` up to its `await`. -/
def cleanupClient (b : MqttBridge) (call client : Nat) (startup offError : Option Failure) : MqttBridge :=
  let (cleaned, failures) := { b with rawClient := none }.dropParserListener.dropMessageListener client offError
  (cleaned.setClient client fun record => { record with ended := true }).setCall call
    (.cleaning client startup failures)

section Frame

variable (b : MqttBridge) (call client : Nat) (startup offError : Option Failure)

@[simp] theorem dropMessageListener_devices :
    (b.dropMessageListener client offError).1.devices = b.devices ∧
      (b.dropMessageListener client offError).1.seen = b.seen := by
  unfold dropMessageListener
  split <;> exact ⟨rfl, rfl⟩

@[simp] theorem dropMessageListener_rawClient :
    (b.dropMessageListener client offError).1.rawClient = b.rawClient ∧
      (b.dropMessageListener client offError).1.removeParserListener = b.removeParserListener ∧
      (b.dropMessageListener client offError).1.parserListeners = b.parserListeners ∧
      (b.dropMessageListener client offError).1.messageListener = none := by
  unfold dropMessageListener
  split
  · exact ⟨rfl, rfl, rfl, ‹_›⟩
  · exact ⟨rfl, rfl, rfl, rfl⟩
  · exact ⟨rfl, rfl, rfl, rfl⟩

theorem cleanupClient_devices :
    (b.cleanupClient call client startup offError).devices = b.devices ∧
      (b.cleanupClient call client startup offError).seen = b.seen :=
  dropMessageListener_devices _ client offError

end Frame

/-- `run` up to its first `await`. -/
def run (b : MqttBridge) (call : Nat) : MqttBridge :=
  if b.rawClient.isSome then
    b.setCall call (.settled (.rejected (.failure (.error "MQTT bridge is already running"))))
  else b.setCall call .connecting

def connected (b : MqttBridge) (call : Nat) : Settlement Failure Nat → MqttBridge
  | .fulfilled client =>
    { b with
      rawClient := some client
      clients := b.clients.insert client { ended := false, listeners := [] } }.setCall call (.subscribing client)
  | .rejected error => b.setCall call (.settled (.rejected (.failure error)))

/-- `run` after `await client.subscribe(...)`. -/
def subscribed (b : MqttBridge) (call client : Nat) (onError offError : Option Failure) :
    Settlement Failure Unit → MqttBridge
  | .fulfilled _ =>
    let installed := { b with
      parserListeners := b.parserListeners ++ [call]
      removeParserListener := some call
      messageListener := some call }
    match onError with
    | none =>
      (installed.setClient client fun record => { record with listeners := record.listeners ++ [call] }).setCall
        call (.settled (.fulfilled ()))
    | some error => installed.cleanupClient call client (some error) offError
  | .rejected error => b.cleanupClient call client (some error) offError

def stop (b : MqttBridge) (call : Nat) (offError : Option Failure) : MqttBridge :=
  match b.rawClient with
  | none => b.setCall call (.settled (.fulfilled ()))
  | some client => b.cleanupClient call client none offError

/-- What a call settles with after `endAsync`. -/
def cleanupOutcome (startup : Option Failure) (failures : List Failure) :
    Settlement Failure Unit → Settlement Rejection Unit
  | result =>
    let failures := match result with
      | .fulfilled _ => failures
      | .rejected error => failures ++ [error]
    match startup, failures with
    | some error, _ => .rejected (.failure error)
    | none, [] => .fulfilled ()
    | none, failures => .rejected (.aggregateError failures "Failed to clean up MQTT client")

/-- What `handleIncomingCommand` publishes, or the error it throws before that. -/
def incomingMessage (b : MqttBridge) (topic : String) (payload : List Byte) :
    Except Failure (Option CommandMessage) :=
  match COMMAND_TOPIC topic with
  | none => .ok none
  | some (model, serialNumber, fieldName) =>
    match b.devices (model ++ "-" ++ serialNumber) with
    | none => .ok none
    | some device => do
      let text := String.ofList (utf8Text none (payload.map BitVec.toNat))
      let command ← incomingCommand device fieldName text
      return command.map fun command => { device := device, command := command }

def handleIncomingCommand (b : MqttBridge) (topic : String) (payload : List Byte) : MqttBridge :=
  match b.incomingMessage topic payload with
  | .ok (some message) => { b with published := b.published ++ [message] }
  | .ok none => b
  | .error _ => b

/-- A parser message reaches the bridge when it has a listener and a client. -/
def handleParserMessage (b : MqttBridge) (device : BluettiDevice) : MqttBridge :=
  if b.parserListeners ≠ [] ∧ b.rawClient.isSome = true then
    { b with
      devices := b.devices.insert (deviceKey device) device
      seen := b.seen ++ [device] }
  else b

/-- One step; `none` when the event is not enabled. -/
def step (b : MqttBridge) : BridgeEvent → Option MqttBridge
  | .run call => if (b.calls call).isNone then some (b.run call) else none
  | .connected call result =>
    match b.calls call, result with
    | some .connecting, .fulfilled client =>
      if (b.clients client).isNone then some (b.connected call (.fulfilled client)) else none
    | some .connecting, .rejected error => some (b.connected call (.rejected error))
    | _, _ => none
  | .subscribed call result onError offError =>
    match b.calls call with
    | some (.subscribing client) => some (b.subscribed call client onError offError result)
    | _ => none
  | .stop call offError => if (b.calls call).isNone then some (b.stop call offError) else none
  | .ended call result =>
    match b.calls call with
    | some (.cleaning _ startup failures) =>
      some (b.setCall call (.settled (cleanupOutcome startup failures result)))
    | _ => none
  | .parserMessage device => some (b.handleParserMessage device)
  | .message client topic payload =>
    match b.clients client with
    | some record =>
      some (record.listeners.foldl (fun b _ => b.handleIncomingCommand topic payload) b)
    | none => none

end MqttBridge

end BluettiMqtt
