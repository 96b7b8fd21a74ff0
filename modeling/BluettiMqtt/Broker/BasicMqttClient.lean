import BluettiMqtt.Core.Failure
import BluettiMqtt.Core.Crc
import BluettiMqtt.Library.Promise
import BluettiMqtt.Library.Table

namespace BluettiMqtt
open Promise

structure PublishedMqttMessage where
  topic : String
  payload : String
  retain : Option Bool
  deriving DecidableEq

structure ReceivedMqttMessage where
  topic : String
  payload : List Byte
  deriving DecidableEq

/-- Where a call of a method stands. In `subscribing` it awaits the native
subscription and remembers the callback it replaced. -/
inductive BasicMqttPhase
  | publishing
  | subscribing (topic : String) (previous : Option Nat)
  | settled (outcome : Settlement Failure Unit)
  deriving DecidableEq

/-- The callbacks, told apart by numbers, with the calls of the methods. What
has been handed to the raw client and to which callback, oldest first, are
history variables. -/
structure BasicMqttClient where
  callbacks : Table String Nat
  calls : Table Nat BasicMqttPhase
  sent : List (String × String × Bool)
  deliveries : List (Nat × ReceivedMqttMessage)

/-- The calls of the methods, what the promises of the raw client settle with,
and the messages that the raw client receives. -/
inductive BasicMqttEvent
  | publish (call : Nat) (message : PublishedMqttMessage)
  | published (call : Nat) (result : Settlement Failure Unit)
  | subscribe (call : Nat) (topic : String) (onMessage : Nat)
  | subscribed (call : Nat) (result : Settlement Failure Unit)
  | message (topic : String) (payload : List Byte)

namespace BasicMqttClient

/-- `new BasicMqttClient(rawClient)`. -/
def create : BasicMqttClient where
  callbacks := fun _ => none
  calls := fun _ => none
  sent := []
  deliveries := []

def setCall (c : BasicMqttClient) (call : Nat) (phase : BasicMqttPhase) : BasicMqttClient :=
  { c with calls := c.calls.insert call phase }

def publish (c : BasicMqttClient) (call : Nat) (message : PublishedMqttMessage) : BasicMqttClient :=
  { c with sent := c.sent ++ [(message.topic, message.payload, message.retain.getD false)] }.setCall call .publishing

/-- `subscribe` up to its `await`. -/
def subscribe (c : BasicMqttClient) (call : Nat) (topic : String) (onMessage : Nat) : BasicMqttClient :=
  { c with callbacks := c.callbacks.insert topic onMessage }.setCall call (.subscribing topic (c.callbacks topic))

/-- The `catch` of `subscribe`. -/
def restoreCallback (callbacks : Table String Nat) (topic : String) : Option Nat → Table String Nat
  | none => callbacks.erase topic
  | some previous => callbacks.insert topic previous

/-- `subscribe` after its `await`. -/
def subscribed (c : BasicMqttClient) (call : Nat) (topic : String) (previous : Option Nat) :
    Settlement Failure Unit → BasicMqttClient
  | .fulfilled _ => c.setCall call (.settled (.fulfilled ()))
  | .rejected error =>
    { c with callbacks := restoreCallback c.callbacks topic previous }.setCall call (.settled (.rejected error))

/-- The listener that the constructor installs. -/
def receive (c : BasicMqttClient) (message : ReceivedMqttMessage) : BasicMqttClient :=
  match c.callbacks message.topic with
  | none => c
  | some callback => { c with deliveries := c.deliveries ++ [(callback, message)] }

/-- One step; `none` when the event is not enabled. -/
def step (c : BasicMqttClient) : BasicMqttEvent → Option BasicMqttClient
  | .publish call message => if c.calls call = none then some (c.publish call message) else none
  | .published call result =>
    match c.calls call with
    | some .publishing => some (c.setCall call (.settled result))
    | _ => none
  | .subscribe call topic onMessage => if c.calls call = none then some (c.subscribe call topic onMessage) else none
  | .subscribed call result =>
    match c.calls call with
    | some (.subscribing topic previous) => some (c.subscribed call topic previous result)
    | _ => none
  | .message topic payload => some (c.receive { topic, payload })

end BasicMqttClient

end BluettiMqtt
