import BluettiMqtt.Bluetooth.HelperClient

namespace BluettiMqtt
open Promise

/-- A closure handed to `onNotification`: the call of `connect` that made it,
and the transport it belongs to. -/
structure NotificationListener where
  call : Nat
  transport : Nat
  deriving DecidableEq

/-- The fields of one transport. The callbacks of its subscribers are told
apart by numbers. -/
structure HelperTransport where
  sessionId : Option String
  unsubscribeNotification : Option NotificationListener
  subscribers : Table String Nat

/-- Where a call of a transport's method stands. In `unwiring` it awaits the
disconnect of a session whose listener could not be installed, in `subscribing`
it remembers the callback it replaced. -/
inductive HelperTransportPhase
  | connecting
  | unwiring (error : Failure)
  | subscribing (normalizedUuid : String) (previous : Option Nat)
  | disconnecting
  | settled (outcome : Settlement Failure Unit)
  deriving DecidableEq

def HelperTransportPhase.inProgress : HelperTransportPhase → Bool
  | .settled _ => false
  | _ => true

structure HelperTransportCall where
  transport : Nat
  phase : HelperTransportPhase
  deriving DecidableEq

/-- The transports that share one client, with the calls of their methods and
the client's listeners. `sessions` and `deliveries` (oldest first) are history
variables. -/
structure HelperTransports where
  transports : Nat → HelperTransport
  calls : Table Nat HelperTransportCall
  notificationListeners : List NotificationListener
  sessions : List String
  deliveries : List (Nat × List Byte)

/-- The calls of the methods, what the awaited calls of the client settle with,
and the notifications that the client routes. `wiring` is what `onNotification`
throws. -/
inductive HelperTransportEvent
  | connect (call transport : Nat) (address : String)
  | connected (call : Nat) (result : Settlement Failure String) (wiring : Option Failure)
  | unwired (call : Nat) (result : Settlement Failure Unit)
  | subscribe (call transport : Nat) (uuid : String) (onData : Nat)
  | subscribed (call : Nat) (result : Settlement Failure Unit)
  | disconnect (call transport : Nat)
  | disconnected (call : Nat) (result : Settlement Failure Unit)
  | notification (event : HelperNotification)

/-- `new WindowsHelperTransport(client)`. -/
def HelperTransport.create : HelperTransport where
  sessionId := none
  unsubscribeNotification := none
  subscribers := fun _ => none

namespace HelperTransports

def create : HelperTransports where
  transports := fun _ => HelperTransport.create
  calls := fun _ => none
  notificationListeners := []
  sessions := []
  deliveries := []

def setCall (s : HelperTransports) (call transport : Nat) (phase : HelperTransportPhase) : HelperTransports :=
  { s with calls := s.calls.insert call { transport := transport, phase := phase } }

def setTransport (s : HelperTransports) (transport : Nat) (change : HelperTransport → HelperTransport) :
    HelperTransports :=
  { s with transports := fun other => if other = transport then change (s.transports other) else s.transports other }

/-- `connect` up to its `await`. -/
def connect (s : HelperTransports) (call transport : Nat) : HelperTransports :=
  if (s.transports transport).sessionId.isSome then
    s.setCall call transport (.settled (.rejected (.error "Helper transport is already connected")))
  else s.setCall call transport .connecting

/-- `connect` after `await this.client.connect(address)`. -/
def connected (s : HelperTransports) (call transport : Nat) (wiring : Option Failure) :
    Settlement Failure String → HelperTransports
  | .fulfilled sessionId =>
    let issued := { s with sessions := s.sessions ++ [sessionId] }
    match wiring with
    | none =>
      let listener : NotificationListener := { call := call, transport := transport }
      ({ issued with notificationListeners := s.notificationListeners ++ [listener] }.setTransport transport
        fun fields =>
          { fields with sessionId := some sessionId, unsubscribeNotification := some listener }).setCall
        call transport (.settled (.fulfilled ()))
    | some error =>
      (issued.setTransport transport fun fields => { fields with sessionId := none }).setCall
        call transport (.unwiring error)
  | .rejected error => s.setCall call transport (.settled (.rejected error))

/-- `connect` after the disconnect in its `catch`, which keeps the first error. -/
def unwired (s : HelperTransports) (call transport : Nat) (error : Failure) : HelperTransports :=
  s.setCall call transport (.settled (.rejected error))

/-- The `catch` of `subscribe`. -/
def restoreSubscriber (fields : HelperTransport) (normalizedUuid : String) : Option Nat → HelperTransport
  | none => { fields with subscribers := fields.subscribers.erase normalizedUuid }
  | some previous => { fields with subscribers := fields.subscribers.insert normalizedUuid previous }

/-- `subscribe` up to its `await`, or to its end when there is no session. -/
def subscribe (s : HelperTransports) (call transport : Nat) (normalizedUuid : String) (onData : Nat) :
    HelperTransports :=
  let previous := (s.transports transport).subscribers normalizedUuid
  let registered := s.setTransport transport fun fields =>
    { fields with subscribers := fields.subscribers.insert normalizedUuid onData }
  match (s.transports transport).sessionId with
  | some _ => registered.setCall call transport (.subscribing normalizedUuid previous)
  | none =>
    (registered.setTransport transport fun fields => restoreSubscriber fields normalizedUuid previous).setCall
      call transport (.settled (.rejected (.error "Helper transport is not connected")))

/-- `subscribe` after its `await`. -/
def subscribed (s : HelperTransports) (call transport : Nat) (normalizedUuid : String) (previous : Option Nat) :
    Settlement Failure Unit → HelperTransports
  | .fulfilled _ => s.setCall call transport (.settled (.fulfilled ()))
  | .rejected error =>
    (s.setTransport transport fun fields => restoreSubscriber fields normalizedUuid previous).setCall
      call transport (.settled (.rejected error))

/-- `disconnect` up to its `await`, or to its end when there is no session. -/
def disconnect (s : HelperTransports) (call transport : Nat) : HelperTransports :=
  let fields := s.transports transport
  let cleared := { s with
    notificationListeners := s.notificationListeners.filter fun listener =>
      some listener ≠ fields.unsubscribeNotification }.setTransport transport fun _ =>
    { sessionId := none, unsubscribeNotification := none, subscribers := fun _ => none }
  match fields.sessionId with
  | some _ => cleared.setCall call transport .disconnecting
  | none => cleared.setCall call transport (.settled (.fulfilled ()))

/-- What the listener of a transport hands to which of its callbacks. -/
def deliver (normalizeUuid : String → String) (s : HelperTransports) (event : HelperNotification)
    (listener : NotificationListener) : Option (Nat × List Byte) :=
  let fields := s.transports listener.transport
  if some event.sessionId ≠ fields.sessionId then none
  else (fields.subscribers (normalizeUuid event.uuid)).map fun callback => (callback, event.data)

/-- The loop over the listeners in `routeHelperEvent`. -/
def routeNotification (normalizeUuid : String → String) (s : HelperTransports) (event : HelperNotification) :
    HelperTransports :=
  { s with deliveries := s.deliveries ++ s.notificationListeners.filterMap (s.deliver normalizeUuid event) }

/-- One step; `none` when the event is not enabled. `normalizeUuid` stands for
`toLowerCase`. -/
def step (normalizeUuid : String → String) (s : HelperTransports) : HelperTransportEvent → Option HelperTransports
  | .connect call transport _ =>
    if (s.calls call).isNone then some (s.connect call transport) else none
  | .connected call result wiring =>
    match s.calls call with
    | some ⟨transport, .connecting⟩ => some (s.connected call transport wiring result)
    | _ => none
  | .unwired call _ =>
    match s.calls call with
    | some ⟨transport, .unwiring error⟩ => some (s.unwired call transport error)
    | _ => none
  | .subscribe call transport uuid onData =>
    if (s.calls call).isNone then some (s.subscribe call transport (normalizeUuid uuid) onData) else none
  | .subscribed call result =>
    match s.calls call with
    | some ⟨transport, .subscribing normalizedUuid previous⟩ =>
      some (s.subscribed call transport normalizedUuid previous result)
    | _ => none
  | .disconnect call transport =>
    if (s.calls call).isNone then some (s.disconnect call transport) else none
  | .disconnected call result =>
    match s.calls call with
    | some ⟨transport, .disconnecting⟩ => some (s.setCall call transport (.settled result))
    | _ => none
  | .notification event => some (s.routeNotification normalizeUuid event)

end HelperTransports

end BluettiMqtt
