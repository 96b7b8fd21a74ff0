import BluettiMqtt.Bluetooth.HelperTransport

namespace BluettiMqtt
open Promise

/-- A JSON object by its text properties. -/
abbrev HelperObject := List (String × String)

/-- What the native helper awaits while it handles a request. In `answering` it
writes the response; `opened` is the connection it takes back should that fail. -/
inductive HelperTask
  | opening (address : String)
  | closing
  | working
  | answering (payload : HelperObject) (opened : Option String)
  | failing (code message : String)
  deriving DecidableEq

/-- The native helper between its standard input and output. `connections` are
the keys of `_connections`, and `sessionIds` (a history variable) those that
`NewGuid` has given. -/
structure HelperProtocol where
  input : List (HelperRequest HelperObject)
  current : Option (HelperRequest HelperObject × HelperTask)
  connections : List String
  sessionIds : List String
  output : List (HelperMessage HelperObject)
  running : Bool

/-- What can happen to the helper: the next line is read, an operating system
call or a write ends, with the message of its exception, or a characteristic
changes. -/
inductive ProtocolEvent
  | read
  | opened (result : Settlement String (String × String))
  | closed (result : Settlement String Unit)
  | worked (result : Settlement String HelperObject)
  | wrote (result : Settlement String Unit)
  | notified (event : HelperNotification)

def requireString (arguments : Option HelperObject) (propertyName : String) : Except String String :=
  match arguments with
  | none => .error s!"Missing arguments object. Expected '{propertyName}'."
  | some element =>
    match element.lookup propertyName with
    | none => .error s!"Missing string argument '{propertyName}'."
    | some value => .ok value

namespace HelperProtocol

/-- The constructor, and `RunAsync` up to its loop. -/
def create : HelperProtocol where
  input := []
  current := none
  connections := []
  sessionIds := []
  output := [.ready]
  running := true

def setTask (h : HelperProtocol) (request : HelperRequest HelperObject) (task : HelperTask) : HelperProtocol :=
  { h with current := some (request, task) }

/-- The `catch` around the handlers. -/
def commandFailed (h : HelperProtocol) (request : HelperRequest HelperObject) (message : String) : HelperProtocol :=
  h.setTask request (.failing "command_failed" message)

/-- The commands whose handlers leave the table alone. -/
def commands : List String := ["scan", "readCharacteristic", "writeCharacteristic", "subscribe"]

/-- `HandleDisconnectAsync` up to its first `await`. -/
def handleDisconnect (h : HelperProtocol) (request : HelperRequest HelperObject) : HelperProtocol :=
  match requireString request.arguments "sessionId" with
  | .error message => h.commandFailed request message
  | .ok sessionId =>
    { h with connections := h.connections.filter (· ≠ sessionId) }.setTask request
      (if sessionId ∈ h.connections then .closing else .answering [] none)

/-- The `switch` over the commands. -/
def handle (h : HelperProtocol) (request : HelperRequest HelperObject) : HelperProtocol :=
  let command := request.command
  if command = "ping" then h.setTask request (.answering [] none)
  else if command = "connect" then
    match requireString request.arguments "address" with
    | .error message => h.commandFailed request message
    | .ok addressText => h.setTask request (.opening addressText)
  else if command = "disconnect" then h.handleDisconnect request
  else if command ∈ commands then h.setTask request .working
  else h.setTask request (.failing "unsupported_command" s!"Unsupported command '{command}'.")

/-- `HandleConnectAsync` after `CreateAsync`. -/
def opened (h : HelperProtocol) (request : HelperRequest HelperObject) (addressText : String) :
    Settlement String (String × String) → HelperProtocol
  | .fulfilled (sessionId, name) =>
    { h with
      connections := h.connections ++ [sessionId]
      sessionIds := sessionId :: h.sessionIds }.setTask request
      (.answering [("sessionId", sessionId), ("address", addressText), ("name", name)] (some sessionId))
  | .rejected message => h.commandFailed request message

/-- A response has been written, or is taken back. -/
def answered (h : HelperProtocol) (request : HelperRequest HelperObject) (payload : HelperObject)
    (opened : Option String) : Settlement String Unit → HelperProtocol
  | .fulfilled _ =>
    { h with current := none, output := h.output ++ [.response (some request.id) (some payload)] }
  | .rejected message =>
    { h with connections := h.connections.filter (some · ≠ opened) }.commandFailed request message

/-- An error has been written. When that fails the helper ends and disposes of
all connections. -/
def failed (h : HelperProtocol) (request : HelperRequest HelperObject) (code message : String) :
    Settlement String Unit → HelperProtocol
  | .fulfilled _ =>
    { h with current := none, output := h.output ++ [.error (some request.id) code message] }
  | .rejected _ => { h with current := none, connections := [], running := false }

/-- One step; `none` when the event is not enabled. -/
def step (h : HelperProtocol) : ProtocolEvent → Option HelperProtocol
  | .read =>
    match h.current, h.input with
    | none, request :: rest => if h.running then some ({ h with input := rest }.handle request) else none
    | _, _ => none
  | .opened result =>
    match h.current, result with
    | some (request, .opening addressText), .fulfilled (sessionId, name) =>
      if sessionId ∈ h.sessionIds then none
      else some (h.opened request addressText (.fulfilled (sessionId, name)))
    | some (request, .opening addressText), .rejected message =>
      some (h.opened request addressText (.rejected message))
    | _, _ => none
  | .closed result =>
    match h.current, result with
    | some (request, .closing), .fulfilled _ => some (h.setTask request (.answering [] none))
    | some (request, .closing), .rejected message => some (h.commandFailed request message)
    | _, _ => none
  | .worked result =>
    match h.current, result with
    | some (request, .working), .fulfilled payload => some (h.setTask request (.answering payload none))
    | some (request, .working), .rejected message => some (h.commandFailed request message)
    | _, _ => none
  | .wrote result =>
    match h.current with
    | some (request, .answering payload opened) => some (h.answered request payload opened result)
    | some (request, .failing code message) => some (h.failed request code message result)
    | _ => none
  | .notified event =>
    if h.running then some { h with output := h.output ++ [.notification (some event)] } else none

end HelperProtocol

/-- The client with its transports, and the helper at the other end. The
client's listeners are kept with the transports. -/
structure HelperPair where
  client : HelperClient HelperObject
  transports : HelperTransports
  helper : HelperProtocol

/-- Calls of the transports' methods and other requests, their continuations,
the steps of the helper, output lines and deadlines. -/
inductive PairEvent
  | connect (call transport : Nat) (address : String)
  | subscribe (call transport : Nat) (uuid : String) (onData : Nat)
  | disconnect (call transport : Nat)
  | request (call : Nat) (command : String) (arguments : Option HelperObject)
  | written (call : Nat) (id : String)
  | helper (event : ProtocolEvent)
  | line
  | deadline (call : Nat)
  | settled (call : Nat)

/-- The session of a payload that passes `isHelperConnectPayload`. -/
def connectSession (payload : Option HelperObject) : Option String := do
  let candidate ← payload
  let sessionId ← candidate.lookup "sessionId"
  let _ ← candidate.lookup "address"
  let _ ← candidate.lookup "name"
  return sessionId

/-- `client.connect` after its request. -/
def connectResult : Settlement Failure (Option HelperObject) → Settlement Failure String
  | .fulfilled payload =>
    match connectSession payload with
    | some sessionId => .fulfilled sessionId
    | none => .rejected (.error "Helper returned an invalid connect payload")
  | .rejected error => .rejected error

/-- `client.subscribe` and `client.disconnect` after their requests. -/
def requestResult : Settlement Failure (Option HelperObject) → Settlement Failure Unit
  | .fulfilled _ => .fulfilled ()
  | .rejected error => .rejected error

/-- What a line means to the transports. -/
def HelperTransports.hear (normalizeUuid : String → String) (s : HelperTransports) :
    HelperMessage HelperObject → HelperTransports
  | .notification (some event) => s.routeNotification normalizeUuid event
  | _ => s

namespace HelperPair

def create : HelperPair where
  client := HelperClient.create
  transports := HelperTransports.create
  helper := HelperProtocol.create

/-- A call of `client.request`. -/
def send (p : HelperPair) (call : Nat) (command : String) (arguments : Option HelperObject)
    (transports : HelperTransports) : Option HelperPair :=
  (p.client.step (.request call command arguments)).map fun client =>
    { p with client := client, transports := transports }

/-- What a call of the client has settled with. -/
def outcome (p : HelperPair) (call : Nat) : Option (Settlement Failure (Option HelperObject)) :=
  (p.client.calls call).bind fun record => record.settlements.head?

/-- One step; `none` when the event is not enabled. -/
def step (normalizeUuid : String → String) (p : HelperPair) : PairEvent → Option HelperPair
  | .connect call transport address =>
    (p.transports.step normalizeUuid (.connect call transport address)).bind fun transports =>
      match (p.transports.transports transport).sessionId with
      | some _ => some { p with transports := transports }
      | none => p.send call "connect" (some [("address", address)]) transports
  | .subscribe call transport uuid onData =>
    (p.transports.step normalizeUuid (.subscribe call transport uuid onData)).bind fun transports =>
      match (p.transports.transports transport).sessionId with
      | some sessionId => p.send call "subscribe" (some [("sessionId", sessionId), ("uuid", uuid)]) transports
      | none => some { p with transports := transports }
  | .disconnect call transport =>
    (p.transports.step normalizeUuid (.disconnect call transport)).bind fun transports =>
      match (p.transports.transports transport).sessionId with
      | some sessionId => p.send call "disconnect" (some [("sessionId", sessionId)]) transports
      | none => some { p with transports := transports }
  | .request call command arguments =>
    if command ∈ ["scan", "readCharacteristic", "writeCharacteristic"] then
      p.send call command arguments p.transports
    else none
  | .written call id =>
    (p.client.step (.readySettled call id (.fulfilled ()))).map fun client =>
      { p with
        client := client
        helper := { p.helper with input := p.helper.input ++ client.requests.drop p.client.requests.length } }
  | .helper event => (p.helper.step event).map fun helper => { p with helper := helper }
  | .line =>
    match p.helper.output with
    | [] => none
    | message :: rest =>
      (p.client.step (.line message)).map fun client =>
        { client := client
          helper := { p.helper with output := rest }
          transports := p.transports.hear normalizeUuid message }
  | .deadline call => (p.client.step (.deadline call)).map fun client => { p with client := client }
  | .settled call =>
    match p.transports.calls call, p.outcome call with
    | some ⟨_, .connecting⟩, some outcome =>
      (p.transports.step normalizeUuid (.connected call (connectResult outcome) none)).map fun transports =>
        { p with transports := transports }
    | some ⟨_, .subscribing _ _⟩, some outcome =>
      (p.transports.step normalizeUuid (.subscribed call (requestResult outcome))).map fun transports =>
        { p with transports := transports }
    | some ⟨_, .disconnecting⟩, some outcome =>
      (p.transports.step normalizeUuid (.disconnected call (requestResult outcome))).map fun transports =>
        { p with transports := transports }
    | _, _ => none

end HelperPair

end BluettiMqtt
