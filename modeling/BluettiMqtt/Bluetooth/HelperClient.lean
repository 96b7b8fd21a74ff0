import BluettiMqtt.Bluetooth.Errors
import BluettiMqtt.Bluetooth.HelperRequest
import BluettiMqtt.Core.Crc

namespace BluettiMqtt
open Promise

variable {π : Type*}

structure HelperNotification where
  sessionId : String
  uuid : String
  data : List Byte
  deriving DecidableEq

/-- The well-formed messages of the helper. A notification carries its payload
with the data already decoded from base 64. -/
inductive HelperMessage (π : Type*)
  | response (id : Option String) (payload : Option π)
  | error (id : Option String) (code message : String)
  | ready
  | notification (payload : Option HelperNotification)
  | otherEvent (name : String)
  deriving DecidableEq

/-- The client. Listeners are told apart by numbers and kept in the order in
which they were added. `errorHandled` and `exitHandled` say that a handler
installed with `once` is spent, and `deliveries` (oldest first) is a history
variable. -/
structure HelperClient (π : Type*) extends PendingRequests π where
  notificationListeners : List Nat
  ready : Option (Settlement Failure Unit)
  readyResolved : Bool
  disposeRequested : Bool
  killed : Bool
  errorHandled : Bool
  exitHandled : Bool
  deliveries : List (Nat × HelperNotification)

/-- What can happen to a client: calls of its methods, the continuation of a
request after `await ready`, output lines and deadlines, and the events of the
process and its standard input. -/
inductive HelperEvent (π : Type*)
  | request (call : Nat) (command : String) (arguments : Option π)
  | readySettled (call : Nat) (id : String) (write : Settlement Failure Unit)
  | line (message : HelperMessage π)
  | malformedLine (error : Failure)
  | deadline (call : Nat)
  | stdinError (error : Failure)
  | processError (error : Failure)
  | exit (code : Option Int)
  | dispose
  | onNotification (listener : Nat)
  | removeListener (listener : Nat)

namespace HelperClient

/-- The constructor, after `spawn`. -/
def create : HelperClient π where
  toPendingRequests := PendingRequests.empty
  notificationListeners := []
  ready := none
  readyResolved := false
  disposeRequested := false
  killed := false
  errorHandled := false
  exitHandled := false
  deliveries := []

/-- The resolver functions of the promise `ready`, of which the first call
counts. -/
def settleReady (c : HelperClient π) (outcome : Settlement Failure Unit) : HelperClient π :=
  { c with ready := some (c.ready.getD outcome) }

def rejectPendingRequests (c : HelperClient π) (error : Failure) : HelperClient π :=
  { c with toPendingRequests := c.toPendingRequests.rejectPendingRequests error }

def routeHelperEvent (c : HelperClient π) : HelperMessage π → HelperClient π
  | .ready => { c with readyResolved := true }.settleReady (.fulfilled ())
  | .notification (some event) =>
    { c with deliveries := c.deliveries ++ c.notificationListeners.map fun listener => (listener, event) }
  | _ => c

/-- `routeHelperLine` on a line that parses. -/
def routeHelperLine (c : HelperClient π) (message : HelperMessage π) : HelperClient π :=
  match message with
  | .response (some id) payload =>
    match c.pending.lookup id with
    | some entry => { c with toPendingRequests := c.answer id entry (.fulfilled payload) }
    | none => c
  | .error (some id) code text =>
    match c.pending.lookup id with
    | some entry => { c with toPendingRequests := c.answer id entry (.rejected (createHelperError code text)) }
    | none => c
  | .response none _ => c
  | .error none _ _ => c
  | event => c.routeHelperEvent event

/-- `routeHelperLine` on a line that does not parse. -/
def routeMalformedLine (c : HelperClient π) (error : Failure) : HelperClient π :=
  if c.readyResolved then c else c.settleReady (.rejected error)

def onProcessError (c : HelperClient π) (error : Failure) : HelperClient π :=
  let rejected := if c.readyResolved then c else c.settleReady (.rejected error)
  { rejected.rejectPendingRequests error with errorHandled := true }

def onExit (c : HelperClient π) (code : Option Int) : HelperClient π :=
  if c.disposeRequested then
    let rejected := if c.readyResolved then c else
      c.settleReady (.rejected (.error "Windows BLE helper was disposed before becoming ready"))
    { rejected with pending := ∅, exitHandled := true }
  else
    let status := code.getD (-1)
    let error := Failure.error s!"Windows BLE helper exited with code {status}"
    let rejected := if c.readyResolved then c else c.settleReady (.rejected error)
    { rejected.rejectPendingRequests error with exitHandled := true }

def dispose (c : HelperClient π) : HelperClient π :=
  { { c with disposeRequested := true }.rejectPendingRequests (.error "Windows BLE helper disposed") with
    notificationListeners := []
    killed := true }

/-- One step; `none` when the event is not enabled. Ids are taken to be new, as
`randomUUID` makes them. -/
def step (c : HelperClient π) : HelperEvent π → Option (HelperClient π)
  | .request call command arguments =>
    if (c.calls call).isNone then
      some { c with
        toPendingRequests := c.sendHelperRequest c.disposeRequested call command arguments }
    else none
  | .readySettled call id write =>
    match c.calls call, c.ready with
    | some record, some (.fulfilled _) =>
      if record.phase = .awaitingReady ∧ id ∉ c.issued then
        some { c with toPendingRequests := c.sendAfterReady call record id write }
      else none
    | some record, some (.rejected error) =>
      if record.phase = .awaitingReady then
        some { c with toPendingRequests := c.throw call error }
      else none
    | _, _ => none
  | .line message => some (c.routeHelperLine message)
  | .malformedLine error => some (c.routeMalformedLine error)
  | .deadline call =>
    match c.calls call with
    | some record =>
      if record.timerArmed then
        some { c with toPendingRequests := c.toPendingRequests.deadline call record }
      else none
    | none => none
  | .stdinError error => some (c.rejectPendingRequests error)
  | .processError error => if c.errorHandled then none else some (c.onProcessError error)
  | .exit code => if c.exitHandled then none else some (c.onExit code)
  | .dispose => some c.dispose
  | .onNotification listener =>
    some { c with notificationListeners :=
      if listener ∈ c.notificationListeners then c.notificationListeners
      else c.notificationListeners ++ [listener] }
  | .removeListener listener =>
    some { c with notificationListeners := c.notificationListeners.filter (· ≠ listener) }

end HelperClient

end BluettiMqtt
