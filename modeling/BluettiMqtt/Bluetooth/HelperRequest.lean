import BluettiMqtt.Core.Failure
import BluettiMqtt.Library.Promise
import BluettiMqtt.Library.Table
import Mathlib.Data.List.AList

namespace BluettiMqtt
open Promise

variable {π : Type*}

/-- A line written to the helper's standard input. The type `π` of JSON objects
is left open. -/
structure HelperRequest (π : Type*) where
  id : String
  command : String
  arguments : Option π
  deriving DecidableEq

inductive HelperCallPhase
  | awaitingReady
  | awaitingResponse
  | finished
  deriving DecidableEq

/-- One call of `sendHelperRequest`. `id` is the one `randomUUID` gave it,
`settlements` lists the outcomes its caller has been given, and `timerArmed`
says whether its deadline is armed. -/
structure HelperCall (π : Type*) where
  command : String
  arguments : Option π
  phase : HelperCallPhase
  id : Option String
  settlements : List (Settlement Failure (Option π))
  timerArmed : Bool
  deriving DecidableEq

/-- The map `pending`, whose entries stand for the resolvers and the timer of
the call they name, with the calls themselves. `issued` and `requests` (oldest
first) are history variables. -/
structure PendingRequests (π : Type*) where
  pending : AList fun _ : String => Nat
  calls : Table Nat (HelperCall π)
  issued : List String
  requests : List (HelperRequest π)

namespace PendingRequests

def empty : PendingRequests π where
  pending := ∅
  calls := fun _ => none
  issued := []
  requests := []

/-- The functions `resolve` and `reject` of the call's promise. -/
def settle (p : PendingRequests π) (call : Nat) (outcome : Settlement Failure (Option π)) :
    PendingRequests π :=
  { p with
    calls := p.calls.adjust (some call) fun record =>
      { record with settlements := record.settlements ++ [outcome] } }

def clearTimeout (p : PendingRequests π) (call : Nat) : PendingRequests π :=
  { p with calls := p.calls.adjust (some call) fun record => { record with timerArmed := false } }

def delete (p : PendingRequests π) (id : String) : PendingRequests π :=
  { p with pending := p.pending.erase id }

/-- `sendHelperRequest` up to `await ready`. -/
def sendHelperRequest (p : PendingRequests π) (disposed : Bool) (call : Nat) (command : String)
    (arguments : Option π) : PendingRequests π :=
  if disposed then
    { p with
      calls := p.calls.insert call
        { command := command, arguments := arguments, phase := .finished, id := none, timerArmed := false
          settlements := [.rejected (.error "Windows BLE helper disposed")] } }
  else
    { p with
      calls := p.calls.insert call
        { command := command, arguments := arguments, phase := .awaitingReady, id := none
          timerArmed := false, settlements := [] } }

/-- The response promise with its deadline, entered under a new id. -/
def register (p : PendingRequests π) (call : Nat) (id : String) : PendingRequests π :=
  { p with
    calls := p.calls.adjust (some call) fun record =>
      { record with phase := .awaitingResponse, id := some id, timerArmed := true }
    pending := p.pending.insert id call
    issued := id :: p.issued }

/-- The call's own promise is rejected by a `throw`. -/
def throw (p : PendingRequests π) (call : Nat) (error : Failure) : PendingRequests π :=
  { p with
    calls := p.calls.adjust (some call) fun record =>
      { record with phase := .finished, settlements := record.settlements ++ [.rejected error] } }

/-- `sendHelperRequest` after `await ready`; `write` tells whether `stdin.write`
throws. -/
def sendAfterReady (p : PendingRequests π) (call : Nat) (record : HelperCall π) (id : String) :
    Settlement Failure Unit → PendingRequests π
  | .fulfilled _ =>
    let registered := p.register call id
    { registered with requests := registered.requests ++
        [{ id := id, command := record.command, arguments := record.arguments }] }
  | .rejected error =>
    let registered := p.register call id
    match registered.pending.lookup id with
    | some entry => ((registered.clearTimeout entry).delete id).throw call error
    | none => registered.throw call error

/-- The callback of the deadline. -/
def deadline (p : PendingRequests π) (call : Nat) (record : HelperCall π) : PendingRequests π :=
  let command := record.command
  let fired := p.clearTimeout call
  match record.id with
  | some id =>
    if (fired.pending.lookup id).isSome then
      (fired.delete id).settle call
        (.rejected (.badConnectionError s!"Windows BLE helper request timed out: {command}"))
    else fired
  | none => fired

def rejectEntry (error : Failure) (p : PendingRequests π) (call : Nat) : PendingRequests π :=
  (p.clearTimeout call).settle call (.rejected error)

/-- The calls whose entries are in the map, in the order of their insertion. -/
def entryCalls (p : PendingRequests π) : List Nat :=
  p.pending.entries.reverse.map Sigma.snd

def rejectPendingRequests (p : PendingRequests π) (error : Failure) : PendingRequests π :=
  { p.entryCalls.foldl (rejectEntry error) p with pending := ∅ }

/-- An entry is taken out of the map by a line that answers it. -/
def answer (p : PendingRequests π) (id : String) (entry : Nat)
    (outcome : Settlement Failure (Option π)) : PendingRequests π :=
  ((p.delete id).clearTimeout entry).settle entry outcome

end PendingRequests

end BluettiMqtt
