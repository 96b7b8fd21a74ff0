import BluettiMqtt.Core.Failure
import BluettiMqtt.Library.PromiseAll
import BluettiMqtt.Library.Table

namespace BluettiMqtt
open Promise

/-- A message on one of the two channels of the bus, telemetry or a command. -/
inductive BusMessage (P C : Type*)
  | parser (message : P)
  | command (message : C)
  deriving DecidableEq

/-- A call of `publishParserMessage` or `publishCommandMessage`: the listeners
it found, those among them that `map` has not called yet, what the promises of
the others have settled with, and its own promise. -/
structure Publication (ι P C : Type*) where
  message : BusMessage P C
  listeners : List ι
  uncalled : List ι
  outcomes : Table ι (Settlement Failure Unit)
  all : All ι Failure
  settled : Option (Settlement Failure Unit)

/-- The bus, with the calls that publish on it. `deliveries`, oldest first, is a
history variable. -/
structure EventBus (ι P C : Type*) where
  parserListeners : List ι
  commandListeners : List ι
  publications : Table Nat (Publication ι P C)
  deliveries : List (Nat × ι × BusMessage P C)

/-- The calls of the methods and of the disposers, the calls of the listeners
and what they do. A listener that is called returns, throws, or leaves a promise
(`none`) that settles later; `heard` is the reaction of `Promise.all` to a
promise that has settled, and `resumed` the end of its `await`. -/
inductive EventBusEvent (ι P C : Type*)
  | addParserListener (listener : ι)
  | addCommandListener (listener : ι)
  | removeParserListener (listener : ι)
  | removeCommandListener (listener : ι)
  | publishParserMessage (call : Nat) (message : P)
  | publishCommandMessage (call : Nat) (message : C)
  | called (call : Nat) (outcome : Option (Settlement Failure Unit))
  | handlerSettled (call : Nat) (listener : ι) (outcome : Settlement Failure Unit)
  | heard (call : Nat) (listener : ι)
  | resumed (call : Nat)

/-- The call of the method for the channel of a message. -/
def EventBusEvent.publish {ι P C : Type*} (call : Nat) : BusMessage P C → EventBusEvent ι P C
  | .parser message => .publishParserMessage call message
  | .command message => .publishCommandMessage call message

namespace EventBus

variable {ι P C : Type*} [DecidableEq ι]

def create : EventBus ι P C where
  parserListeners := []
  commandListeners := []
  publications := fun _ => none
  deliveries := []

/-- `Set.add`. -/
def addListener (listeners : List ι) (listener : ι) : List ι :=
  if listener ∈ listeners then listeners else listeners ++ [listener]

/-- `Set.delete`. -/
def removeListener (listeners : List ι) (listener : ι) : List ι :=
  listeners.filter (· ≠ listener)

/-- The listeners that a message is for. -/
def listenersOf (b : EventBus ι P C) : BusMessage P C → List ι
  | .parser _ => b.parserListeners
  | .command _ => b.commandListeners

def setPublication (b : EventBus ι P C) (call : Nat) (publication : Publication ι P C) : EventBus ι P C :=
  { b with publications := b.publications.insert call publication }

/-- Either method up to the first call of a listener. The array is a copy of
the set. -/
def publish (b : EventBus ι P C) (call : Nat) (message : BusMessage P C) : EventBus ι P C :=
  b.setPublication call
    { message
      listeners := b.listenersOf message
      uncalled := b.listenersOf message
      outcomes := fun _ => none
      all := .start (b.listenersOf message)
      settled := none }

def publishParserMessage (b : EventBus ι P C) (call : Nat) (message : P) : EventBus ι P C :=
  b.publish call (.parser message)

def publishCommandMessage (b : EventBus ι P C) (call : Nat) (message : C) : EventBus ι P C :=
  b.publish call (.command message)

/-- The outcomes with that of one more listener, which may be pending. -/
def recordOutcome (outcomes : Table ι (Settlement Failure Unit)) (listener : ι) :
    Option (Settlement Failure Unit) → Table ι (Settlement Failure Unit)
  | none => outcomes
  | some outcome => outcomes.insert listener outcome

/-- `async (listener) => listener(message)` for the next listener of the array. -/
def callListener (b : EventBus ι P C) (call : Nat) (publication : Publication ι P C) (listener : ι) (uncalled : List ι)
    (outcome : Option (Settlement Failure Unit)) : EventBus ι P C :=
  { b.setPublication call
      { publication with uncalled, outcomes := recordOutcome publication.outcomes listener outcome } with
    deliveries := b.deliveries ++ [(call, listener, publication.message)] }

/-- `none` where an event cannot occur. `Promise.all` is called, and hears of the
promises, when all listeners have been called. -/
def step (b : EventBus ι P C) : EventBusEvent ι P C → Option (EventBus ι P C)
  | .addParserListener listener => some { b with parserListeners := addListener b.parserListeners listener }
  | .addCommandListener listener => some { b with commandListeners := addListener b.commandListeners listener }
  | .removeParserListener listener => some { b with parserListeners := removeListener b.parserListeners listener }
  | .removeCommandListener listener => some { b with commandListeners := removeListener b.commandListeners listener }
  | .publishParserMessage call message =>
    if b.publications call = none then some (b.publishParserMessage call message) else none
  | .publishCommandMessage call message =>
    if b.publications call = none then some (b.publishCommandMessage call message) else none
  | .called call outcome =>
    match b.publications call with
    | some publication =>
      match publication.uncalled with
      | [] => none
      | listener :: rest => some (b.callListener call publication listener rest outcome)
    | none => none
  | .handlerSettled call listener outcome =>
    match b.publications call with
    | some publication =>
      if listener ∈ publication.listeners ∧ listener ∉ publication.uncalled ∧ publication.outcomes listener = none then
        some (b.setPublication call { publication with outcomes := publication.outcomes.insert listener outcome })
      else none
    | none => none
  | .heard call listener =>
    match b.publications call with
    | some publication =>
      match publication.outcomes listener with
      | some outcome =>
        if publication.uncalled = [] ∧ listener ∈ publication.all.reactions then
          some (b.setPublication call { publication with all := publication.all.hear listener outcome })
        else none
      | none => none
    | none => none
  | .resumed call =>
    match b.publications call with
    | some publication =>
      match publication.all.result with
      | some result =>
        if publication.uncalled = [] ∧ publication.settled = none then
          some (b.setPublication call { publication with settled := some result })
        else none
      | none => none
    | none => none

end EventBus

end BluettiMqtt
