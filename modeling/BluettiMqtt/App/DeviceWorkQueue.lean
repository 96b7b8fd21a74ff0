import BluettiMqtt.Core.Failure
import BluettiMqtt.Library.Promise
import BluettiMqtt.Library.Table

namespace BluettiMqtt
open Promise

variable {ε α : Type*}

/-- How far a call of `enqueue` has come. In `finishing` the work has settled
and the `finally` block is about to run. -/
inductive WorkPhase (ε α : Type*)
  | waiting
  | running
  | finishing (outcome : Settlement ε α)
  | settled (outcome : Settlement ε α)
  deriving DecidableEq

def WorkPhase.isWaiting : WorkPhase ε α → Bool
  | .waiting => true
  | _ => false

def WorkPhase.isRunning : WorkPhase ε α → Bool
  | .running => true
  | _ => false

/-- The work has been called and has not released the queue. -/
def WorkPhase.isActive : WorkPhase ε α → Bool
  | .running => true
  | .finishing _ => true
  | _ => false

/-- One call of `enqueue`, with the promise it awaits. `released` is the state
of its own promise `current`. -/
structure Work (ε α : Type*) where
  address : String
  previous : Chain Nat
  released : Bool
  phase : WorkPhase ε α
  deriving DecidableEq

/-- One call of `sleep`; `resolutions` counts how often its promise was
resolved. -/
structure SleepCall where
  finished : Bool
  timerArmed : Bool
  resolutions : Nat
  deriving DecidableEq

/-- The queue with its outstanding calls. A promise `queued` is told from all
others by the call that made it. `enqueued` and `started` (oldest first) and
`outcomes` are history variables. -/
structure DeviceWorkQueue (ε α : Type*) where
  stopRequested : Bool
  sleepWaiters : List Nat
  deviceQueues : Table String (Chain Nat)
  works : Table Nat (Work ε α)
  sleeps : Table Nat SleepCall
  enqueued : List (String × Nat)
  started : List (String × Nat)
  outcomes : Table Nat (Settlement ε α)

/-- A work starts when the promise before it is fulfilled; `thrown` says that
it throws before it returns a promise. -/
inductive WorkQueueEvent (ε α : Type*)
  | enqueue (work : Nat) (address : String)
  | start (work : Nat) (thrown : Option ε)
  | workSettled (work : Nat) (outcome : Settlement ε α)
  | finish (work : Nat)
  | stop
  | reset
  | sleep (call : Nat) (ms : Number)
  | sleepTimer (call : Nat)

namespace DeviceWorkQueue

def create : DeviceWorkQueue ε α where
  stopRequested := false
  sleepWaiters := []
  deviceQueues := fun _ => none
  works := fun _ => none
  sleeps := fun _ => none
  enqueued := []
  started := []
  outcomes := fun _ => none

def isStopRequested (q : DeviceWorkQueue ε α) : Bool :=
  q.stopRequested

def reset (q : DeviceWorkQueue ε α) : DeviceWorkQueue ε α :=
  { q with stopRequested := false }

def released (q : DeviceWorkQueue ε α) (work : Nat) : Bool :=
  (q.works work).elim false Work.released

def fulfilled (q : DeviceWorkQueue ε α) (promise : Chain Nat) : Bool :=
  promise.fulfilled q.released

/-- `enqueue` up to `await previous`. -/
def enqueue (q : DeviceWorkQueue ε α) (work : Nat) (address : String) : DeviceWorkQueue ε α :=
  let previous := (q.deviceQueues address).getD .resolved
  { q with
    deviceQueues := q.deviceQueues.insert address (.next previous work)
    works := q.works.insert work
      { address := address, previous := previous, released := false, phase := .waiting }
    enqueued := q.enqueued ++ [(address, work)] }

def setPhase (q : DeviceWorkQueue ε α) (work : Nat) (phase : WorkPhase ε α) : DeviceWorkQueue ε α :=
  { q with works := q.works.adjust (some work) fun record => { record with phase := phase } }

/-- The call of `work`. -/
def begin (q : DeviceWorkQueue ε α) (work : Nat) (record : Work ε α) : DeviceWorkQueue ε α :=
  { q.setPhase work .running with started := q.started ++ [(record.address, work)] }

/-- The work ends: its promise settles, or the call of `work` throws. -/
def workEnded (q : DeviceWorkQueue ε α) (work : Nat) (outcome : Settlement ε α) : DeviceWorkQueue ε α :=
  { q.setPhase work (.finishing outcome) with outcomes := q.outcomes.insert work outcome }

/-- The `finally` block and the settlement of `enqueue`. -/
def finish (q : DeviceWorkQueue ε α) (work : Nat) (record : Work ε α) (outcome : Settlement ε α) :
    DeviceWorkQueue ε α :=
  let queued := Chain.next record.previous work
  { q with
    works := q.works.insert work { record with released := true, phase := .settled outcome }
    deviceQueues :=
      if q.deviceQueues record.address = some queued then q.deviceQueues.erase record.address
      else q.deviceQueues }

/-- The function `done` of a call of `sleep`. -/
def wake (q : DeviceWorkQueue ε α) (call : Nat) : DeviceWorkQueue ε α :=
  match q.sleeps call with
  | some record =>
    if record.finished then q
    else
      { q with
        sleeps := q.sleeps.insert call
          { finished := true, timerArmed := false, resolutions := record.resolutions + 1 }
        sleepWaiters := q.sleepWaiters.filter (· ≠ call) }
  | none => q

def stop (q : DeviceWorkQueue ε α) : DeviceWorkQueue ε α :=
  let stopped := { q with stopRequested := true }
  { q.sleepWaiters.foldl wake stopped with sleepWaiters := [] }

def sleep (q : DeviceWorkQueue ε α) (call : Nat) (ms : Number) : DeviceWorkQueue ε α :=
  if q.stopRequested || ms.atMostZero then
    { q with sleeps := q.sleeps.insert call { finished := true, timerArmed := false, resolutions := 1 } }
  else
    { q with
      sleeps := q.sleeps.insert call { finished := false, timerArmed := true, resolutions := 0 }
      sleepWaiters := q.sleepWaiters ++ [call] }

/-- One step; `none` when the event is not enabled. -/
def step (q : DeviceWorkQueue ε α) : WorkQueueEvent ε α → Option (DeviceWorkQueue ε α)
  | .enqueue work address => if (q.works work).isNone then some (q.enqueue work address) else none
  | .start work thrown =>
    match q.works work with
    | some record =>
      if record.phase.isWaiting && q.fulfilled record.previous then
        match thrown with
        | none => some (q.begin work record)
        | some error =>
          some (((q.begin work record).workEnded work (.rejected error)).finish work record (.rejected error))
      else none
    | none => none
  | .workSettled work outcome =>
    match q.works work with
    | some record => if record.phase.isRunning then some (q.workEnded work outcome) else none
    | none => none
  | .finish work =>
    match q.works work with
    | some record =>
      match record.phase with
      | .finishing outcome => some (q.finish work record outcome)
      | _ => none
    | none => none
  | .stop => some q.stop
  | .reset => some q.reset
  | .sleep call ms => if (q.sleeps call).isNone then some (q.sleep call ms) else none
  | .sleepTimer call =>
    match q.sleeps call with
    | some record => if record.timerArmed then some (q.wake call) else none
    | none => none

end DeviceWorkQueue

end BluettiMqtt
