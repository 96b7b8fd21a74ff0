import BluettiMqtt.Devices.Registry
import BluettiMqtt.Library.Promise
import BluettiMqtt.Library.Transition

namespace BluettiMqtt
open Promise Transition

variable {α : Type}

/-- The calls that `withConnectedDevice` makes on the objects it creates, and of
its argument `work`. -/
inductive ConnectedDeviceCall
  | connectAndInitialize
  | work (device : BluettiDevice)
  | disconnect
  | dispose
  deriving DecidableEq

/-- What `withConnectedDevice` waits for. During the cleanup it keeps whether a
disconnect error is reported and what follows: the result of the body, or the
error that is thrown again. -/
inductive ConnectedDevicePhase (α : Type)
  | creating
  | initializing
  | working
  | disconnecting (reportDisconnectError : Bool) (after : Settlement Failure α)
  | settled (settlement : Settlement Failure α)
  deriving DecidableEq

/-- The body is running. -/
def ConnectedDevicePhase.isBody : ConnectedDevicePhase α → Bool
  | .creating | .initializing | .working => true
  | .disconnecting _ _ | .settled _ => false

/-- A call of `withConnectedDevice`, whose client is created. `transport` says
whether the variable of that name is set, and `calls` (oldest first) is a
history variable. -/
structure ConnectedDevice (α : Type) where
  transport : Bool
  cleanupComplete : Bool
  phase : ConnectedDevicePhase α
  calls : List ConnectedDeviceCall
  deriving DecidableEq

/-- The ends of what is waited for. Initialization leaves the name that the
session has read. -/
inductive ConnectedDeviceEvent (α : Type)
  | created (outcome : Settlement Failure Unit)
  | initialized (outcome : Settlement Failure (Option String))
  | worked (outcome : Settlement Failure α)
  | disconnected (outcome : Settlement Failure Unit)

/-- The events that a phase waits for. -/
def ConnectedDevicePhase.awaits : ConnectedDevicePhase α → ConnectedDeviceEvent α → Bool
  | .creating, .created _ => true
  | .initializing, .initialized _ => true
  | .working, .worked _ => true
  | .disconnecting _ _, .disconnected _ => true
  | _, _ => false

/-- The device that the body works with. -/
def connectedDevice (address : String) (name : Option String) : Except Failure BluettiDevice :=
  match name with
  | none => .error (.error "Connected device did not report a name")
  | some name => createDeviceFromAdvertisement address name

namespace ConnectedDevice

def start : ConnectedDevice α where
  transport := false
  cleanupComplete := false
  phase := .creating
  calls := []

/-- The end of `cleanup`, and what follows it. -/
def dispose (c : ConnectedDevice α) (after : Settlement Failure α) : ConnectedDevice α :=
  { c with calls := c.calls ++ [.dispose], phase := .settled after }

/-- `cleanup` up to its first wait, and what follows where it returns at once. -/
def cleanup (c : ConnectedDevice α) (reportDisconnectError : Bool) (after : Settlement Failure α) :
    ConnectedDevice α :=
  if c.cleanupComplete then { c with phase := .settled after }
  else
    let completed := { c with cleanupComplete := true }
    if completed.transport then
      { completed with
        calls := completed.calls ++ [.disconnect], phase := .disconnecting reportDisconnectError after }
    else completed.dispose after

/-- The block that catches what the body throws. -/
def fail (c : ConnectedDevice α) (error : Failure) : ConnectedDevice α :=
  c.cleanup false (.rejected error)

/-- One step; `none` when the event is not waited for. -/
def step (address : String) (c : ConnectedDevice α) (event : ConnectedDeviceEvent α) :
    Option (ConnectedDevice α) :=
  match c.phase, event with
  | .creating, .created (.fulfilled _) =>
    some { c with transport := true, calls := c.calls ++ [.connectAndInitialize], phase := .initializing }
  | .creating, .created (.rejected error) => some (c.fail error)
  | .initializing, .initialized (.fulfilled name) =>
    match connectedDevice address name with
    | .ok device => some { c with calls := c.calls ++ [.work device], phase := .working }
    | .error error => some (c.fail error)
  | .initializing, .initialized (.rejected error) => some (c.fail error)
  | .working, .worked (.fulfilled result) => some (c.cleanup true (.fulfilled result))
  | .working, .worked (.rejected error) => some (c.fail error)
  | .disconnecting _ after, .disconnected (.fulfilled _) => some (c.dispose after)
  | .disconnecting reportDisconnectError after, .disconnected (.rejected error) =>
    some (if reportDisconnectError then c.fail error else c.dispose after)
  | _, _ => none

end ConnectedDevice

/-- The error that the body throws before the cleanup. -/
def ConnectedDeviceEvent.error? (address : String) : ConnectedDeviceEvent α → Option Failure
  | .created (.rejected error) => some error
  | .initialized (.rejected error) => some error
  | .initialized (.fulfilled name) =>
    match connectedDevice address name with
    | .ok _ => none
    | .error error => some error
  | .worked (.rejected error) => some error
  | _ => none

def ConnectedDeviceEvent.result? : ConnectedDeviceEvent α → Option α
  | .worked (.fulfilled result) => some result
  | _ => none

def ConnectedDeviceEvent.disconnectError? : ConnectedDeviceEvent α → Option Failure
  | .disconnected (.rejected error) => some error
  | _ => none

namespace ConnectedDevice

section Outcomes

variable (address : String) (trace : List (ConnectedDeviceEvent α)) (event : ConnectedDeviceEvent α)

/-- The error of initialization or of the work. -/
def bodyError : Option Failure :=
  trace.findSome? (ConnectedDeviceEvent.error? address)

def bodyResult : Option α :=
  trace.findSome? ConnectedDeviceEvent.result?

def disconnectError : Option Failure :=
  trace.findSome? ConnectedDeviceEvent.disconnectError?

@[simp] theorem bodyError_append :
    bodyError address (trace ++ [event]) = (bodyError address trace).or (event.error? address) := by
  simp only [bodyError, List.findSome?_append, List.findSome?_singleton]

@[simp] theorem bodyResult_append : bodyResult (trace ++ [event]) = (bodyResult trace).or event.result? := by
  simp only [bodyResult, List.findSome?_append, List.findSome?_singleton]

@[simp] theorem disconnectError_append :
    disconnectError (trace ++ [event]) = (disconnectError trace).or event.disconnectError? := by
  simp only [disconnectError, List.findSome?_append, List.findSome?_singleton]

/-- How a call with these outcomes should be settled: an error of the body comes
before one of the disconnect. -/
def expected : Option (Settlement Failure α) :=
  match bodyError address trace with
  | some error => some (.rejected error)
  | none =>
    match disconnectError trace with
    | some error => some (.rejected error)
    | none => (bodyResult trace).map .fulfilled

/-- The body succeeds and the disconnect that follows fails. -/
def LateFailure : Prop :=
  bodyError address trace = none ∧ disconnectError trace ≠ none

/-- What should hold when the call is settled. -/
structure Released (c : ConnectedDevice α) (settlement : Settlement Failure α) : Prop where
  disposed : c.calls.count .dispose = 1
  disconnected : c.transport = true → .disconnect ∈ c.calls
  outcome : expected address trace = some settlement

/-- What a run has led to. The outcome is always the expected one, but after a late
failure the client is forgotten. -/
inductive Course (address : String) (trace : List (ConnectedDeviceEvent α)) : ConnectedDevice α → Prop
  | body {c} (running : c.phase.isBody = true) (entered : c.cleanupComplete = false) (held : .dispose ∉ c.calls)
      (flawless : bodyError address trace = none) (unanswered : bodyResult trace = none)
      (connected : disconnectError trace = none) : Course address trace c
  | disconnecting {c report after} (place : c.phase = .disconnecting report after)
      (entered : c.cleanupComplete = true) (held : .dispose ∉ c.calls) (asked : .disconnect ∈ c.calls)
      (connected : disconnectError trace = none) (outcome : expected address trace = some after)
      (reported : report = true ↔ bodyError address trace = none) : Course address trace c
  | released {c settlement} (place : c.phase = .settled settlement) (intime : ¬LateFailure address trace)
      (released : Released address trace c settlement) : Course address trace c
  | forgotten {c settlement} (place : c.phase = .settled settlement) (late : LateFailure address trace)
      (held : .dispose ∉ c.calls) (asked : .disconnect ∈ c.calls) (outcome : expected address trace = some settlement) :
      Course address trace c

end Outcomes

variable {address : String} {trace : List (ConnectedDeviceEvent α)} {c t : ConnectedDevice α}
  {event : ConnectedDeviceEvent α}

theorem expected_error {error : Failure} (thrown : bodyError address trace = some error) :
    expected address trace = some (.rejected error) := by
  simp only [expected, thrown]

/-- The client is disposed, once the transport is disconnected where there is one. -/
theorem Course.dispose {after : Settlement Failure α} (held : .dispose ∉ c.calls)
    (asked : c.transport = true → .disconnect ∈ c.calls) (intime : ¬LateFailure address trace)
    (outcome : expected address trace = some after) : Course address trace (c.dispose after) := by
  refine .released rfl intime ⟨?_, fun present => List.mem_append_left _ (asked present), outcome⟩
  simp only [ConnectedDevice.dispose, List.count_append, List.count_eq_zero.mpr held]
  rfl

/-- The first entry into the cleanup, at the end of the body. -/
theorem Course.cleanup {report : Bool} {after : Settlement Failure α} (entered : c.cleanupComplete = false)
    (held : .dispose ∉ c.calls) (connected : disconnectError trace = none)
    (outcome : expected address trace = some after) (reported : report = true ↔ bodyError address trace = none) :
    Course address trace (c.cleanup report after) := by
  unfold ConnectedDevice.cleanup
  simp only [entered, Bool.false_eq_true, if_false]
  split
  · exact .disconnecting rfl rfl (by simpa using held) (by simp) connected outcome reported
  · next absent => exact .dispose held (fun present => absurd present absent) (fun late => late.2 connected) outcome

/-- The body throws. -/
theorem Course.fail {error : Failure} (entered : c.cleanupComplete = false) (held : .dispose ∉ c.calls)
    (connected : disconnectError trace = none) (thrown : bodyError address trace = some error) :
    Course address trace (c.fail error) :=
  .cleanup entered held connected (expected_error thrown) (by simp [thrown])

/-- A second entry into the cleanup does nothing. -/
theorem fail_entered {error : Failure} (entered : c.cleanupComplete = true) :
    c.fail error = { c with phase := .settled (.rejected error) } := by
  rw [fail, ConnectedDevice.cleanup, if_pos entered]

/-- What a step of the body can do. -/
theorem step_body (running : c.phase.isBody = true) (run : c.step address event = some t) :
    event.disconnectError? = none ∧
      ((∃ error, event.error? address = some error ∧ t = c.fail error) ∨
        (∃ result, event = .worked (.fulfilled result) ∧ t = c.cleanup true (.fulfilled result)) ∨
        (event.error? address = none ∧ event.result? = none ∧ t.phase.isBody = true ∧
          t.cleanupComplete = c.cleanupComplete ∧ (.dispose ∉ c.calls → .dispose ∉ t.calls))) := by
  unfold ConnectedDevice.step at run
  split at run
  · cases run
    exact ⟨rfl, .inr (.inr ⟨rfl, rfl, rfl, rfl, by simp⟩)⟩
  · next error _ =>
    cases run
    exact ⟨rfl, .inl ⟨error, rfl, rfl⟩⟩
  · next name _ =>
    refine ⟨rfl, ?_⟩
    cases found : connectedDevice address name with
    | ok device =>
      simp only [found, Option.some.injEq] at run
      subst run
      exact .inr (.inr ⟨by simp only [ConnectedDeviceEvent.error?, found], rfl, rfl, rfl, by simp⟩)
    | error error =>
      simp only [found, Option.some.injEq] at run
      exact .inl ⟨error, by simp only [ConnectedDeviceEvent.error?, found], run.symm⟩
  · next error _ =>
    cases run
    exact ⟨rfl, .inl ⟨error, rfl, rfl⟩⟩
  · next result _ =>
    cases run
    exact ⟨rfl, .inr (.inl ⟨result, rfl, rfl⟩)⟩
  · next error _ =>
    cases run
    exact ⟨rfl, .inl ⟨error, rfl, rfl⟩⟩
  · next place => simp [place, ConnectedDevicePhase.isBody] at running
  · next place => simp [place, ConnectedDevicePhase.isBody] at running
  · cases run

/-- What a step of the cleanup can do. -/
theorem step_disconnecting {report : Bool} {after : Settlement Failure α} (place : c.phase = .disconnecting report after)
    (run : c.step address event = some t) :
    (event = .disconnected (.fulfilled ()) ∧ t = c.dispose after) ∨
      ∃ error, event = .disconnected (.rejected error) ∧ t = if report then c.fail error else c.dispose after := by
  simp only [ConnectedDevice.step, place] at run
  match event with
  | .disconnected (.fulfilled ()) => exact .inl ⟨rfl, (Option.some.inj run).symm⟩
  | .disconnected (.rejected error) => exact .inr ⟨error, rfl, (Option.some.inj run).symm⟩

/-- A disconnect is no part of the body. -/
theorem bodyError_disconnected (outcome : Settlement Failure Unit) :
    bodyError address (trace ++ [.disconnected outcome]) = bodyError address trace := by
  simp [ConnectedDeviceEvent.error?]

theorem expected_fulfilled :
    expected address (trace ++ [.disconnected (.fulfilled ())]) = expected address trace := by
  simp [expected, ConnectedDeviceEvent.error?, ConnectedDeviceEvent.disconnectError?, ConnectedDeviceEvent.result?]

theorem Course.step (course : Course address trace c) (run : c.step address event = some t) :
    Course address (trace ++ [event]) t := by
  cases course with
  | body running entered held flawless unanswered connected =>
    obtain ⟨kept, cases_⟩ := step_body running run
    have connected' : disconnectError (trace ++ [event]) = none := by simp [connected, kept]
    rcases cases_ with ⟨error, thrown, rfl⟩ | ⟨result, rfl, rfl⟩ | ⟨fine, silent, still, same, quiet⟩
    · exact .fail entered held connected' (by simp [flawless, thrown])
    · have flawless' : bodyError address (trace ++ [.worked (.fulfilled result)]) = none := by
        simp [flawless, ConnectedDeviceEvent.error?]
      refine .cleanup entered held connected' ?_ (by simp only [flawless'])
      simp [expected, flawless, connected', unanswered, ConnectedDeviceEvent.error?, ConnectedDeviceEvent.result?]
    · exact .body still (same.trans entered) (quiet held) (by simp [flawless, fine]) (by simp [unanswered, silent])
        connected'
  | @disconnecting report after place entered held asked connected outcome reported =>
    rcases step_disconnecting place run with ⟨rfl, rfl⟩ | ⟨error, rfl, rfl⟩
    · refine .dispose held (fun _ => asked) (fun late => late.2 ?_) (expected_fulfilled.trans outcome)
      simp [connected, ConnectedDeviceEvent.disconnectError?]
    · cases report with
      | true =>
        have late : LateFailure address (trace ++ [.disconnected (.rejected error)]) := by
          refine ⟨(bodyError_disconnected _).trans (reported.mp rfl), ?_⟩
          simp [connected, ConnectedDeviceEvent.disconnectError?]
        rw [if_pos rfl, fail_entered entered]
        refine .forgotten rfl late held asked ?_
        simp [expected, reported.mp rfl, connected, ConnectedDeviceEvent.error?, ConnectedDeviceEvent.disconnectError?]
      | false =>
        obtain ⟨first, thrown⟩ := Option.ne_none_iff_exists'.mp fun flawless => nomatch reported.mpr flawless
        have thrown' : bodyError address (trace ++ [.disconnected (.rejected error)]) = some first :=
          (bodyError_disconnected _).trans thrown
        rw [expected_error thrown] at outcome
        refine .dispose held (fun _ => asked) (fun late => ?_) ((expected_error thrown').trans outcome)
        cases late.1.symm.trans thrown'
  | released place intime released => simp [ConnectedDevice.step, place] at run
  | forgotten place late held asked outcome => simp [ConnectedDevice.step, place] at run

theorem course_of_reach (reach : Reach (step address) (fun _ _ => True) start trace c) :
    Course address trace c := by
  induction reach with
  | start => exact .body rfl rfl (by simp [start]) rfl rfl rfl
  | next _ _ run ih => exact ih.step run

/-- Every outcome of what is waited for is handled, and nothing else. -/
theorem step_isSome : (c.step address event).isSome = c.phase.awaits event := by
  rcases place : c.phase <;> rcases event with (_ | _) | (name | _) | (_ | _) | (_ | _) <;>
    simp only [ConnectedDevice.step, place, ConnectedDevicePhase.awaits, Option.isSome_some, Option.isSome_none]
  cases connectedDevice address name <;> rfl

/-- However the call is settled, its outcome is the expected one and the transport
has been told to disconnect. -/
theorem settled_as_expected {settlement : Settlement Failure α}
    (reach : Reach (step address) (fun _ _ => True) start trace c) (settled : c.phase = .settled settlement) :
    expected address trace = some settlement ∧ (c.transport = true → .disconnect ∈ c.calls) := by
  cases course_of_reach reach with
  | body running => simp [settled, ConnectedDevicePhase.isBody] at running
  | disconnecting place => cases place.symm.trans settled
  | released place intime released =>
    cases place.symm.trans settled
    exact ⟨released.outcome, released.disconnected⟩
  | forgotten place late held asked outcome =>
    cases place.symm.trans settled
    exact ⟨outcome, fun _ => asked⟩

theorem released_or_late {settlement : Settlement Failure α}
    (reach : Reach (step address) (fun _ _ => True) start trace c) (settled : c.phase = .settled settlement) :
    Released address trace c settlement ↔ ¬LateFailure address trace := by
  cases course_of_reach reach with
  | body running => simp [settled, ConnectedDevicePhase.isBody] at running
  | disconnecting place => cases place.symm.trans settled
  | released place intime released =>
    cases place.symm.trans settled
    exact iff_of_true released intime
  | forgotten place late held =>
    refine iff_of_false (fun released => ?_) fun intime => intime late
    have once := released.disposed
    rw [List.count_eq_zero.mpr held] at once
    cases once

/-- Whatever a call waits for, every outcome of it leads on, and nothing else does.
Once it is settled its outcome is the expected one and the transport has been told
to disconnect; and the helper is released exactly in the calls without a late
failure. -/
theorem released_iff (reach : Reach (step address) (fun _ _ => True) start trace c) :
    (∀ event, (c.step address event).isSome = c.phase.awaits event) ∧
      ∀ settlement, c.phase = .settled settlement →
        expected address trace = some settlement ∧ (c.transport = true → .disconnect ∈ c.calls) ∧
          (Released address trace c settlement ↔ ¬LateFailure address trace) := by
  refine ⟨fun event => step_isSome, fun settlement settled => ?_⟩
  obtain ⟨outcome, asked⟩ := settled_as_expected reach settled
  exact ⟨outcome, asked, released_or_late reach settled⟩

/-- The events of a call whose work succeeds. -/
def workedCall (disconnect : Settlement Failure Unit) : List (ConnectedDeviceEvent Nat) :=
  [.created (.fulfilled ()), .initialized (.fulfilled (some "AC200M1234567890")), .worked (.fulfilled 7),
   .disconnected disconnect]

/-- A call in which everything succeeds. -/
theorem released_after_work : ∃ c, Reach (step "A") (fun _ _ => True) start (workedCall (.fulfilled ())) c ∧
    Released "A" (workedCall (.fulfilled ())) c (.fulfilled 7) := by
  have run : ((workedCall (.fulfilled ())).foldlM (step "A") start).any
      (fun c => decide (c.phase = .settled (.fulfilled 7))) = true := by decide +kernel
  obtain ⟨c, reach, found⟩ := Reach.of_foldlM (fun _ _ _ => trivial) run
  have ⟨_, _, released⟩ := (released_iff reach).2 _ (of_decide_eq_true found)
  exact ⟨c, reach, released.mpr fun late => late.2 rfl⟩

/-- The work succeeds, the disconnect fails, and the client is never disposed. -/
theorem helper_kept_after_late_failure :
    ∃ c, Reach (step "A") (fun _ _ => True) start (workedCall (.rejected (.error "Unreachable"))) c ∧
      c.phase = .settled (.rejected (.error "Unreachable")) ∧ c.calls.count .dispose = 0 ∧
      ¬Released "A" (workedCall (.rejected (.error "Unreachable"))) c (.rejected (.error "Unreachable")) := by
  have run : ((workedCall (.rejected (.error "Unreachable"))).foldlM (step "A") start).any
      (fun c => decide (c.phase = .settled (.rejected (.error "Unreachable")) ∧ c.calls.count .dispose = 0)) = true := by
    decide +kernel
  obtain ⟨c, reach, found⟩ := Reach.of_foldlM (fun _ _ _ => trivial) run
  obtain ⟨settled, kept⟩ := of_decide_eq_true found
  refine ⟨c, reach, settled, kept, fun released => ?_⟩
  cases kept.symm.trans released.disposed

end ConnectedDevice

end BluettiMqtt
