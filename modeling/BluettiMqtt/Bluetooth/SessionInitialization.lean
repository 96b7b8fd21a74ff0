import BluettiMqtt.Bluetooth.SessionSteps
import BluettiMqtt.Library.Transition

namespace BluettiMqtt
open Promise Transition

/-- The phases after a failed attempt, before the next one. -/
def InitializePhase.cleaned : InitializePhase → Bool
  | .cleaningUp _ _ => true
  | .retryDelay _ => true
  | .settled (.rejected _) => true
  | _ => false

namespace DeviceSession

/-- The events of a session on which `connectAndInitialize` is called once, and
nothing else is. -/
def InitializesOnce (call : CallId) (e : SessionEvent) : Prop :=
  e.initializes = true ∧ ∀ other, e = .connectAndInitialize other → other = call

/-- Whenever an attempt of the one initialization has failed, the transport was
last told to disconnect. -/
structure Cleaned (s : DeviceSession) (call : CallId) : Prop where
  alone : ∀ other phase, s.initializations other = some phase → other = call
  last : ∀ phase, s.initializations call = some phase → phase.cleaned = true →
    s.transportCalls.getLast? = some .disconnect

variable {s t : DeviceSession} {call : CallId}

theorem cleaned_create (address : String) (commandTimeoutMs : Nat) (call : CallId) :
    (create address commandTimeoutMs).Cleaned call :=
  ⟨(fun _ _ entry => nomatch entry), (fun _ entry => nomatch entry)⟩

theorem Cleaned.moves (cleaned : s.Cleaned call) {phase : InitializePhase}
    (moved : t.initializations = s.initializations.insert call phase)
    (last : phase.cleaned = true → t.transportCalls.getLast? = some .disconnect) : t.Cleaned call where
  alone other found entry := by
    rw [moved] at entry
    rcases Table.insert_eq_some.mp entry with ⟨here, _⟩ | ⟨_, entry⟩
    · exact here
    · exact cleaned.alone other found entry
  last found entry failed := by
    rw [moved, Table.insert_self] at entry
    cases entry
    exact last failed

theorem Cleaned.attemptFailed (cleaned : s.Cleaned call) (attempt : Nat) (error : Failure) :
    (s.attemptFailed call attempt error).Cleaned call :=
  cleaned.moves rfl fun _ => List.getLast?_concat

theorem Cleaned.step {e : SessionEvent} (cleaned : s.Cleaned call) (once : InitializesOnce call e)
    (run : s.step e = some t) : t.Cleaned call := by
  obtain ⟨initializes, own⟩ := once
  cases e with
  | connectAndInitialize other =>
    obtain ⟨_, same⟩ := Option.ite_none_right_eq_some.mp run
    cases Option.some.inj same
    cases own other rfl
    exact cleaned.moves rfl (by rintro ⟨⟩)
  | connectSettled other result =>
    simp only [DeviceSession.step] at run
    split at run
    next attempt phase =>
      cases Option.some.inj run
      cases cleaned.alone other _ phase
      cases result with
      | fulfilled => exact cleaned.moves rfl (by rintro ⟨⟩)
      | rejected error => exact cleaned.attemptFailed attempt error
    next => cases run
  | nameSettled other result =>
    simp only [DeviceSession.step] at run
    split at run
    next attempt phase =>
      cases Option.some.inj run
      cases cleaned.alone other _ phase
      cases result with
      | fulfilled => exact cleaned.moves rfl (by rintro ⟨⟩)
      | rejected error => exact cleaned.attemptFailed attempt error
    next => cases run
  | subscribeSettled other result =>
    simp only [DeviceSession.step] at run
    split at run
    next attempt phase =>
      cases Option.some.inj run
      cases cleaned.alone other _ phase
      cases result with
      | fulfilled => exact cleaned.moves rfl (by rintro ⟨⟩)
      | rejected error => exact cleaned.attemptFailed attempt error
    next => cases run
  | cleanupSettled other result =>
    simp only [DeviceSession.step] at run
    split at run
    next attempt error phase =>
      cases Option.some.inj run
      cases cleaned.alone other _ phase
      have last := cleaned.last _ phase rfl
      unfold cleanupSettled
      split
      · exact cleaned.moves rfl fun _ => last
      · exact cleaned.moves rfl fun _ => last
    next => cases run
  | retryElapsed other =>
    simp only [DeviceSession.step] at run
    split at run
    next attempt phase =>
      cases Option.some.inj run
      cases cleaned.alone other _ phase
      exact cleaned.moves rfl (by rintro ⟨⟩)
    next => cases run
  | _ => cases initializes

/-- A new session whose `connectAndInitialize` is rejected leaves its transport
disconnected. -/
theorem failed_initialization_disconnects {address : String} {commandTimeoutMs : Nat}
    {trace : List SessionEvent} {error : Failure}
    (reach : Reach DeviceSession.step (fun _ e => InitializesOnce call e) (create address commandTimeoutMs) trace s)
    (failed : s.initializations call = some (.settled (.rejected error))) :
    s.transportCalls.getLast? = some .disconnect := by
  have cleaned : s.Cleaned call := reach.invariant (P := fun s => s.Cleaned call)
    (cleaned_create address commandTimeoutMs call) fun _ _ _ cleaned once run => cleaned.step once run
  exact cleaned.last _ failed rfl

end DeviceSession

end BluettiMqtt
