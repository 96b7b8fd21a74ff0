import BluettiMqtt.Bluetooth.SessionFrames

namespace BluettiMqtt
open Promise

def InitializePhase.isSettled : InitializePhase → Bool
  | .settled _ => true
  | .connecting _ => false
  | .readingName _ => false
  | .subscribing _ => false
  | .cleaningUp _ _ => false
  | .retryDelay _ => false

/-- The events upon which the session tells its transport to disconnect:
`disconnect` itself and the failures `connectAndInitialize` catches. -/
def SessionEvent.tearsDown : SessionEvent → Bool
  | .disconnect _ => true
  | .connectSettled _ (.rejected _) => true
  | .nameSettled _ (.rejected _) => true
  | .subscribeSettled _ (.rejected _) => true
  | _ => false

/-- The remaining events of `connectAndInitialize` and `disconnect`. -/
def SessionEvent.movesAlong : SessionEvent → Bool
  | .connectSettled _ (.fulfilled _) => true
  | .nameSettled _ (.fulfilled _) => true
  | .cleanupSettled _ _ => true
  | .retryElapsed _ => true
  | .disconnectSettled _ _ => true
  | _ => false

/-- The events of `connectAndInitialize`. -/
def SessionEvent.initializes : SessionEvent → Bool
  | .connectAndInitialize _ => true
  | .connectSettled _ _ => true
  | .nameSettled _ _ => true
  | .subscribeSettled _ _ => true
  | .cleanupSettled _ _ => true
  | .retryElapsed _ => true
  | _ => false

theorem SessionEvent.not_movesAlong {e : SessionEvent} (torn : e.tearsDown = true) :
    ¬e.movesAlong = true := by
  cases e with
  | connectSettled _ result => cases result <;> first | exact Bool.false_ne_true | cases torn
  | nameSettled _ result => cases result <;> first | exact Bool.false_ne_true | cases torn
  | disconnect => exact Bool.false_ne_true
  | subscribeSettled => exact Bool.false_ne_true
  | _ => cases torn

namespace DeviceSession

/-- A call of `connectAndInitialize` that has not settled. -/
def Initializing (s : DeviceSession) (call : CallId) : Prop :=
  ∃ phase, s.initializations call = some phase ∧ phase.isSettled = false

def timeoutFailure (s : DeviceSession) : Failure :=
  let address := s.address
  let commandTimeoutMs := s.commandTimeoutMs
  .commandTimeoutError s!"Timed out waiting for response from {address} after {commandTimeoutMs} ms"

/-- Everything a step can do to the session, grouped by what happens to the
pending fields and to the calls of `perform`. The last case collects the steps
that touch neither. -/
inductive Effect (s : DeviceSession) : SessionEvent → DeviceSession → Prop
  | started {call command} : s.isReady = true → s.performs call = none →
      Effect s (.perform call command) (s.perform call command)
  | refused {call command} : s.isReady = false → s.performs call = none →
      Effect s (.perform call command) (s.perform call command)
  | wrote {call} : s.phaseOf call = some .writing →
      Effect s (.writeSettled call (.fulfilled ())) (s.setPhase call .awaitingResponse)
  | writeFailed {call error} : s.phaseOf call = some .writing →
      Effect s (.writeSettled call (.rejected error))
        ((s.concluded (.rejected error) .disconnecting).setPhase call (.settled (.rejected error)))
  | finished {call outcome} : s.phaseOf call = some .awaitingResponse →
      s.responseOf call = some outcome →
      Effect s (.responseSettled call) (s.responseSettled call outcome)
  | ignored {data} : s.pendingResponse = none ∨ s.currentCommand = none →
      Effect s (.notification data) s
  | buffered {data call command} : s.pendingResponse = some call → s.currentCommand = some command →
      notificationVerdict command s.responseBuffer data = none →
      Effect s (.notification data) { s with responseBuffer := concatBytes s.responseBuffer data }
  | notified {data call command outcome state} : s.pendingResponse = some call →
      s.currentCommand = some command →
      notificationVerdict command s.responseBuffer data = some (outcome, state) →
      Effect s (.notification data) (s.concluded outcome state)
  | timedOut {call} : (s.performs call).map PerformCall.timerArmed = some true →
      Effect s (.commandTimer call)
        ((s.clearTimeout (some call)).concluded (.rejected s.timeoutFailure) .commandErrorWait)
  | disconnected {call} : Effect s (.disconnect call) (s.disconnect call)
  | attemptFailed {e call attempt error} : e.tearsDown = true → s.Initializing call →
      Effect s e (s.attemptFailed call attempt error)
  | subscribed {call attempt} : s.initializations call = some (.subscribing attempt) →
      Effect s (.subscribeSettled call (.fulfilled ())) (s.subscribeSettled call attempt (.fulfilled ()))
  | initializing {call} : s.initializations call = none →
      Effect s (.connectAndInitialize call)
        ({ s with lifecycle := .initializing call :: s.lifecycle }.connectAttempt call 0)
  | progressed {e state name initializations disconnects transportCalls} :
      e.movesAlong = true → state ∈ [s.state, .connected, .notConnected] →
      (∀ call phase, initializations call = some phase → phase.isSettled = false →
        s.Initializing call) →
      Effect s e { s with
        state := state
        name := name
        initializations := initializations
        disconnects := disconnects
        transportCalls := transportCalls }

@[simp] theorem setInitialization_state (s : DeviceSession) (call : CallId) (phase : InitializePhase) :
    (s.setInitialization call phase).state = s.state := rfl

theorem setInitialization_initializing {s : DeviceSession} {call other : CallId}
    {phase found : InitializePhase} (busy : s.Initializing call)
    (entry : (s.setInitialization call phase).initializations other = some found)
    (open_ : found.isSettled = false) : s.Initializing other := by
  rcases Table.insert_eq_some.mp entry with ⟨rfl, _⟩ | ⟨_, old⟩
  · exact busy
  · exact ⟨found, old, open_⟩

theorem handleNotification_effect (s : DeviceSession) (data : List Byte) :
    s.Effect (.notification data) (s.handleNotification data) := by
  cases pending : s.pendingResponse with
  | none =>
    rw [handleNotification_idle (Or.inl pending)]
    exact .ignored (Or.inl pending)
  | some call =>
    cases current : s.currentCommand with
    | none =>
      rw [handleNotification_idle (Or.inr current)]
      exact .ignored (Or.inr current)
    | some command =>
      rw [handleNotification_verdict pending current]
      cases verdict : notificationVerdict command s.responseBuffer data with
      | none => exact .buffered pending current verdict
      | some decision => exact .notified pending current verdict

theorem step_effect {s t : DeviceSession} {e : SessionEvent} (run : s.step e = some t) :
    s.Effect e t := by
  cases e with
  | perform call command =>
    obtain ⟨fresh, same⟩ := Option.ite_none_right_eq_some.mp run
    cases Option.some.inj same
    have fresh := Option.isNone_iff_eq_none.mp fresh
    cases ready : s.isReady with
    | true => exact .started ready fresh
    | false => exact .refused ready fresh
  | writeSettled call result =>
    obtain ⟨writing, same⟩ := Option.ite_none_right_eq_some.mp run
    cases Option.some.inj same
    cases result with
    | fulfilled => exact .wrote writing
    | rejected error => exact .writeFailed writing
  | responseSettled call =>
    simp only [step] at run
    split at run
    next awaiting settled =>
      cases Option.some.inj run
      exact .finished awaiting settled
    next => cases run
  | notification data =>
    cases Option.some.inj run
    exact handleNotification_effect s data
  | commandTimer call =>
    obtain ⟨armed, same⟩ := Option.ite_none_right_eq_some.mp run
    cases Option.some.inj same
    exact .timedOut armed
  | connectAndInitialize call =>
    obtain ⟨fresh, same⟩ := Option.ite_none_right_eq_some.mp run
    cases Option.some.inj same
    exact .initializing (Option.isNone_iff_eq_none.mp fresh)
  | connectSettled call result =>
    simp only [step] at run
    split at run
    next attempt phase =>
      cases Option.some.inj run
      cases result with
      | fulfilled =>
        exact .progressed rfl (by simp) fun _ _ => setInitialization_initializing ⟨_, phase, rfl⟩
      | rejected error => exact .attemptFailed rfl ⟨_, phase, rfl⟩
    next => cases run
  | nameSettled call result =>
    simp only [step] at run
    split at run
    next attempt phase =>
      cases Option.some.inj run
      cases result with
      | fulfilled =>
        exact .progressed rfl (by simp) fun _ _ => setInitialization_initializing ⟨_, phase, rfl⟩
      | rejected error => exact .attemptFailed rfl ⟨_, phase, rfl⟩
    next => cases run
  | subscribeSettled call result =>
    simp only [step] at run
    split at run
    next attempt phase =>
      cases Option.some.inj run
      cases result with
      | fulfilled => exact .subscribed phase
      | rejected error => exact .attemptFailed rfl ⟨_, phase, rfl⟩
    next => cases run
  | cleanupSettled call result =>
    simp only [step] at run
    split at run
    next attempt error phase =>
      cases Option.some.inj run
      unfold cleanupSettled
      split
      · exact .progressed rfl (by simp) fun _ _ => setInitialization_initializing ⟨_, phase, rfl⟩
      · exact .progressed rfl (by simp) fun _ _ => setInitialization_initializing ⟨_, phase, rfl⟩
    next => cases run
  | retryElapsed call =>
    simp only [step] at run
    split at run
    next attempt phase =>
      cases Option.some.inj run
      exact .progressed rfl (by simp) fun _ _ => setInitialization_initializing ⟨_, phase, rfl⟩
    next => cases run
  | disconnect call =>
    obtain ⟨_, same⟩ := Option.ite_none_right_eq_some.mp run
    cases Option.some.inj same
    exact .disconnected
  | disconnectSettled call result =>
    obtain ⟨_, same⟩ := Option.ite_none_right_eq_some.mp run
    cases Option.some.inj same
    exact .progressed rfl (by simp) fun other phase entry open_ => ⟨phase, entry, open_⟩

end DeviceSession

end BluettiMqtt
