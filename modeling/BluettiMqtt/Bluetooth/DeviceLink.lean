import BluettiMqtt.Bluetooth.ModbusDevice
import BluettiMqtt.Bluetooth.SessionRetry

namespace BluettiMqtt
open Promise Transition

/-- The errors that are made from the exception responses of a device. -/
def Failure.isModbus : Failure → Bool
  | .modbusError _ _ => true
  | .deviceBusyError _ _ => true
  | _ => false

/-- A session and the device behind its transport. `requests` are the frames that
the session has written and the device has not taken yet, each under the call that
wrote it, and `notifying` are the bytes of responses that have not been notified.
`served` (oldest first) is a history variable. -/
structure DeviceLink where
  session : DeviceSession
  image : RegisterImage
  requests : List (CallId × List Byte)
  notifying : List Byte
  served : List Served

/-- The session moves, the device serves the oldest request, or some bytes of its
responses are notified. -/
inductive LinkEvent
  | session (event : SessionEvent)
  | serve (refused : Option Byte)
  | notify (count : Nat)

namespace DeviceLink

def create (session : DeviceSession) (image : RegisterImage) : DeviceLink where
  session := session
  image := image
  requests := []
  notifying := []
  served := []

/-- The frames that a step of the session gives to `writeCharacteristic`. -/
def written (event : SessionEvent) (before after : DeviceSession) : List (CallId × List Byte) :=
  match event with
  | .perform call _ =>
    (after.transportCalls.drop before.transportCalls.length).filterMap fun
      | .writeCharacteristic _ data => some (call, data)
      | _ => none
  | _ => []

/-- The device serves a request; `rest` are the frames that it has not taken. -/
def serving (s : DeviceLink) (served : Served) (rest : List (CallId × List Byte)) : DeviceLink :=
  { s with
    image := served.apply s.image
    requests := rest
    notifying := s.notifying ++ served.answer s.image
    served := s.served ++ [served] }

/-- One step; `none` when the event is not enabled. Of notifications that are no
part of a response only control messages occur. A frame that is no request is
dropped by the device. -/
def step (s : DeviceLink) : LinkEvent → Option DeviceLink
  | .session (.notification data) =>
    if isAsciiControlMessage data then some { s with session := s.session.handleNotification data } else none
  | .session event =>
    (s.session.step event).map fun session =>
      { s with session := session, requests := s.requests ++ written event s.session session }
  | .serve refused =>
    match s.requests with
    | (call, frame) :: rest =>
      match decodeRequest frame with
      | some command => some (s.serving { call := call, command := command, refused := refused } rest)
      | none => some { s with requests := rest }
    | [] => none
  | .notify count =>
    some { s with
      session := s.session.handleNotification (s.notifying.take count)
      notifying := s.notifying.drop count }

/-- Serialized calls on a session that its owner does not initialize again, over a
transport whose own errors are no MODBUS errors. -/
def InUse (s : DeviceLink) : LinkEvent → Prop
  | .session event => s.session.Serialized event ∧ event.initializes = false ∧
      ∀ call error, event = .writeSettled call (.rejected error) → error.isModbus = false
  | _ => True

/-- The call that an event makes of a session that accepts it. -/
def admits (s : DeviceLink) : LinkEvent → List CallId
  | .session (.perform call _) => if s.session.isReady then [call] else []
  | _ => []

/-- The calls whose frames have been written, in the order of the calls. -/
def accepted (start : DeviceLink) (trace : List LinkEvent) : List CallId :=
  observed step admits start trace

theorem step_serve {s : DeviceLink} {call : CallId} {command : DeviceCommand} {rest : List (CallId × List Byte)}
    (requests : s.requests = (call, command.frame) :: rest) (refused : Option Byte) :
    s.step (.serve refused) = some (s.serving ⟨call, command, refused⟩ rest) := by
  simp only [step, requests, DeviceCommand.decodeRequest_frame]

/-- Of frames that are requests the oldest is served. -/
theorem step_serve_cases {s t : DeviceLink} {refused : Option Byte}
    (framed : ∀ entry ∈ s.requests, ∃ command : DeviceCommand, entry.2 = command.frame)
    (run : s.step (.serve refused) = some t) :
    ∃ call command rest, s.requests = (call, command.frame) :: rest ∧ t = s.serving ⟨call, command, refused⟩ rest := by
  cases requests : s.requests with
  | nil =>
    simp only [step, requests] at run
    cases run
  | cons entry rest =>
    obtain ⟨command, same⟩ := framed entry (by rw [requests]; exact List.mem_cons_self)
    have written : s.requests = (entry.1, command.frame) :: rest := by rw [requests, ← same]
    rw [step_serve written] at run
    exact ⟨entry.1, command, rest, by rw [← same], (Option.some.inj run).symm⟩

end DeviceLink

/-- Where the settlement of a command comes from: the device's answer to this very
command, given with the registers as the requests before it have left them, or a
failure that is not the device's. -/
inductive Served.Explains (initial : RegisterImage) (history : List Served) (call : CallId) (command : DeviceCommand) :
    Settlement Failure (List Byte) → Prop
  | answered {earlier later : List Served} {refused : Option Byte} :
      history = earlier ++ ⟨call, command, refused⟩ :: later →
      Explains initial history call command ((Served.mk call command refused).outcome (after initial earlier))
  | failed {error : Failure} : error.isModbus = false → Explains initial history call command (.rejected error)

theorem Served.Explains.append {initial : RegisterImage} {history : List Served} {call : CallId}
    {command : DeviceCommand} {outcome : Settlement Failure (List Byte)}
    (explains : Explains initial history call command outcome) (more : List Served) :
    Explains initial (history ++ more) call command outcome := by
  cases explains with
  | answered place => exact .answered (by rw [place, List.append_assoc, List.cons_append])
  | failed foreign => exact .failed foreign

namespace DeviceSession

variable {s t : DeviceSession}

/-- Nothing outstanding can make the session ready again. -/
structure Broken (s : DeviceSession) : Prop where
  refuses : s.isReady = false
  idle : s.pendingResponse = none
  unfulfilled : ∀ call record, s.performs call = some record → record.isSettled = false →
    ∀ response, record.response ≠ some (.fulfilled response)

/-- The calls of `perform` and how they are settled rest on what the device has done. -/
def Explained (initial : RegisterImage) (history : List Served) (s : DeviceSession) : Prop :=
  ∀ call record, s.performs call = some record →
    (∀ outcome, record.response = some outcome → Served.Explains initial history call record.command outcome) ∧
    ∀ outcome, record.phase = .settled outcome → Served.Explains initial history call record.command outcome

section Explained

variable {initial : RegisterImage} {history : List Served}

theorem Explained.append (explained : s.Explained initial history) (more : List Served) :
    s.Explained initial (history ++ more) := fun call record entry =>
  ⟨fun outcome response => ((explained call record entry).1 outcome response).append more,
    fun outcome settled => ((explained call record entry).2 outcome settled).append more⟩

theorem Explained.congr (explained : s.Explained initial history) (performs : t.performs = s.performs) :
    t.Explained initial history := by
  intro call record entry
  rw [performs] at entry
  exact explained call record entry

theorem Explained.cleared (explained : s.Explained initial history) (orderly : s.Orderly) :
    s.clearPendingState.Explained initial history := by
  intro call record entry
  obtain ⟨old, atOld, rfl⟩ := orderly.cleared_record entry
  exact explained call old atOld

theorem Explained.concluded (explained : s.Explained initial history) (orderly : s.Orderly)
    {outcome : Settlement Failure (List Byte)} (state : DeviceSessionState)
    (told : ∀ call record, s.pendingResponse = some call → s.performs call = some record →
      Served.Explains initial history call record.command outcome) :
    (s.concluded outcome state).Explained initial history := by
  intro call record entry
  obtain ⟨old, atOld, rfl⟩ := orderly.concluded_record entry
  refine ⟨fun found response => ?_, (explained call old atOld).2⟩
  by_cases mine : s.pendingResponse = some call
  · simp only [PerformCall.response, mine, if_true, List.head?_cons, Option.some.injEq] at response
    exact response ▸ told call old mine atOld
  · simp only [PerformCall.response, mine, if_false] at response
    exact (explained call old atOld).1 found response

theorem Explained.setPhase (explained : s.Explained initial history) {call : CallId} {phase : PerformPhase}
    (told : ∀ record outcome, s.performs call = some record → phase = .settled outcome →
      Served.Explains initial history call record.command outcome) :
    (s.setPhase call phase).Explained initial history := by
  intro other record entry
  obtain ⟨old, atOld, same⟩ := setPhase_record entry
  by_cases here : other = call
  · rw [if_pos here] at same
    subst here same
    exact ⟨(explained other old atOld).1, fun outcome settled => told old outcome atOld settled⟩
  · rw [if_neg here] at same
    subst same
    exact explained other record atOld

end Explained

/-- A failure of the session itself breaks it while a command is pending. -/
theorem Orderly.concluded_broken (orderly : s.Orderly) {call : CallId} (pending : s.pendingResponse = some call)
    (error : Failure) {state : DeviceSessionState} (lost : state ≠ .ready ∧ state ≠ .performingCommand) :
    (s.concluded (.rejected error) state).Broken := by
  refine ⟨by simp [isReady, DeviceSession.concluded, lost], rfl, ?_⟩
  intro other record entry open_ response
  obtain ⟨old, atOld, rfl⟩ := orderly.concluded_record entry
  obtain ⟨mine, atMine, openMine, _⟩ := orderly.pending call pending
  cases orderly.single _ _ _ _ atOld atMine open_ openMine
  simp [PerformCall.response, pending]

/-- So does clearing the pending fields before the session is left. -/
theorem Orderly.cleared_broken (orderly : s.Orderly) {call : CallId} (pending : s.pendingResponse = some call)
    (performs : t.performs = s.clearPendingState.performs) (refuses : t.isReady = false)
    (idle : t.pendingResponse = none) : t.Broken := by
  refine ⟨refuses, idle, ?_⟩
  intro other record entry open_ response answered
  rw [performs] at entry
  obtain ⟨old, atOld, rfl⟩ := orderly.cleared_record entry
  obtain ⟨mine, atMine, openMine, unanswered, _⟩ := orderly.pending call pending
  cases orderly.single _ _ _ _ atOld atMine open_ openMine
  cases atOld.symm.trans atMine
  simp [PerformCall.response, unanswered] at answered

/-- A broken session stays broken as long as its owner does not initialize it. -/
theorem Broken.step {e : SessionEvent} (broken : s.Broken) (orderly : s.Orderly) (used : e.initializes = false)
    (run : s.step e = some t) : t.Broken := by
  have refuses := broken.refuses
  cases step_effect run with
  | started ready => rw [refuses] at ready; cases ready
  | @refused call command _ fresh =>
    unfold perform
    rw [if_neg (by simp [refuses])]
    refine ⟨refuses, broken.idle, fun other record entry open_ => ?_⟩
    rcases Table.insert_eq_some.mp entry with ⟨_, rfl⟩ | ⟨_, old⟩
    · cases open_
    · exact broken.unfulfilled other record old open_
  | @wrote call writing =>
    refine ⟨refuses, broken.idle, fun other record entry open_ => ?_⟩
    obtain ⟨old, atOld, same⟩ := setPhase_record entry
    by_cases here : other = call
    · rw [if_pos here] at same
      obtain ⟨found, atFound, openFound⟩ := isSettled_of_phaseOf writing (Or.inl rfl)
      subst here same
      cases atOld.symm.trans atFound
      exact broken.unfulfilled other old atOld openFound
    · rw [if_neg here] at same
      subst same
      exact broken.unfulfilled other record atOld open_
  | @writeFailed call error writing =>
    have quiet := (orderly.concluded (.rejected error) .disconnecting).quiet_of_settled
      (orderly.concluded_outstanding _ _ (isSettled_of_phaseOf writing (Or.inl rfl))) (.rejected error)
    refine ⟨rfl, rfl, fun other record entry open_ => ?_⟩
    rw [quiet other record entry] at open_
    cases open_
  | @finished call outcome awaiting settled =>
    have busy := isSettled_of_phaseOf awaiting (Or.inr rfl)
    obtain ⟨record, entry, open_⟩ := busy
    cases outcome with
    | fulfilled response =>
      have fulfilled : record.response = some (.fulfilled response) := by
        rw [← settled, responseOf, entry]
        rfl
      exact absurd fulfilled (broken.unfulfilled call record entry open_ response)
    | rejected error =>
      have quiet := orderly.cleared.quiet_of_settled (orderly.cleared_outstanding ⟨record, entry, open_⟩)
        (.rejected error)
      refine ⟨refuses, rfl, fun other found atFound openFound => ?_⟩
      rw [quiet other found atFound] at openFound
      cases openFound
  | ignored => exact broken
  | buffered pending => rw [broken.idle] at pending; cases pending
  | notified pending => rw [broken.idle] at pending; cases pending
  | timedOut fired =>
    have pending := (orderly.timedOut fired (.rejected s.timeoutFailure) .commandErrorWait).1
    rw [broken.idle] at pending
    cases pending
  | disconnected =>
    refine ⟨rfl, rfl, fun other record entry open_ => ?_⟩
    obtain ⟨old, atOld, rfl⟩ := orderly.cleared_record entry
    exact broken.unfulfilled other old atOld open_
  | attemptFailed =>
    refine ⟨rfl, rfl, fun other record entry open_ => ?_⟩
    obtain ⟨old, atOld, rfl⟩ := orderly.cleared_record entry
    exact broken.unfulfilled other old atOld open_
  | subscribed => cases used
  | initializing => cases used
  | progressed _ states =>
    refine ⟨?_, broken.idle, broken.unfulfilled⟩
    simp only [List.mem_cons, List.not_mem_nil, or_false] at states
    rcases states with rfl | rfl | rfl
    · exact refuses
    · rfl
    · rfl

end DeviceSession

end BluettiMqtt
