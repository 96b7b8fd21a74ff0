import BluettiMqtt.Bluetooth.SessionOrderly

namespace BluettiMqtt
open Promise Transition

/-- The bytes received reach the expected size without being a response or an
exception the command accepts. -/
def DeviceCommand.Spoils (command : DeviceCommand) (received : List Byte) : Prop :=
  command.isExceptionResponse received = false ∧ command.responseSize ≤ received.length ∧
    command.isValidResponse received = false

theorem DeviceCommand.isValidResponse_length {command : DeviceCommand} {received : List Byte}
    (valid : command.isValidResponse received = true) : received.length = command.responseSize :=
  (hasValidIdentity_iff.mp (isValidResponse_identity valid)).1

/-- A verdict leaves the session ready unless the bytes are spoilt, and then
the command is rejected and the session waits. -/
theorem DeviceCommand.verdict_cases {command : DeviceCommand} {received : List Byte}
    {outcome : Settlement Failure (List Byte)} {state : DeviceSessionState}
    (decided : command.verdict received = some (outcome, state)) :
    state = .ready ∧ ¬command.Spoils received ∨
      state = .commandErrorWait ∧ command.Spoils received ∧ ∃ error, outcome = .rejected error := by
  unfold verdict at decided
  split at decided
  next exception =>
    cases decided
    exact Or.inl ⟨rfl, fun spoilt => by simp [spoilt.1] at exception⟩
  next plain =>
    have plain := Bool.eq_false_iff.mpr plain
    split at decided
    next sized =>
      split at decided
      next valid =>
        cases decided
        exact Or.inl ⟨rfl, fun spoilt => by simp [spoilt.2.2] at valid⟩
      next invalid =>
        cases decided
        exact Or.inr ⟨rfl, ⟨plain, sized.ge, Bool.eq_false_iff.mpr invalid⟩, _, rfl⟩
    next unsized =>
      split at decided
      next beyond =>
        cases decided
        exact Or.inr ⟨rfl, ⟨plain, beyond.le,
          Bool.eq_false_iff.mpr fun valid => unsized (isValidResponse_length valid)⟩, _, rfl⟩
      next => cases decided

theorem DeviceCommand.verdict_spoilt {command : DeviceCommand} {received : List Byte}
    (spoilt : command.Spoils received) : command.verdict received ≠ none := by
  obtain ⟨plain, size, invalid⟩ := spoilt
  unfold verdict
  rw [plain, if_neg Bool.false_ne_true, invalid]
  rcases size.eq_or_lt with sized | beyond
  · rw [if_pos sized.symm]
    simp
  · rw [if_neg beyond.ne', if_pos beyond]
    simp

/-- The errors after which the same session is meant to be used again. -/
def Failure.isRecoverable : Failure → Bool
  | .commandTimeoutError _ => true
  | .parseError _ => true
  | .modbusError _ _ => true
  | .deviceBusyError _ _ => true
  | .badConnectionError _ => false
  | .error _ => false
  | .rangeError _ _ => false
  | .value _ => false

namespace DeviceSession

/-- A session some calls of `connectAndInitialize` have made ready, before any
other use of it. -/
def Initialized (s : DeviceSession) : Prop :=
  s.state = .ready ∧ ∃ address commandTimeoutMs trace,
    Reach step (fun _ e => e.initializes = true) (create address commandTimeoutMs) trace s

theorem Initialized.fresh {s : DeviceSession} (initialized : s.Initialized) :
    s.Orderly ∧ s.pendingResponse = none ∧ ∀ call, s.performs call = none := by
  obtain ⟨_, address, commandTimeoutMs, trace, reach⟩ := initialized
  refine reach.invariant (P := fun s => s.Orderly ∧ s.pendingResponse = none ∧
    ∀ call, s.performs call = none) ⟨orderly_create _ _, rfl, fun _ => rfl⟩ ?_
  intro s e t ⟨orderly, idle, unused⟩ opening run
  refine ⟨orderly.step (serialized_initializes opening).startsQuiet run, ?_⟩
  cases step_effect run with
  | started => cases opening
  | refused => cases opening
  | wrote => cases opening
  | writeFailed => cases opening
  | finished => cases opening
  | ignored => cases opening
  | buffered => cases opening
  | notified => cases opening
  | timedOut => cases opening
  | disconnected => cases opening
  | attemptFailed => exact ⟨rfl, fun call => Table.adjust_eq_none.mpr (unused call)⟩
  | subscribed => exact ⟨idle, unused⟩
  | initializing => exact ⟨idle, unused⟩
  | progressed => exact ⟨idle, unused⟩

theorem initialized_opened (address : String) (commandTimeoutMs : Nat) (rawName : List Byte) :
    (opened address commandTimeoutMs rawName).Initialized :=
  ⟨rfl, address, commandTimeoutMs, _, reach_opened (fun _ _ opening _ => opening) _ _ _⟩

/-- Serialized use of an initialized session whose writes succeed, without AT
control notifications and without `disconnect`. -/
def InService (s : DeviceSession) : SessionEvent → Prop
  | .perform _ _ => s.Quiet
  | .writeSettled _ (.fulfilled _) => True
  | .responseSettled _ => True
  | .notification data => isAsciiControlMessage data = false
  | .commandTimer _ => True
  | _ => False

theorem InService.steady {s : DeviceSession} {e : SessionEvent} (service : s.InService e) :
    ¬e.tearsDown = true ∧ ¬e.movesAlong = true := by
  cases e <;> first | exact service.elim | exact ⟨Bool.false_ne_true, Bool.false_ne_true⟩

/-- The command timer expires, or a notification spoils the response. -/
def Spoils (s : DeviceSession) : SessionEvent → Prop
  | .commandTimer _ => True
  | .notification data => ∃ call command, s.pendingResponse = some call ∧
      s.currentCommand = some command ∧ command.Spoils (concatBytes s.responseBuffer data)
  | _ => False

/-- A new call of `perform` is accepted: its frame goes to the transport. -/
def Accepts (s : DeviceSession) (call : CallId) (command : DeviceCommand) : Prop :=
  ∃ t, s.step (.perform call command) = some t ∧ t.phaseOf call = some .writing ∧
    t.transportCalls = s.transportCalls ++ [.writeCharacteristic WRITE_UUID command.toBytes]

theorem accepts_iff {s : DeviceSession} {call : CallId} (fresh : s.performs call = none)
    (command : DeviceCommand) : s.Accepts call command ↔ s.isReady = true := by
  have run : s.step (.perform call command) = some (s.perform call command) := by simp [step, fresh]
  constructor
  · rintro ⟨t, run', writing, _⟩
    cases Option.some.inj (run.symm.trans run')
    by_contra refused
    simp [perform, refused, phaseOf] at writing
  · intro ready
    exact ⟨_, run, by simp [perform, ready, phaseOf], by simp [perform, ready]⟩

/-- In a run without spoilt responses and timeouts the session never leaves the
ready states. -/
theorem isReady_step {s t : DeviceSession} {e : SessionEvent} (ready : s.isReady = true)
    (service : s.InService e) (sound : ¬s.Spoils e) (run : s.step e = some t) : t.isReady = true := by
  cases step_effect run with
  | started =>
    rw [perform, if_pos ready]
    rfl
  | refused refused => simp [refused] at ready
  | wrote => exact ready
  | writeFailed => exact service.elim
  | @finished call outcome =>
    cases outcome with
    | fulfilled => rfl
    | rejected => exact ready
  | ignored => exact ready
  | buffered => exact ready
  | @notified data call command outcome state pending current verdict =>
    rw [notificationVerdict_modbus service] at verdict
    rcases DeviceCommand.verdict_cases verdict with ⟨rfl, _⟩ | ⟨_, spoilt, _⟩
    · rfl
    · exact absurd ⟨call, command, pending, current, spoilt⟩ sound
  | timedOut => exact absurd trivial sound
  | disconnected => exact service.elim
  | attemptFailed torn => exact absurd torn service.steady.1
  | subscribed => exact service.elim
  | initializing => exact service.elim
  | progressed moved => exact absurd moved service.steady.2

/-- The session waits after a failed command and nothing outstanding can make
it ready again. -/
structure Stuck (s : DeviceSession) : Prop where
  state : s.state = .commandErrorWait
  idle : s.pendingResponse = none
  rejected : ∀ call record, s.performs call = some record → record.isSettled = false →
    ∃ error, record.response = some (.rejected error)

theorem Orderly.stuck {s : DeviceSession} (orderly : s.Orderly) {call : CallId}
    (pending : s.pendingResponse = some call) (error : Failure) :
    (s.concluded (.rejected error) .commandErrorWait).Stuck := by
  refine ⟨rfl, rfl, ?_⟩
  intro other record entry open_
  obtain ⟨old, atOld, rfl⟩ := orderly.concluded_record entry
  obtain ⟨mine, atMine, openMine, _⟩ := orderly.pending call pending
  cases orderly.single _ _ _ _ atOld atMine open_ openMine
  exact ⟨error, by simp [PerformCall.response, pending]⟩

theorem Stuck.step {s t : DeviceSession} {e : SessionEvent} (stuck : s.Stuck) (orderly : s.Orderly)
    (service : s.InService e) (run : s.step e = some t) : t.Stuck := by
  have busy : s.isReady = false := by simp [isReady, stuck.state]
  cases step_effect run with
  | started ready => simp [ready] at busy
  | @refused call command refused fresh =>
    unfold perform
    rw [if_neg (by simp [refused])]
    refine ⟨stuck.state, stuck.idle, ?_⟩
    intro other record entry open_
    rcases Table.insert_eq_some.mp entry with ⟨_, rfl⟩ | ⟨_, old⟩
    · cases open_
    · exact stuck.rejected other record old open_
  | @wrote call writing =>
    refine ⟨stuck.state, stuck.idle, ?_⟩
    intro other record entry open_
    obtain ⟨old, atOld, same⟩ := Table.adjust_eq_some.mp entry
    by_cases here : some call = some other
    · cases here
      obtain ⟨found, atFound, openFound⟩ := isSettled_of_phaseOf writing (Or.inl rfl)
      cases atOld.symm.trans atFound
      obtain ⟨error, answered⟩ := stuck.rejected _ _ atOld openFound
      exact ⟨error, by rw [same, if_pos rfl]; exact answered⟩
    · rw [if_neg here] at same
      exact stuck.rejected other record (same ▸ atOld) open_
  | writeFailed => exact service.elim
  | @finished call outcome awaiting settled =>
    obtain ⟨record, entry, open_⟩ := isSettled_of_phaseOf awaiting (Or.inr rfl)
    obtain ⟨error, answered⟩ := stuck.rejected _ _ entry open_
    have same : some outcome = some (.rejected error) := by
      rw [← settled, ← answered, responseOf, entry]
      rfl
    cases same
    refine ⟨stuck.state, rfl, ?_⟩
    intro other found atFound openFound
    obtain ⟨middle, atMiddle, same⟩ := Table.adjust_eq_some.mp atFound
    by_cases here : some call = some other
    · rw [same, if_pos here] at openFound
      cases openFound
    · rw [if_neg here] at same
      obtain ⟨old, atOld, rfl⟩ := orderly.cleared_record atMiddle
      rw [same] at openFound ⊢
      exact stuck.rejected other old atOld openFound
  | ignored => exact stuck
  | buffered pending => rw [stuck.idle] at pending; cases pending
  | notified pending => rw [stuck.idle] at pending; cases pending
  | timedOut fired =>
    have pending := (orderly.timedOut fired (.rejected s.timeoutFailure) .commandErrorWait).1
    rw [stuck.idle] at pending
    cases pending
  | disconnected => exact service.elim
  | attemptFailed torn => exact absurd torn service.steady.1
  | subscribed => exact service.elim
  | initializing => exact service.elim
  | progressed moved => exact absurd moved service.steady.2

/-- The first timeout or spoilt response of a run leaves the session stuck. -/
theorem stuck_of_spoils {s t : DeviceSession} {e : SessionEvent} (orderly : s.Orderly)
    (service : s.InService e) (spoils : s.Spoils e) (run : s.step e = some t) : t.Stuck := by
  cases step_effect run with
  | ignored idle =>
    obtain ⟨call, command, pending, current, _⟩ := spoils
    rcases idle with none | none
    · rw [pending] at none; cases none
    · rw [current] at none; cases none
  | buffered pending current verdict =>
    obtain ⟨_, command, _, current', spoilt⟩ := spoils
    cases Option.some.inj (current.symm.trans current')
    rw [notificationVerdict_modbus service] at verdict
    exact absurd verdict (DeviceCommand.verdict_spoilt spoilt)
  | notified pending current verdict =>
    obtain ⟨_, command, _, current', spoilt⟩ := spoils
    cases Option.some.inj (current.symm.trans current')
    rw [notificationVerdict_modbus service] at verdict
    rcases DeviceCommand.verdict_cases verdict with ⟨_, sound⟩ | ⟨rfl, _, error, rfl⟩
    · exact absurd spoilt sound
    · exact orderly.stuck pending error
  | timedOut fired =>
    obtain ⟨pending, same⟩ := orderly.timedOut fired (.rejected s.timeoutFailure) .commandErrorWait
    rw [same]
    exact orderly.stuck pending _
  | started => exact spoils.elim
  | refused => exact spoils.elim
  | wrote => exact spoils.elim
  | writeFailed => exact spoils.elim
  | finished => exact spoils.elim
  | disconnected => exact spoils.elim
  | attemptFailed torn => exact absurd torn service.steady.1
  | subscribed => exact spoils.elim
  | initializing => exact spoils.elim
  | progressed moved => exact absurd moved service.steady.2

theorem InService.startsQuiet {s : DeviceSession} {e : SessionEvent} (service : s.InService e) :
    s.StartsQuiet e := by
  intro call command same _
  rw [same] at service
  exact service

/-- A run in service either never met a timeout or a spoilt response, or has
left the session stuck. -/
theorem inService_dichotomy {fresh s : DeviceSession} {trace : List SessionEvent}
    (initialized : fresh.Initialized) (reach : Reach step InService fresh trace s) :
    s.Orderly ∧ (Reach step (fun s e => s.InService e ∧ ¬s.Spoils e) fresh trace s ∨ s.Stuck) := by
  induction reach with
  | start => exact ⟨initialized.fresh.1, Or.inl .start⟩
  | @next trace s e t _ service run ih =>
    obtain ⟨orderly, sound | stuck⟩ := ih
    · refine ⟨orderly.step service.startsQuiet run, ?_⟩
      by_cases spoils : s.Spoils e
      · exact Or.inr (stuck_of_spoils orderly service spoils run)
      · exact Or.inl (.next sound ⟨service, spoils⟩ run)
    · exact ⟨orderly.step service.startsQuiet run, Or.inr (stuck.step orderly service run)⟩

/-- The next call, after a recoverable failure as at any other time, is accepted
exactly in the runs in which no command timer expired and no notification
spoilt a response. -/
theorem retry_accepted_iff {fresh s : DeviceSession} {trace : List SessionEvent}
    (initialized : fresh.Initialized) (reach : Reach step InService fresh trace s) {next : CallId}
    (unused : s.performs next = none) (command : DeviceCommand) :
    s.Accepts next command ↔
      Reach step (fun s e => s.InService e ∧ ¬s.Spoils e) fresh trace s := by
  rw [accepts_iff unused]
  constructor
  · intro ready
    rcases (inService_dichotomy initialized reach).2 with sound | stuck
    · exact sound
    · simp [isReady, stuck.state] at ready
  · intro sound
    refine sound.invariant (P := fun s => s.isReady = true) ?_ ?_
    · simp [isReady, initialized.1]
    · intro s e t ready allowed run
      exact isReady_step ready allowed.1 allowed.2 run

/-- An exception response leaves the session ready for the next call. -/
theorem retry_accepted_after_exception :
    let waiting := ((opened "AA:BB:CC:DD:EE:FF" 10000 []).perform 0 readStatus).setPhase 0 .awaitingResponse
    ((waiting.handleNotification [1#8, 0x83#8, 2#8, 0xc0#8, 0xf1#8]).responseSettled 0
      (.rejected (.modbusError (exceptionMessage readStatus 2) 2))).Accepts 1 readStatus := by
  intro waiting
  have exception : readStatus.isExceptionResponse [1#8, 0x83#8, 2#8, 0xc0#8, 0xf1#8] = true := by
    decide +kernel
  have handled : waiting.handleNotification [1#8, 0x83#8, 2#8, 0xc0#8, 0xf1#8] =
      waiting.concluded (.rejected (.modbusError (exceptionMessage readStatus 2) 2)) .ready := by
    rw [handleNotification_verdict rfl rfl, notificationVerdict_modbus (by decide), concatBytes,
      show waiting.responseBuffer = [] from rfl, List.nil_append, DeviceCommand.verdict_exception exception]
    rfl
  have sound : ¬waiting.Spoils (.notification [1#8, 0x83#8, 2#8, 0xc0#8, 0xf1#8]) := by
    rintro ⟨_, command, _, current, plain, _⟩
    cases Option.some.inj current
    exact Bool.false_ne_true (plain.symm.trans exception)
  rw [handled]
  have reach : Reach step InService (opened "AA:BB:CC:DD:EE:FF" 10000 []) [.perform 0 readStatus,
      .writeSettled 0 (.fulfilled ()), .notification [1#8, 0x83#8, 2#8, 0xc0#8, 0xf1#8],
      .responseSettled 0] _ :=
    .cons (fun _ _ entry => by cases entry) rfl
      (.cons trivial rfl (.cons rfl (congrArg some handled) (.cons trivial rfl .start)))
  exact (retry_accepted_iff (initialized_opened _ _ _) reach rfl readStatus).mpr
    (.cons ⟨(fun _ _ entry => by cases entry), id⟩ rfl (.cons ⟨trivial, id⟩ rfl
      (.cons ⟨rfl, sound⟩ (congrArg some handled) (.cons ⟨trivial, id⟩ rfl .start))))

/-- One command that times out is enough: the call after it is refused. -/
theorem retry_refused_after_timeout :
    ¬∀ (fresh s : DeviceSession) (trace : List SessionEvent) (call next : CallId) (error : Failure)
      (command : DeviceCommand), fresh.Initialized → Reach step InService fresh trace s →
      s.phaseOf call = some (.settled (.rejected error)) → error.isRecoverable = true → s.Quiet →
      s.performs next = none → s.Accepts next command := by
  intro promised
  let ready := opened "AA:BB:CC:DD:EE:FF" 10000 []
  let waiting := (ready.perform 0 readStatus).setPhase 0 .awaitingResponse
  let failure := waiting.timeoutFailure
  let failed := (waiting.commandTimer 0).responseSettled 0 (.rejected failure)
  have reach : Reach step InService ready [.perform 0 readStatus, .writeSettled 0 (.fulfilled ()),
      .commandTimer 0, .responseSettled 0] failed :=
    .cons (fun _ _ entry => by cases entry) rfl
      (.cons trivial rfl (.cons trivial rfl (.cons trivial rfl .start)))
  have quiet : failed.Quiet := by
    intro call record entry
    cases call with
    | zero =>
      cases entry
      rfl
    | succ => cases entry
  have accepted := promised ready failed _ 0 1 failure readStatus (initialized_opened _ _ _) reach rfl
    rfl quiet rfl
  exact Bool.false_ne_true ((accepts_iff rfl readStatus).mp accepted)

end DeviceSession

end BluettiMqtt
