import BluettiMqtt.Bluetooth.LinkService
import BluettiMqtt.Bluetooth.SessionCalls
import BluettiMqtt.Bluetooth.SessionPending

namespace BluettiMqtt
open Promise Transition

namespace DeviceSession

variable {s : DeviceSession}

theorem handleNotification_phaseOf (s : DeviceSession) (data : List Byte) (call : CallId) :
    (s.handleNotification data).phaseOf call = s.phaseOf call := by
  cases handled : s.pendingResponse with
  | none => rw [handleNotification_idle (Or.inl handled)]
  | some waiting =>
    cases current : s.currentCommand with
    | none => rw [handleNotification_idle (Or.inr current)]
    | some command =>
      rw [handleNotification_verdict handled current]
      cases notificationVerdict command s.responseBuffer data with
      | none => rfl
      | some decision => exact s.concluded_phaseOf _ _ call

/-- A call stays known. -/
theorem step_known {t : DeviceSession} {event : SessionEvent} (run : s.step event = some t) {call : CallId}
    (known : s.phaseOf call ≠ none) : t.phaseOf call ≠ none := by
  obtain ⟨phase, place⟩ := Option.ne_none_iff_exists'.mp known
  obtain ⟨old, entry, _⟩ := Option.map_eq_some_iff.mp place
  obtain ⟨new, kept, _⟩ := step_keepsCommands run call old entry
  rw [phaseOf, kept]
  simp

theorem exists_record {call : CallId} {phase : PerformPhase} (at_ : s.phaseOf call = some phase) :
    ∃ record, s.performs call = some record ∧ record.phase = phase :=
  Option.map_eq_some_iff.mp at_

/-- The only failures that anybody has been told of are those of the device. -/
def Truthful (s : DeviceSession) : Prop :=
  ∀ call record error, s.performs call = some record →
    record.response = some (.rejected error) ∨ record.phase = .settled (.rejected error) → error.isModbus = true

end DeviceSession

namespace DeviceLink

open DeviceSession

/-- Nothing fails: no timer expires, no write is rejected, nobody disconnects and no
part of a response looks like a control message. Empty notifications, which change
nothing, are left out. -/
def Healthy (s : DeviceLink) : LinkEvent → Prop
  | .session (.perform _ _) => s.session.Quiet
  | .session (.writeSettled _ (.fulfilled _)) => True
  | .session (.responseSettled _) => True
  | .session _ => False
  | .serve _ => True
  | .notify count => isAsciiControlMessage (s.notifying.take count) = false ∧ s.notifying.take count ≠ []

def phaseWeight : Option PerformPhase → Nat
  | some .writing => 2
  | some .awaitingResponse => 1
  | _ => 0

/-- A bound on the steps before a call settles; no answer has 256 bytes. -/
def remaining (s : DeviceLink) (call : CallId) : Nat :=
  256 * s.requests.length + s.notifying.length + phaseWeight (s.session.phaseOf call)

variable {initial : RegisterImage} {s t : DeviceLink} {trace : List LinkEvent}

theorem Healthy.inUse {e : LinkEvent} (healthy : s.Healthy e) : s.InUse e := by
  cases e with
  | serve refused => trivial
  | notify count => trivial
  | session event =>
    cases event with
    | perform call command => exact ⟨fun _ _ _ => healthy, rfl, by rintro _ _ ⟨⟩⟩
    | writeSettled call result =>
      cases result with
      | fulfilled => exact ⟨by rintro _ _ ⟨⟩, rfl, by rintro _ _ ⟨⟩⟩
      | rejected => exact healthy.elim
    | responseSettled call => exact ⟨by rintro _ _ ⟨⟩, rfl, by rintro _ _ ⟨⟩⟩
    | _ => exact healthy.elim

/-- The step of the session in a step of the link, when there is one. -/
theorem Healthy.cases {e : LinkEvent} (healthy : s.Healthy e) (run : s.step e = some t) :
    (∃ refused, e = .serve refused ∧ t.session = s.session) ∨
    (∃ count, e = .notify count ∧ t = { s with
      session := s.session.handleNotification (s.notifying.take count)
      notifying := s.notifying.drop count }) ∨
    ∃ event session, e = .session event ∧ s.session.step event = some session ∧
      t = { s with session := session, requests := s.requests ++ written event s.session session } := by
  cases e with
  | serve refused =>
    refine Or.inl ⟨refused, rfl, ?_⟩
    simp only [DeviceLink.step] at run
    split at run
    · split at run <;> cases run <;> rfl
    · cases run
  | notify count => exact Or.inr (Or.inl ⟨count, rfl, (Option.some.inj run).symm⟩)
  | session event =>
    have silent : ∀ data, event ≠ .notification data := by
      rintro data rfl
      exact healthy.elim
    obtain ⟨session, moved, same⟩ := step_session silent run
    exact Or.inr (Or.inr ⟨event, session, rfl, moved, same.symm⟩)

/-- A verdict on a part of an answer is the outcome that the device gave, or none. -/
theorem Exchange.notified_truthful (exchange : s.Exchange initial) (coherent : s.Coherent initial)
    (ready : s.session.isReady = true) (truthful : s.session.Truthful) {count : Nat}
    (plain : isAsciiControlMessage (s.notifying.take count) = false) :
    (s.session.handleNotification (s.notifying.take count)).Truthful ∧
      (s.session.handleNotification (s.notifying.take count)).isReady = true := by
  have awaiting {call : CallId} {command : DeviceCommand} {frame : List Byte} (awaits : s.session.Awaits call command)
      (accepted : command.Accepts frame) (part : s.session.responseBuffer ++ s.notifying.take count <+: frame)
      (modbus : ∀ error, frameOutcome command frame = .rejected error → error.isModbus = true) :
      (s.session.handleNotification (s.notifying.take count)).Truthful ∧
        (s.session.handleNotification (s.notifying.take count)).isReady = true := by
    rw [handleNotification_verdict awaits.pendingResponse awaits.currentCommand, notificationVerdict_modbus plain]
    by_cases complete : s.session.responseBuffer ++ s.notifying.take count = frame
    · rw [concatBytes, complete, verdict_frameOutcome accepted]
      refine ⟨fun other record error entry told => ?_, rfl⟩
      obtain ⟨old, atOld, rfl⟩ := coherent.orderly.concluded_record entry
      by_cases mine : s.session.pendingResponse = some other
      · rcases told with response | settled
        · simp only [PerformCall.response, mine, if_true, List.head?_cons, Option.some.injEq] at response
          exact modbus error response
        · exact truthful other old error atOld (Or.inr settled)
      · simp only [PerformCall.response, mine, if_false] at told
        exact truthful other old error atOld told
    · rw [concatBytes, DeviceCommand.verdict_prefix accepted part complete]
      exact ⟨truthful, ready⟩
  cases exchange with
  | idle pending =>
    rw [handleNotification_idle (Or.inl pending)]
    exact ⟨truthful, ready⟩
  | @requested call command awaits buffer written empty =>
    have accepted := command.success_isValidResponse initial
    refine awaiting awaits (Or.inl accepted) ?_ ?_
    · rw [buffer, empty, List.take_nil, List.nil_append]
      exact List.nil_prefix
    · have plain := DeviceCommand.isValidResponse_prefix_not_exception accepted (List.prefix_refl _)
      simp [frameOutcome, plain]
  | @answering call command refused earlier awaits none_ last whole some_ =>
    refine awaiting awaits (Served.answer_accepts (Served.after initial earlier) ⟨call, command, refused⟩) ?_ ?_
    · rw [← whole]
      exact List.prefix_append_right_inj _ |>.mpr (List.take_prefix _ _)
    · intro error told
      change (Served.mk call command refused).outcome _ = _ at told
      cases refused with
      | none =>
        rw [Served.outcome_executed rfl] at told
        cases told
      | some code =>
        rw [Served.outcome_refused rfl] at told
        cases told
        split <;> rfl
  | broken lost =>
    rw [lost.refuses] at ready
    cases ready

/-- What a healthy run keeps. -/
structure Sound (initial : RegisterImage) (s : DeviceLink) : Prop where
  coherent : s.Coherent initial
  waits : s.session.Waits
  truthful : s.session.Truthful
  ready : s.session.isReady = true

theorem sound_create {fresh : DeviceSession} (initialized : fresh.Initialized) (image : RegisterImage) :
    (create fresh image).Sound image := by
  obtain ⟨_, _, unused⟩ := initialized.fresh
  refine ⟨coherent_create initialized image, fun call record entry => ?_, fun call record error entry => ?_, ?_⟩
  · rw [create, unused call] at entry
    cases entry
  · rw [create, unused call] at entry
    cases entry
  · simp [create, isReady, initialized.1]

theorem Sound.step {e : LinkEvent} (sound : s.Sound initial) (healthy : s.Healthy e) (run : s.step e = some t) :
    t.Sound initial := by
  obtain ⟨coherent, waits, truthful, ready⟩ := sound
  suffices kept : t.session.Waits ∧ t.session.Truthful ∧ t.session.isReady = true from
    ⟨coherent.step healthy.inUse run, kept.1, kept.2.1, kept.2.2⟩
  rcases healthy.cases run with ⟨refused, rfl, same⟩ | ⟨count, rfl, rfl⟩ | ⟨event, session, rfl, moved, rfl⟩
  · rw [same]
    exact ⟨waits, truthful, ready⟩
  · have quiet : s.session.StartsQuiet (.notification (s.notifying.take count)) := by rintro _ _ ⟨⟩
    exact ⟨waits.step coherent.orderly quiet (by rintro ⟨⟩) rfl,
      coherent.exchange.notified_truthful coherent ready truthful healthy.1⟩
  · have serialized := healthy.inUse.1
    have calm : event.tearsDown = false := by
      cases event with
      | perform => rfl
      | writeSettled => rfl
      | responseSettled => rfl
      | _ => exact healthy.elim
    refine ⟨waits.step coherent.orderly serialized.startsQuiet (fun torn => absurd (calm.symm.trans torn) nofun) moved, ?_⟩
    have setPhase {session : DeviceSession} {call : CallId} {phase : PerformPhase} (told : session.Truthful)
        (own : ∀ error, phase = .settled (.rejected error) → error.isModbus = true) :
        (session.setPhase call phase).Truthful := by
      intro other record error entry reported
      obtain ⟨old, atOld, same⟩ := setPhase_record entry
      by_cases here : other = call
      · rw [if_pos here] at same
        subst here same
        rcases reported with response | settled
        · exact told other old error atOld (Or.inl response)
        · exact own error settled
      · rw [if_neg here] at same
        subst same
        exact told other record error atOld reported
    cases event with
    | perform call command =>
      obtain ⟨_, same⟩ := Option.ite_none_right_eq_some.mp moved
      cases Option.some.inj same
      unfold DeviceSession.perform
      rw [if_pos ready]
      refine ⟨fun other record error entry reported => ?_, rfl⟩
      rcases Table.insert_eq_some.mp entry with ⟨_, rfl⟩ | ⟨_, old⟩
      · rcases reported with ⟨⟨⟩⟩ | ⟨⟨⟩⟩
      · exact truthful other record error old reported
    | writeSettled call result =>
      cases result with
      | rejected => exact healthy.elim
      | fulfilled =>
        obtain ⟨_, same⟩ := Option.ite_none_right_eq_some.mp moved
        cases Option.some.inj same
        exact ⟨setPhase truthful (by rintro error ⟨⟩), ready⟩
    | responseSettled call =>
      cases step_effect moved with
      | @finished _ outcome awaiting settled =>
        obtain ⟨mine, atMine, _⟩ := isSettled_of_phaseOf awaiting (Or.inr rfl)
        have response : mine.response = some outcome := by
          rw [← settled, responseOf, atMine]
          rfl
        have cleared : s.session.clearPendingState.Truthful := by
          intro other record error entry reported
          obtain ⟨old, atOld, rfl⟩ := coherent.orderly.cleared_record entry
          exact truthful other old error atOld reported
        have own : ∀ error, PerformPhase.settled outcome = .settled (.rejected error) → error.isModbus = true := by
          rintro error ⟨⟩
          exact truthful call mine error atMine (Or.inl response)
        cases outcome with
        | fulfilled =>
          have ready : ({ s.session with state := .ready } : DeviceSession).clearPendingState.Truthful := cleared
          exact ⟨setPhase ready own, rfl⟩
        | rejected => exact ⟨setPhase cleared own, ready⟩
      | attemptFailed torn => cases torn
      | progressed along => cases along
    | _ => exact healthy.elim

theorem sound_of_reach {fresh : DeviceSession} {image : RegisterImage} (initialized : fresh.Initialized)
    (reach : Reach step Healthy (create fresh image) trace s) : s.Sound image :=
  reach.invariant (sound_create initialized image) fun _ _ _ sound healthy run => sound.step healthy run

/-- A call of a session that is not quiet. -/
theorem not_quiet {session : DeviceSession} {call : CallId} {phase : PerformPhase}
    (at_ : session.phaseOf call = some phase) (open_ : phase.isSettled = false) : ¬session.Quiet := by
  intro quiet
  rw [quiet_iff.mp quiet call phase at_] at open_
  cases open_

theorem Served.answer_length (image : RegisterImage) (served : Served) : (served.answer image).length < 256 := by
  rcases served.answer_accepts image with valid | exception
  · have length := (DeviceCommand.hasValidIdentity_iff.mp (DeviceCommand.isValidResponse_identity valid)).1
    rw [length]
    cases served.command with
    | readHoldingRegisters request =>
      have bounded := request.quantity_le
      simp only [MAX_READ_REGISTER_COUNT] at bounded
      simp only [DeviceCommand.responseSize]
      omega
    | writeSingleRegister => exact show 8 < 256 by decide
    | writeMultipleRegisters => exact show 8 < 256 by decide
  · have length := (DeviceCommand.isExceptionResponse_iff.mp exception).1
    rw [length]
    decide

/-- Every step brings the settlement of the outstanding call nearer. -/
theorem Sound.approaches {e : LinkEvent} {call : CallId} {phase : PerformPhase} (sound : s.Sound initial)
    (at_ : s.session.phaseOf call = some phase) (open_ : phase.isSettled = false) (healthy : s.Healthy e)
    (run : s.step e = some t) : t.remaining call < s.remaining call := by
  have only {other : CallId} {found : PerformPhase} (place : s.session.phaseOf other = some found)
      (progress : found.isSettled = false) : other = call := by
    obtain ⟨mine, atMine, rfl⟩ := exists_record at_
    obtain ⟨record, entry, rfl⟩ := exists_record place
    rw [← PerformCall.isSettled_eq] at open_ progress
    exact sound.coherent.orderly.single _ _ _ _ entry atMine progress open_
  unfold remaining
  rcases healthy.cases run with ⟨refused, rfl, same⟩ | ⟨count, rfl, rfl⟩ | ⟨event, session, rfl, moved, rfl⟩
  · rw [same]
    obtain ⟨asked, command, rest, requests, rfl⟩ := step_serve_cases sound.coherent.framed run
    have short := Served.answer_length s.image ⟨asked, command, refused⟩
    rw [requests]
    simp only [serving, List.length_cons, List.length_append]
    omega
  · have some_ := List.length_pos_iff.mpr healthy.2
    rw [List.length_take] at some_
    simp only [handleNotification_phaseOf, List.length_drop]
    omega
  · cases event with
    | perform other command => exact absurd healthy (not_quiet at_ open_)
    | writeSettled other result =>
      cases result with
      | rejected => exact healthy.elim
      | fulfilled =>
        obtain ⟨writing, same⟩ := Option.ite_none_right_eq_some.mp moved
        cases Option.some.inj same
        cases only writing rfl
        have next := s.session.setPhase_phaseOf call call .awaitingResponse
        rw [if_pos rfl, writing] at next
        simp only [DeviceSession.writeSettled, next, writing, Option.map_some, phaseWeight, written, List.append_nil]
        omega
    | responseSettled other =>
      cases step_effect moved with
      | @finished _ outcome awaiting settled =>
        cases only awaiting rfl
        have next : (s.session.responseSettled call outcome).phaseOf call = some (.settled outcome) := by
          have cleared := (s.session.clearPendingState_phaseOf call).trans awaiting
          cases outcome with
          | fulfilled =>
            refine (setPhase_phaseOf _ _ _ _).trans ?_
            rw [if_pos rfl]
            exact congrArg (Option.map _) cleared
          | rejected =>
            refine (setPhase_phaseOf _ _ _ _).trans ?_
            rw [if_pos rfl, cleared]
            rfl
        simp only [next, awaiting, phaseWeight, written, List.append_nil]
        omega
      | attemptFailed torn => cases torn
      | progressed along => cases along
    | _ => exact healthy.elim

/-- While a call is outstanding something can happen. -/
theorem Sound.enabled {call : CallId} {phase : PerformPhase} (sound : s.Sound initial)
    (at_ : s.session.phaseOf call = some phase) (open_ : phase.isSettled = false) :
    ∃ e t, s.Healthy e ∧ s.step e = some t := by
  obtain ⟨coherent, waits, truthful, ready⟩ := sound
  obtain ⟨record, entry, rfl⟩ := exists_record at_
  cases phase : record.phase with
  | settled outcome =>
    rw [phase] at open_
    cases open_
  | writing =>
    rw [phase] at at_
    exact ⟨.session (.writeSettled call (.fulfilled ())), _, trivial, congrArg (Option.map _) (if_pos at_)⟩
  | awaitingResponse =>
    rw [phase] at at_
    cases settlements : record.settlements with
    | cons first rest =>
      have response : s.session.responseOf call = some first := by
        simp [responseOf, entry, PerformCall.response, settlements]
      have moved : s.session.step (.responseSettled call) = some (s.session.responseSettled call first) := by
        simp only [DeviceSession.step, at_, response]
      exact ⟨.session (.responseSettled call), _, trivial, congrArg (Option.map _) moved⟩
    | nil =>
      have progress : record.isSettled = false := by rw [PerformCall.isSettled_eq, phase]; rfl
      have pending := waits call record entry progress settlements
      cases coherent.exchange with
      | idle idle =>
        rw [pending] at idle
        cases idle
      | requested awaits buffer written empty =>
        exact ⟨.serve none, _, trivial, step_serve written none⟩
      | answering awaits none_ last whole some_ =>
        refine ⟨.notify 1, _, ⟨?_, ?_⟩, rfl⟩
        · obtain ⟨byte, rest, same⟩ := List.exists_cons_of_ne_nil some_
          rw [same]
          simp [isAsciiControlMessage, asciiText, AT_CONTROL_NAME_MESSAGE, AT_CONTROL_ADV_MESSAGE]
        · obtain ⟨byte, rest, same⟩ := List.exists_cons_of_ne_nil some_
          rw [same]
          simp
      | broken lost =>
        rw [lost.refuses] at ready
        cases ready

theorem known_of_reach {call : CallId} (reach : Reach step Healthy s trace t) (known : s.session.phaseOf call ≠ none) :
    t.session.phaseOf call ≠ none := by
  refine reach.invariant (P := fun s => s.session.phaseOf call ≠ none) known fun a e b known healthy run => ?_
  rcases healthy.cases run with ⟨_, rfl, same⟩ | ⟨_, rfl, rfl⟩ | ⟨event, session, rfl, moved, rfl⟩
  · rwa [same]
  · rwa [handleNotification_phaseOf]
  · exact step_known moved known

/-- Between two moments at which a call is outstanding there are only so many steps. -/
theorem Sound.bounded {call : CallId} {before phase : PerformPhase} (sound : s.Sound initial)
    (earlier : s.session.phaseOf call = some before) (reach : Reach DeviceLink.step Healthy s trace t)
    (at_ : t.session.phaseOf call = some phase) (open_ : phase.isSettled = false) :
    trace.length + t.remaining call ≤ s.remaining call := by
  induction reach generalizing phase with
  | start => simp
  | @next trace s' e u reach healthy run ih =>
    have sound' := reach.invariant sound fun _ _ _ sound healthy run => sound.step healthy run
    have known := known_of_reach reach (by rw [earlier]; simp)
    have outstanding : ∃ old, s'.session.phaseOf call = some old ∧ old.isSettled = false := by
      rcases healthy.cases run with ⟨_, rfl, same⟩ | ⟨_, rfl, rfl⟩ | ⟨event, session, rfl, moved, rfl⟩
      · exact ⟨phase, same ▸ at_, open_⟩
      · exact ⟨phase, (handleNotification_phaseOf _ _ _).symm.trans at_, open_⟩
      · by_cases performed : ∃ other command, event = .perform other command
        · obtain ⟨other, command, rfl⟩ := performed
          obtain ⟨fresh, same⟩ := Option.ite_none_right_eq_some.mp moved
          cases Option.some.inj same
          rw [perform_phaseOf] at at_
          by_cases here : call = other
          · refine absurd ?_ known
            rw [here, phaseOf, Option.isNone_iff_eq_none.mp fresh]
            rfl
          · rw [if_neg here] at at_
            exact ⟨phase, at_, open_⟩
        · exact (step_phaseKept (fun other command same => performed ⟨other, command, same⟩) moved call).outstanding
            at_ open_
    obtain ⟨old, place, progress⟩ := outstanding
    have closer := sound'.approaches place progress healthy run
    have shorter := ih place progress
    rw [List.length_append, List.length_singleton]
    omega

/-- As long as nothing fails the session is ready and every call ends as the device
has answered it: some step is always possible while a call is outstanding, and after
a number of steps that is known beforehand it has settled. -/
theorem healthy_calls_settle {fresh : DeviceSession} {image : RegisterImage} (initialized : fresh.Initialized)
    (reach : Reach step Healthy (create fresh image) trace s) :
    s.session.isReady = true ∧
    (∀ call record, s.session.performs call = some record → record.isSettled = false →
      (∃ e t, s.Healthy e ∧ s.step e = some t) ∧
      ∀ later t, Reach step Healthy s later t → s.remaining call < later.length →
        ∃ outcome, t.session.phaseOf call = some (.settled outcome)) ∧
    ∀ call record outcome, s.session.performs call = some record → record.phase = .settled outcome →
      ∃ earlier later refused, s.served = earlier ++ ⟨call, record.command, refused⟩ :: later ∧
        outcome = (Served.mk call record.command refused).outcome (Served.after image earlier) := by
  have sound := sound_of_reach initialized reach
  refine ⟨sound.ready, fun call record entry open_ => ?_, fun call record outcome entry settled => ?_⟩
  · have at_ : s.session.phaseOf call = some record.phase := by rw [phaseOf, entry]; rfl
    rw [PerformCall.isSettled_eq] at open_
    refine ⟨sound.enabled at_ open_, fun later t continued long => ?_⟩
    have known := known_of_reach continued (by rw [at_]; simp)
    obtain ⟨phase, place⟩ := Option.ne_none_iff_exists'.mp known
    cases phase with
    | settled outcome => exact ⟨outcome, place⟩
    | writing =>
      have bounded := sound.bounded at_ continued place rfl
      omega
    | awaitingResponse =>
      have bounded := sound.bounded at_ continued place rfl
      omega
  · have explains := (sound.coherent.explained call record entry).2 outcome settled
    cases explains with
    | answered place => exact ⟨_, _, _, place, rfl⟩
    | @failed error foreign =>
      have modbus := sound.truthful call record error entry (Or.inr settled)
      rw [foreign] at modbus
      cases modbus

/-- A status read that the device refuses, its answer in two parts, and another one. -/
def refusedRead : List LinkEvent :=
  [.session (.perform 0 readStatus), .serve (some 2#8), .notify 2, .session (.writeSettled 0 (.fulfilled ())), .notify 3,
    .session (.responseSettled 0), .session (.perform 1 readStatus)]

/-- The test of a step that makes no call. -/
def surelyHealthy (s : DeviceLink) : LinkEvent → Bool
  | .session (.writeSettled _ (.fulfilled _)) => true
  | .session (.responseSettled _) => true
  | .session _ => false
  | .serve _ => true
  | .notify count => !isAsciiControlMessage (s.notifying.take count) && s.notifying.take count ≠ []

theorem healthy_of_surelyHealthy {e : LinkEvent} (sure : s.surelyHealthy e = true) : s.Healthy e := by
  cases e with
  | serve refused => trivial
  | notify count => simpa [surelyHealthy, Healthy] using sure
  | session event =>
    cases event with
    | writeSettled call result =>
      cases result with
      | fulfilled => trivial
      | rejected => cases sure
    | responseSettled call => trivial
    | _ => cases sure

theorem healthy_calls_settle_refused : ∃ s : DeviceLink,
    Reach step Healthy (create (opened "AA:BB:CC:DD:EE:FF" 10000 []) (fun _ => 0)) refusedRead s ∧
    s.session.isReady = true ∧
    s.session.phaseOf 0 = some (.settled (.rejected (.modbusError (exceptionMessage readStatus 2) 2))) ∧
    (∃ earlier later refused, s.served = earlier ++ ⟨0, readStatus, refused⟩ :: later ∧
      .rejected (.modbusError (exceptionMessage readStatus 2) 2) =
        (Served.mk 0 readStatus refused).outcome (Served.after (fun _ => 0) earlier)) ∧
    (∃ e t, s.Healthy e ∧ s.step e = some t) ∧
    ∀ later t, Reach step Healthy s later t → s.remaining 1 < later.length →
      ∃ outcome, t.session.phaseOf 1 = some (.settled outcome) := by
  have initialized := initialized_opened "AA:BB:CC:DD:EE:FF" 10000 []
  let start := create (opened "AA:BB:CC:DD:EE:FF" 10000 []) (fun _ => 0)
  let asked : DeviceLink := { start with session := start.session.perform 0 readStatus, requests := [(0, readStatus.frame)] }
  let exchange : List LinkEvent :=
    [.serve (some 2#8), .notify 2, .session (.writeSettled 0 (.fulfilled ())), .notify 3]
  have first : start.Healthy (.session (.perform 0 readStatus)) := quiet_opened _ _ _
  have run : (exchange.foldlM (fun s e => if surelyHealthy s e then step s e else none) asked).any (fun s =>
      (s.step (.session (.responseSettled 0))).any fun t => (t.step (.session (.perform 1 readStatus))).any fun u =>
        (u.session.performs 0).map (fun record => (record.command, record.phase)) =
            some (readStatus, .settled (.rejected (.modbusError (exceptionMessage readStatus 2) 2))) ∧
          u.session.phaseOf 1 = some .writing) = true := by
    decide +kernel
  obtain ⟨s, served, next⟩ := Reach.of_checked (fun _ _ _ => healthy_of_surelyHealthy) run
  obtain ⟨t, settled, next⟩ := (Option.any_eq_true _ _).mp next
  obtain ⟨u, again, last⟩ := (Option.any_eq_true _ _).mp next
  have early : Reach step Healthy start (.session (.perform 0 readStatus) :: exchange) s := .cons first rfl served
  have quiet := (sound_of_reach initialized early).coherent.quiet_of_responseSettled settled
  have calm : s.Healthy (.session (.responseSettled 0)) := trivial
  have quiet : t.Healthy (.session (.perform 1 readStatus)) := quiet
  have reach : Reach step Healthy start refusedRead u := (early.next calm settled).next quiet again
  obtain ⟨refused, writing⟩ := of_decide_eq_true last
  obtain ⟨one, entry, same⟩ := Option.map_eq_some_iff.mp refused
  obtain ⟨command, phase⟩ := Prod.mk.inj same
  obtain ⟨other, entry', open_⟩ := exists_record writing
  obtain ⟨ready, outstanding, answered⟩ := healthy_calls_settle initialized reach
  obtain ⟨possible, bounded⟩ := outstanding 1 other entry' (by rw [PerformCall.isSettled_eq, open_]; rfl)
  refine ⟨u, reach, ready, ?_, ?_, possible, bounded⟩
  · rw [phaseOf, entry, Option.map_some, phase]
  · rw [← command] at phase ⊢
    exact answered 0 one _ entry phase

end DeviceLink

end BluettiMqtt
