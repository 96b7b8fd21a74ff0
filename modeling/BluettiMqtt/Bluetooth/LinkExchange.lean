import BluettiMqtt.Bluetooth.DeviceLink

namespace BluettiMqtt
open Promise Transition

namespace DeviceSession

variable {s t : DeviceSession}

theorem Awaits.setPhase {call : CallId} {command : DeviceCommand} (awaits : s.Awaits call command) (other : CallId)
    (phase : PerformPhase) : (s.setPhase other phase).Awaits call command := by
  obtain ⟨record, entry, unanswered⟩ := Option.map_eq_some_iff.mp awaits.unanswered
  refine ⟨awaits.pendingResponse, awaits.currentCommand, Option.map_eq_some_iff.mpr ?_⟩
  refine ⟨_, Table.adjust_eq_some.mpr ⟨record, entry, rfl⟩, ?_⟩
  split <;> exact unanswered

/-- The command of the pending call. -/
theorem Orderly.pending_command (orderly : s.Orderly) {call : CallId} {command : DeviceCommand} {record : PerformCall}
    (awaits : s.Awaits call command) (entry : s.performs call = some record) : record.command = command := by
  obtain ⟨found, atFound, _, _, current⟩ := orderly.pending call awaits.pendingResponse
  cases entry.symm.trans atFound
  exact Option.some.inj (current.symm.trans awaits.currentCommand)

/-- The pending call on a session that is not quiet. -/
theorem Awaits.not_quiet {call : CallId} {command : DeviceCommand} (awaits : s.Awaits call command)
    (orderly : s.Orderly) : ¬s.Quiet := by
  intro quiet
  have pending := awaits.pendingResponse
  rw [orderly.pendingResponse_of_quiet quiet] at pending
  cases pending

end DeviceSession

namespace DeviceLink

open DeviceSession

/-- Where the one exchange that may be under way stands. -/
inductive Exchange (initial : RegisterImage) (s : DeviceLink) : Prop
  | idle : s.session.pendingResponse = none → s.requests = [] → s.notifying = [] → Exchange initial s
  | requested {call : CallId} {command : DeviceCommand} : s.session.Awaits call command →
      s.session.responseBuffer = [] → s.requests = [(call, command.frame)] → s.notifying = [] → Exchange initial s
  | answering {call : CallId} {command : DeviceCommand} {refused : Option Byte} {earlier : List Served} :
      s.session.Awaits call command → s.requests = [] → s.served = earlier ++ [⟨call, command, refused⟩] →
      s.session.responseBuffer ++ s.notifying =
        (Served.mk call command refused).answer (Served.after initial earlier) →
      s.notifying ≠ [] → Exchange initial s
  | broken : s.session.Broken → Exchange initial s

/-- What holds in every run of the link. -/
structure Coherent (initial : RegisterImage) (s : DeviceLink) : Prop where
  orderly : s.session.Orderly
  image : s.image = Served.after initial s.served
  exchange : s.Exchange initial
  explained : s.session.Explained initial s.served
  framed : ∀ entry ∈ s.requests, ∃ command : DeviceCommand, entry.2 = command.frame

variable {initial : RegisterImage} {s t : DeviceLink}

/-- The session while an exchange is under way and the ends of the exchange. -/
theorem Exchange.cases_pending (exchange : s.Exchange initial) :
    (s.session.pendingResponse = none ∧ s.requests = [] ∧ s.notifying = []) ∨
      (∃ call command, s.session.Awaits call command) ∨ s.session.Broken := by
  cases exchange with
  | idle pending requests notifying => exact Or.inl ⟨pending, requests, notifying⟩
  | requested awaits => exact Or.inr (Or.inl ⟨_, _, awaits⟩)
  | answering awaits => exact Or.inr (Or.inl ⟨_, _, awaits⟩)
  | broken broken => exact Or.inr (Or.inr broken)

/-- The same exchange on a session that awaits the same response. -/
theorem Exchange.carry (exchange : s.Exchange initial) (requests : t.requests = s.requests)
    (notifying : t.notifying = s.notifying) (served : t.served = s.served)
    (idle : s.session.pendingResponse = none → t.session.pendingResponse = none)
    (awaits : ∀ call command, s.session.Awaits call command → t.session.Awaits call command ∧
      t.session.responseBuffer = s.session.responseBuffer)
    (broken : s.session.Broken → t.session.Broken) : t.Exchange initial := by
  cases exchange with
  | idle pending none_ empty => exact .idle (idle pending) (requests.trans none_) (notifying.trans empty)
  | requested waiting empty written none_ =>
    obtain ⟨waiting, same⟩ := awaits _ _ waiting
    exact .requested waiting (same.trans empty) (requests.trans written) (notifying.trans none_)
  | answering waiting none_ last whole some_ =>
    obtain ⟨waiting, same⟩ := awaits _ _ waiting
    exact .answering waiting (requests.trans none_) (served.trans last) (by rw [same, notifying]; exact whole)
      (notifying ▸ some_)
  | broken lost => exact .broken (broken lost)

/-- A failure ends the exchange that it meets. -/
theorem Exchange.fail (exchange : s.Exchange initial) (requests : t.requests = s.requests)
    (notifying : t.notifying = s.notifying)
    (idle : s.session.pendingResponse = none → t.session.pendingResponse = none)
    (failed : ∀ call, s.session.pendingResponse = some call → t.session.Broken)
    (broken : s.session.Broken → t.session.Broken) : t.Exchange initial := by
  rcases exchange.cases_pending with ⟨pending, none_, empty⟩ | ⟨call, command, awaits⟩ | lost
  · exact .idle (idle pending) (requests.trans none_) (notifying.trans empty)
  · exact .broken (failed call awaits.pendingResponse)
  · exact .broken (broken lost)

theorem written_perform (session : DeviceSession) (call : CallId) (command : DeviceCommand) :
    written (.perform call command) session (session.perform call command) =
      if session.isReady then [(call, command.frame)] else [] := by
  unfold written DeviceSession.perform
  by_cases ready : session.isReady = true
  · simp [ready, DeviceCommand.toBytes]
  · simp [ready]

/-- Only calls of `perform` write. -/
theorem written_other {event : SessionEvent} (other : ∀ call command, event ≠ .perform call command)
    (before after : DeviceSession) : written event before after = [] := by
  cases event with
  | perform call command => exact absurd rfl (other call command)
  | _ => rfl

/-- A step of the session, without what it writes. -/
theorem Coherent.moved {event : SessionEvent} {session : DeviceSession} (coherent : s.Coherent initial)
    (used : s.InUse (.session event)) (run : s.session.step event = some session)
    (unperformed : ∀ call command, event ≠ .perform call command) (silent : ∀ data, event ≠ .notification data) :
    ({ s with session := session } : DeviceLink).Coherent initial := by
  obtain ⟨serialized, uninitialized, foreign⟩ := used
  obtain ⟨orderly, image, exchange, explained, framed⟩ := coherent
  have broken (lost : s.session.Broken) : session.Broken := lost.step orderly uninitialized run
  suffices exchange' : ({ s with session := session } : DeviceLink).Exchange initial ∧
      session.Explained initial s.served from
    ⟨orderly.step serialized.startsQuiet run, image, exchange'.1, exchange'.2, framed⟩
  cases step_effect run with
  | started => exact absurd rfl (unperformed _ _)
  | refused => exact absurd rfl (unperformed _ _)
  | wrote writing =>
    refine ⟨exchange.carry rfl rfl rfl id (fun _ _ awaits => ⟨awaits.setPhase _ _, rfl⟩) broken, ?_⟩
    exact explained.setPhase (by rintro record outcome _ ⟨⟩)
  | @writeFailed call error writing =>
    have told (other : CallId) (command : DeviceCommand) : Served.Explains initial s.served other command (.rejected error) :=
      .failed (foreign call error rfl)
    have concluded : (s.session.concluded (.rejected error) .disconnecting).Explained initial s.served :=
      explained.concluded orderly .disconnecting fun other record _ _ => told other record.command
    refine ⟨exchange.fail rfl rfl (fun _ => rfl) (fun other pending => ?_) broken, ?_⟩
    · have quiet := (orderly.concluded (.rejected error) .disconnecting).quiet_of_settled
        (orderly.concluded_outstanding _ _ (isSettled_of_phaseOf writing (Or.inl rfl))) (.rejected error)
      refine ⟨rfl, rfl, fun one record entry open_ => ?_⟩
      rw [quiet one record entry] at open_
      cases open_
    · exact concluded.setPhase (by rintro record outcome _ ⟨⟩; exact told call record.command)
  | @finished call outcome awaiting settled =>
    obtain ⟨mine, atMine, _⟩ := isSettled_of_phaseOf awaiting (Or.inr rfl)
    have response : mine.response = some outcome := by
      rw [← settled, responseOf, atMine]
      rfl
    have told := (explained call mine atMine).1 outcome response
    refine ⟨exchange.fail rfl rfl (fun _ => ?_) (fun other pending => ?_) broken, ?_⟩
    · cases outcome <;> rfl
    · obtain ⟨record, entry, open_, unanswered, _⟩ := orderly.pending other pending
      obtain ⟨found, atFound, openFound⟩ := isSettled_of_phaseOf awaiting (Or.inr rfl)
      cases orderly.single _ _ _ _ entry atFound open_ openFound
      cases entry.symm.trans atMine
      simp [PerformCall.response, unanswered] at response
    · have finished (cleared : DeviceSession) (performs : cleared.performs = s.session.clearPendingState.performs) :
          (cleared.setPhase call (.settled outcome)).Explained initial s.served := by
        refine ((explained.cleared orderly).congr performs).setPhase fun record outcome entry same => ?_
        rw [performs] at entry
        obtain ⟨old, atOld, rfl⟩ := orderly.cleared_record entry
        cases atOld.symm.trans atMine
        cases same
        exact told
      cases outcome with
      | fulfilled => exact finished _ rfl
      | rejected => exact finished _ rfl
  | ignored => exact absurd rfl (silent _)
  | buffered => exact absurd rfl (silent _)
  | notified => exact absurd rfl (silent _)
  | timedOut fired =>
    obtain ⟨pending, same⟩ := orderly.timedOut fired (.rejected s.session.timeoutFailure) .commandErrorWait
    rw [same]
    refine ⟨.broken (orderly.concluded_broken pending _ (by decide)), ?_⟩
    exact explained.concluded orderly _ fun _ _ _ _ => .failed rfl
  | disconnected =>
    refine ⟨exchange.fail rfl rfl (fun _ => rfl) (fun _ pending => orderly.cleared_broken pending rfl rfl rfl) broken, ?_⟩
    exact (explained.cleared orderly).congr rfl
  | attemptFailed =>
    refine ⟨exchange.fail rfl rfl (fun _ => rfl) (fun _ pending => orderly.cleared_broken pending rfl rfl rfl) broken, ?_⟩
    exact (explained.cleared orderly).congr rfl
  | subscribed => cases uninitialized
  | initializing => cases uninitialized
  | progressed =>
    refine ⟨exchange.carry rfl rfl rfl id (fun _ _ awaits => ⟨⟨awaits.1, awaits.2, awaits.3⟩, rfl⟩) broken, ?_⟩
    exact explained.congr rfl

/-- A call of `perform` writes its frame to an idle link, or is refused. -/
theorem Coherent.perform {call : CallId} {command : DeviceCommand} {session : DeviceSession}
    (coherent : s.Coherent initial) (used : s.InUse (.session (.perform call command)))
    (run : s.session.step (.perform call command) = some session) :
    ({ s with
      session := session
      requests := s.requests ++ written (.perform call command) s.session session } : DeviceLink).Coherent initial := by
  obtain ⟨fresh, same⟩ := Option.ite_none_right_eq_some.mp run
  cases Option.some.inj same
  have fresh := Option.isNone_iff_eq_none.mp fresh
  have quiet : s.session.Quiet := used.1 call command rfl
  obtain ⟨orderly, image, exchange, explained, framed⟩ := coherent
  have orderly' := orderly.step used.1.startsQuiet run
  rw [written_perform]
  by_cases ready : s.session.isReady = true
  · rw [if_pos ready]
    obtain ⟨pending, none_, empty⟩ | ⟨_, _, awaits⟩ | lost := exchange.cases_pending
    · obtain ⟨awaits, cleared⟩ := perform_awaits ready call command
      refine ⟨orderly', image, .requested awaits cleared (by rw [none_]; rfl) empty, ?_, ?_⟩
      · intro other record entry
        unfold DeviceSession.perform at entry
        rw [if_pos ready] at entry
        rcases Table.insert_eq_some.mp entry with ⟨_, rfl⟩ | ⟨_, old⟩
        · exact ⟨by rintro outcome ⟨⟩, by rintro outcome ⟨⟩⟩
        · exact explained other record old
      · intro entry member
        rcases List.mem_append.mp member with old | new
        · exact framed entry old
        · exact ⟨command, by rw [List.mem_singleton.mp new]⟩
    · exact absurd quiet (awaits.not_quiet orderly)
    · rw [lost.refuses] at ready
      cases ready
  · rw [if_neg ready, List.append_nil]
    have refused : s.session.perform call command = { s.session with
        performs := s.session.performs.insert call
          { command := command, settlements := [], timerArmed := false
            phase := .settled (.rejected (.badConnectionError s!"Device {s.session.address} is not ready")) } } := by
      unfold DeviceSession.perform
      rw [if_neg ready]
    refine ⟨orderly', image, ?_, ?_, framed⟩
    · refine exchange.fail rfl rfl (fun pending => ?_) (fun other pending => ?_) (fun lost => lost.step orderly rfl run)
      · rw [refused]
        exact pending
      · rw [orderly.pendingResponse_of_quiet quiet] at pending
        cases pending
    · intro other record entry
      rw [refused] at entry
      rcases Table.insert_eq_some.mp entry with ⟨_, rfl⟩ | ⟨_, old⟩
      · exact ⟨by rintro outcome ⟨⟩, by rintro outcome ⟨⟩; exact .failed rfl⟩
      · exact explained other record old

/-- The device serves the oldest request. -/
theorem Coherent.serve {refused : Option Byte} (coherent : s.Coherent initial) (run : s.step (.serve refused) = some t) :
    t.Coherent initial := by
  obtain ⟨orderly, image, exchange, explained, framed⟩ := coherent
  obtain ⟨call, command, rest, requests, rfl⟩ := step_serve_cases framed run
  have image' : (Served.mk call command refused).apply s.image =
      Served.after initial (s.served ++ [⟨call, command, refused⟩]) := by
    rw [Served.after_append, image]
    rfl
  refine ⟨orderly, image', ?_, explained.append _, fun entry member => ?_⟩
  · cases exchange with
    | idle _ none_ => rw [none_] at requests; cases requests
    | @requested waiting asked awaits buffer written empty =>
      rw [requests] at written
      obtain ⟨same, none_⟩ := List.cons.inj written
      obtain ⟨rfl, frames⟩ := Prod.mk.inj same
      have decoded := DeviceCommand.decodeRequest_frame command
      rw [frames, DeviceCommand.decodeRequest_frame] at decoded
      cases decoded
      have last : (s.serving ⟨call, command, refused⟩ []).served = s.served ++ [⟨call, command, refused⟩] := rfl
      subst none_
      refine .answering awaits rfl last ?_ ?_
      · simp only [serving, buffer, empty, image, List.nil_append]
      · simp only [serving, empty, List.nil_append]
        exact Served.answer_ne_nil _ _
    | answering _ none_ => rw [none_] at requests; cases requests
    | broken lost => exact .broken lost
  · exact framed entry (by rw [requests]; exact List.mem_cons_of_mem _ member)

/-- A control message breaks the session while a command is pending. -/
theorem Coherent.control {data : List Byte} (coherent : s.Coherent initial) (control : isAsciiControlMessage data = true) :
    ({ s with session := s.session.handleNotification data } : DeviceLink).Coherent initial := by
  obtain ⟨orderly, image, exchange, explained, framed⟩ := coherent
  rcases exchange.cases_pending with ⟨pending, _⟩ | ⟨call, command, awaits⟩ | lost
  · rw [handleNotification_idle (Or.inl pending)]
    exact ⟨orderly, image, exchange, explained, framed⟩
  · rw [handleNotification_verdict awaits.pendingResponse awaits.currentCommand]
    simp only [notificationVerdict, control, if_true]
    exact ⟨orderly.concluded _ _, image,
      .broken (orderly.concluded_broken awaits.pendingResponse _ (by decide)),
      explained.concluded orderly _ fun _ _ _ _ => .failed rfl, framed⟩
  · rw [handleNotification_idle (Or.inl lost.idle)]
    exact ⟨orderly, image, exchange, explained, framed⟩

/-- The next bytes of a response are notified. -/
theorem Coherent.notify (coherent : s.Coherent initial) (count : Nat) :
    ({ s with
      session := s.session.handleNotification (s.notifying.take count)
      notifying := s.notifying.drop count } : DeviceLink).Coherent initial := by
  obtain ⟨orderly, image, exchange, explained, framed⟩ := coherent
  cases exchange with
  | idle pending none_ empty =>
    rw [handleNotification_idle (Or.inl pending), empty, List.drop_nil]
    exact ⟨orderly, image, .idle pending none_ rfl, explained, framed⟩
  | @requested call command awaits buffer written empty =>
    have silent : notificationVerdict command s.session.responseBuffer (s.notifying.take count) = none := by
      have accepted : command.Accepts (command.success initial) := Or.inl (command.success_isValidResponse initial)
      have nonempty : [] ≠ command.success initial := by
        intro none_
        exact Served.answer_ne_nil initial ⟨call, command, none⟩ none_.symm
      rw [empty, List.take_nil, notificationVerdict_modbus rfl, buffer]
      exact DeviceCommand.verdict_prefix accepted List.nil_prefix nonempty
    rw [handleNotification_verdict awaits.pendingResponse awaits.currentCommand, silent]
    have same : concatBytes s.session.responseBuffer (s.notifying.take count) = [] := by
      rw [buffer, empty, List.take_nil]
      rfl
    refine ⟨⟨orderly.single, orderly.timeout, orderly.pending, orderly.armed⟩, image, ?_, explained.congr rfl, framed⟩
    exact .requested (awaits.buffering _) same written (by rw [empty]; exact List.drop_nil)
  | @answering call command refused earlier awaits none_ last whole some_ =>
    rw [handleNotification_verdict awaits.pendingResponse awaits.currentCommand]
    by_cases control : isAsciiControlMessage (s.notifying.take count) = true
    · simp only [notificationVerdict, control, if_true]
      exact ⟨orderly.concluded _ _, image,
        .broken (orderly.concluded_broken awaits.pendingResponse _ (by decide)),
        explained.concluded orderly _ fun _ _ _ _ => .failed rfl, framed⟩
    · rw [notificationVerdict_modbus (Bool.eq_false_iff.mpr control)]
      have accepted := Served.answer_accepts (Served.after initial earlier) ⟨call, command, refused⟩
      have parts : concatBytes s.session.responseBuffer (s.notifying.take count) ++ s.notifying.drop count =
          (Served.mk call command refused).answer (Served.after initial earlier) := by
        rw [concatBytes, List.append_assoc, List.take_append_drop, whole]
      by_cases complete : s.notifying.drop count = []
      · rw [complete, List.append_nil] at parts
        rw [parts, verdict_frameOutcome accepted]
        refine ⟨orderly.concluded _ _, image, .idle rfl none_ complete, ?_, framed⟩
        refine explained.concluded orderly _ fun other record pending entry => ?_
        cases Option.some.inj (awaits.pendingResponse.symm.trans pending)
        rw [orderly.pending_command awaits entry]
        exact .answered last
      · have initialPart : concatBytes s.session.responseBuffer (s.notifying.take count) <+:
            (Served.mk call command refused).answer (Served.after initial earlier) := ⟨_, parts⟩
        have shorter : concatBytes s.session.responseBuffer (s.notifying.take count) ≠
            (Served.mk call command refused).answer (Served.after initial earlier) := by
          intro same
          rw [← same] at parts
          exact complete (List.append_right_eq_self.mp parts)
        rw [DeviceCommand.verdict_prefix accepted initialPart shorter]
        refine ⟨⟨orderly.single, orderly.timeout, orderly.pending, orderly.armed⟩, image, ?_, explained.congr rfl, framed⟩
        exact .answering (awaits.buffering _) none_ last parts complete
  | broken lost =>
    rw [handleNotification_idle (Or.inl lost.idle)]
    exact ⟨orderly, image, .broken lost, explained, framed⟩

end DeviceLink

end BluettiMqtt
