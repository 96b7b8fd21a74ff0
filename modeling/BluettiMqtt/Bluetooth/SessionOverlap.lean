import BluettiMqtt.Bluetooth.SessionRetry

namespace BluettiMqtt
open Promise Transition

/-- A call of `perform` that was refused because the session was not ready. -/
def PerformCall.Refused (address : String) (record : PerformCall) : Prop :=
  record.timerArmed = false ∧
    record.phase = .settled (.rejected (.badConnectionError s!"Device {address} is not ready"))

/-- `shown` is `calls` with some refused calls left out. -/
def Hides (address : String) (calls shown : Table CallId PerformCall) : Prop :=
  ∀ call, shown call = calls call ∨
    shown call = none ∧ ∃ record, calls call = some record ∧ record.Refused address

theorem Hides.insert {address : String} {calls shown : Table CallId PerformCall}
    (hides : Hides address calls shown) (call : CallId) (record : PerformCall) :
    Hides address (calls.insert call record) (shown.insert call record) := by
  intro other
  by_cases same : other = call
  · rw [same, Table.insert_self, Table.insert_self]
    exact Or.inl rfl
  · rw [Table.insert_of_ne _ _ same, Table.insert_of_ne _ _ same]
    exact hides other

theorem Hides.refused {address : String} {calls shown : Table CallId PerformCall}
    (hides : Hides address calls shown) {call : CallId} (fresh : calls call = none)
    {record : PerformCall} (refused : record.Refused address) :
    Hides address (calls.insert call record) shown := by
  intro other
  by_cases same : other = call
  · rw [same, Table.insert_self]
    refine Or.inr ⟨?_, record, rfl, refused⟩
    rcases hides call with shown | ⟨hidden, _⟩
    · exact shown.trans fresh
    · exact hidden
  · rw [Table.insert_of_ne _ _ same]
    exact hides other

theorem Hides.adjust {address : String} {calls shown : Table CallId PerformCall}
    (hides : Hides address calls shown) (key : Option CallId) {f : PerformCall → PerformCall}
    (kept : ∀ record, record.Refused address → (f record).Refused address) :
    Hides address (calls.adjust key f) (shown.adjust key f) := by
  intro other
  by_cases here : key = some other
  · subst here
    rcases hides other with shown | ⟨hidden, record, entry, refused⟩
    · exact Or.inl (by simp [Table.adjust, shown])
    · exact Or.inr ⟨Table.adjust_eq_none.mpr hidden, f record, Table.adjust_self f entry, kept record refused⟩
  · rw [Table.adjust_of_ne _ _ here, Table.adjust_of_ne _ _ here]
    exact hides other

/-- A call that has not been refused may be changed in any way. -/
theorem Hides.adjust_shown {address : String} {calls shown : Table CallId PerformCall}
    (hides : Hides address calls shown) {call : CallId} (same : shown call = calls call)
    (f : PerformCall → PerformCall) :
    Hides address (calls.adjust (some call) f) (shown.adjust (some call) f) := by
  intro other
  by_cases here : call = other
  · subst here
    exact Or.inl (by simp [Table.adjust, same])
  · rw [Table.adjust_of_ne _ _ (by simpa using here), Table.adjust_of_ne _ _ (by simpa using here)]
    exact hides other

theorem Hides.shown {address : String} {calls shown : Table CallId PerformCall}
    (hides : Hides address calls shown) {call : CallId}
    (busy : ∀ record, calls call = some record → ¬record.Refused address) : shown call = calls call := by
  rcases hides call with same | ⟨_, record, entry, refused⟩
  · exact same
  · exact absurd refused (busy record entry)

def DeviceSession.withPerforms (s : DeviceSession) (performs : Table CallId PerformCall) : DeviceSession :=
  { s with performs := performs }

theorem Hides.clearTimeout {s : DeviceSession} {shown : Table CallId PerformCall}
    (hides : Hides s.address s.performs shown) (timeout : Option CallId) :
    Hides s.address (s.clearTimeout timeout).performs ((s.withPerforms shown).clearTimeout timeout).performs :=
  hides.adjust timeout fun _ refused => ⟨rfl, refused.2⟩

theorem Hides.settleResponse {s : DeviceSession} {shown : Table CallId PerformCall}
    (hides : Hides s.address s.performs shown) (outcome : Settlement Failure (List Byte)) :
    Hides s.address (s.settleResponse outcome).performs
      ((s.withPerforms shown).settleResponse outcome).performs :=
  hides.adjust s.pendingResponse fun _ refused => ⟨refused.1, refused.2⟩

theorem Hides.concluded {s : DeviceSession} {shown : Table CallId PerformCall}
    (hides : Hides s.address s.performs shown) (outcome : Settlement Failure (List Byte))
    (state : DeviceSessionState) :
    Hides s.address (s.concluded outcome state).performs
      ((s.withPerforms shown).concluded outcome state).performs :=
  Hides.clearTimeout (s := s.settleResponse outcome) (hides.settleResponse outcome) s.pendingTimeout

theorem Hides.settled {s : DeviceSession} {shown : Table CallId PerformCall}
    (hides : Hides s.address s.performs shown) {call : CallId} (visible : shown call = s.performs call)
    (outcome : Settlement Failure (List Byte)) :
    Hides s.address (s.clearPendingState.setPhase call (.settled outcome)).performs
      ((s.withPerforms shown).clearPendingState.setPhase call (.settled outcome)).performs := by
  refine Hides.adjust_shown (hides.clearTimeout s.pendingTimeout) ?_ _
  simp [DeviceSession.withPerforms, DeviceSession.clearTimeout, Table.adjust, visible]

/-- A call that waits for its write or its answer was not refused. -/
theorem Hides.phaseOf_shown {s : DeviceSession} {shown : Table CallId PerformCall}
    (hides : Hides s.address s.performs shown) {call : CallId} {phase : PerformPhase}
    (at_ : s.phaseOf call = some phase) (open_ : phase = .writing ∨ phase = .awaitingResponse) :
    shown call = s.performs call := by
  refine hides.shown fun record entry refused => ?_
  have same : record.phase = phase := by simpa [DeviceSession.phaseOf, entry] using at_
  rw [refused.2] at same
  rcases open_ with rfl | rfl <;> cases same

/-- The events of the exchange of commands and responses. -/
def SessionEvent.exchanges : SessionEvent → Bool
  | .perform _ _ => true
  | .writeSettled _ _ => true
  | .responseSettled _ => true
  | .notification _ => true
  | .commandTimer _ => true
  | _ => false

namespace DeviceSession

/-- A call of `perform` made while another one is outstanding. -/
def Overlaps (s : DeviceSession) (e : SessionEvent) : Prop :=
  ∃ call command, e = .perform call command ∧ ¬s.Quiet

/-- The step from `s` to `t` refused `call` and left the pending fields alone. -/
def Refuses (s t : DeviceSession) (call : CallId) : Prop :=
  (∃ record, t.performs call = some record ∧ record.Refused s.address) ∧
    t.currentCommand = s.currentCommand ∧ t.pendingResponse = s.pendingResponse ∧
    t.pendingTimeout = s.pendingTimeout ∧ t.responseBuffer = s.responseBuffer

theorem refuses_iff (s : DeviceSession) (call : CallId) (command : DeviceCommand) :
    s.Refuses (s.perform call command) call ↔ s.isReady = false := by
  unfold perform
  constructor
  · rintro ⟨⟨record, entry, _, settled⟩, _⟩
    by_contra ready
    rw [if_pos (by simpa using ready)] at entry
    cases Option.some.inj ((Table.insert_self _ _ _).symm.trans entry)
    cases settled
  · intro refused
    rw [if_neg (by simp [refused])]
    exact ⟨⟨_, Table.insert_self _ _ _, rfl, rfl⟩, rfl, rfl, rfl, rfl⟩

/-- The two sessions agree in everything but some refused calls, which the
second one never saw. -/
def Mirrors (s t : DeviceSession) : Prop :=
  ∃ performs, t = s.withPerforms performs ∧ Hides s.address s.performs performs

theorem Mirrors.quiet {s t : DeviceSession} (mirrors : s.Mirrors t) (quiet : s.Quiet) : t.Quiet := by
  obtain ⟨shown, rfl, hides⟩ := mirrors
  intro call record entry
  rcases hides call with same | ⟨hidden, _⟩
  · exact quiet call record (same ▸ entry)
  · cases hidden.symm.trans entry

section Mirrors

variable {s s' t : DeviceSession} {call : CallId}

theorem Mirrors.perform (mirrors : s.Mirrors s') (fresh : s.performs call = none) (command : DeviceCommand) :
    s'.performs call = none ∧ (s.perform call command).Mirrors (s'.perform call command) := by
  obtain ⟨shown, rfl, hides⟩ := mirrors
  have visible : shown call = s.performs call := hides.shown fun record entry => by simp [entry] at fresh
  refine ⟨visible.trans fresh, ?_⟩
  by_cases ready : s.isReady = true
  · have ready' : (s.withPerforms shown).isReady = true := ready
    rw [DeviceSession.perform, if_pos ready, DeviceSession.perform, if_pos ready']
    exact ⟨_, rfl, hides.insert _ _⟩
  · have ready' : ¬(s.withPerforms shown).isReady = true := ready
    rw [DeviceSession.perform, if_neg ready, DeviceSession.perform, if_neg ready']
    exact ⟨_, rfl, hides.insert _ _⟩

theorem Mirrors.writeSettled (mirrors : s.Mirrors s') (writing : s.phaseOf call = some .writing)
    (result : Settlement Failure Unit) :
    s'.phaseOf call = some .writing ∧ (s.writeSettled call result).Mirrors (s'.writeSettled call result) := by
  obtain ⟨shown, rfl, hides⟩ := mirrors
  have visible := hides.phaseOf_shown writing (Or.inl rfl)
  refine ⟨by simpa [phaseOf, withPerforms, visible] using writing, ?_⟩
  cases result with
  | fulfilled => exact ⟨_, rfl, hides.adjust_shown visible _⟩
  | rejected error =>
    have concluded := hides.concluded (.rejected error) .disconnecting
    refine ⟨_, rfl, concluded.adjust_shown ?_ _⟩
    simp [DeviceSession.concluded, withPerforms, settleResponse, clearPendingState, DeviceSession.clearTimeout,
      Table.adjust, visible]

theorem Mirrors.responseSettled (mirrors : s.Mirrors s') (awaiting : s.phaseOf call = some .awaitingResponse)
    {outcome : Settlement Failure (List Byte)} (settled : s.responseOf call = some outcome) :
    (s'.phaseOf call = some .awaitingResponse ∧ s'.responseOf call = some outcome) ∧
      (s.responseSettled call outcome).Mirrors (s'.responseSettled call outcome) := by
  obtain ⟨shown, rfl, hides⟩ := mirrors
  have visible := hides.phaseOf_shown awaiting (Or.inr rfl)
  have awaiting' : (s.withPerforms shown).phaseOf call = some .awaitingResponse := by
    simpa [phaseOf, withPerforms, visible] using awaiting
  have settled' : (s.withPerforms shown).responseOf call = some outcome := by
    simpa [responseOf, withPerforms, visible] using settled
  refine ⟨⟨awaiting', settled'⟩, ?_⟩
  cases outcome with
  | fulfilled response => exact ⟨_, rfl, hides.settled visible (.fulfilled response)⟩
  | rejected error => exact ⟨_, rfl, hides.settled visible (.rejected error)⟩

theorem Mirrors.handleNotification (mirrors : s.Mirrors s') (data : List Byte) :
    (s.handleNotification data).Mirrors (s'.handleNotification data) := by
  obtain ⟨shown, rfl, hides⟩ := mirrors
  by_cases idle : s.pendingResponse = none ∨ s.currentCommand = none
  · have idle' : (s.withPerforms shown).pendingResponse = none ∨
        (s.withPerforms shown).currentCommand = none := idle
    rw [handleNotification_idle idle, handleNotification_idle idle']
    exact ⟨_, rfl, hides⟩
  · obtain ⟨pending, current⟩ := not_or.mp idle
    obtain ⟨call, pending⟩ := Option.ne_none_iff_exists'.mp pending
    obtain ⟨command, current⟩ := Option.ne_none_iff_exists'.mp current
    have same : (s.withPerforms shown).responseBuffer = s.responseBuffer := rfl
    rw [handleNotification_verdict pending current,
      handleNotification_verdict (s := s.withPerforms shown) pending current, same]
    cases notificationVerdict command s.responseBuffer data with
    | none => exact ⟨_, rfl, hides⟩
    | some decision => exact ⟨_, rfl, hides.concluded decision.1 decision.2⟩

theorem Mirrors.commandTimer (mirrors : s.Mirrors s')
    (armed : (s.performs call).map PerformCall.timerArmed = some true) :
    (s'.performs call).map PerformCall.timerArmed = some true ∧
      (s.commandTimer call).Mirrors (s'.commandTimer call) := by
  obtain ⟨shown, rfl, hides⟩ := mirrors
  have visible : shown call = s.performs call := hides.shown fun record entry refused => by
    simp [entry, refused.1] at armed
  refine ⟨by simpa [withPerforms, visible] using armed, ?_⟩
  have cleared := hides.clearTimeout (some call)
  exact ⟨_, rfl, Hides.concluded (s := s.clearTimeout (some call)) cleared _ .commandErrorWait⟩

theorem Mirrors.attemptFailed (mirrors : s.Mirrors s') (attempt : Nat) (error : Failure) :
    (s.attemptFailed call attempt error).Mirrors (s'.attemptFailed call attempt error) := by
  obtain ⟨shown, rfl, hides⟩ := mirrors
  exact ⟨_, rfl, hides.clearTimeout s.pendingTimeout⟩

theorem Mirrors.initializations (mirrors : s.Mirrors s') : s'.initializations = s.initializations := by
  obtain ⟨shown, rfl, _⟩ := mirrors
  rfl

theorem Mirrors.disconnects (mirrors : s.Mirrors s') : s'.disconnects = s.disconnects := by
  obtain ⟨shown, rfl, _⟩ := mirrors
  rfl

/-- A step that is no overlapping call can be taken without the refused calls. -/
theorem Mirrors.step {e : SessionEvent} (mirrors : s.Mirrors s') (run : s.step e = some t) :
    ∃ t', s'.step e = some t' ∧ t.Mirrors t' := by
  have phases := mirrors.initializations
  have ends := mirrors.disconnects
  cases e with
  | perform call command =>
    obtain ⟨fresh, same⟩ := Option.ite_none_right_eq_some.mp run
    cases Option.some.inj same
    obtain ⟨fresh', after⟩ := mirrors.perform (Option.isNone_iff_eq_none.mp fresh) command
    exact ⟨_, if_pos (Option.isNone_iff_eq_none.mpr fresh'), after⟩
  | writeSettled call result =>
    obtain ⟨writing, same⟩ := Option.ite_none_right_eq_some.mp run
    cases Option.some.inj same
    obtain ⟨writing', after⟩ := mirrors.writeSettled writing result
    exact ⟨_, if_pos writing', after⟩
  | responseSettled call =>
    simp only [DeviceSession.step] at run
    split at run
    next outcome awaiting settled =>
      cases Option.some.inj run
      obtain ⟨⟨awaiting', settled'⟩, after⟩ := mirrors.responseSettled awaiting settled
      exact ⟨s'.responseSettled call outcome, by simp only [DeviceSession.step, awaiting', settled'], after⟩
    next => cases run
  | notification data =>
    cases Option.some.inj run
    exact ⟨_, rfl, mirrors.handleNotification data⟩
  | commandTimer call =>
    obtain ⟨armed, same⟩ := Option.ite_none_right_eq_some.mp run
    cases Option.some.inj same
    obtain ⟨armed', after⟩ := mirrors.commandTimer armed
    exact ⟨_, if_pos armed', after⟩
  | connectAndInitialize call =>
    obtain ⟨fresh, same⟩ := Option.ite_none_right_eq_some.mp run
    cases Option.some.inj same
    obtain ⟨shown, rfl, hides⟩ := mirrors
    exact ⟨_, if_pos fresh, _, rfl, hides⟩
  | connectSettled call result =>
    simp only [DeviceSession.step] at run
    split at run
    next attempt phase =>
      cases Option.some.inj run
      refine ⟨s'.connectSettled call attempt result, by simp only [DeviceSession.step, phases, phase], ?_⟩
      cases result with
      | fulfilled =>
        obtain ⟨shown, rfl, hides⟩ := mirrors
        exact ⟨_, rfl, hides⟩
      | rejected error => exact mirrors.attemptFailed attempt error
    next => cases run
  | nameSettled call result =>
    simp only [DeviceSession.step] at run
    split at run
    next attempt phase =>
      cases Option.some.inj run
      refine ⟨s'.nameSettled call attempt result, by simp only [DeviceSession.step, phases, phase], ?_⟩
      cases result with
      | fulfilled =>
        obtain ⟨shown, rfl, hides⟩ := mirrors
        exact ⟨_, rfl, hides⟩
      | rejected error => exact mirrors.attemptFailed attempt error
    next => cases run
  | subscribeSettled call result =>
    simp only [DeviceSession.step] at run
    split at run
    next attempt phase =>
      cases Option.some.inj run
      refine ⟨s'.subscribeSettled call attempt result, by simp only [DeviceSession.step, phases, phase], ?_⟩
      cases result with
      | fulfilled =>
        obtain ⟨shown, rfl, hides⟩ := mirrors
        exact ⟨_, rfl, hides⟩
      | rejected error => exact mirrors.attemptFailed attempt error
    next => cases run
  | cleanupSettled call result =>
    simp only [DeviceSession.step] at run
    split at run
    next attempt error phase =>
      cases Option.some.inj run
      refine ⟨s'.cleanupSettled call attempt error, by simp only [DeviceSession.step, phases, phase], ?_⟩
      obtain ⟨shown, rfl, hides⟩ := mirrors
      unfold cleanupSettled
      split
      · exact ⟨_, rfl, hides⟩
      · exact ⟨_, rfl, hides⟩
    next => cases run
  | retryElapsed call =>
    simp only [DeviceSession.step] at run
    split at run
    next attempt phase =>
      cases Option.some.inj run
      refine ⟨s'.connectAttempt call (attempt + 1), by simp only [DeviceSession.step, phases, phase], ?_⟩
      obtain ⟨shown, rfl, hides⟩ := mirrors
      exact ⟨_, rfl, hides⟩
    next => cases run
  | disconnect call =>
    obtain ⟨fresh, same⟩ := Option.ite_none_right_eq_some.mp run
    cases Option.some.inj same
    rw [← ends] at fresh
    obtain ⟨shown, rfl, hides⟩ := mirrors
    exact ⟨_, if_pos fresh, _, rfl, hides.clearTimeout _⟩
  | disconnectSettled call result =>
    obtain ⟨phase, same⟩ := Option.ite_none_right_eq_some.mp run
    cases Option.some.inj same
    rw [← ends] at phase
    obtain ⟨shown, rfl, hides⟩ := mirrors
    exact ⟨_, if_pos phase, _, rfl, hides⟩

end Mirrors

/-- Under `StartsQuiet` the steps left out are refused calls. -/
theorem Mirrors.overlaps {s s' t : DeviceSession} {e : SessionEvent} (mirrors : s.Mirrors s')
    (quiet : s.StartsQuiet e) (overlaps : s.Overlaps e) (run : s.step e = some t) : t.Mirrors s' := by
  obtain ⟨shown, rfl, hides⟩ := mirrors
  obtain ⟨call, command, rfl, busy⟩ := overlaps
  obtain ⟨fresh, same⟩ := Option.ite_none_right_eq_some.mp run
  cases Option.some.inj same
  rw [DeviceSession.perform, if_neg fun ready => busy (quiet call command rfl ready)]
  exact ⟨shown, rfl, hides.refused (Option.isNone_iff_eq_none.mp fresh) ⟨rfl, rfl⟩⟩

/-- The timer that fires rejects the command it was set for and no other. -/
theorem Orderly.commandTimer_response {s t : DeviceSession} (orderly : s.Orderly) {call : CallId}
    (run : s.step (.commandTimer call) = some t) :
    s.pendingResponse = some call ∧ t.responseOf call = some (.rejected s.timeoutFailure) ∧
      ∀ other, other ≠ call → t.responseOf other = s.responseOf other := by
  cases step_effect run with
  | timedOut fired =>
    obtain ⟨pending, same⟩ := orderly.timedOut fired (.rejected s.timeoutFailure) .commandErrorWait
    rw [same]
    refine ⟨pending, orderly.concluded_response pending _ _, fun other different => ?_⟩
    have apart : some call ≠ some other := by simpa using Ne.symm different
    simp only [responseOf, DeviceSession.concluded, clearPendingState, DeviceSession.clearTimeout,
      DeviceSession.settleResponse, orderly.timeout, pending, Table.adjust_of_ne _ _ apart]
  | attemptFailed torn => cases torn
  | progressed moved => cases moved

/-- In the runs in which every call made while another is outstanding finds
the session not ready: such a call is refused and leaves the pending fields
alone, which holds of no other overlapping call; leaving these calls out gives
a serialized run with the same session and the same outcomes; and every timer
that fires belongs to the command it rejects. -/
theorem startsQuiet_single_flight {address : String} {commandTimeoutMs : Nat}
    {trace : List SessionEvent} {s : DeviceSession}
    (reach : Reach step StartsQuiet (create address commandTimeoutMs) trace s) :
    (∀ call command, ¬s.Quiet →
      (s.Refuses (s.perform call command) call ↔ s.StartsQuiet (.perform call command))) ∧
    (∀ rest, Erasure step StartsQuiet Overlaps (create address commandTimeoutMs) trace s rest →
      ∃ s', Reach step Serialized (create address commandTimeoutMs) rest s' ∧ s.Mirrors s') ∧
    ∀ call t, s.step (.commandTimer call) = some t →
      s.pendingResponse = some call ∧ t.responseOf call = some (.rejected s.timeoutFailure) ∧
        ∀ other, other ≠ call → t.responseOf other = s.responseOf other := by
  refine ⟨fun call command busy => ?_, fun rest erasure => ?_, fun call t => ?_⟩
  · rw [refuses_iff]
    constructor
    · intro refused other issued same ready
      simp [refused] at ready
    · intro quiet
      exact Bool.eq_false_iff.mpr fun ready => busy (quiet call command rfl ready)
  · refine erasure.simulate ⟨_, rfl, fun _ => Or.inl rfl⟩ ?_ ?_
    · intro s s' e t mirrors quiet stays run
      obtain ⟨t', run', mirrors'⟩ := mirrors.step run
      refine ⟨t', fun call command same => mirrors.quiet ?_, run', mirrors'⟩
      by_contra busy
      exact stays ⟨call, command, same, busy⟩
    · intro s s' e t mirrors quiet overlaps run
      exact mirrors.overlaps quiet overlaps run
  · have orderly := reach.invariant (P := Orderly) (orderly_create _ _)
      fun s e t orderly quiet run => orderly.step quiet run
    exact orderly.commandTimer_response

/-- The timer of a call has fired and the call has not yet heard of it when another one
is made. -/
theorem startsQuiet_single_flight_timedOut :
    let waiting := readingStatus "AA:BB:CC:DD:EE:FF" 10000 []
    ∃ late, waiting.step (.commandTimer 0) = some late ∧
      waiting.pendingResponse = some 0 ∧ late.responseOf 0 = some (.rejected waiting.timeoutFailure) ∧
      ¬late.Quiet ∧ late.Refuses (late.perform 1 readStatus) 1 ∧
      ∃ rest s', Reach step Serialized (create "AA:BB:CC:DD:EE:FF" 10000) rest s' ∧ (late.perform 1 readStatus).Mirrors s' := by
  intro waiting
  obtain ⟨trace, reach⟩ := @reach_readingStatus Serialized (fun s _ opening _ => serialized_initializes (s := s) opening)
    (fun _ _ quiet _ _ _ => quiet) (fun _ => nofun) "AA:BB:CC:DD:EE:FF" 10000 []
  have fired : waiting.step (.commandTimer 0) = some (waiting.commandTimer 0) := rfl
  have asked : (waiting.commandTimer 0).step (.perform 1 readStatus) = some ((waiting.commandTimer 0).perform 1 readStatus) :=
    rfl
  have busy : ¬(waiting.commandTimer 0).Quiet := fun quiet => Bool.false_ne_true (quiet 0 _ rfl)
  have unready : (waiting.commandTimer 0).StartsQuiet (.perform 1 readStatus) := fun _ _ _ => nofun
  have alone (s : DeviceSession) (e : SessionEvent) (serialized : s.Serialized e) : s.StartsQuiet e ∧ ¬s.Overlaps e :=
    ⟨serialized.startsQuiet, fun ⟨call, command, same, busy⟩ => busy (serialized call command same)⟩
  have kept := reach.mono fun s e serialized => (alone s e serialized).1
  have late := kept.next (nofun : waiting.StartsQuiet (.commandTimer 0)) fired
  have erasure := ((reach.next (nofun : waiting.Serialized (.commandTimer 0)) fired).erasure alone).dropped unready
    ⟨1, readStatus, rfl, busy⟩ asked
  obtain ⟨pending, rejected, _⟩ := (startsQuiet_single_flight kept).2.2 0 _ fired
  exact ⟨_, fired, pending, rejected, busy, ((startsQuiet_single_flight late).1 1 readStatus busy).mpr unready, _,
    (startsQuiet_single_flight (late.next unready asked)).2.1 _ erasure⟩

/-- A second call made while the first waits for its answer is accepted, and
takes over the pending fields. -/
theorem overlapping_call_accepted :
    ¬∀ (fresh s : DeviceSession) (trace : List SessionEvent) (call : CallId) (command : DeviceCommand),
      fresh.Initialized → Reach step (fun _ e => e.exchanges = true) fresh trace s →
      s.performs call = none → ¬s.Quiet → s.Refuses (s.perform call command) call := by
  intro promised
  have reach : Reach step (fun _ e => e.exchanges = true) (opened "AA:BB:CC:DD:EE:FF" 10000 [])
      [.perform 0 readStatus, .writeSettled 0 (.fulfilled ())]
      (readingStatus "AA:BB:CC:DD:EE:FF" 10000 []) := .cons rfl rfl (.cons rfl rfl .start)
  have refused := promised _ _ _ 1 readStatus (initialized_opened _ _ _) reach rfl
    fun quiet => Bool.false_ne_true (quiet 0 _ rfl)
  cases (refuses_iff _ _ _).mp refused

end DeviceSession

end BluettiMqtt
