import BluettiMqtt.Bluetooth.SessionSteps
import BluettiMqtt.Library.Transition

namespace BluettiMqtt
open Promise Transition

namespace DeviceSession

/-- No call of `perform` is outstanding. -/
def Quiet (s : DeviceSession) : Prop :=
  ∀ call record, s.performs call = some record → record.isSettled = true

/-- A call of `perform` the session would accept is made only when no other is
outstanding. -/
def StartsQuiet (s : DeviceSession) (e : SessionEvent) : Prop :=
  ∀ call command, e = .perform call command → s.isReady = true → s.Quiet

/-- Calls of `perform` are made one after the other. -/
def Serialized (s : DeviceSession) (e : SessionEvent) : Prop :=
  ∀ call command, e = .perform call command → s.Quiet

theorem Serialized.startsQuiet {s : DeviceSession} {e : SessionEvent} (serialized : s.Serialized e) :
    s.StartsQuiet e :=
  fun call command same _ => serialized call command same

theorem serialized_initializes {s : DeviceSession} {e : SessionEvent} (opening : e.initializes = true) :
    s.Serialized e := by
  intro call command same
  rw [same] at opening
  cases opening

theorem reach_opened {guard : DeviceSession → SessionEvent → Prop}
    (allowed : ∀ s e, e.initializes = true → ¬e.tearsDown = true → guard s e) (address : String) (commandTimeoutMs : Nat)
    (rawName : List Byte) :
    Reach step guard (create address commandTimeoutMs) [.connectAndInitialize 0,
      .connectSettled 0 (.fulfilled ()), .nameSettled 0 (.fulfilled rawName),
      .subscribeSettled 0 (.fulfilled ())] (opened address commandTimeoutMs rawName) :=
  .cons (allowed _ _ rfl nofun) rfl (.cons (allowed _ _ rfl nofun) rfl
    (.cons (allowed _ _ rfl nofun) rfl (.cons (allowed _ _ rfl nofun) rfl .start)))

theorem quiet_opened (address : String) (commandTimeoutMs : Nat) (rawName : List Byte) :
    (opened address commandTimeoutMs rawName).Quiet :=
  nofun

theorem reach_readingStatus {guard : DeviceSession → SessionEvent → Prop}
    (opening : ∀ s e, e.initializes = true → ¬e.tearsDown = true → guard s e)
    (starting : ∀ s command, s.Quiet → guard s (.perform 0 command))
    (writing : ∀ s, guard s (.writeSettled 0 (.fulfilled ())))
    (address : String) (commandTimeoutMs : Nat) (rawName : List Byte) :
    ∃ trace, Reach step guard (create address commandTimeoutMs) trace
      (readingStatus address commandTimeoutMs rawName) :=
  ⟨_, .next (.next (reach_opened opening address commandTimeoutMs rawName)
    (starting _ readStatus (quiet_opened _ _ _)) rfl) (writing _) rfl⟩

/-- The pending fields and the calls of `perform` tell one story: at most one
call is outstanding, the resolver and the timer are its own, and the only armed
timer is the one in `pendingTimeout`. -/
structure Orderly (s : DeviceSession) : Prop where
  single : ∀ left right l r, s.performs left = some l → s.performs right = some r →
    l.isSettled = false → r.isSettled = false → left = right
  timeout : s.pendingTimeout = s.pendingResponse
  pending : ∀ call, s.pendingResponse = some call → ∃ record, s.performs call = some record ∧
    record.isSettled = false ∧ record.settlements = [] ∧ s.currentCommand = some record.command
  armed : ∀ call record, s.performs call = some record →
    (record.timerArmed = true ↔ s.pendingTimeout = some call)

theorem orderly_create (address : String) (commandTimeoutMs : Nat) :
    (create address commandTimeoutMs).Orderly :=
  ⟨by simp [create], rfl, by simp [create], by simp [create]⟩

/-- The call an event concerns was outstanding before it. -/
theorem isSettled_of_phaseOf {s : DeviceSession} {call : CallId} {phase : PerformPhase}
    (at_ : s.phaseOf call = some phase) (open_ : phase = .writing ∨ phase = .awaitingResponse) :
    ∃ record, s.performs call = some record ∧ record.isSettled = false := by
  obtain ⟨record, entry, same⟩ := Option.map_eq_some_iff.mp at_
  refine ⟨record, entry, ?_⟩
  unfold PerformCall.isSettled
  rw [same]
  rcases open_ with rfl | rfl <;> rfl

/-- A session without pending fields or armed timers is orderly as soon as
nobody new is outstanding in it. -/
theorem Orderly.idle {s t : DeviceSession} (orderly : s.Orderly)
    (noResponse : t.pendingResponse = none) (noTimeout : t.pendingTimeout = none)
    (kept : ∀ call record, t.performs call = some record → record.isSettled = false →
      ∃ old, s.performs call = some old ∧ old.isSettled = false)
    (disarmed : ∀ call record, t.performs call = some record → record.timerArmed = false) :
    t.Orderly where
  single := by
    intro left right l r atLeft atRight openLeft openRight
    obtain ⟨_, oldLeft, openLeft⟩ := kept _ _ atLeft openLeft
    obtain ⟨_, oldRight, openRight⟩ := kept _ _ atRight openRight
    exact orderly.single _ _ _ _ oldLeft oldRight openLeft openRight
  timeout := noTimeout.trans noResponse.symm
  pending := by simp [noResponse]
  armed := by
    intro call record entry
    simp [noTimeout, disarmed call record entry]

/-- A record after `clearPendingState` is the old one, disarmed. -/
theorem Orderly.cleared_record {s : DeviceSession} (orderly : s.Orderly) {call : CallId}
    {record : PerformCall} (entry : s.clearPendingState.performs call = some record) :
    ∃ old, s.performs call = some old ∧ record = { old with timerArmed := false } := by
  obtain ⟨old, atOld, same⟩ := Table.adjust_eq_some.mp entry
  refine ⟨old, atOld, ?_⟩
  by_cases timed : s.pendingTimeout = some call
  · rw [same, if_pos timed]
  · have unarmed : old.timerArmed = false := by
      simpa [timed] using orderly.armed call old atOld
    rw [same, if_neg timed, ← unarmed]

theorem Orderly.cleared {s : DeviceSession} (orderly : s.Orderly) : s.clearPendingState.Orderly := by
  refine orderly.idle rfl rfl ?_ ?_
  · intro call record entry open_
    obtain ⟨old, atOld, rfl⟩ := orderly.cleared_record entry
    exact ⟨old, atOld, open_⟩
  · intro call record entry
    obtain ⟨old, _, rfl⟩ := orderly.cleared_record entry
    rfl

/-- A record after a conclusion is the old one, disarmed and answered if it was
the pending one. -/
theorem Orderly.concluded_record {s : DeviceSession} (orderly : s.Orderly)
    {outcome : Settlement Failure (List Byte)} {state : DeviceSessionState} {call : CallId}
    {record : PerformCall} (entry : (s.concluded outcome state).performs call = some record) :
    ∃ old, s.performs call = some old ∧ record = { old with
      timerArmed := false
      settlements := if s.pendingResponse = some call then [outcome] else old.settlements } := by
  obtain ⟨middle, atMiddle, same⟩ := Table.adjust_eq_some.mp entry
  obtain ⟨old, atOld, rfl⟩ := Table.adjust_eq_some.mp atMiddle
  refine ⟨old, atOld, ?_⟩
  have unarmed := orderly.armed call old atOld
  change record = if s.pendingTimeout = some call then _ else _ at same
  rw [orderly.timeout] at same unarmed
  by_cases mine : s.pendingResponse = some call
  · obtain ⟨found, atFound, _, unanswered, _⟩ := orderly.pending call mine
    cases atOld.symm.trans atFound
    simp only [mine, if_true, unanswered, List.nil_append] at same ⊢
    exact same
  · have unarmed : old.timerArmed = false := by simpa [mine] using unarmed
    simp only [mine, if_false] at same ⊢
    rw [same, ← unarmed]

theorem Orderly.concluded {s : DeviceSession} (orderly : s.Orderly)
    (outcome : Settlement Failure (List Byte)) (state : DeviceSessionState) :
    (s.concluded outcome state).Orderly := by
  refine orderly.idle rfl rfl ?_ ?_
  · intro call record entry open_
    obtain ⟨old, atOld, rfl⟩ := orderly.concluded_record entry
    exact ⟨old, atOld, open_⟩
  · intro call record entry
    obtain ⟨old, _, rfl⟩ := orderly.concluded_record entry
    rfl

theorem setPhase_record {s : DeviceSession} {call other : CallId} {phase : PerformPhase}
    {record : PerformCall} (entry : (s.setPhase call phase).performs other = some record) :
    ∃ old, s.performs other = some old ∧
      record = if other = call then { old with phase := phase } else old := by
  obtain ⟨old, atOld, same⟩ := Table.adjust_eq_some.mp entry
  refine ⟨old, atOld, ?_⟩
  rw [same]
  by_cases here : other = call
  · rw [if_pos here, if_pos (by rw [here])]
  · rw [if_neg here, if_neg (by simpa using Ne.symm here)]

/-- Once the only outstanding call settles, none is left. -/
theorem Orderly.quiet_of_settled {s : DeviceSession} (orderly : s.Orderly) {call : CallId}
    (busy : ∃ record, s.performs call = some record ∧ record.isSettled = false)
    (outcome : Settlement Failure (List Byte)) : (s.setPhase call (.settled outcome)).Quiet := by
  intro other record entry
  obtain ⟨old, atOld, same⟩ := setPhase_record entry
  by_cases here : other = call
  · rw [same, if_pos here]
    rfl
  · rw [same, if_neg here]
    by_contra open_
    obtain ⟨mine, atMine, openMine⟩ := busy
    exact here (orderly.single _ _ _ _ atOld atMine (Bool.eq_false_iff.mpr open_) openMine)

/-- Moving an outstanding call to another phase keeps the order. -/
theorem Orderly.setPhase {s : DeviceSession} (orderly : s.Orderly) {call : CallId}
    {phase : PerformPhase} (free : s.pendingResponse = none ∨ phase = .awaitingResponse)
    (busy : ∃ record, s.performs call = some record ∧ record.isSettled = false) :
    (s.setPhase call phase).Orderly := by
  obtain ⟨mine, atMine, openMine⟩ := busy
  have kept : ∀ other record, (s.setPhase call phase).performs other = some record →
      record.isSettled = false → ∃ old, s.performs other = some old ∧ old.isSettled = false := by
    intro other record entry open_
    obtain ⟨old, atOld, same⟩ := setPhase_record entry
    by_cases here : other = call
    · cases here
      exact ⟨mine, atMine, openMine⟩
    · rw [if_neg here] at same
      exact ⟨old, atOld, same ▸ open_⟩
  refine ⟨?_, orderly.timeout, ?_, ?_⟩
  · intro left right l r atLeft atRight openLeft openRight
    obtain ⟨_, oldLeft, openLeft⟩ := kept _ _ atLeft openLeft
    obtain ⟨_, oldRight, openRight⟩ := kept _ _ atRight openRight
    exact orderly.single _ _ _ _ oldLeft oldRight openLeft openRight
  · intro waiting pending
    change s.pendingResponse = some waiting at pending
    obtain ⟨record, entry, open_, unanswered, current⟩ := orderly.pending waiting pending
    rcases free with idle | rfl
    · rw [idle] at pending
      cases pending
    · refine ⟨_, Table.adjust_eq_some.mpr ⟨record, entry, rfl⟩, ?_⟩
      split
      · exact ⟨rfl, unanswered, current⟩
      · exact ⟨open_, unanswered, current⟩
  · intro other record entry
    obtain ⟨old, atOld, same⟩ := setPhase_record entry
    have kept : record.timerArmed = old.timerArmed := by
      rw [same]
      split <;> rfl
    rw [kept]
    exact orderly.armed other old atOld

theorem Orderly.pendingResponse_of_quiet {s : DeviceSession} (orderly : s.Orderly) (quiet : s.Quiet) :
    s.pendingResponse = none := by
  cases pending : s.pendingResponse with
  | none => rfl
  | some call =>
    obtain ⟨record, entry, open_, _⟩ := orderly.pending call pending
    rw [quiet call record entry] at open_
    cases open_

theorem Orderly.started {s : DeviceSession} (orderly : s.Orderly) (quiet : s.Quiet) {call : CallId}
    (ready : s.isReady = true) (command : DeviceCommand) : (s.perform call command).Orderly := by
  have idle := orderly.pendingResponse_of_quiet quiet
  unfold perform
  rw [if_pos ready]
  have only : ∀ other record, (s.performs.insert call
      ⟨command, .writing, [], true⟩) other = some record → record.isSettled = false →
      other = call := by
    intro other record entry open_
    rcases Table.insert_eq_some.mp entry with ⟨same, _⟩ | ⟨_, old⟩
    · exact same
    · rw [quiet other record old] at open_
      cases open_
  refine ⟨?_, rfl, ?_, ?_⟩
  · intro left right l r atLeft atRight openLeft openRight
    rw [only left l atLeft openLeft, only right r atRight openRight]
  · intro waiting pending
    cases Option.some.inj pending
    exact ⟨_, Table.insert_self _ _ _, rfl, rfl, rfl⟩
  · intro other record entry
    rcases Table.insert_eq_some.mp entry with ⟨rfl, rfl⟩ | ⟨different, old⟩
    · simp
    · have unarmed := orderly.armed other record old
      rw [orderly.timeout, idle] at unarmed
      simpa [Ne.symm different] using unarmed

theorem Orderly.refused {s : DeviceSession} (orderly : s.Orderly) {call : CallId}
    (fresh : s.performs call = none) (refused : s.isReady = false) (command : DeviceCommand) :
    (s.perform call command).Orderly := by
  have elsewhere : ∀ other record, s.performs other = some record → other ≠ call := by
    intro other record entry same
    rw [same, fresh] at entry
    cases entry
  unfold perform
  rw [if_neg (by simp [refused])]
  have kept : ∀ other record, (s.performs.insert call ⟨command, .settled (.rejected
      (.badConnectionError s!"Device {s.address} is not ready")), [], false⟩) other = some record →
      record.isSettled = false → s.performs other = some record := by
    intro other record entry open_
    rcases Table.insert_eq_some.mp entry with ⟨_, rfl⟩ | ⟨_, old⟩
    · cases open_
    · exact old
  refine ⟨?_, orderly.timeout, ?_, ?_⟩
  · intro left right l r atLeft atRight openLeft openRight
    exact orderly.single _ _ _ _ (kept _ _ atLeft openLeft) (kept _ _ atRight openRight)
      openLeft openRight
  · intro waiting pending
    obtain ⟨record, entry, rest⟩ := orderly.pending waiting pending
    exact ⟨record, (Table.insert_of_ne _ _ (elsewhere _ _ entry)).trans entry, rest⟩
  · intro other record entry
    rcases Table.insert_eq_some.mp entry with ⟨rfl, rfl⟩ | ⟨_, old⟩
    · refine iff_of_false (by simp) fun timed => ?_
      rw [orderly.timeout] at timed
      obtain ⟨record, entry, _⟩ := orderly.pending _ timed
      exact elsewhere _ _ entry rfl
    · exact orderly.armed other record old

/-- Conclusions touch no phase, so an outstanding call stays outstanding. -/
theorem Orderly.concluded_outstanding {s : DeviceSession} (orderly : s.Orderly)
    (outcome : Settlement Failure (List Byte)) (state : DeviceSessionState) {call : CallId}
    (busy : ∃ record, s.performs call = some record ∧ record.isSettled = false) :
    ∃ record, (s.concluded outcome state).performs call = some record ∧ record.isSettled = false := by
  obtain ⟨old, atOld, open_⟩ := busy
  cases entry : (s.concluded outcome state).performs call with
  | none =>
    have absent := Table.adjust_eq_none.mp (Table.adjust_eq_none.mp entry)
    rw [atOld] at absent
    cases absent
  | some record =>
    obtain ⟨found, atFound, rfl⟩ := orderly.concluded_record entry
    cases atOld.symm.trans atFound
    exact ⟨_, rfl, open_⟩

theorem Orderly.cleared_outstanding {s : DeviceSession} (orderly : s.Orderly) {call : CallId}
    (busy : ∃ record, s.performs call = some record ∧ record.isSettled = false) :
    ∃ record, s.clearPendingState.performs call = some record ∧ record.isSettled = false := by
  obtain ⟨old, atOld, open_⟩ := busy
  cases entry : s.clearPendingState.performs call with
  | none =>
    rw [Table.adjust_eq_none.mp entry] at atOld
    cases atOld
  | some record =>
    obtain ⟨found, atFound, rfl⟩ := orderly.cleared_record entry
    cases atOld.symm.trans atFound
    exact ⟨_, rfl, open_⟩

/-- A conclusion answers the pending call. -/
theorem Orderly.concluded_response {s : DeviceSession} (orderly : s.Orderly) {call : CallId}
    (pending : s.pendingResponse = some call) (outcome : Settlement Failure (List Byte))
    (state : DeviceSessionState) : (s.concluded outcome state).responseOf call = some outcome := by
  obtain ⟨record, entry, open_, _⟩ := orderly.pending call pending
  obtain ⟨record, entry, _⟩ :=
    orderly.concluded_outstanding outcome state ⟨record, entry, open_⟩
  obtain ⟨_, _, rfl⟩ := orderly.concluded_record entry
  simp [responseOf, entry, PerformCall.response, pending]

/-- In an orderly session the timer that fires is the one a conclusion clears. -/
theorem Orderly.timedOut {s : DeviceSession} (orderly : s.Orderly) {call : CallId}
    (fired : (s.performs call).map PerformCall.timerArmed = some true)
    (outcome : Settlement Failure (List Byte)) (state : DeviceSessionState) :
    s.pendingResponse = some call ∧
      (s.clearTimeout (some call)).concluded outcome state = s.concluded outcome state := by
  obtain ⟨record, entry, armed⟩ := Option.map_eq_some_iff.mp fired
  have mine := (orderly.armed call record entry).mp armed
  refine ⟨orderly.timeout ▸ mine, ?_⟩
  have same : ((s.clearTimeout (some call)).concluded outcome state).performs =
      (s.concluded outcome state).performs := by
    funext other
    simp only [DeviceSession.concluded, clearPendingState, clearTimeout, settleResponse, mine, Table.adjust]
    by_cases here : some call = some other
    · simp only [if_pos here]
      cases s.performs other <;> split <;> rfl
    · simp only [if_neg here]
  exact congrArg (fun table => { s.concluded outcome state with performs := table }) same

theorem Orderly.step {s t : DeviceSession} {e : SessionEvent} (orderly : s.Orderly)
    (quiet : s.StartsQuiet e) (run : s.step e = some t) : t.Orderly := by
  cases step_effect run with
  | started ready fresh => exact orderly.started (quiet _ _ rfl ready) ready _
  | refused refused fresh => exact orderly.refused fresh refused _
  | wrote writing =>
    exact orderly.setPhase (Or.inr rfl) (isSettled_of_phaseOf writing (Or.inl rfl))
  | writeFailed writing =>
    exact (orderly.concluded _ _).setPhase (Or.inl rfl)
      (orderly.concluded_outstanding _ _ (isSettled_of_phaseOf writing (Or.inl rfl)))
  | @finished call outcome awaiting settled =>
    have busy := orderly.cleared_outstanding (isSettled_of_phaseOf awaiting (Or.inr rfl))
    have cleared := orderly.cleared
    cases outcome with
    | fulfilled response =>
      have ready : ({ s with state := .ready } : DeviceSession).clearPendingState.Orderly :=
        ⟨cleared.single, cleared.timeout, cleared.pending, cleared.armed⟩
      exact ready.setPhase (Or.inl rfl) busy
    | rejected error => exact cleared.setPhase (Or.inl rfl) busy
  | ignored => exact orderly
  | buffered => exact ⟨orderly.single, orderly.timeout, orderly.pending, orderly.armed⟩
  | notified => exact orderly.concluded _ _
  | timedOut fired =>
    rw [(orderly.timedOut fired _ _).2]
    exact orderly.concluded _ _
  | disconnected =>
    have cleared := orderly.cleared
    exact ⟨cleared.single, cleared.timeout, cleared.pending, cleared.armed⟩
  | attemptFailed =>
    have cleared := orderly.cleared
    exact ⟨cleared.single, cleared.timeout, cleared.pending, cleared.armed⟩
  | subscribed => exact ⟨orderly.single, orderly.timeout, orderly.pending, orderly.armed⟩
  | initializing => exact ⟨orderly.single, orderly.timeout, orderly.pending, orderly.armed⟩
  | progressed => exact ⟨orderly.single, orderly.timeout, orderly.pending, orderly.armed⟩

end DeviceSession

end BluettiMqtt
