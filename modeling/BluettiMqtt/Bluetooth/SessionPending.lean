import BluettiMqtt.Bluetooth.SessionOrderly

namespace BluettiMqtt
open Promise Transition

namespace DeviceSession

/-- Every call that has passed its write and whose response promise is open is
the one the session holds the resolver of, with its timer armed. -/
def Held (s : DeviceSession) : Prop :=
  ∀ call record, s.performs call = some record → record.phase = .awaitingResponse →
    record.settlements = [] →
    s.pendingResponse = some call ∧ s.pendingTimeout = some call ∧ record.timerArmed = true

/-- The session still holds the resolver of every unanswered outstanding call,
whether or not its write has been acknowledged. -/
def Waits (s : DeviceSession) : Prop :=
  ∀ call record, s.performs call = some record → record.isSettled = false →
    record.settlements = [] → s.pendingResponse = some call

/-- The transport is told to disconnect only while no response is pending. -/
def Undisturbed (s : DeviceSession) (e : SessionEvent) : Prop :=
  e.tearsDown = true → s.pendingResponse = none

/-- A step neither drops the resolver of the pending response nor leaves its
promise open without it. -/
def KeepsWaiter (s t : DeviceSession) : Prop :=
  ∀ call, s.pendingResponse = some call →
    t.pendingResponse = some call ∨ ∃ outcome, t.responseOf call = some outcome

theorem Waits.held {s : DeviceSession} (waits : s.Waits) (orderly : s.Orderly) : s.Held := by
  intro call record entry awaiting unanswered
  have open_ : record.isSettled = false := by simp [PerformCall.isSettled, awaiting]
  have pending := waits call record entry open_ unanswered
  have timeout := orderly.timeout.trans pending
  exact ⟨pending, timeout, (orderly.armed call record entry).mpr timeout⟩

/-- After a conclusion every outstanding call has been answered. -/
theorem Waits.concluded {s : DeviceSession} (waits : s.Waits) (orderly : s.Orderly)
    (outcome : Settlement Failure (List Byte)) (state : DeviceSessionState) :
    (s.concluded outcome state).Waits := by
  intro call record entry open_ unanswered
  obtain ⟨old, atOld, rfl⟩ := orderly.concluded_record entry
  by_cases mine : s.pendingResponse = some call
  · simp [mine] at unanswered
  · simp only [mine, if_false] at unanswered
    exact absurd (waits call old atOld open_ unanswered) mine

theorem Quiet.waits {s : DeviceSession} (quiet : s.Quiet) : s.Waits := by
  intro call record entry open_
  rw [quiet call record entry] at open_
  cases open_

/-- Clearing without settling is harmless when no response is pending. -/
theorem Waits.cleared {s : DeviceSession} (waits : s.Waits) (orderly : s.Orderly)
    (idle : s.pendingResponse = none) : s.clearPendingState.Waits := by
  intro call record entry open_ unanswered
  obtain ⟨old, atOld, rfl⟩ := orderly.cleared_record entry
  rw [waits call old atOld open_ unanswered] at idle
  cases idle

theorem Waits.step {s t : DeviceSession} {e : SessionEvent} (waits : s.Waits) (orderly : s.Orderly)
    (quiet : s.StartsQuiet e) (undisturbed : s.Undisturbed e) (run : s.step e = some t) : t.Waits := by
  cases step_effect run with
  | @started call command ready fresh =>
    intro other record entry open_ _
    unfold perform at entry ⊢
    rw [if_pos ready] at entry ⊢
    rcases Table.insert_eq_some.mp entry with ⟨rfl, _⟩ | ⟨_, old⟩
    · rfl
    · rw [quiet call command rfl ready other record old] at open_
      cases open_
  | refused refused fresh =>
    intro other record entry open_ unanswered
    unfold perform at entry ⊢
    rw [if_neg (by simp [refused])] at entry ⊢
    rcases Table.insert_eq_some.mp entry with ⟨_, rfl⟩ | ⟨_, old⟩
    · cases open_
    · exact waits other record old open_ unanswered
  | @wrote call writing =>
    intro other record entry open_ unanswered
    obtain ⟨old, atOld, same⟩ := setPhase_record entry
    by_cases here : other = call
    · rw [if_pos here] at same
      subst here same
      obtain ⟨found, atFound, openFound⟩ := isSettled_of_phaseOf writing (Or.inl rfl)
      cases atOld.symm.trans atFound
      exact waits other old atOld openFound unanswered
    · rw [if_neg here] at same
      exact waits other old atOld (same ▸ open_) (same ▸ unanswered)
  | @writeFailed call error writing =>
    exact ((orderly.concluded _ _).quiet_of_settled
      (orderly.concluded_outstanding _ _ (isSettled_of_phaseOf writing (Or.inl rfl))) _).waits
  | @finished call outcome awaiting settled =>
    have busy := orderly.cleared_outstanding (isSettled_of_phaseOf awaiting (Or.inr rfl))
    cases outcome with
    | fulfilled => exact Quiet.waits (orderly.cleared.quiet_of_settled busy _)
    | rejected => exact Quiet.waits (orderly.cleared.quiet_of_settled busy _)
  | ignored => exact waits
  | buffered => exact waits
  | notified => exact waits.concluded orderly _ _
  | timedOut fired =>
    rw [(orderly.timedOut fired _ _).2]
    exact waits.concluded orderly _ _
  | disconnected => exact waits.cleared orderly (undisturbed rfl)
  | attemptFailed torn => exact waits.cleared orderly (undisturbed torn)
  | subscribed => exact waits
  | initializing => exact waits
  | progressed => exact waits

/-- A step that leaves the pending response alone keeps its waiter. -/
theorem KeepsWaiter.same {s t : DeviceSession} (same : t.pendingResponse = s.pendingResponse) :
    s.KeepsWaiter t :=
  fun _ pending => Or.inl (same.trans pending)

theorem KeepsWaiter.idle {s t : DeviceSession} (idle : s.pendingResponse = none) : s.KeepsWaiter t := by
  intro call pending
  rw [idle] at pending
  cases pending

theorem Orderly.concluded_keepsWaiter {s : DeviceSession} (orderly : s.Orderly)
    (outcome : Settlement Failure (List Byte)) (state : DeviceSessionState) :
    s.KeepsWaiter (s.concluded outcome state) :=
  fun _ pending => Or.inr ⟨outcome, orderly.concluded_response pending outcome state⟩

theorem setPhase_responseOf (s : DeviceSession) (call other : CallId) (phase : PerformPhase) :
    (s.setPhase call phase).responseOf other = s.responseOf other := by
  by_cases here : call = other
  · subst here
    cases entry : s.performs call with
    | none => simp [responseOf, setPhase, Table.adjust, entry]
    | some record => simp [responseOf, setPhase, Table.adjust, entry, PerformCall.response]
  · simp [responseOf, setPhase, Table.adjust, here]

/-- Tearing the session down drops the pending response without an answer. -/
theorem Orderly.cleared_unanswered {s : DeviceSession} (orderly : s.Orderly) {call : CallId}
    (pending : s.pendingResponse = some call) : s.clearPendingState.responseOf call = none := by
  obtain ⟨record, entry, _, unanswered, _⟩ := orderly.pending call pending
  cases found : s.clearPendingState.performs call with
  | none => simp [responseOf, found]
  | some cleared =>
    obtain ⟨old, atOld, rfl⟩ := orderly.cleared_record found
    cases entry.symm.trans atOld
    simp [responseOf, found, PerformCall.response, unanswered]

theorem Undisturbed.keepsWaiter {s t : DeviceSession} {e : SessionEvent}
    (undisturbed : s.Undisturbed e) (orderly : s.Orderly) (quiet : s.StartsQuiet e)
    (run : s.step e = some t) : s.KeepsWaiter t := by
  cases step_effect run with
  | started ready fresh => exact .idle (orderly.pendingResponse_of_quiet (quiet _ _ rfl ready))
  | refused refused fresh =>
    refine .same ?_
    unfold perform
    rw [if_neg (by simp [refused])]
  | wrote => exact .same rfl
  | @writeFailed call error =>
    intro other pending
    refine Or.inr ⟨.rejected error, ?_⟩
    rw [setPhase_responseOf]
    exact orderly.concluded_response pending _ _
  | @finished call outcome awaiting settled =>
    intro other pending
    obtain ⟨mine, atMine, openMine⟩ := isSettled_of_phaseOf awaiting (Or.inr rfl)
    obtain ⟨record, entry, open_, unanswered, _⟩ := orderly.pending other pending
    cases orderly.single _ _ _ _ entry atMine open_ openMine
    simp [responseOf, entry, PerformCall.response, unanswered] at settled
  | ignored => exact .same rfl
  | buffered => exact .same rfl
  | notified => exact orderly.concluded_keepsWaiter _ _
  | timedOut fired =>
    rw [(orderly.timedOut fired _ _).2]
    exact orderly.concluded_keepsWaiter _ _
  | disconnected => exact .idle (undisturbed rfl)
  | attemptFailed torn => exact .idle (undisturbed torn)
  | subscribed => exact .same rfl
  | initializing => exact .same rfl
  | progressed => exact .same rfl

theorem KeepsWaiter.undisturbed {s t : DeviceSession} {e : SessionEvent} (keeps : s.KeepsWaiter t)
    (orderly : s.Orderly) (run : s.step e = some t) : s.Undisturbed e := by
  intro torn
  cases pending : s.pendingResponse with
  | none => rfl
  | some call =>
    have unanswered := orderly.cleared_unanswered pending
    cases step_effect run with
    | disconnected =>
      rcases keeps call pending with held | ⟨_, answered⟩
      · cases held
      · cases answered.symm.trans unanswered
    | attemptFailed =>
      rcases keeps call pending with held | ⟨_, answered⟩
      · cases held
      · cases answered.symm.trans unanswered
    | progressed moved => exact absurd moved (SessionEvent.not_movesAlong torn)
    | _ => cases torn

/-- In the serialized runs in which the transport is told to disconnect only
while no response is pending, no command is ever stranded; and at every moment
of any serialized run that condition is what keeps the next step from dropping
a waiter. -/
theorem undisturbed_held {address : String} {commandTimeoutMs : Nat} {trace : List SessionEvent}
    {s : DeviceSession} (reach : Reach step Serialized (create address commandTimeoutMs) trace s) :
    (Reach step (fun s e => s.Serialized e ∧ s.Undisturbed e) (create address commandTimeoutMs) trace s →
      s.Held) ∧
    ∀ e t, s.Serialized e → s.step e = some t → (s.KeepsWaiter t ↔ s.Undisturbed e) := by
  constructor
  · intro undisturbed
    have kept := undisturbed.invariant (P := fun s => s.Orderly ∧ s.Waits)
      ⟨orderly_create _ _, by simp [Waits, create]⟩ fun s e t ⟨orderly, waits⟩ allowed run =>
        ⟨orderly.step allowed.1.startsQuiet run,
          waits.step orderly allowed.1.startsQuiet allowed.2 run⟩
    exact kept.2.held kept.1
  · intro e t serialized run
    have orderly := reach.invariant (P := Orderly) (orderly_create _ _)
      fun s e t orderly serialized run => orderly.step serialized.startsQuiet run
    exact ⟨fun keeps => keeps.undisturbed orderly run,
      fun undisturbed => undisturbed.keepsWaiter orderly serialized.startsQuiet run⟩

theorem undisturbed_held_readingStatus : (readingStatus "AA:BB:CC:DD:EE:FF" 10000 []).Held := by
  obtain ⟨_, undisturbed⟩ := reach_readingStatus
    (fun s e opening kept => (⟨serialized_initializes opening, fun torn => absurd torn kept⟩ :
      s.Serialized e ∧ s.Undisturbed e))
    (fun _ _ quiet => ⟨fun _ _ _ => quiet, nofun⟩) (fun _ => ⟨nofun, nofun⟩) "AA:BB:CC:DD:EE:FF" 10000 []
  exact (undisturbed_held (undisturbed.mono fun _ _ both => both.1)).1 undisturbed

/-- A `disconnect` while a response is pending strands the command: nothing
holds its resolver or a timer any more. -/
theorem disconnect_strands :
    ¬∀ (address : String) (commandTimeoutMs : Nat) (trace : List SessionEvent) (s : DeviceSession),
      Reach step Serialized (create address commandTimeoutMs) trace s → s.Held := by
  intro promised
  obtain ⟨_, reach⟩ := reach_readingStatus (fun _ _ opening _ => serialized_initializes opening)
    (fun _ _ quiet _ _ _ => quiet) (fun _ => nofun) "AA:BB:CC:DD:EE:FF" 10000 []
  have dropped := promised _ _ _ _ (.next (e := .disconnect 0) reach nofun rfl) 0 _ rfl rfl rfl
  cases dropped.1

end DeviceSession

end BluettiMqtt
