import BluettiMqtt.Bluetooth.SessionOrderly

namespace BluettiMqtt
open Promise Transition

/-- The call of `connectAndInitialize` whose subscription is the live one: no
attempt has failed and `disconnect` has not been called since it succeeded. -/
def subscription : List LifecycleMark → Option CallId
  | [] => none
  | .initializing _ :: older => subscription older
  | .initialized call :: _ => some call
  | .attemptFailed _ :: _ => none
  | .disconnectCalled :: _ => none

/-- The call of `connectAndInitialize` was made after the last call of
`disconnect`. -/
def MadeAfterDisconnect (call : CallId) : List LifecycleMark → Prop
  | [] => False
  | .initializing other :: older => other = call ∨ MadeAfterDisconnect call older
  | .initialized _ :: older => MadeAfterDisconnect call older
  | .attemptFailed _ :: older => MadeAfterDisconnect call older
  | .disconnectCalled :: _ => False

namespace DeviceSession

/-- The last initialization to end installed the subscription, and `disconnect`
has not been called since. -/
def Live (s : DeviceSession) : Prop :=
  ∃ call, subscription s.lifecycle = some call

/-- The live subscription is that of a `connectAndInitialize` which was itself
called after the last `disconnect`. -/
def Renewed (s : DeviceSession) : Prop :=
  ∃ call, subscription s.lifecycle = some call ∧ MadeAfterDisconnect call s.lifecycle

/-- The transport is told to disconnect only while no call of `perform` stands
between its answer and its continuation. -/
def Composed (s : DeviceSession) (e : SessionEvent) : Prop :=
  e.tearsDown = true → ∀ call record response, s.performs call = some record →
    record.isSettled = false → record.response ≠ some (.fulfilled response)

/-- `disconnect` is not called while `connectAndInitialize` is under way. -/
def WaitsForInitialization (s : DeviceSession) (e : SessionEvent) : Prop :=
  ∀ call, e = .disconnect call → ∀ other, ¬s.Initializing other

/-- Everything that makes the session ready rests on a live subscription: the
state itself, the command notifications may still answer, and the calls that
have been answered but have not run their continuation. -/
structure Backed (s : DeviceSession) : Prop where
  ready : s.isReady = true → s.Live
  pending : ∀ call, s.pendingResponse = some call → s.Live
  answered : ∀ call record response, s.performs call = some record → record.isSettled = false →
    record.response = some (.fulfilled response) → s.Live

theorem backed_create (address : String) (commandTimeoutMs : Nat) :
    (create address commandTimeoutMs).Backed := by
  constructor <;> simp [create, isReady]

theorem Live.backed {s : DeviceSession} (live : s.Live) : s.Backed :=
  ⟨fun _ => live, fun _ _ => live, fun _ _ _ _ _ _ => live⟩

/-- A session that is not ready and has nothing outstanding needs no
subscription. -/
theorem Quiet.backed {s : DeviceSession} (quiet : s.Quiet) (ready : s.isReady = true → s.Live)
    (idle : s.pendingResponse = none) : s.Backed where
  ready := ready
  pending := by simp [idle]
  answered := by
    intro call record response entry open_
    rw [quiet call record entry] at open_
    cases open_

/-- Clearing the pending fields on the way down leaves nothing that could make
the session ready again. -/
theorem Orderly.cleared_backed {s t : DeviceSession} (orderly : s.Orderly)
    (composed : ∀ call record response, s.performs call = some record → record.isSettled = false →
      record.response ≠ some (.fulfilled response))
    (performs : t.performs = s.clearPendingState.performs) (idle : t.pendingResponse = none)
    (down : t.isReady = false) : t.Backed where
  ready := by simp [down]
  pending := by simp [idle]
  answered := by
    intro call record response entry open_ fulfilled
    rw [performs] at entry
    obtain ⟨old, atOld, rfl⟩ := orderly.cleared_record entry
    exact absurd fulfilled (composed call old response atOld open_)

theorem Backed.step {s t : DeviceSession} {e : SessionEvent} (backed : s.Backed) (orderly : s.Orderly)
    (composed : s.Composed e) (run : s.step e = some t) : t.Backed := by
  cases step_effect run with
  | started ready fresh =>
    refine Live.backed ?_
    unfold perform
    rw [if_pos ready]
    exact backed.ready ready
  | refused refused fresh =>
    unfold perform
    rw [if_neg (by simp [refused])]
    refine ⟨backed.ready, backed.pending, ?_⟩
    intro call record response entry open_ fulfilled
    rcases Table.insert_eq_some.mp entry with ⟨_, rfl⟩ | ⟨_, old⟩
    · cases open_
    · exact backed.answered call record response old open_ fulfilled
  | @wrote call writing =>
    refine ⟨backed.ready, backed.pending, ?_⟩
    intro other record response entry open_ fulfilled
    obtain ⟨old, atOld, same⟩ := setPhase_record entry
    by_cases here : other = call
    · rw [if_pos here] at same
      subst here same
      obtain ⟨found, atFound, openFound⟩ := isSettled_of_phaseOf writing (Or.inl rfl)
      cases atOld.symm.trans atFound
      exact backed.answered other old response atOld openFound fulfilled
    · rw [if_neg here] at same
      exact backed.answered other old response atOld (same ▸ open_) (same ▸ fulfilled)
  | writeFailed writing =>
    exact ((orderly.concluded _ _).quiet_of_settled
      (orderly.concluded_outstanding _ _ (isSettled_of_phaseOf writing (Or.inl rfl))) _).backed nofun rfl
  | @finished call outcome awaiting settled =>
    have busy := isSettled_of_phaseOf awaiting (Or.inr rfl)
    have outstanding := orderly.cleared_outstanding busy
    cases outcome with
    | fulfilled response =>
      obtain ⟨record, entry, open_⟩ := busy
      have fulfilled : record.response = some (.fulfilled response) := by
        simpa [responseOf, entry] using settled
      exact Live.backed (backed.answered call record response entry open_ fulfilled)
    | rejected => exact Quiet.backed (orderly.cleared.quiet_of_settled outstanding _) backed.ready rfl
  | ignored => exact backed
  | buffered => exact ⟨backed.ready, backed.pending, backed.answered⟩
  | notified pending => exact Live.backed (backed.pending _ pending)
  | timedOut fired =>
    obtain ⟨pending, same⟩ := orderly.timedOut fired (.rejected s.timeoutFailure) .commandErrorWait
    rw [same]
    exact Live.backed (backed.pending _ pending)
  | disconnected => exact orderly.cleared_backed (composed rfl) rfl rfl rfl
  | attemptFailed torn => exact orderly.cleared_backed (composed torn) rfl rfl rfl
  | subscribed => exact Live.backed ⟨_, rfl⟩
  | initializing => exact ⟨backed.ready, backed.pending, backed.answered⟩
  | progressed moved states =>
    refine ⟨fun ready => ?_, backed.pending, backed.answered⟩
    simp only [List.mem_cons, List.not_mem_nil, or_false] at states
    rcases states with rfl | rfl | rfl
    · exact backed.ready ready
    · cases ready
    · cases ready

/-- The calls of `connectAndInitialize` that are under way, and the one that
installed the live subscription, were made after the last `disconnect`. -/
structure Current (s : DeviceSession) : Prop where
  initializing : ∀ call, s.Initializing call → MadeAfterDisconnect call s.lifecycle
  subscribed : ∀ call, subscription s.lifecycle = some call → MadeAfterDisconnect call s.lifecycle

theorem current_create (address : String) (commandTimeoutMs : Nat) :
    (create address commandTimeoutMs).Current :=
  ⟨nofun, nofun⟩

theorem Current.same {s t : DeviceSession} (current : s.Current) (lifecycle : t.lifecycle = s.lifecycle)
    (initializations : t.initializations = s.initializations) : t.Current := by
  constructor
  · intro call busy
    unfold Initializing at busy
    rw [initializations] at busy
    rw [lifecycle]
    exact current.initializing call busy
  · rw [lifecycle]
    exact current.subscribed

theorem Current.step {s t : DeviceSession} {e : SessionEvent} (current : s.Current)
    (waits : s.WaitsForInitialization e) (run : s.step e = some t) : t.Current := by
  cases step_effect run with
  | started =>
    unfold perform
    split <;> exact current.same rfl rfl
  | refused =>
    unfold perform
    split <;> exact current.same rfl rfl
  | wrote => exact current.same rfl rfl
  | writeFailed => exact current.same (by simp) (by simp)
  | @finished call outcome => cases outcome <;> exact current.same rfl rfl
  | ignored => exact current
  | buffered => exact current.same rfl rfl
  | notified => exact current.same (by simp) (by simp)
  | timedOut => exact current.same (by simp) (by simp)
  | disconnected =>
    constructor
    · intro other busy
      exact absurd busy (waits _ rfl other)
    · intro other same
      cases same
  | attemptFailed torn busy =>
    constructor
    · rintro other ⟨phase, entry, open_⟩
      exact current.initializing other
        (setInitialization_initializing (s := s.clearPendingState) busy entry open_)
    · intro other same
      cases same
  | @subscribed call attempt subscribing =>
    have busy : s.Initializing call := ⟨_, subscribing, rfl⟩
    constructor
    · rintro other ⟨phase, entry, open_⟩
      exact current.initializing other (setInitialization_initializing busy entry open_)
    · intro other same
      cases Option.some.inj same
      exact current.initializing call busy
  | @initializing call fresh =>
    constructor
    · rintro other ⟨phase, entry, open_⟩
      rcases Table.insert_eq_some.mp entry with ⟨rfl, _⟩ | ⟨_, old⟩
      · exact Or.inl rfl
      · exact Or.inr (current.initializing other ⟨phase, old, open_⟩)
    · intro other same
      exact Or.inr (current.subscribed other same)
  | progressed _ _ kept =>
    constructor
    · rintro other ⟨phase, entry, open_⟩
      exact current.initializing other (kept other phase entry open_)
    · exact current.subscribed

/-- In the serialized runs in which the transport is never told to disconnect
between the answer to a command and its continuation, a ready session has a
live subscription; if besides `disconnect` is never called in the middle of an
initialization, the subscription comes from an initialization called after the
last `disconnect`. -/
theorem ready_live {address : String} {commandTimeoutMs : Nat} {trace : List SessionEvent}
    {s : DeviceSession}
    (reach : Reach step (fun s e => s.Serialized e ∧ s.Composed e) (create address commandTimeoutMs) trace s)
    (ready : s.isReady = true) :
    s.Live ∧ (Reach step WaitsForInitialization (create address commandTimeoutMs) trace s → s.Renewed) := by
  have kept := reach.invariant (P := fun s => s.Orderly ∧ s.Backed)
    ⟨orderly_create _ _, backed_create _ _⟩ fun s e t ⟨orderly, backed⟩ allowed run =>
      ⟨orderly.step allowed.1.startsQuiet run, backed.step orderly allowed.2 run⟩
  obtain ⟨call, subscribed⟩ := kept.2.ready ready
  refine ⟨⟨call, subscribed⟩, fun waits => ?_⟩
  have current := waits.invariant (P := Current) (current_create _ _) fun s e t current => current.step
  exact ⟨call, subscribed, current.subscribed call subscribed⟩

theorem ready_live_opened : (opened "AA:BB:CC:DD:EE:FF" 10000 []).Live :=
  (ready_live (reach_opened (fun _ _ opening kept => ⟨serialized_initializes opening,
    fun torn => absurd torn kept⟩) _ _ _) rfl).1

/-- The answer arrives before the write is acknowledged, `disconnect` runs to
its end, and then the continuation of `perform` makes the session ready. -/
theorem ready_after_disconnect :
    ¬∀ (address : String) (commandTimeoutMs : Nat) (trace : List SessionEvent) (s : DeviceSession),
      Reach step Serialized (create address commandTimeoutMs) trace s → s.isReady = true → s.Live := by
  intro promised
  have valid : (DeviceCommand.writeSingleRegister ⟨3007#16, 1#16⟩).isValidResponse
      [1#8, 6#8, 11#8, 191#8, 0#8, 1#8, 123#8, 202#8] = true := by decide +kernel
  let written := (opened "AA:BB:CC:DD:EE:FF" 10000 []).perform 0 (.writeSingleRegister ⟨3007#16, 1#16⟩)
  have answered : written.handleNotification [1#8, 6#8, 11#8, 191#8, 0#8, 1#8, 123#8, 202#8] =
      written.concluded (.fulfilled [1#8, 6#8, 11#8, 191#8, 0#8, 1#8, 123#8, 202#8]) .ready := by
    rw [handleNotification_verdict rfl rfl, notificationVerdict_modbus (by decide), concatBytes,
      show written.responseBuffer = [] from rfl, List.nil_append, DeviceCommand.verdict_valid valid]
  have initialized := reach_opened (fun s e opening _ => serialized_initializes (s := s) opening)
    "AA:BB:CC:DD:EE:FF" 10000 []
  have called := Reach.next (e := .perform 0 (.writeSingleRegister ⟨3007#16, 1#16⟩)) initialized
    (fun _ _ _ => quiet_opened _ _ _) rfl
  have other (s : DeviceSession) (e : SessionEvent) (different : ∀ call command, e ≠ .perform call command) :
      s.Serialized e := fun call command same => absurd same (different call command)
  have notified := called.next (other _ (.notification [1#8, 6#8, 11#8, 191#8, 0#8, 1#8, 123#8, 202#8]) (by rintro _ _ ⟨⟩))
    (congrArg some answered)
  have disconnecting := notified.next (other _ (.disconnect 0) (by rintro _ _ ⟨⟩)) rfl
  have disconnected := disconnecting.next (other _ (.disconnectSettled 0 (.fulfilled ())) (by rintro _ _ ⟨⟩)) rfl
  have acknowledged := disconnected.next (other _ (.writeSettled 0 (.fulfilled ())) (by rintro _ _ ⟨⟩)) rfl
  have continued := acknowledged.next (other _ (.responseSettled 0) (by rintro _ _ ⟨⟩)) rfl
  obtain ⟨_, dead⟩ := promised _ _ _ _ continued rfl
  cases dead

end DeviceSession

end BluettiMqtt
