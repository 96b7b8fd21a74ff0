import BluettiMqtt.Bluetooth.HelperTransport
import BluettiMqtt.Broker.BasicMqttClient
import BluettiMqtt.Library.Rollback

namespace BluettiMqtt
open Promise Transition Rollback

section Clients

variable {c d : BasicMqttClient} {l : Ledger String Nat}

/-- What an event reports about subscriptions. -/
def BasicMqttEvent.act : BasicMqttEvent → Act String Nat
  | .publish call _ => .other (some call)
  | .published _ _ => .other none
  | .subscribe call topic onMessage => .begun call topic onMessage
  | .subscribed call (.fulfilled _) => .kept call
  | .subscribed call (.rejected _) => .undone call
  | .message _ _ => .other none

def BasicMqttPhase.entry : BasicMqttPhase → Entry String Nat
  | .subscribing topic previous => .open_ topic previous
  | _ => .foreign

/-- No subscription to the topic is under way. -/
def BasicMqttClient.Settled (c : BasicMqttClient) (topic : String) : Prop :=
  ∀ call previous, c.calls call ≠ some (.subscribing topic previous)

abbrev BasicMqttClient.Tracked (c : BasicMqttClient) (l : Ledger String Nat) : Prop :=
  Tracks BasicMqttPhase.entry (fun phase => ∃ outcome, phase = .settled outcome) c.callbacks c.calls l

theorem restoreCallback_eq (callbacks : Table String Nat) (topic : String) (previous : Option Nat) :
    BasicMqttClient.restoreCallback callbacks topic previous = restore callbacks topic previous := by
  cases previous with
  | none => rfl
  | some previous => rfl

theorem BasicMqttClient.Tracked.step (tracked : c.Tracked l) {e : BasicMqttEvent} (run : c.step e = some d) :
    ∃ l', l.step e.act = some l' ∧ d.Tracked l' := by
  cases e with
  | publish call message =>
    obtain ⟨unknown, same⟩ := Option.ite_none_right_eq_some.mp run
    cases same
    exact tracked.other unknown rfl
  | published call result =>
    simp only [BasicMqttClient.step] at run
    split at run
    · next entry =>
      cases run
      exact ⟨l, rfl, (tracked.foreign entry nofun rfl rfl).2⟩
    · cases run
  | subscribe call topic onMessage =>
    obtain ⟨unknown, same⟩ := Option.ite_none_right_eq_some.mp run
    cases same
    exact tracked.begun unknown onMessage rfl
  | subscribed call result =>
    simp only [BasicMqttClient.step] at run
    split at run
    · next topic previous entry =>
      cases run
      cases result with
      | fulfilled value => exact tracked.kept entry nofun rfl ⟨_, rfl⟩
      | rejected error =>
        unfold BasicMqttClient.subscribed
        rw [restoreCallback_eq]
        exact tracked.undone entry nofun rfl ⟨_, rfl⟩
    · cases run
  | message topic payload =>
    cases run
    refine ⟨l, rfl, ?_⟩
    unfold BasicMqttClient.receive
    split
    · exact tracked
    · exact tracked

theorem BasicMqttClient.Settled.entry {topic : String} (settled : c.Settled topic) (call : Nat) (phase : BasicMqttPhase)
    (previous : Option Nat) (known : c.calls call = some phase) : phase.entry ≠ .open_ topic previous := by
  intro shape
  cases phase with
  | publishing => cases shape
  | subscribing topic previous =>
    cases shape
    exact settled call previous known
  | settled outcome => cases shape

end Clients

section Transports

variable {normalizeUuid : String → String} {s t : HelperTransports} {l : Ledger String Nat} {transport : Nat}

/-- What an event reports about subscriptions on one transport. -/
def HelperTransportEvent.act (normalizeUuid : String → String) (transport : Nat) : HelperTransportEvent → Act String Nat
  | .connect call _ _ => .other (some call)
  | .connected _ _ _ => .other none
  | .unwired _ _ => .other none
  | .subscribe call other uuid onData =>
    if other = transport then .begun call (normalizeUuid uuid) onData else .other (some call)
  | .subscribed call (.fulfilled _) => .kept call
  | .subscribed call (.rejected _) => .undone call
  | .disconnect call _ => .other (some call)
  | .disconnected _ _ => .other none
  | .notification _ => .other none

def HelperTransportCall.entry (transport : Nat) : HelperTransportCall → Entry String Nat
  | ⟨other, .subscribing normalizedUuid previous⟩ => if other = transport then .open_ normalizedUuid previous else .foreign
  | _ => .foreign

/-- The transport has a session, and is not disconnected by the event. -/
def HelperTransports.Connected (transport : Nat) (s : HelperTransports) (e : HelperTransportEvent) : Prop :=
  (s.transports transport).sessionId.isSome = true ∧ ∀ call, e ≠ .disconnect call transport

/-- No subscription to the characteristic is under way on the transport. -/
def HelperTransports.Settled (s : HelperTransports) (transport : Nat) (normalizedUuid : String) : Prop :=
  ∀ call previous, s.calls call ≠ some ⟨transport, .subscribing normalizedUuid previous⟩

abbrev HelperTransports.Tracked (transport : Nat) (s : HelperTransports) (l : Ledger String Nat) : Prop :=
  Tracks (HelperTransportCall.entry transport) (fun record => ∃ outcome, record.phase = .settled outcome)
    (s.transports transport).subscribers s.calls l

theorem restoreSubscriber_subscribers (fields : HelperTransport) (normalizedUuid : String) (previous : Option Nat) :
    (HelperTransports.restoreSubscriber fields normalizedUuid previous).subscribers =
      restore fields.subscribers normalizedUuid previous := by
  cases previous with
  | none => rfl
  | some previous => rfl

theorem transports_setCall (s : HelperTransports) (call owner : Nat) (phase : HelperTransportPhase) :
    (s.setCall call owner phase).transports = s.transports := rfl

/-- The callbacks of a transport after a change to some transport. -/
theorem subscribers_setTransport (s : HelperTransports) (transport other : Nat) (change : HelperTransport → HelperTransport) :
    ((s.setTransport other change).transports transport).subscribers =
      if transport = other then (change (s.transports transport)).subscribers else (s.transports transport).subscribers := by
  unfold HelperTransports.setTransport
  split
  · next same => simp [same]
  · next apart => simp [apart]

namespace HelperTransports.Tracked

variable {call : Nat} {record later : HelperTransportCall}

theorem foreign_entry (tracked : s.Tracked transport l) (known : s.calls call = some record)
    (unsettled : ∀ outcome, record.phase ≠ .settled outcome) (shape : record.entry transport = .foreign) :
    l.calls call = some .foreign :=
  shape ▸ tracked.underway known fun ⟨outcome, same⟩ => unsettled outcome same

/-- A call that is no subscription on the transport moves on. -/
theorem foreign (tracked : s.Tracked transport l) (known : s.calls call = some record)
    (unsettled : ∀ outcome, record.phase ≠ .settled outcome) (shape : record.entry transport = .foreign)
    (calls : t.calls = s.calls.insert call later) (stays : later.entry transport = .foreign)
    (cells : (t.transports transport).subscribers = (s.transports transport).subscribers) : t.Tracked transport l := by
  unfold HelperTransports.Tracked
  rw [calls, cells]
  exact (Tracks.foreign tracked known (fun ⟨outcome, same⟩ => unsettled outcome same) shape stays).2

/-- A call that is no subscription on the transport is made. -/
theorem other (tracked : s.Tracked transport l) (unknown : s.calls call = none)
    (calls : t.calls = s.calls.insert call later) (shape : later.entry transport = .foreign)
    (cells : (t.transports transport).subscribers = (s.transports transport).subscribers) :
    ∃ l', l.step (.other (some call)) = some l' ∧ t.Tracked transport l' := by
  unfold HelperTransports.Tracked
  rw [calls, cells]
  exact Tracks.other tracked unknown shape

theorem connected (tracked : s.Tracked transport l) {owner : Nat} (known : s.calls call = some ⟨owner, .connecting⟩)
    (wiring : Option Failure) (result : Settlement Failure String) :
    (s.connected call owner wiring result).Tracked transport l := by
  cases result with
  | rejected error => exact tracked.foreign known nofun rfl rfl rfl rfl
  | fulfilled sessionId =>
    cases wiring with
    | none =>
      refine tracked.foreign known nofun rfl rfl rfl ?_
      simp only [HelperTransports.connected, transports_setCall, subscribers_setTransport, ite_self]
    | some error =>
      refine tracked.foreign known nofun rfl rfl rfl ?_
      simp only [HelperTransports.connected, transports_setCall, subscribers_setTransport, ite_self]

theorem subscribe (tracked : s.Tracked transport l) (unknown : s.calls call = none) (normalizedUuid : String) (onData : Nat)
    (session : (s.transports transport).sessionId.isSome = true) :
    ∃ l', l.step (.begun call normalizedUuid onData) = some l' ∧
      (s.subscribe call transport normalizedUuid onData).Tracked transport l' := by
  obtain ⟨sessionId, open_⟩ := Option.isSome_iff_exists.mp session
  unfold HelperTransports.subscribe HelperTransports.Tracked
  rw [open_]
  simp only [setCall, subscribers_setTransport, if_true]
  refine Tracks.begun tracked unknown onData ?_
  simp [HelperTransportCall.entry]

theorem subscribe_elsewhere (tracked : s.Tracked transport l) (unknown : s.calls call = none) (normalizedUuid : String)
    (onData : Nat) {owner : Nat} (apart : owner ≠ transport) :
    ∃ l', l.step (.other (some call)) = some l' ∧
      (s.subscribe call owner normalizedUuid onData).Tracked transport l' := by
  unfold HelperTransports.subscribe
  split
  · refine tracked.other unknown rfl ?_ ?_
    · simp [HelperTransportCall.entry, apart]
    · simp only [transports_setCall, subscribers_setTransport, if_neg (Ne.symm apart)]
  · refine tracked.other unknown rfl rfl ?_
    simp only [transports_setCall, subscribers_setTransport, if_neg (Ne.symm apart)]

theorem subscribed (tracked : s.Tracked transport l) {normalizedUuid : String} {previous : Option Nat}
    (known : s.calls call = some ⟨transport, .subscribing normalizedUuid previous⟩) (result : Settlement Failure Unit) :
    ∃ l', l.step (HelperTransportEvent.act normalizeUuid transport (.subscribed call result)) = some l' ∧
      (s.subscribed call transport normalizedUuid previous result).Tracked transport l' := by
  have shape : HelperTransportCall.entry transport ⟨transport, .subscribing normalizedUuid previous⟩ =
      .open_ normalizedUuid previous := if_pos rfl
  cases result with
  | fulfilled value => exact Tracks.kept tracked known nofun shape ⟨_, rfl⟩
  | rejected error =>
    unfold HelperTransports.subscribed HelperTransports.Tracked
    simp only [setCall, subscribers_setTransport, if_true, restoreSubscriber_subscribers]
    exact Tracks.undone tracked known nofun shape ⟨_, rfl⟩

theorem subscribed_elsewhere (tracked : s.Tracked transport l) {owner : Nat} {normalizedUuid : String} {previous : Option Nat}
    (known : s.calls call = some ⟨owner, .subscribing normalizedUuid previous⟩) (apart : owner ≠ transport)
    (result : Settlement Failure Unit) :
    ∃ l', l.step (HelperTransportEvent.act normalizeUuid transport (.subscribed call result)) = some l' ∧
      (s.subscribed call owner normalizedUuid previous result).Tracked transport l' := by
  have shape : HelperTransportCall.entry transport ⟨owner, .subscribing normalizedUuid previous⟩ = .foreign := if_neg apart
  have foreign := tracked.foreign_entry known nofun shape
  cases result with
  | fulfilled value =>
    refine ⟨l, by simp only [HelperTransportEvent.act, Ledger.step, foreign], ?_⟩
    exact tracked.foreign known nofun shape rfl rfl rfl
  | rejected error =>
    refine ⟨l, by simp only [HelperTransportEvent.act, Ledger.step, foreign], ?_⟩
    refine tracked.foreign known nofun shape rfl rfl ?_
    simp only [HelperTransports.subscribed, transports_setCall, subscribers_setTransport, if_neg (Ne.symm apart)]

theorem step (tracked : s.Tracked transport l) {e : HelperTransportEvent} (allowed : s.Connected transport e)
    (run : s.step normalizeUuid e = some t) :
    ∃ l', l.step (e.act normalizeUuid transport) = some l' ∧ t.Tracked transport l' := by
  cases e with
  | connect call owner address =>
    obtain ⟨unknown, same⟩ := Option.ite_none_right_eq_some.mp run
    cases same
    rw [Option.isNone_iff_eq_none] at unknown
    unfold connect
    split
    · exact tracked.other unknown rfl rfl rfl
    · exact tracked.other unknown rfl rfl rfl
  | connected call result wiring =>
    simp only [HelperTransports.step] at run
    split at run
    · next owner known =>
      cases run
      exact ⟨l, rfl, tracked.connected known wiring result⟩
    · cases run
  | unwired call result =>
    simp only [HelperTransports.step] at run
    split at run
    · next owner error known =>
      cases run
      exact ⟨l, rfl, tracked.foreign known nofun rfl rfl rfl rfl⟩
    · cases run
  | subscribe call owner uuid onData =>
    obtain ⟨unknown, same⟩ := Option.ite_none_right_eq_some.mp run
    cases same
    rw [Option.isNone_iff_eq_none] at unknown
    by_cases here : owner = transport
    · subst here
      simp only [HelperTransportEvent.act, if_true]
      exact tracked.subscribe unknown (normalizeUuid uuid) onData allowed.1
    · simp only [HelperTransportEvent.act, if_neg here]
      exact tracked.subscribe_elsewhere unknown (normalizeUuid uuid) onData here
  | subscribed call result =>
    simp only [HelperTransports.step] at run
    split at run
    · next owner normalizedUuid previous known =>
      cases run
      by_cases here : owner = transport
      · subst here
        exact tracked.subscribed known result
      · exact tracked.subscribed_elsewhere known here result
    · cases run
  | disconnect call owner =>
    obtain ⟨unknown, same⟩ := Option.ite_none_right_eq_some.mp run
    cases same
    rw [Option.isNone_iff_eq_none] at unknown
    have apart : transport ≠ owner := by
      rintro rfl
      exact allowed.2 call rfl
    unfold disconnect
    dsimp only
    split
    · refine tracked.other unknown rfl rfl ?_
      simp only [transports_setCall, subscribers_setTransport, if_neg apart]
    · refine tracked.other unknown rfl rfl ?_
      simp only [transports_setCall, subscribers_setTransport, if_neg apart]
  | disconnected call result =>
    simp only [HelperTransports.step] at run
    split at run
    · next owner known =>
      cases run
      exact ⟨l, rfl, tracked.foreign known nofun rfl rfl rfl rfl⟩
    · cases run
  | notification event =>
    cases run
    exact ⟨l, rfl, tracked⟩

end HelperTransports.Tracked

theorem HelperTransports.Settled.entry {normalizedUuid : String} (settled : s.Settled transport normalizedUuid) (call : Nat)
    (record : HelperTransportCall) (previous : Option Nat) (known : s.calls call = some record) :
    record.entry transport ≠ .open_ normalizedUuid previous := by
  intro shape
  obtain ⟨owner, phase⟩ := record
  cases phase with
  | subscribing other previous =>
    by_cases here : owner = transport
    · subst here
      cases (if_pos rfl).symm.trans shape
      exact settled call previous known
    · exact absurd ((if_neg here).symm.trans shape) nofun
  | connecting => cases shape
  | unwiring error => cases shape
  | disconnecting => cases shape
  | settled outcome => cases shape

end Transports

/-- As long as no subscription fails before those that were made after it have
failed, the callback is that of the last subscription that has not failed, and
that of the last one that has succeeded when none is under way; on a connected
transport as on a client. -/
theorem subscription_rollback (topic normalizedUuid : String) (normalizeUuid : String → String) (transport : Nat) :
    (∀ (c d : BasicMqttClient) trace, c.Settled topic → Reach BasicMqttClient.step (fun _ _ => True) c trace d →
      LastOut topic (trace.map BasicMqttEvent.act) →
        let acts := trace.map BasicMqttEvent.act
        (∀ attempt ∈ begunAt topic acts, kept acts attempt.1 = true → attempt ∈ standing topic acts) ∧
        d.callbacks topic = (lastStanding topic acts).or (c.callbacks topic) ∧
        (d.Settled topic → d.callbacks topic = (lastKept topic acts).or (c.callbacks topic))) ∧
    ∀ (s t : HelperTransports) trace, s.Settled transport normalizedUuid →
      Reach (HelperTransports.step normalizeUuid) (HelperTransports.Connected transport) s trace t →
        LastOut normalizedUuid (trace.map (HelperTransportEvent.act normalizeUuid transport)) →
          let acts := trace.map (HelperTransportEvent.act normalizeUuid transport)
          (∀ attempt ∈ begunAt normalizedUuid acts, kept acts attempt.1 = true → attempt ∈ standing normalizedUuid acts) ∧
          (t.transports transport).subscribers normalizedUuid =
            (lastStanding normalizedUuid acts).or ((s.transports transport).subscribers normalizedUuid) ∧
          (t.Settled transport normalizedUuid → (t.transports transport).subscribers normalizedUuid =
            (lastKept normalizedUuid acts).or ((s.transports transport).subscribers normalizedUuid)) := by
  refine ⟨fun c d trace idle reach lastOut => ?_, fun s t trace idle reach lastOut => ?_⟩
  · obtain ⟨kept, stands, last⟩ := Tracks.books BasicMqttClient.callbacks BasicMqttClient.calls
      (fun _ _ _ _ tracked _ run => BasicMqttClient.Tracked.step tracked run) reach idle.entry lastOut
    exact ⟨kept, stands, fun settled => last settled.entry⟩
  · obtain ⟨kept, stands, last⟩ := Tracks.books (fun s : HelperTransports => (s.transports transport).subscribers)
      HelperTransports.calls (fun _ _ _ _ tracked allowed run => HelperTransports.Tracked.step tracked allowed run) reach idle.entry lastOut
    exact ⟨kept, stands, fun settled => last settled.entry⟩

section Overlaps

/-- A transport whose `connect` has returned. -/
def connectedTransport : HelperTransports :=
  (HelperTransports.create.connect 0 0).connected 0 0 none (.fulfilled "session-1")

theorem connectedTransport_reached : Reach (HelperTransports.step id) (fun _ _ => True) .create
    [.connect 0 0 "24:4C:AB:2C:24:8E", .connected 0 (.fulfilled "session-1") none] connectedTransport :=
  .next (.next .start trivial rfl) trivial rfl

theorem connectedTransport_settled (normalizedUuid : String) : connectedTransport.Settled 0 normalizedUuid := by
  intro call previous entry
  rcases Table.insert_eq_some.mp entry with ⟨_, same⟩ | ⟨_, entry⟩
  · cases same
  rcases Table.insert_eq_some.mp entry with ⟨_, same⟩ | ⟨_, entry⟩
  · cases same
  · cases entry

/-- The second of two overlapping subscriptions succeeds, then the first fails. -/
theorem callback_of_later_success_removed :
    (¬∀ before (c d : BasicMqttClient) trace topic, Reach BasicMqttClient.step (fun _ _ => True) .create before c →
      c.Settled topic → Reach BasicMqttClient.step (fun _ _ => True) c trace d → d.Settled topic →
        d.callbacks topic = (lastKept topic (trace.map BasicMqttEvent.act)).or (c.callbacks topic)) ∧
    ¬∀ normalizeUuid transport before (s t : HelperTransports) trace normalizedUuid,
      Reach (HelperTransports.step normalizeUuid) (fun _ _ => True) .create before s → s.Settled transport normalizedUuid →
        Reach (HelperTransports.step normalizeUuid) (HelperTransports.Connected transport) s trace t →
          t.Settled transport normalizedUuid → (t.transports transport).subscribers normalizedUuid =
            (lastKept normalizedUuid (trace.map (HelperTransportEvent.act normalizeUuid transport))).or
              ((s.transports transport).subscribers normalizedUuid) := by
  constructor
  · intro last
    have both : Reach BasicMqttClient.step (fun _ _ => True) .create _ _ :=
      .next (e := .subscribe 1 "state" 1) (.next (e := .subscribe 0 "state" 0) .start trivial rfl) trivial rfl
    have ended := (both.next (e := .subscribed 1 (.fulfilled ())) trivial rfl).next
      (e := .subscribed 0 (.rejected (.error "Unspecified error"))) trivial rfl
    have callback := last [] _ _ _ "state" .start nofun ended ?_
    · exact absurd callback (by decide)
    · intro call previous entry
      rcases Table.insert_eq_some.mp entry with ⟨_, same⟩ | ⟨first, entry⟩
      · cases same
      rcases Table.insert_eq_some.mp entry with ⟨_, same⟩ | ⟨second, entry⟩
      · cases same
      rcases Table.insert_eq_some.mp entry with ⟨same, _⟩ | ⟨_, entry⟩
      · exact second same
      rcases Table.insert_eq_some.mp entry with ⟨same, _⟩ | ⟨_, entry⟩
      · exact first same
      · cases entry
  · intro last
    have both : Reach (HelperTransports.step id) (HelperTransports.Connected 0) connectedTransport _ _ :=
      .next (e := .subscribe 2 0 "ff01" 1) (.next (e := .subscribe 1 0 "ff01" 0) .start ⟨rfl, nofun⟩ rfl) ⟨rfl, nofun⟩ rfl
    have ended := (both.next (e := .subscribed 2 (.fulfilled ())) ⟨rfl, nofun⟩ rfl).next
      (e := .subscribed 1 (.rejected (.error "GATT error"))) ⟨rfl, nofun⟩ rfl
    have callback := last id 0 _ _ _ _ "ff01" connectedTransport_reached (connectedTransport_settled _) ended ?_
    · exact absurd callback (by decide)
    · intro call previous entry
      rcases Table.insert_eq_some.mp entry with ⟨_, same⟩ | ⟨first, entry⟩
      · cases same
      rcases Table.insert_eq_some.mp entry with ⟨_, same⟩ | ⟨second, entry⟩
      · cases same
      rcases Table.insert_eq_some.mp entry with ⟨same, _⟩ | ⟨_, entry⟩
      · exact second same
      rcases Table.insert_eq_some.mp entry with ⟨same, _⟩ | ⟨_, entry⟩
      · exact first same
      · exact connectedTransport_settled "ff01" call previous entry

/-- The later of two overlapping subscriptions fails, and the earlier one succeeds. -/
theorem lastOut_inTurn (key : String) : LastOut key [.begun 1 key 1, .begun 2 key 2, .undone 2, .kept 1] := by
  rintro before call after earlier value later split begun attempt member
  rcases before with _ | ⟨_, _ | ⟨_, _ | ⟨_, _ | ⟨_, before⟩⟩⟩⟩ <;> simp at split
  obtain ⟨rfl, rfl, rfl, rfl⟩ := split
  have same : [(1, 1), (2, 2)] = earlier ++ (2, value) :: later := by simpa [begunAt] using begun
  rcases earlier with _ | ⟨_, _ | ⟨_, earlier⟩⟩ <;> simp at same
  exact absurd (same.2.2 ▸ member) List.not_mem_nil

theorem subscription_rollback_in_turn :
    let trace : List BasicMqttEvent := [.subscribe 1 "state" 1, .subscribe 2 "state" 2,
      .subscribed 2 (.rejected (.error "Unspecified error")), .subscribed 1 (.fulfilled ())]
    let events : List HelperTransportEvent := [.subscribe 1 0 "ff01" 1, .subscribe 2 0 "ff01" 2,
      .subscribed 2 (.rejected (.error "GATT error")), .subscribed 1 (.fulfilled ())]
    (∃ d, Reach BasicMqttClient.step (fun _ _ => True) .create trace d ∧ d.callbacks "state" = some 1) ∧
      ∃ t, Reach (HelperTransports.step id) (HelperTransports.Connected 0) connectedTransport events t ∧
        (t.transports 0).subscribers "ff01" = some 1 := by
  intro trace events
  constructor
  · have reach : Reach BasicMqttClient.step (fun _ _ => True) .create trace _ :=
      .cons trivial rfl (.cons trivial rfl (.cons trivial rfl (.cons trivial rfl .start)))
    have books := (subscription_rollback "state" "ff01" id 0).1 _ _ trace (fun _ _ entry => by cases entry) reach
      (lastOut_inTurn "state")
    exact ⟨_, reach, books.2.1⟩
  · have reach : Reach (HelperTransports.step id) (HelperTransports.Connected 0) connectedTransport events _ :=
      .cons ⟨rfl, nofun⟩ rfl (.cons ⟨rfl, nofun⟩ rfl (.cons ⟨rfl, nofun⟩ rfl (.cons ⟨rfl, nofun⟩ rfl .start)))
    have books := (subscription_rollback "state" "ff01" id 0).2 _ _ events (connectedTransport_settled "ff01") reach
      (lastOut_inTurn "ff01")
    exact ⟨_, reach, books.2.1⟩

end Overlaps

end BluettiMqtt
