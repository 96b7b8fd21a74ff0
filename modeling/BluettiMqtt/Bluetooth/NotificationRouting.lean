import BluettiMqtt.Bluetooth.HelperTransport
import BluettiMqtt.Library.Transition

namespace BluettiMqtt
open Promise Transition

/-- A call of `subscribe` on a connection. -/
structure Subscription where
  call : Nat
  normalizedUuid : String
  onData : Nat

/-- What the calls of a transport amount to: its session, and the subscriptions
made on it, oldest first, less those that have failed. -/
structure TransportHistory where
  sessionId : Option String
  subscriptions : List Subscription

/-- The histories of all transports. `connects` tells whose session a call of
`connect` returns, `subscribes` whose subscription a call of `subscribe` is. -/
structure TransportHistories where
  histories : Nat → TransportHistory
  connects : Table Nat Nat
  subscribes : Table Nat Nat

/-- The callback in force: that of the latest subscription that has not failed. -/
def inForce (subscriptions : List Subscription) (normalizedUuid : String) : Option Nat :=
  ((subscriptions.filter fun subscription => subscription.normalizedUuid = normalizedUuid).getLast?).map
    Subscription.onData

namespace TransportHistories

def empty : TransportHistories where
  histories := fun _ => { sessionId := none, subscriptions := [] }
  connects := fun _ => none
  subscribes := fun _ => none

def change (h : TransportHistories) (transport : Nat) (f : TransportHistory → TransportHistory) :
    TransportHistories :=
  { h with histories := fun other => if other = transport then f (h.histories other) else h.histories other }

/-- What an event adds to the histories, told without the program's fields. -/
def record (normalizeUuid : String → String) (h : TransportHistories) : HelperTransportEvent → TransportHistories
  | .connect call transport _ => { h with connects := h.connects.insert call transport }
  | .connected call (.fulfilled sessionId) none =>
    match h.connects call with
    | some transport => h.change transport fun _ => { sessionId := some sessionId, subscriptions := [] }
    | none => h
  | .subscribe call transport uuid onData =>
    let noted : TransportHistories := { h with subscribes := h.subscribes.insert call transport }
    noted.change transport fun history =>
      if history.sessionId.isSome then
        { history with subscriptions := history.subscriptions ++
          [{ call := call, normalizedUuid := normalizeUuid uuid, onData := onData }] }
      else history
  | .subscribed call (.rejected _) =>
    match h.subscribes call with
    | some transport => h.change transport fun history =>
      { history with subscriptions := history.subscriptions.filter fun subscription => subscription.call ≠ call }
    | none => h
  | .disconnect _ transport => h.change transport fun _ => { sessionId := none, subscriptions := [] }
  | _ => h

/-- The callback in force for an event on the transport whose session it is of. -/
def Answers (normalizeUuid : String → String) (h : TransportHistories) (event : HelperNotification)
    (callback : Nat) : Prop :=
  ∃ transport, (h.histories transport).sessionId = some event.sessionId ∧
    inForce (h.histories transport).subscriptions (normalizeUuid event.uuid) = some callback

end TransportHistories

/-- The histories after a run. -/
def historiesOf (normalizeUuid : String → String) (trace : List HelperTransportEvent) : TransportHistories :=
  trace.foldl (TransportHistories.record normalizeUuid) TransportHistories.empty

theorem historiesOf_append (normalizeUuid : String → String) (trace : List HelperTransportEvent)
    (event : HelperTransportEvent) : historiesOf normalizeUuid (trace ++ [event]) = (historiesOf normalizeUuid trace).record normalizeUuid event :=
  List.foldl_append ..

namespace HelperTransports

variable {normalizeUuid : String → String} {s t : HelperTransports} {h : TransportHistories}
  {call transport : Nat}

/-- No call of the transport is in progress. -/
def Free (s : HelperTransports) (transport : Nat) : Prop :=
  ∀ call phase, s.calls call = some ⟨transport, phase⟩ → phase.inProgress = false

/-- The calls of one transport follow each other, and the helper gives every
session an id of its own. -/
def Orderly (s : HelperTransports) : HelperTransportEvent → Prop
  | .connect _ transport _ => s.Free transport
  | .subscribe _ transport _ _ => s.Free transport
  | .disconnect _ transport => s.Free transport
  | .connected _ (.fulfilled sessionId) _ => sessionId ∉ s.sessions
  | _ => True

theorem inForce_append (subscriptions : List Subscription) (latest : Subscription) (normalizedUuid : String) :
    inForce (subscriptions ++ [latest]) normalizedUuid =
      if latest.normalizedUuid = normalizedUuid then some latest.onData
      else inForce subscriptions normalizedUuid := by
  by_cases same : latest.normalizedUuid = normalizedUuid <;> simp [inForce, List.filter_append, same]

/-- How the fields of a transport follow its history. `listeners` are the
closures that belong to the transport. -/
structure Follows (fields : HelperTransport) (listeners : List NotificationListener)
    (history : TransportHistory) : Prop where
  sessionId : fields.sessionId = history.sessionId
  subscribers : ∀ normalizedUuid, fields.subscribers normalizedUuid =
    inForce history.subscriptions normalizedUuid
  listening : listeners = fields.unsubscribeNotification.toList
  connected : history.sessionId.isSome = fields.unsubscribeNotification.isSome
  unused : history.sessionId = none → history.subscriptions = []

/-- What holds of a call in progress. A subscription in progress is the latest
of its transport, and its call knows which callback was in force before. -/
def Underway (h : TransportHistories) (call : Nat) : HelperTransportCall → Prop
  | ⟨transport, .connecting⟩ =>
    h.connects call = some transport ∧ (h.histories transport).sessionId = none
  | ⟨transport, .unwiring _⟩ => (h.histories transport).sessionId = none
  | ⟨transport, .subscribing normalizedUuid previous⟩ =>
    h.subscribes call = some transport ∧ (h.histories transport).sessionId.isSome = true ∧
      ∃ earlier onData, (h.histories transport).subscriptions =
          earlier ++ [{ call := call, normalizedUuid := normalizedUuid, onData := onData }] ∧
        (∀ subscription ∈ earlier, subscription.call ≠ call) ∧ previous = inForce earlier normalizedUuid
  | ⟨_, .disconnecting⟩ => True
  | ⟨_, .settled _⟩ => True

/-- The closures of one transport among the client's listeners. -/
def listenersOf (s : HelperTransports) (transport : Nat) : List NotificationListener :=
  s.notificationListeners.filter fun listener => listener.transport = transport

/-- The transports follow their histories, and no two have the same session. -/
structure Consistent (s : HelperTransports) (h : TransportHistories) : Prop where
  follows : ∀ transport, Follows (s.transports transport) (s.listenersOf transport) (h.histories transport)
  underway : ∀ call record, s.calls call = some record → Underway h call record
  alone : ∀ one other transport first second, s.calls one = some ⟨transport, first⟩ →
    s.calls other = some ⟨transport, second⟩ → first.inProgress = true → second.inProgress = true → one = other
  known : ∀ transport, ∀ subscription ∈ (h.histories transport).subscriptions,
    (s.calls subscription.call).isSome = true
  issued : ∀ transport sessionId, (h.histories transport).sessionId = some sessionId → sessionId ∈ s.sessions
  distinct : ∀ one other sessionId, (h.histories one).sessionId = some sessionId →
    (h.histories other).sessionId = some sessionId → one = other

/-- A step of one call of a transport leaves the others alone. -/
structure Local (s t : HelperTransports) (h k : TransportHistories) (call transport : Nat) : Prop where
  transports : ∀ other, other ≠ transport → t.transports other = s.transports other
  listeners : ∀ other, other ≠ transport → t.listenersOf other = s.listenersOf other
  histories : ∀ other, other ≠ transport → k.histories other = h.histories other
  connects : ∀ other, other ≠ call → k.connects other = h.connects other
  subscribes : ∀ other, other ≠ call → k.subscribes other = h.subscribes other

variable {k : TransportHistories}

theorem Underway.congr {record : HelperTransportCall} (underway : Underway h call record)
    (histories : k.histories record.transport = h.histories record.transport)
    (connects : k.connects call = h.connects call) (subscribes : k.subscribes call = h.subscribes call) :
    Underway k call record := by
  obtain ⟨transport, phase⟩ := record
  cases phase with
  | connecting => exact ⟨connects.trans underway.1, (congrArg TransportHistory.sessionId histories).trans underway.2⟩
  | unwiring error => exact (congrArg TransportHistory.sessionId histories).trans underway
  | subscribing normalizedUuid previous =>
    obtain ⟨mine, session, latest⟩ := underway
    refine ⟨subscribes.trans mine, ?_, ?_⟩ <;> rw [histories]
    · exact session
    · exact latest
  | disconnecting => trivial
  | settled outcome => trivial

/-- One step, at the only call of its transport that is in progress. -/
theorem Consistent.move (consistent : Consistent s h) (call transport : Nat) (phase : HelperTransportPhase)
    (frame : Local s t h k call transport) (calls : t.calls = s.calls.insert call ⟨transport, phase⟩)
    (alone : ∀ one other, s.calls one = some ⟨transport, other⟩ → other.inProgress = true → one = call)
    (follows : Follows (t.transports transport) (t.listenersOf transport) (k.histories transport))
    (underway : Underway k call ⟨transport, phase⟩)
    (known : ∀ subscription ∈ (k.histories transport).subscriptions,
      subscription.call = call ∨ subscription ∈ (h.histories transport).subscriptions)
    (sessions : ∀ sessionId ∈ s.sessions, sessionId ∈ t.sessions)
    (issued : ∀ sessionId, (k.histories transport).sessionId = some sessionId →
      (h.histories transport).sessionId = some sessionId ∨ sessionId ∈ t.sessions ∧ sessionId ∉ s.sessions) :
    Consistent t k := by
  have entry (one : Nat) (record : HelperTransportCall) (found : t.calls one = some record) :
      one = call ∧ record = ⟨transport, phase⟩ ∨ one ≠ call ∧ s.calls one = some record := by
    rw [calls] at found
    exact Table.insert_eq_some.mp found
  have issuedAfter (other : Nat) (sessionId : String) (found : (k.histories other).sessionId = some sessionId) :
      sessionId ∈ t.sessions := by
    by_cases here : other = transport
    · subst here
      rcases issued sessionId found with before | ⟨new, _⟩
      · exact sessions sessionId (consistent.issued other sessionId before)
      · exact new
    · rw [frame.histories other here] at found
      exact sessions sessionId (consistent.issued other sessionId found)
  have apart (other : Nat) (sessionId : String) (different : other ≠ transport)
      (here : (k.histories transport).sessionId = some sessionId)
      (there : (k.histories other).sessionId = some sessionId) : other = transport := by
    rw [frame.histories other different] at there
    rcases issued sessionId here with before | ⟨_, new⟩
    · exact consistent.distinct other transport sessionId there before
    · exact absurd (consistent.issued other sessionId there) new
  constructor
  · intro other
    by_cases here : other = transport
    · exact here ▸ follows
    · rw [frame.transports other here, frame.listeners other here, frame.histories other here]
      exact consistent.follows other
  · intro one record found
    rcases entry one record found with ⟨rfl, rfl⟩ | ⟨different, before⟩
    · exact underway
    · by_cases here : record.transport = transport
      · obtain ⟨_, other⟩ := record
        cases here
        cases progress : other.inProgress with
        | true => exact absurd (alone one other before progress) different
        | false =>
          cases other with
          | settled outcome => trivial
          | _ => cases progress
      · exact (consistent.underway one record before).congr (frame.histories _ here)
          (frame.connects one different) (frame.subscribes one different)
  · intro one other shared first second foundFirst foundSecond progressFirst progressSecond
    rcases entry one _ foundFirst with ⟨rfl, same⟩ | ⟨_, beforeFirst⟩
    · cases same
      rcases entry other _ foundSecond with ⟨rfl, _⟩ | ⟨_, beforeSecond⟩
      · rfl
      · exact (alone other second beforeSecond progressSecond).symm
    · rcases entry other _ foundSecond with ⟨rfl, same⟩ | ⟨_, beforeSecond⟩
      · cases same
        exact alone one first beforeFirst progressFirst
      · exact consistent.alone one other shared first second beforeFirst beforeSecond progressFirst progressSecond
  · intro other subscription member
    have before : subscription.call = call ∨ (s.calls subscription.call).isSome = true := by
      by_cases here : other = transport
      · subst here
        exact (known subscription member).imp_right (consistent.known other subscription)
      · rw [frame.histories other here] at member
        exact Or.inr (consistent.known other subscription member)
    rw [calls]
    rcases before with same | found
    · simp [same]
    · by_cases same : subscription.call = call
      · simp [same]
      · rwa [Table.insert_of_ne _ _ same]
  · exact issuedAfter
  · intro one other sessionId first second
    by_cases here : one = transport
    · subst here
      by_cases there : other = one
      · exact there.symm
      · exact (apart other sessionId there first second).symm
    · by_cases there : other = transport
      · subst there
        exact apart one sessionId here second first
      · rw [frame.histories one here] at first
        rw [frame.histories other there] at second
        exact consistent.distinct one other sessionId first second

theorem change_self (h : TransportHistories) (transport : Nat) (f : TransportHistory → TransportHistory) :
    (h.change transport f).histories transport = f (h.histories transport) :=
  if_pos rfl

theorem change_of_ne (h : TransportHistories) {transport other : Nat} (f : TransportHistory → TransportHistory)
    (different : other ≠ transport) : (h.change transport f).histories other = h.histories other :=
  if_neg different

/-- A call whose transport keeps its fields and its history. -/
theorem Consistent.setCall (consistent : Consistent s h) {phase : HelperTransportPhase}
    (alone : ∀ one other, s.calls one = some ⟨transport, other⟩ → other.inProgress = true → one = call)
    (histories : k.histories = h.histories)
    (connects : ∀ other, other ≠ call → k.connects other = h.connects other)
    (subscribes : ∀ other, other ≠ call → k.subscribes other = h.subscribes other)
    (underway : Underway k call ⟨transport, phase⟩) : Consistent (s.setCall call transport phase) k := by
  refine consistent.move call transport _
    ⟨fun _ _ => rfl, fun _ _ => rfl, fun _ _ => congrFun histories _, connects, subscribes⟩ rfl alone ?_
    underway ?_ (fun _ issued => issued) ?_ <;> rw [histories]
  · exact consistent.follows transport
  · exact fun _ member => Or.inr member
  · exact fun _ found => Or.inl found

/-- A call in progress is the only one of its transport. -/
theorem Consistent.only (consistent : Consistent s h) {phase : HelperTransportPhase}
    (place : s.calls call = some ⟨transport, phase⟩) (progress : phase.inProgress = true) (one : Nat)
    (other : HelperTransportPhase) (found : s.calls one = some ⟨transport, other⟩) (still : other.inProgress = true) :
    one = call :=
  consistent.alone one call transport other phase found place still progress

/-- A new call finds no other of its transport in progress. -/
theorem Free.only (free : s.Free transport) (one : Nat) (other : HelperTransportPhase)
    (found : s.calls one = some ⟨transport, other⟩) (still : other.inProgress = true) : one = call := by
  rw [free one other found] at still
  cases still

theorem Consistent.connect (consistent : Consistent s h) (free : s.Free transport) :
    Consistent (s.connect call transport) { h with connects := h.connects.insert call transport } := by
  unfold HelperTransports.connect
  split
  · exact consistent.setCall free.only rfl (fun other different => Table.insert_of_ne _ _ different)
      (fun _ _ => rfl) trivial
  · rename_i unconnected
    refine consistent.setCall free.only rfl (fun other different => Table.insert_of_ne _ _ different)
      (fun _ _ => rfl) ⟨Table.insert_self _ _ _, ?_⟩
    rw [← (consistent.follows transport).sessionId]
    simpa using unconnected

/-- Without a session a transport has no listener and no subscriber. -/
theorem Follows.idle {fields : HelperTransport} {listeners : List NotificationListener}
    {history : TransportHistory} (follows : Follows fields listeners history)
    (unconnected : history.sessionId = none) :
    fields.sessionId = none ∧ fields.unsubscribeNotification = none ∧ listeners = [] ∧
      ∀ normalizedUuid, fields.subscribers normalizedUuid = none := by
  have silent : fields.unsubscribeNotification = none := by
    have connected := follows.connected
    rw [unconnected] at connected
    simpa using connected.symm
  refine ⟨follows.sessionId.trans unconnected, silent, ?_, fun normalizedUuid => ?_⟩
  · rw [follows.listening, silent]
    rfl
  · rw [follows.subscribers, follows.unused unconnected]
    rfl

/-- The session is taken over, and its listener installed. -/
theorem Consistent.opened (consistent : Consistent s h) {sessionId : String}
    (place : s.calls call = some ⟨transport, .connecting⟩) (fresh : sessionId ∉ s.sessions) :
    Consistent (s.connected call transport none (.fulfilled sessionId))
      (h.change transport fun _ => { sessionId := some sessionId, subscriptions := [] }) := by
  obtain ⟨_, unconnected⟩ := consistent.underway call _ place
  obtain ⟨_, _, unheard, unsubscribed⟩ := (consistent.follows transport).idle unconnected
  refine consistent.move call transport _
    ⟨fun other different => ?_, fun other different => ?_, fun other different => ?_, fun _ _ => rfl, fun _ _ => rfl⟩
    rfl (consistent.only place rfl) ?_ trivial ?_ ?_ ?_
  · exact if_neg different
  · change (s.notificationListeners ++ [_]).filter _ = _
    simp [listenersOf, Ne.symm different]
  · exact change_of_ne _ _ different
  · rw [change_self]
    have fields : (s.connected call transport none (.fulfilled sessionId)).transports transport =
        { s.transports transport with
          sessionId := some sessionId
          unsubscribeNotification := some { call := call, transport := transport } } :=
      if_pos rfl
    rw [fields]
    refine ⟨rfl, unsubscribed, ?_, rfl, (fun absurd => nomatch absurd)⟩
    change (s.notificationListeners ++ [_]).filter _ = _
    rw [List.filter_append]
    exact congrArg₂ (· ++ ·) unheard (by simp)
  · rw [change_self]
    exact fun _ member => nomatch member
  · exact fun _ member => List.mem_append_left _ member
  · rw [change_self]
    rintro _ ⟨⟩
    exact Or.inr ⟨List.mem_append_right _ (List.mem_singleton.mpr rfl), fresh⟩

/-- The listener cannot be installed, and the session is given back. -/
theorem Consistent.unwired (consistent : Consistent s h) {sessionId : String} {error : Failure}
    (place : s.calls call = some ⟨transport, .connecting⟩) :
    Consistent (s.connected call transport (some error) (.fulfilled sessionId)) h := by
  obtain ⟨_, unconnected⟩ := consistent.underway call _ place
  have follows := consistent.follows transport
  refine consistent.move call transport _
    ⟨fun other different => ?_, fun _ _ => rfl, fun _ _ => rfl, fun _ _ => rfl, fun _ _ => rfl⟩
    rfl (consistent.only place rfl) ?_ unconnected (fun _ member => Or.inr member) ?_ (fun _ found => Or.inl found)
  · exact if_neg different
  · have fields : (s.connected call transport (some error) (.fulfilled sessionId)).transports transport =
        { s.transports transport with sessionId := none } :=
      if_pos rfl
    rw [fields]
    exact ⟨unconnected.symm, follows.subscribers, follows.listening, follows.connected, follows.unused⟩
  · exact fun _ member => List.mem_append_left _ member

/-- A subscription on a connection comes into force at once. -/
theorem Consistent.subscribing (consistent : Consistent s h) (free : s.Free transport)
    (fresh : s.calls call = none) {sessionId : String} (session : (s.transports transport).sessionId = some sessionId)
    (uuid : String) (onData : Nat) :
    Consistent (s.subscribe call transport (normalizeUuid uuid) onData)
      (h.record normalizeUuid (.subscribe call transport uuid onData)) := by
  have follows := consistent.follows transport
  have connected : (h.histories transport).sessionId = some sessionId := follows.sessionId.symm.trans session
  have fields : (s.subscribe call transport (normalizeUuid uuid) onData).transports transport =
      { s.transports transport with
        subscribers := (s.transports transport).subscribers.insert (normalizeUuid uuid) onData } := by
    simp [HelperTransports.subscribe, session, HelperTransports.setCall, setTransport]
  have history : (h.record normalizeUuid (.subscribe call transport uuid onData)).histories transport =
      { h.histories transport with subscriptions := (h.histories transport).subscriptions ++
        [{ call := call, normalizedUuid := normalizeUuid uuid, onData := onData }] } := by
    simp [TransportHistories.record, TransportHistories.change, connected]
  have shape : s.subscribe call transport (normalizeUuid uuid) onData =
      (s.setTransport transport fun fields =>
        { fields with subscribers := fields.subscribers.insert (normalizeUuid uuid) onData }).setCall call transport
        (.subscribing (normalizeUuid uuid) ((s.transports transport).subscribers (normalizeUuid uuid))) := by
    simp only [HelperTransports.subscribe, session]
  refine consistent.move call transport
    (.subscribing (normalizeUuid uuid) ((s.transports transport).subscribers (normalizeUuid uuid)))
    ⟨fun other different => ?_, fun _ _ => ?_, fun other different => if_neg different, fun _ _ => rfl,
      fun other different => Table.insert_of_ne _ _ different⟩ ?_ free.only ?_ ?_ ?_ ?_ ?_
  · rw [shape]
    exact if_neg different
  · rw [shape]
    rfl
  · rw [shape]
    rfl
  · have listeners : (s.subscribe call transport (normalizeUuid uuid) onData).listenersOf transport =
        s.listenersOf transport := by
      rw [shape]
      rfl
    rw [fields, history, listeners]
    refine ⟨follows.sessionId, fun normalizedUuid => ?_, follows.listening, follows.connected, ?_⟩
    · rw [inForce_append]
      by_cases same : normalizeUuid uuid = normalizedUuid
      · rw [if_pos same, ← same]
        exact Table.insert_self _ _ _
      · rw [if_neg same, ← follows.subscribers normalizedUuid]
        exact Table.insert_of_ne _ _ (Ne.symm same)
    · intro unconnected
      cases connected.symm.trans unconnected
  · refine ⟨Table.insert_self _ _ _, ?_, (h.histories transport).subscriptions, onData, ?_, ?_, ?_⟩
    · rw [history]
      exact Option.isSome_iff_exists.mpr ⟨sessionId, connected⟩
    · rw [history]
    · intro subscription member same
      have known := consistent.known transport subscription member
      rw [same, fresh] at known
      cases known
    · exact follows.subscribers _
  · rw [history]
    intro subscription member
    rcases List.mem_append.mp member with earlier | latest
    · exact Or.inr earlier
    · exact Or.inl (congrArg Subscription.call (List.mem_singleton.mp latest))
  · rw [shape]
    exact fun _ issued => issued
  · rw [history]
    exact fun _ found => Or.inl found

/-- Without a session the callback is registered and removed again at once. -/
theorem Consistent.unsubscribed (consistent : Consistent s h) (free : s.Free transport)
    (session : (s.transports transport).sessionId = none) (uuid : String) (onData : Nat) :
    Consistent (s.subscribe call transport (normalizeUuid uuid) onData)
      (h.record normalizeUuid (.subscribe call transport uuid onData)) := by
  have follows := consistent.follows transport
  have unconnected : (h.histories transport).sessionId = none := follows.sessionId.symm.trans session
  obtain ⟨_, _, _, unsubscribed⟩ := follows.idle unconnected
  have transports : (s.subscribe call transport (normalizeUuid uuid) onData).transports = s.transports := by
    funext other
    by_cases here : other = transport
    · subst here
      have restored : ((s.transports other).subscribers.insert (normalizeUuid uuid) onData).erase
          (normalizeUuid uuid) = (s.transports other).subscribers := by
        funext normalizedUuid
        by_cases same : normalizedUuid = normalizeUuid uuid
        · simp [Table.erase, same, unsubscribed]
        · simp [Table.erase, Table.insert, same]
      simp [HelperTransports.subscribe, session, HelperTransports.setCall, setTransport, unsubscribed,
        restoreSubscriber, restored]
      rw [← session]
    · simp [HelperTransports.subscribe, session, HelperTransports.setCall, setTransport, here]
  have shape : s.subscribe call transport (normalizeUuid uuid) onData =
      s.setCall call transport (.settled (.rejected (.error "Helper transport is not connected"))) := by
    have same : s.subscribe call transport (normalizeUuid uuid) onData =
        { s.setCall call transport (.settled (.rejected (.error "Helper transport is not connected"))) with
          transports := (s.subscribe call transport (normalizeUuid uuid) onData).transports } := by
      simp only [HelperTransports.subscribe, session]
      rfl
    rw [same, transports]
    rfl
  have histories : (h.record normalizeUuid (.subscribe call transport uuid onData)).histories = h.histories := by
    funext other
    by_cases here : other = transport
    · simp [TransportHistories.record, TransportHistories.change, here, unconnected]
    · exact if_neg here
  rw [shape]
  exact consistent.setCall free.only histories (fun _ _ => rfl)
    (fun other different => Table.insert_of_ne _ _ different) trivial

theorem Consistent.subscribe (consistent : Consistent s h) (free : s.Free transport)
    (fresh : s.calls call = none) (uuid : String) (onData : Nat) :
    Consistent (s.subscribe call transport (normalizeUuid uuid) onData)
      (h.record normalizeUuid (.subscribe call transport uuid onData)) := by
  cases session : (s.transports transport).sessionId with
  | none => exact consistent.unsubscribed free session uuid onData
  | some sessionId => exact consistent.subscribing free fresh session uuid onData

/-- A refused subscription puts the earlier callback back in force. -/
theorem Consistent.refused (consistent : Consistent s h) {wanted : String} {previous : Option Nat} {error : Failure}
    (place : s.calls call = some ⟨transport, .subscribing wanted previous⟩) :
    Consistent (s.subscribed call transport wanted previous (.rejected error))
      (h.record normalizeUuid (.subscribed call (.rejected error))) := by
  obtain ⟨mine, session, earlier, onData, latest, others, before⟩ := consistent.underway call _ place
  have follows := consistent.follows transport
  have history : (h.record normalizeUuid (.subscribed call (.rejected error))).histories transport =
      { h.histories transport with subscriptions := earlier } := by
    have kept : (earlier.filter fun subscription => subscription.call ≠ call) = earlier :=
      List.filter_eq_self.mpr fun subscription member => by simpa using others subscription member
    simp only [TransportHistories.record, mine, change_self, latest, List.filter_append, kept]
    simp
  have elsewhere (other : Nat) (different : other ≠ transport) :
      (h.record normalizeUuid (.subscribed call (.rejected error))).histories other = h.histories other := by
    simp only [TransportHistories.record, mine]
    exact if_neg different
  have same : (h.record normalizeUuid (.subscribed call (.rejected error))).connects = h.connects ∧
      (h.record normalizeUuid (.subscribed call (.rejected error))).subscribes = h.subscribes := by
    simp only [TransportHistories.record, mine]
    exact ⟨rfl, rfl⟩
  have fields : (s.subscribed call transport wanted previous (.rejected error)).transports transport =
      restoreSubscriber (s.transports transport) wanted previous :=
    if_pos rfl
  have restored (normalizedUuid : String) :
      (restoreSubscriber (s.transports transport) wanted previous).subscribers normalizedUuid =
        inForce earlier normalizedUuid := by
    have here := follows.subscribers normalizedUuid
    rw [latest, inForce_append] at here
    by_cases target : wanted = normalizedUuid
    · subst target
      rw [← before]
      cases previous <;> simp [restoreSubscriber, Table.erase]
    · rw [if_neg target] at here
      rw [← here]
      cases previous <;> simp [restoreSubscriber, Table.erase, Table.insert, Ne.symm target]
  have kept : (restoreSubscriber (s.transports transport) wanted previous).sessionId =
      (s.transports transport).sessionId ∧
      (restoreSubscriber (s.transports transport) wanted previous).unsubscribeNotification =
        (s.transports transport).unsubscribeNotification := by
    cases previous <;> exact ⟨rfl, rfl⟩
  refine consistent.move call transport _
    ⟨fun other different => if_neg different, fun _ _ => rfl, elsewhere, fun _ _ => by rw [same.1],
      fun _ _ => by rw [same.2]⟩ rfl (consistent.only place rfl) ?_ trivial ?_ (fun _ issued => issued) ?_
  · rw [fields, history]
    refine ⟨kept.1.trans follows.sessionId, restored, ?_, ?_, ?_⟩
    · rw [kept.2]
      exact follows.listening
    · rw [kept.2]
      exact follows.connected
    · intro unconnected
      have none : (h.histories transport).sessionId = none := unconnected
      rw [none] at session
      cases session
  · rw [history, latest]
    exact fun _ member => Or.inr (List.mem_append_left _ member)
  · rw [history]
    exact fun _ found => Or.inl found

/-- `disconnect` forgets the session before it awaits anything. -/
theorem Consistent.disconnect (consistent : Consistent s h) (free : s.Free transport) :
    Consistent (s.disconnect call transport)
      (h.change transport fun _ => { sessionId := none, subscriptions := [] }) := by
  have follows := consistent.follows transport
  have awaited : ∃ phase, (s.disconnect call transport).calls = s.calls.insert call ⟨transport, phase⟩ ∧
      Underway (h.change transport fun _ => { sessionId := none, subscriptions := [] }) call ⟨transport, phase⟩ := by
    cases session : (s.transports transport).sessionId with
    | none =>
      refine ⟨.settled (.fulfilled ()), ?_, trivial⟩
      simp only [HelperTransports.disconnect, session]
      rfl
    | some sessionId =>
      refine ⟨.disconnecting, ?_, trivial⟩
      simp only [HelperTransports.disconnect, session]
      rfl
  have shape : (s.disconnect call transport).notificationListeners =
        (s.notificationListeners.filter fun listener =>
          some listener ≠ (s.transports transport).unsubscribeNotification) ∧
      (s.disconnect call transport).sessions = s.sessions ∧
      (s.disconnect call transport).transports = (s.setTransport transport fun _ =>
        { sessionId := none, unsubscribeNotification := none, subscribers := fun _ => none }).transports := by
    cases session : (s.transports transport).sessionId <;> simp only [HelperTransports.disconnect, session] <;>
      exact ⟨rfl, rfl, rfl⟩
  obtain ⟨phase, calls⟩ := awaited
  obtain ⟨listeners, sessions, transports⟩ := shape
  have listened (other : Nat) : (s.disconnect call transport).listenersOf other =
      (s.listenersOf other).filter fun listener =>
        some listener ≠ (s.transports transport).unsubscribeNotification := by
    rw [listenersOf, listeners, listenersOf, List.filter_filter, List.filter_filter]
    simp only [Bool.and_comm]
  refine consistent.move call transport phase
    ⟨fun other different => ?_, fun other different => ?_, fun other different => if_neg different,
      fun _ _ => rfl, fun _ _ => rfl⟩ calls.1 free.only ?_ calls.2 ?_ ?_ ?_
  · rw [transports]
    exact if_neg different
  · rw [listened]
    refine List.filter_eq_self.mpr fun listener member => decide_eq_true fun same => ?_
    have mine : listener ∈ s.listenersOf transport := by
      rw [follows.listening, ← same]
      exact List.mem_singleton.mpr rfl
    have here := of_decide_eq_true (List.mem_filter.mp member).2
    have there := of_decide_eq_true (List.mem_filter.mp mine).2
    exact different (here.symm.trans there)
  · rw [change_self, listened, follows.listening, transports]
    have fields : (s.setTransport transport fun _ =>
        { sessionId := none, unsubscribeNotification := none, subscribers := fun _ => none }).transports transport =
        HelperTransport.create :=
      if_pos rfl
    rw [fields]
    refine ⟨rfl, (fun _ => rfl), ?_, rfl, (fun _ => rfl)⟩
    cases (s.transports transport).unsubscribeNotification <;> simp [HelperTransport.create]
  · rw [change_self]
    exact fun _ member => nomatch member
  · rw [sessions]
    exact fun _ issued => issued
  · rw [change_self]
    exact fun _ absurd => nomatch absurd

theorem Consistent.step {event : HelperTransportEvent} (consistent : Consistent s h) (orderly : s.Orderly event)
    (run : s.step normalizeUuid event = some t) : Consistent t (h.record normalizeUuid event) := by
  cases event with
  | connect call transport address =>
    obtain ⟨_, run⟩ := Option.ite_none_right_eq_some.mp run
    cases run
    exact consistent.connect orderly
  | connected call result wiring =>
    simp only [HelperTransports.step] at run
    split at run
    · rename_i transport place
      cases run
      cases result with
      | fulfilled sessionId =>
        cases wiring with
        | none =>
          have mine := (consistent.underway call _ place).1
          simp only [TransportHistories.record, mine]
          exact consistent.opened place orderly
        | some error => exact consistent.unwired place
      | rejected error =>
        have silent : h.record normalizeUuid (.connected call (.rejected error) wiring) = h := by
          cases wiring <;> rfl
        rw [silent]
        exact consistent.setCall (consistent.only place rfl) rfl (fun _ _ => rfl) (fun _ _ => rfl) trivial
    · cases run
  | unwired call result =>
    simp only [HelperTransports.step] at run
    split at run
    · rename_i transport error place
      cases run
      exact consistent.setCall (consistent.only place rfl) rfl (fun _ _ => rfl) (fun _ _ => rfl) trivial
    · cases run
  | subscribe call transport uuid onData =>
    obtain ⟨fresh, run⟩ := Option.ite_none_right_eq_some.mp run
    cases run
    exact consistent.subscribe orderly (Option.isNone_iff_eq_none.mp fresh) uuid onData
  | subscribed call result =>
    simp only [HelperTransports.step] at run
    split at run
    · rename_i transport wanted previous place
      cases run
      cases result with
      | fulfilled =>
        exact consistent.setCall (consistent.only place rfl) rfl (fun _ _ => rfl) (fun _ _ => rfl) trivial
      | rejected error => exact consistent.refused place
    · cases run
  | disconnect call transport =>
    obtain ⟨_, run⟩ := Option.ite_none_right_eq_some.mp run
    cases run
    exact consistent.disconnect orderly
  | disconnected call result =>
    simp only [HelperTransports.step] at run
    split at run
    · rename_i transport place
      cases run
      exact consistent.setCall (consistent.only place rfl) rfl (fun _ _ => rfl) (fun _ _ => rfl) trivial
    · cases run
  | notification event =>
    cases run
    exact ⟨consistent.follows, consistent.underway, consistent.alone, consistent.known, consistent.issued,
      consistent.distinct⟩

theorem consistent_of_reach {trace : List HelperTransportEvent}
    (reach : Reach (HelperTransports.step normalizeUuid) Orderly create trace s) :
    Consistent s (historiesOf normalizeUuid trace) := by
  induction reach with
  | start =>
    exact ⟨fun _ => ⟨rfl, (fun _ => rfl), rfl, rfl, (fun _ => rfl)⟩, (fun _ _ found => nomatch found),
      (fun _ _ _ _ _ found => nomatch found), (fun _ _ member => nomatch member), (fun _ _ found => nomatch found),
      (fun _ _ _ found => nomatch found)⟩
  | next _ orderly run ih =>
    rw [historiesOf_append]
    exact ih.step orderly run

/-- The listeners of one transport hand an event of its session to the callback
in force, and the others ignore it. -/
theorem Consistent.delivered (normalizeUuid : String → String) (consistent : Consistent s h) {event : HelperNotification}
    (session : (h.histories transport).sessionId = some event.sessionId) :
    s.notificationListeners.filterMap (s.deliver normalizeUuid event) =
      ((inForce (h.histories transport).subscriptions (normalizeUuid event.uuid)).map
        fun callback => (callback, event.data)).toList := by
  have follows := consistent.follows transport
  have ignored (listener : NotificationListener) (elsewhere : listener.transport ≠ transport) :
      s.deliver normalizeUuid event listener = none := by
    refine if_pos fun same => elsewhere ?_
    rw [(consistent.follows listener.transport).sessionId] at same
    exact consistent.distinct listener.transport transport event.sessionId same.symm session
  have own : s.notificationListeners.filterMap (s.deliver normalizeUuid event) =
      (s.listenersOf transport).filterMap (s.deliver normalizeUuid event) := by
    rw [listenersOf, List.filterMap_filter]
    refine List.filterMap_congr fun listener _ => ?_
    by_cases here : listener.transport = transport
    · simp [here]
    · simp [here, ignored listener here]
  obtain ⟨listener, wired⟩ : ∃ listener, (s.transports transport).unsubscribeNotification = some listener := by
    have connected := follows.connected
    rw [session] at connected
    exact Option.isSome_iff_exists.mp connected.symm
  have mine : listener.transport = transport := by
    have member : listener ∈ s.listenersOf transport := by
      rw [follows.listening, wired]
      exact List.mem_singleton.mpr rfl
    exact of_decide_eq_true (List.mem_filter.mp member).2
  have called : s.deliver normalizeUuid event listener =
      (inForce (h.histories transport).subscriptions (normalizeUuid event.uuid)).map
        fun callback => (callback, event.data) := by
    simp only [deliver, mine, follows.sessionId, session, follows.subscribers]
    exact if_neg (not_not_intro rfl)
  rw [own, follows.listening, wired]
  simp only [Option.toList_some, List.filterMap_cons, List.filterMap_nil, called]
  cases inForce (h.histories transport).subscriptions (normalizeUuid event.uuid) <;> rfl

/-- An event of no current session reaches nobody. -/
theorem Consistent.undelivered (consistent : Consistent s h) {event : HelperNotification}
    (gone : ∀ transport, (h.histories transport).sessionId ≠ some event.sessionId) :
    s.notificationListeners.filterMap (s.deliver normalizeUuid event) = [] := by
  refine List.filterMap_eq_nil_iff.mpr fun listener _ => if_pos fun same => gone listener.transport ?_
  rw [← (consistent.follows listener.transport).sessionId]
  exact same.symm

theorem connected_deliveries (s : HelperTransports) (call transport : Nat) (wiring : Option Failure)
    (result : Settlement Failure String) :
    (s.connected call transport wiring result).deliveries = s.deliveries := by
  cases result with
  | fulfilled => cases wiring <;> rfl
  | rejected => rfl

/-- Only notifications are delivered. -/
theorem step_deliveries {event : HelperTransportEvent} (run : s.step normalizeUuid event = some t)
    (other : ∀ notification, event ≠ .notification notification) : t.deliveries = s.deliveries := by
  cases event with
  | connect call transport address =>
    obtain ⟨_, run⟩ := Option.ite_none_right_eq_some.mp run
    cases run
    unfold HelperTransports.connect
    split <;> rfl
  | connected call result wiring =>
    simp only [HelperTransports.step] at run
    split at run
    · cases run
      exact connected_deliveries s call _ wiring result
    · cases run
  | unwired call result =>
    simp only [HelperTransports.step] at run
    split at run
    · cases run
      rfl
    · cases run
  | subscribe call transport uuid onData =>
    obtain ⟨_, run⟩ := Option.ite_none_right_eq_some.mp run
    cases run
    cases session : (s.transports transport).sessionId <;> simp only [HelperTransports.subscribe, session] <;> rfl
  | subscribed call result =>
    simp only [HelperTransports.step] at run
    split at run
    · cases run
      cases result <;> rfl
    · cases run
  | disconnect call transport =>
    obtain ⟨_, run⟩ := Option.ite_none_right_eq_some.mp run
    cases run
    cases session : (s.transports transport).sessionId <;> simp only [HelperTransports.disconnect, session] <;> rfl
  | disconnected call result =>
    simp only [HelperTransports.step] at run
    split at run
    · cases run
      rfl
    · cases run
  | notification event => exact absurd rfl (other event)

/-- After every run the transports have the sessions of their histories, no two
the same. A notification goes to the callback in force on the transport whose
session it is of, once, and to nobody when there is none; nothing else is
delivered. -/
theorem notifications_reach_their_callbacks {trace : List HelperTransportEvent}
    (reach : Reach (HelperTransports.step normalizeUuid) Orderly create trace s) :
    (∀ transport, (s.transports transport).sessionId =
      ((historiesOf normalizeUuid trace).histories transport).sessionId) ∧
    (∀ one other sessionId, (s.transports one).sessionId = some sessionId →
      (s.transports other).sessionId = some sessionId → one = other) ∧
    (∀ event t, s.step normalizeUuid event = some t → (∀ notification, event ≠ .notification notification) →
      t.deliveries = s.deliveries) ∧
    ∀ event, ∃ t, s.step normalizeUuid (.notification event) = some t ∧
      ((∃ callback, (historiesOf normalizeUuid trace).Answers normalizeUuid event callback ∧
          t.deliveries = s.deliveries ++ [(callback, event.data)]) ∨
        (¬∃ callback, (historiesOf normalizeUuid trace).Answers normalizeUuid event callback) ∧
          t.deliveries = s.deliveries) := by
  have consistent := consistent_of_reach reach
  refine ⟨fun transport => (consistent.follows transport).sessionId, fun one other sessionId first second => ?_,
    fun event t run other => step_deliveries run other, fun event => ⟨_, rfl, ?_⟩⟩
  · rw [(consistent.follows one).sessionId] at first
    rw [(consistent.follows other).sessionId] at second
    exact consistent.distinct one other sessionId first second
  · by_cases current : ∃ transport,
        ((historiesOf normalizeUuid trace).histories transport).sessionId = some event.sessionId
    · obtain ⟨transport, session⟩ := current
      have delivered := consistent.delivered normalizeUuid session
      cases callback : inForce ((historiesOf normalizeUuid trace).histories transport).subscriptions
          (normalizeUuid event.uuid) with
      | none =>
        refine Or.inr ⟨?_, ?_⟩
        · rintro ⟨found, other, same, force⟩
          cases consistent.distinct other transport event.sessionId same session
          cases callback.symm.trans force
        · rw [callback] at delivered
          simp [routeNotification, delivered]
      | some found =>
        refine Or.inl ⟨found, ⟨transport, session, callback⟩, ?_⟩
        rw [callback] at delivered
        simp [routeNotification, delivered]
    · have gone : ∀ transport,
          ((historiesOf normalizeUuid trace).histories transport).sessionId ≠ some event.sessionId :=
        fun transport session => current ⟨transport, session⟩
      refine Or.inr ⟨?_, ?_⟩
      · rintro ⟨_, transport, session, _⟩
        exact gone transport session
      · simp [routeNotification, consistent.undelivered gone]

/-- A call that has come and gone leaves its transport free. -/
theorem Free.after (free : s.Free transport) {one : Nat} {first : HelperTransportPhase}
    {outcome : Settlement Failure Unit}
    (calls : t.calls = (s.calls.insert call ⟨one, first⟩).insert call ⟨one, .settled outcome⟩) :
    t.Free transport := by
  intro other phase found
  rw [calls] at found
  rcases Table.insert_eq_some.mp found with ⟨_, same⟩ | ⟨different, found⟩
  · cases same
    rfl
  · rw [Table.insert_of_ne _ _ different] at found
    exact free other phase found

/-- The second subscription is refused, and the first callback is called. -/
theorem notification_after_refusal : ∃ trace s t,
    Reach (HelperTransports.step fun uuid => String.ofList (lowered uuid)) Orderly create trace s ∧
    s.step (fun uuid => String.ofList (lowered uuid)) (.notification ⟨"session", "FF02", [0x01#8]⟩) = some t ∧
    t.deliveries = [(7, [0x01#8])] ∧
    ∃ callback, (historiesOf (fun uuid => String.ofList (lowered uuid)) trace).Answers
      (fun uuid => String.ofList (lowered uuid)) ⟨"session", "FF02", [0x01#8]⟩ callback := by
  let trace : List HelperTransportEvent :=
    [.connect 0 0 "24:4C:AB:2C:24:8E", .connected 0 (.fulfilled "session") none, .subscribe 1 0 "FF02" 7,
      .subscribed 1 (.fulfilled ()), .subscribe 2 0 "ff02" 8, .subscribed 2 (.rejected (.error "refused"))]
  have idle : create.Free 0 := fun _ _ found => nomatch found
  have reach : ∃ s, Reach (HelperTransports.step fun uuid => String.ofList (lowered uuid)) Orderly create trace s ∧
      s.deliveries = [] ∧ (s.routeNotification (fun uuid => String.ofList (lowered uuid)) ⟨"session", "FF02", [0x01#8]⟩).deliveries =
        [(7, [0x01#8])] := by
    refine ⟨_, .cons idle rfl (.cons ?_ rfl (.cons (idle.after rfl) rfl (.cons trivial rfl
      (.cons ((idle.after rfl).after rfl) rfl (.cons trivial rfl .start))))), rfl, ?_⟩
    · exact List.not_mem_nil
    · decide +kernel
  obtain ⟨s, reach, before, delivered⟩ := reach
  obtain ⟨_, _, _, routed⟩ := notifications_reach_their_callbacks reach
  obtain ⟨t, run, outcome⟩ := routed ⟨"session", "FF02", [0x01#8]⟩
  cases run
  refine ⟨trace, s, _, reach, rfl, delivered, ?_⟩
  rcases outcome with ⟨callback, answers, _⟩ | ⟨_, silent⟩
  · exact ⟨callback, answers⟩
  · rw [delivered, before] at silent
    cases silent

end HelperTransports

end BluettiMqtt
