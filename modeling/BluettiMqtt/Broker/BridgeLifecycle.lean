import BluettiMqtt.Broker.MqttBridge
import BluettiMqtt.Library.Transition

namespace BluettiMqtt
open Promise Transition

/-- The call that an event belongs to. -/
def BridgeEvent.call? : BridgeEvent → Option Nat
  | .run call => some call
  | .connected call _ => some call
  | .subscribed call _ _ _ => some call
  | .stop call _ => some call
  | .ended call _ => some call
  | .parserMessage _ => none
  | .message _ _ _ => none

namespace MqttBridge

variable {b c : MqttBridge} {call client : Nat}

/-- No call of `run` or `stop` is in progress. -/
def Quiet (b : MqttBridge) : Prop :=
  ∀ call phase, b.calls call = some phase → phase.inProgress = false

/-- The bridge has no client and no listener, and `endAsync` has been called on
every client that the connector returned. -/
structure Stopped (b : MqttBridge) : Prop where
  rawClient : b.rawClient = none
  parserListeners : b.parserListeners = []
  closed : ∀ client record, b.clients client = some record → record.ended = true ∧ record.listeners = []

/-- One client has not been ended. It is `rawClient`, and has the only message
listener next to one parser listener. -/
structure Running (b : MqttBridge) (client : Nat) : Prop where
  rawClient : b.rawClient = some client
  parserListeners : b.parserListeners.length = 1
  live : ∃ record, b.clients client = some record ∧ record.ended = false ∧ record.listeners.length = 1
  closed : ∀ other record, other ≠ client → b.clients other = some record →
    record.ended = true ∧ record.listeners = []

/-- The steps that no other call gets in the way of: a connector returns a
client only while there is none, and `subscribe` settles only while its client is
still the current one, or while there is none and the startup fails. No call of
`off` that is made throws. -/
def Undisturbed (b : MqttBridge) : BridgeEvent → Prop
  | .connected _ (.fulfilled _) => b.rawClient = none
  | .subscribed call (.fulfilled _) onError offError =>
    (onError.isSome = true → offError = none) ∧
      ∀ client, b.calls call = some (.subscribing client) →
        b.rawClient = some client ∨ b.rawClient = none ∧ onError.isSome = true
  | .subscribed call (.rejected _) _ _ =>
    ∀ client, b.calls call = some (.subscribing client) → b.rawClient = some client ∨ b.rawClient = none
  | .stop _ offError => b.messageListener = none ∨ offError = none
  | _ => True

/-- The fields agree on one listener, if any, which only the given client has. -/
structure Held (b : MqttBridge) (client : Nat) (listener : Option Nat) : Prop where
  parserListeners : b.parserListeners = listener.toList
  removeParserListener : b.removeParserListener = listener
  messageListener : b.messageListener = listener
  own : ∀ record, b.clients client = some record → ∀ other ∈ record.listeners, listener = some other
  closed : ∀ other record, other ≠ client → b.clients other = some record →
    record.ended = true ∧ record.listeners = []

structure Idle (b : MqttBridge) : Prop where
  rawClient : b.rawClient = none
  parserListeners : b.parserListeners = []
  removeParserListener : b.removeParserListener = none
  messageListener : b.messageListener = none
  closed : ∀ client record, b.clients client = some record → record.ended = true ∧ record.listeners = []

/-- The bridge has a live client, before or after its listeners are installed. -/
structure Live (b : MqttBridge) (client : Nat) (listener : Option Nat) : Prop extends Held b client listener where
  rawClient : b.rawClient = some client
  current : b.clients client = some { ended := false, listeners := listener.toList }

theorem Idle.held (idle : Idle b) (client : Nat) : Held b client none where
  parserListeners := idle.parserListeners
  removeParserListener := idle.removeParserListener
  messageListener := idle.messageListener
  own record entry other member := by
    rw [(idle.closed client record entry).2] at member
    cases member
  closed other record _ entry := idle.closed other record entry

/-- Changing one client so that it is closed closes all. -/
theorem Held.closed_after {listener : Option Nat} (held : Held b client listener)
    {change : RawMqttClient → RawMqttClient}
    (closes : ∀ record, (∀ other ∈ record.listeners, listener = some other) →
      (change record).ended = true ∧ (change record).listeners = [])
    {other : Nat} {record : RawMqttClient} (entry : b.clients.adjust (some client) change other = some record) :
    record.ended = true ∧ record.listeners = [] := by
  by_cases here : other = client
  · subst here
    obtain ⟨before, found, rfl⟩ := Option.map_eq_some_iff.mp ((if_pos rfl).symm.trans entry)
    exact closes before (held.own before found)
  · have apart : some client ≠ some other := fun same => here (Option.some.inj same).symm
    rw [Table.adjust_of_ne _ _ apart] at entry
    exact held.closed other record here entry

/-- `cleanupClient` leaves nothing behind. -/
theorem Held.cleanupClient {listener : Option Nat} {startup offError : Option Failure}
    (held : Held b client listener) (removed : offError = none ∨ listener = none) :
    Idle (b.cleanupClient call client startup offError) := by
  have parserListeners : (b.parserListeners.filter fun one => some one ≠ b.removeParserListener) = [] := by
    rw [held.parserListeners, held.removeParserListener]
    cases listener <;> simp
  have message := held.messageListener
  cases listener with
  | none =>
    refine ⟨?_, ?_, ?_, ?_, fun other record entry => ?_⟩ <;>
      simp only [MqttBridge.cleanupClient, dropMessageListener, dropParserListener, message, setClient,
        setCall] at *
    · exact parserListeners
    · refine held.closed_after (fun record own => ⟨rfl, ?_⟩) entry
      exact List.eq_nil_iff_forall_not_mem.mpr fun other member => by cases own other member
  | some listener =>
    cases removed.resolve_right (Option.some_ne_none listener)
    refine ⟨?_, ?_, ?_, ?_, fun other record entry => ?_⟩ <;>
      simp only [MqttBridge.cleanupClient, dropMessageListener, dropParserListener, message, setClient,
        setCall] at *
    · exact parserListeners
    · have merged (change later : RawMqttClient → RawMqttClient) (table : Table Nat RawMqttClient) :
          (table.adjust (some client) change).adjust (some client) later =
            table.adjust (some client) (later ∘ change) := by
        funext other
        by_cases here : some client = some other <;> simp [Table.adjust, here, Option.map_map]
      rw [merged] at entry
      refine held.closed_after (fun record own => ⟨rfl, ?_⟩) entry
      refine List.filter_eq_nil_iff.mpr fun other member => ?_
      cases own other member
      simp

/-- What is known of the calls in every undisturbed run. Each client is
subscribed by one call, and a live client has listeners once that is over. -/
structure Consistent (b : MqttBridge) : Prop where
  known : ∀ call client, b.calls call = some (.subscribing client) → (b.clients client).isSome = true
  alone : ∀ one other client, b.calls one = some (.subscribing client) →
    b.calls other = some (.subscribing client) → one = other
  shape : Idle b ∨ ∃ client listener, Live b client listener ∧
    ((∃ call, b.calls call = some (.subscribing client)) ↔ listener = none)

theorem Idle.congr (idle : Idle b) (rawClient : c.rawClient = b.rawClient)
    (removeParserListener : c.removeParserListener = b.removeParserListener)
    (messageListener : c.messageListener = b.messageListener)
    (parserListeners : c.parserListeners = b.parserListeners) (clients : c.clients = b.clients) : Idle c where
  rawClient := rawClient.trans idle.rawClient
  parserListeners := parserListeners.trans idle.parserListeners
  removeParserListener := removeParserListener.trans idle.removeParserListener
  messageListener := messageListener.trans idle.messageListener
  closed := by rw [clients]; exact idle.closed

theorem Live.congr {listener : Option Nat} (live : Live b client listener) (rawClient : c.rawClient = b.rawClient)
    (removeParserListener : c.removeParserListener = b.removeParserListener)
    (messageListener : c.messageListener = b.messageListener)
    (parserListeners : c.parserListeners = b.parserListeners) (clients : c.clients = b.clients) :
    Live c client listener where
  rawClient := rawClient.trans live.rawClient
  parserListeners := parserListeners.trans live.parserListeners
  removeParserListener := removeParserListener.trans live.removeParserListener
  messageListener := messageListener.trans live.messageListener
  own := by rw [clients]; exact live.own
  closed := by rw [clients]; exact live.closed
  current := by rw [clients]; exact live.current

theorem Consistent.congr (consistent : Consistent b) (rawClient : c.rawClient = b.rawClient)
    (removeParserListener : c.removeParserListener = b.removeParserListener)
    (messageListener : c.messageListener = b.messageListener)
    (parserListeners : c.parserListeners = b.parserListeners) (clients : c.clients = b.clients)
    (subscribing : ∀ call client, c.calls call = some (.subscribing client) ↔
      b.calls call = some (.subscribing client)) : Consistent c where
  known call client place := by
    rw [clients]
    exact consistent.known call client ((subscribing call client).mp place)
  alone one other client left right :=
    consistent.alone one other client ((subscribing one client).mp left) ((subscribing other client).mp right)
  shape := by
    rcases consistent.shape with idle | ⟨client, listener, live, installed⟩
    · exact Or.inl (idle.congr rawClient removeParserListener messageListener parserListeners clients)
    · refine Or.inr ⟨client, listener,
        live.congr rawClient removeParserListener messageListener parserListeners clients, ?_⟩
      simp only [subscribing]
      exact installed

theorem insert_subscribing {calls : Table Nat BridgePhase} {phase : BridgePhase} {other : Nat}
    (later : ∀ client, phase ≠ .subscribing client) :
    calls.insert call phase other = some (.subscribing client) ↔
      other ≠ call ∧ calls other = some (.subscribing client) := by
  rw [Table.insert_eq_some]
  constructor
  · rintro (⟨_, same⟩ | found)
    · exact absurd same.symm (later client)
    · exact found
  · exact Or.inr

/-- A call that is not subscribing goes on to another such phase. -/
theorem Consistent.setCall (consistent : Consistent b) {phase : BridgePhase}
    (before : ∀ client, b.calls call ≠ some (.subscribing client))
    (later : ∀ client, phase ≠ .subscribing client) : Consistent (b.setCall call phase) := by
  refine consistent.congr rfl rfl rfl rfl rfl fun other client => ?_
  rw [MqttBridge.setCall, insert_subscribing later]
  refine ⟨And.right, fun place => ⟨?_, place⟩⟩
  rintro rfl
  exact before client place

theorem cleanupClient_calls (b : MqttBridge) (call client : Nat) (startup offError : Option Failure) :
    ∃ failures, (b.cleanupClient call client startup offError).calls =
      b.calls.insert call (.cleaning client startup failures) := by
  refine ⟨({ b with rawClient := none }.dropParserListener.dropMessageListener client offError).2, ?_⟩
  have same : ({ b with rawClient := none }.dropParserListener.dropMessageListener client offError).1.calls =
      b.calls := by
    unfold dropMessageListener
    split <;> rfl
  simp only [cleanupClient, MqttBridge.setCall, setClient, same]

theorem cleanupClient_clients (b : MqttBridge) (call client other : Nat) (startup offError : Option Failure) :
    ((b.cleanupClient call client startup offError).clients other).isSome = (b.clients other).isSome := by
  have adjusted (table : Table Nat RawMqttClient) (change : RawMqttClient → RawMqttClient) :
      (table.adjust (some client) change other).isSome = (table other).isSome := by
    by_cases here : some client = some other <;> simp [Table.adjust, here]
  simp only [cleanupClient, MqttBridge.setCall, setClient, adjusted]
  unfold dropMessageListener
  split
  · rfl
  · rfl
  · exact adjusted b.clients _

/-- `cleanupClient`, before which the listeners may have been changed. -/
theorem Consistent.cleanupClient (consistent : Consistent b) {startup offError : Option Failure}
    (sameCalls : c.calls = b.calls) (sameClients : c.clients = b.clients)
    (idle : Idle (c.cleanupClient call client startup offError)) :
    Consistent (c.cleanupClient call client startup offError) := by
  obtain ⟨failures, calls⟩ := c.cleanupClient_calls call client startup offError
  have subscribing (one client' : Nat)
      (place : (c.cleanupClient call client startup offError).calls one = some (.subscribing client')) :
      b.calls one = some (.subscribing client') := by
    rw [calls, insert_subscribing (by simp), sameCalls] at place
    exact place.2
  refine ⟨fun one client' place => ?_, fun one other client' left right => ?_, Or.inl idle⟩
  · rw [cleanupClient_clients, sameClients]
    exact consistent.known one client' (subscribing one client' place)
  · exact consistent.alone one other client' (subscribing one client' left) (subscribing other client' right)

theorem Consistent.connected (consistent : Consistent b) (free : b.rawClient = none)
    (fresh : b.clients client = none) (place : b.calls call = some .connecting) :
    Consistent (b.connected call (.fulfilled client)) := by
  have idle : Idle b := by
    rcases consistent.shape with idle | ⟨other, listener, live, _⟩
    · exact idle
    · cases live.rawClient.symm.trans free
  have calls (one other : Nat) : (b.connected call (.fulfilled client)).calls one = some (.subscribing other) ↔
      one = call ∧ other = client ∨ one ≠ call ∧ b.calls one = some (.subscribing other) := by
    simp only [MqttBridge.connected, MqttBridge.setCall, Table.insert_eq_some, BridgePhase.subscribing.injEq]
  have unused (one : Nat) : b.calls one ≠ some (.subscribing client) := by
    intro subscribing
    have known := consistent.known one client subscribing
    rw [fresh] at known
    cases known
  refine ⟨fun one other subscribing => ?_, fun one other client' left right => ?_, Or.inr ⟨client, none, ?_, ?_⟩⟩
  · rcases (calls one other).mp subscribing with ⟨_, rfl⟩ | ⟨_, before⟩
    · simp [MqttBridge.connected, MqttBridge.setCall]
    · have known := consistent.known one other before
      by_cases here : other = client
      · simp [MqttBridge.connected, MqttBridge.setCall, here]
      · simpa [MqttBridge.connected, MqttBridge.setCall, Table.insert_of_ne _ _ here] using known
  · rcases (calls one client').mp left with ⟨rfl, rfl⟩ | ⟨_, first⟩
    · rcases (calls other client').mp right with ⟨rfl, _⟩ | ⟨_, second⟩
      · rfl
      · exact absurd second (unused other)
    · rcases (calls other client').mp right with ⟨_, rfl⟩ | ⟨_, second⟩
      · exact absurd first (unused one)
      · exact consistent.alone one other client' first second
  · exact
      { parserListeners := idle.parserListeners
        removeParserListener := idle.removeParserListener
        messageListener := idle.messageListener
        own := fun record entry other member => by
          cases (Table.insert_self _ _ _).symm.trans entry
          cases member
        closed := fun other record apart entry =>
          idle.closed other record ((Table.insert_of_ne _ _ apart).symm.trans entry)
        rawClient := rfl
        current := Table.insert_self _ _ _ }
  · exact iff_of_true ⟨call, (calls call client).mpr (Or.inl ⟨rfl, rfl⟩)⟩ rfl

theorem Consistent.live (consistent : Consistent b) (place : b.calls call = some (.subscribing client))
    (current : b.rawClient = some client) : Live b client none := by
  rcases consistent.shape with idle | ⟨other, listener, live, installed⟩
  · cases idle.rawClient.symm.trans current
  · cases live.rawClient.symm.trans current
    have none := installed.mp ⟨call, place⟩
    exact none ▸ live

/-- The listeners are installed. -/
theorem Consistent.installed (consistent : Consistent b) (place : b.calls call = some (.subscribing client))
    (live : Live b client none) :
    Consistent (b.subscribed call client none none (.fulfilled ())) := by
  have subscribing (one other : Nat) :
      (b.subscribed call client none none (.fulfilled ())).calls one = some (.subscribing other) ↔
        one ≠ call ∧ b.calls one = some (.subscribing other) :=
    insert_subscribing (by simp)
  have clients : (b.subscribed call client none none (.fulfilled ())).clients =
      b.clients.insert client { ended := false, listeners := [call] } :=
    Table.adjust_eq_insert _ live.current
  refine ⟨fun one other found => ?_, fun one other client' left right => ?_,
    Or.inr ⟨client, some call, ?_, ?_⟩⟩
  · have known := consistent.known one other ((subscribing one other).mp found).2
    rw [clients]
    by_cases here : other = client
    · simp [here]
    · rw [Table.insert_of_ne _ _ here]
      exact known
  · exact consistent.alone one other client' ((subscribing one client').mp left).2
      ((subscribing other client').mp right).2
  · exact
      { parserListeners := congrArg (· ++ [call]) live.parserListeners
        removeParserListener := rfl
        messageListener := rfl
        own := fun record entry other member => by
          rw [clients, Table.insert_self] at entry
          cases entry
          exact congrArg some (List.mem_singleton.mp member).symm
        closed := fun other record apart entry => by
          rw [clients, Table.insert_of_ne _ _ apart] at entry
          exact live.closed other record apart entry
        rawClient := live.rawClient
        current := by
          rw [clients, Table.insert_self]
          rfl }
  · refine iff_of_false (fun ⟨one, found⟩ => ?_) (Option.some_ne_none call)
    obtain ⟨apart, before⟩ := (subscribing one client).mp found
    exact apart (consistent.alone one call client before place)

/-- A call that subscribes finds no listener, whether its client is still the
current one or there is none. -/
theorem Consistent.held (consistent : Consistent b) (place : b.calls call = some (.subscribing client))
    (current : b.rawClient = some client ∨ b.rawClient = none) : Held b client none := by
  rcases current with current | gone
  · exact (consistent.live place current).toHeld
  · rcases consistent.shape with idle | ⟨other, listener, live, _⟩
    · exact idle.held client
    · cases live.rawClient.symm.trans gone

/-- The listeners are installed, and `on` throws. -/
theorem Consistent.rolledBack (consistent : Consistent b) (held : Held b client none) (error : Failure) :
    Consistent (b.subscribed call client (some error) none (.fulfilled ())) := by
  let installed : MqttBridge := { b with
    parserListeners := b.parserListeners ++ [call]
    removeParserListener := some call
    messageListener := some call }
  have held' : Held installed client (some call) :=
    { parserListeners := congrArg (· ++ [call]) held.parserListeners
      removeParserListener := rfl
      messageListener := rfl
      own := fun record entry other member => nomatch held.own record entry other member
      closed := held.closed }
  exact consistent.cleanupClient (c := installed) rfl rfl (held'.cleanupClient (Or.inl rfl))

theorem Consistent.stop (consistent : Consistent b) (fresh : b.calls call = none) {offError : Option Failure}
    (removed : b.messageListener = none ∨ offError = none) : Consistent (b.stop call offError) := by
  unfold MqttBridge.stop
  split
  · exact consistent.setCall (by simp [fresh]) (by simp)
  · rename_i client place
    rcases consistent.shape with idle | ⟨other, listener, live, _⟩
    · cases idle.rawClient.symm.trans place
    · cases live.rawClient.symm.trans place
      rw [live.messageListener] at removed
      exact consistent.cleanupClient rfl rfl (live.toHeld.cleanupClient removed.symm)

/-- Messages leave the connection alone. -/
theorem Consistent.handleParserMessage (consistent : Consistent b) (device : BluettiDevice) :
    Consistent (b.handleParserMessage device) := by
  unfold MqttBridge.handleParserMessage
  split
  · exact consistent.congr rfl rfl rfl rfl rfl fun _ _ => Iff.rfl
  · exact consistent

theorem Consistent.handleIncomingCommand (consistent : Consistent b) (topic : String) (payload : List Byte) :
    Consistent (b.handleIncomingCommand topic payload) := by
  unfold MqttBridge.handleIncomingCommand
  split
  · exact consistent.congr rfl rfl rfl rfl rfl fun _ _ => Iff.rfl
  · exact consistent
  · exact consistent

theorem Consistent.step {event : BridgeEvent} (consistent : Consistent b) (undisturbed : Undisturbed b event)
    (run : b.step event = some c) : Consistent c := by
  cases event with
  | run call =>
    obtain ⟨fresh, run⟩ := Option.ite_none_right_eq_some.mp run
    cases run
    have before : ∀ client, b.calls call ≠ some (.subscribing client) := by
      simp [Option.isNone_iff_eq_none.mp fresh]
    unfold MqttBridge.run
    split
    · exact consistent.setCall before (by simp)
    · exact consistent.setCall before (by simp)
  | connected call result =>
    simp only [MqttBridge.step] at run
    split at run
    · rename_i client place
      obtain ⟨fresh, run⟩ := Option.ite_none_right_eq_some.mp run
      cases run
      exact consistent.connected undisturbed (Option.isNone_iff_eq_none.mp fresh) place
    · rename_i error place
      cases run
      exact consistent.setCall (by simp [place]) (by simp)
    · cases run
  | subscribed call result onError offError =>
    simp only [MqttBridge.step] at run
    split at run
    · rename_i client place
      cases run
      cases result with
      | fulfilled =>
        obtain ⟨removed, current⟩ := undisturbed
        cases onError with
        | none =>
          have current : b.rawClient = some client := (current client place).resolve_right (by simp)
          exact consistent.installed place (consistent.live place current)
        | some error =>
          cases removed rfl
          exact consistent.rolledBack (consistent.held place ((current client place).imp_right And.left)) error
      | rejected error =>
        have held := consistent.held place (undisturbed client place)
        exact consistent.cleanupClient rfl rfl (held.cleanupClient (Or.inr rfl))
    · cases run
  | stop call offError =>
    obtain ⟨fresh, run⟩ := Option.ite_none_right_eq_some.mp run
    cases run
    exact consistent.stop (Option.isNone_iff_eq_none.mp fresh) undisturbed
  | ended call result =>
    simp only [MqttBridge.step] at run
    split at run
    · rename_i place
      cases run
      exact consistent.setCall (by simp [place]) (by simp)
    · cases run
  | parserMessage device =>
    cases run
    exact consistent.handleParserMessage device
  | message client topic payload =>
    simp only [MqttBridge.step] at run
    split at run
    · rename_i record entry
      cases run
      clear entry undisturbed
      induction record.listeners generalizing b with
      | nil => exact consistent
      | cons listener rest ih => exact ih (consistent.handleIncomingCommand topic payload)
    · cases run

theorem consistent_of_reach {trace : List BridgeEvent} (reach : Reach MqttBridge.step Undisturbed create trace b) :
    Consistent b := by
  apply reach.invariant (P := Consistent)
  · exact ⟨(fun _ _ place => nomatch place), (fun _ _ _ place => nomatch place),
      Or.inl ⟨rfl, rfl, rfl, rfl, (fun _ _ entry => nomatch entry)⟩⟩
  · exact fun _ _ _ consistent undisturbed run => consistent.step undisturbed run

/-- In an undisturbed run the bridge is stopped, or runs with one client, when
no call is in progress. -/
theorem quiet_bridge_is_settled {trace : List BridgeEvent}
    (reach : Reach MqttBridge.step Undisturbed create trace b) (quiet : Quiet b) :
    Stopped b ∨ ∃ client, Running b client := by
  rcases (consistent_of_reach reach).shape with idle | ⟨client, listener, live, installed⟩
  · exact Or.inl ⟨idle.rawClient, idle.parserListeners, idle.closed⟩
  · cases listener with
    | none =>
      obtain ⟨call, place⟩ := installed.mpr rfl
      cases quiet call _ place
    | some listener =>
      refine Or.inr ⟨client, live.rawClient, ?_, ⟨_, live.current, rfl, rfl⟩, live.closed⟩
      rw [live.parserListeners]
      rfl

theorem handleIncomingCommand_calls (b : MqttBridge) (topic : String) (payload : List Byte) :
    (b.handleIncomingCommand topic payload).calls = b.calls := by
  unfold MqttBridge.handleIncomingCommand
  split <;> rfl

theorem cleanupClient_other {other : Nat} (apart : other ≠ call) (startup offError : Option Failure) :
    (b.cleanupClient call client startup offError).calls other = b.calls other := by
  obtain ⟨failures, calls⟩ := b.cleanupClient_calls call client startup offError
  rw [calls, Table.insert_of_ne _ _ apart]

/-- An event changes the call it belongs to and no other. -/
theorem step_calls {event : BridgeEvent} {other : Nat} (run : b.step event = some c)
    (apart : event.call? ≠ some other) : c.calls other = b.calls other := by
  have different (call : Nat) (same : event.call? = some call) : other ≠ call := by
    rintro rfl
    exact apart same
  cases event with
  | run call =>
    obtain ⟨_, run⟩ := Option.ite_none_right_eq_some.mp run
    cases run
    unfold MqttBridge.run
    split <;> exact Table.insert_of_ne _ _ (different call rfl)
  | connected call result =>
    simp only [MqttBridge.step] at run
    split at run
    · obtain ⟨_, run⟩ := Option.ite_none_right_eq_some.mp run
      cases run
      exact Table.insert_of_ne _ _ (different call rfl)
    · cases run
      exact Table.insert_of_ne _ _ (different call rfl)
    · cases run
  | subscribed call result onError offError =>
    simp only [MqttBridge.step] at run
    split at run
    · cases run
      cases result with
      | fulfilled =>
        cases onError with
        | none => exact Table.insert_of_ne _ _ (different call rfl)
        | some error => exact cleanupClient_other (different call rfl) (some error) offError
      | rejected error => exact cleanupClient_other (different call rfl) (some error) offError
    · cases run
  | stop call offError =>
    obtain ⟨_, run⟩ := Option.ite_none_right_eq_some.mp run
    cases run
    unfold MqttBridge.stop
    split
    · exact Table.insert_of_ne _ _ (different call rfl)
    · exact cleanupClient_other (different call rfl) none offError
  | ended call result =>
    simp only [MqttBridge.step] at run
    split at run
    · cases run
      exact Table.insert_of_ne _ _ (different call rfl)
    · cases run
  | parserMessage device =>
    cases run
    unfold MqttBridge.handleParserMessage
    split <;> rfl
  | message client topic payload =>
    simp only [MqttBridge.step] at run
    split at run
    · rename_i record entry
      cases run
      clear entry different apart
      induction record.listeners generalizing b with
      | nil => rfl
      | cons listener rest ih => exact ih.trans (congrFun (b.handleIncomingCommand_calls topic payload) other)
    · cases run

/-- A run in which every call has settled is quiet. -/
theorem quiet_of_reach {guard : MqttBridge → BridgeEvent → Prop} {trace : List BridgeEvent}
    (reach : Reach MqttBridge.step guard create trace b)
    (settled : ∀ event ∈ trace, ∀ call, event.call? = some call →
      (b.calls call).all (fun phase => !phase.inProgress) = true) : Quiet b := by
  intro call phase entry
  have known : ∃ event ∈ trace, event.call? = some call := by
    by_contra unknown
    have none : b.calls call = none := by
      clear settled entry
      induction reach with
      | start => rfl
      | @next _ _ event _ _ _ run ih =>
        have apart : event.call? ≠ some call := fun same =>
          unknown ⟨event, List.mem_append_right _ List.mem_cons_self, same⟩
        rw [step_calls run apart]
        exact ih fun ⟨other, member, same⟩ => unknown ⟨other, List.mem_append_left _ member, same⟩
    cases none.symm.trans entry
  obtain ⟨event, member, same⟩ := known
  have past := settled event member call same
  rw [entry] at past
  simpa using past

/-- The calls 0, 1 and 2, whose settlement can be tested. -/
def settledCalls (b : MqttBridge) : Bool :=
  [0, 1, 2].all fun call => (b.calls call).all fun phase => !phase.inProgress

theorem quiet_of_settledCalls {guard : MqttBridge → BridgeEvent → Prop} {trace : List BridgeEvent}
    (reach : Reach MqttBridge.step guard create trace b) (settled : b.settledCalls = true)
    (few : trace.all (fun event => event.call?.all fun call => call ≤ 2) = true) : Quiet b := by
  refine quiet_of_reach reach fun event member call same => ?_
  have small := List.all_eq_true.mp few event member
  rw [same] at small
  have bound : call ≤ 2 := by simpa using small
  exact List.all_eq_true.mp settled call (by simp; omega)

/-- The first subscription is refused, and the bridge is started once more. -/
theorem quiet_bridge_restarted : ∃ trace b, Reach MqttBridge.step Undisturbed create trace b ∧
    b.rawClient = some 1 ∧ b.parserListeners = [1] ∧ (Stopped b ∨ ∃ client, Running b client) := by
  let trace : List BridgeEvent :=
    [.run 0, .connected 0 (.fulfilled 0), .subscribed 0 (.rejected (.error "refused")) none none,
      .ended 0 (.fulfilled ()), .run 1, .connected 1 (.fulfilled 1), .subscribed 1 (.fulfilled ()) none none]
  have reach : ∃ b, Reach MqttBridge.step Undisturbed create trace b ∧
      b.rawClient = some 1 ∧ b.parserListeners = [1] ∧ b.settledCalls = true := by
    refine ⟨_, .cons trivial rfl (.cons rfl rfl (.cons ?_ rfl (.cons trivial rfl (.cons trivial rfl
      (.cons rfl rfl (.cons ?_ rfl .start)))))), rfl, rfl, rfl⟩
    · intro client place
      cases place
      exact Or.inl rfl
    · refine ⟨(fun _ => rfl), fun client place => ?_⟩
      cases place
      exact Or.inl rfl
  obtain ⟨b, reach, rawClient, parserListeners, settled⟩ := reach
  exact ⟨trace, b, reach, rawClient, parserListeners,
    quiet_bridge_is_settled reach (quiet_of_settledCalls reach settled rfl)⟩

/-- Two calls of `run` that wait for the connector at the same time both install
their listeners, and the listeners of a `run` that is stopped during `subscribe`
are installed after it. -/
theorem overlapping_calls_leak :
    (∃ trace b, Reach MqttBridge.step (fun _ _ => True) create trace b ∧ Quiet b ∧
      b.rawClient = some 1 ∧ b.parserListeners = [0, 1] ∧ ¬(Stopped b ∨ ∃ client, Running b client)) ∧
    ∃ trace b, Reach MqttBridge.step (fun _ _ => True) create trace b ∧ Quiet b ∧
      b.rawClient = none ∧ b.parserListeners = [0] ∧ ¬(Stopped b ∨ ∃ client, Running b client) := by
  constructor
  · let trace : List BridgeEvent :=
      [.run 0, .run 1, .connected 0 (.fulfilled 0), .connected 1 (.fulfilled 1),
        .subscribed 0 (.fulfilled ()) none none, .subscribed 1 (.fulfilled ()) none none]
    have run : (trace.foldlM MqttBridge.step create).any (fun b => b.rawClient = some 1 ∧
        b.parserListeners = [0, 1] ∧ b.settledCalls = true) = true := by decide +kernel
    obtain ⟨b, reach, test⟩ := Reach.of_foldlM (fun _ _ _ => trivial) run
    obtain ⟨rawClient, parserListeners, settled⟩ := of_decide_eq_true test
    refine ⟨trace, b, reach, quiet_of_settledCalls reach settled rfl, rawClient, parserListeners, ?_⟩
    rintro (stopped | ⟨client, running⟩)
    · cases stopped.rawClient.symm.trans rawClient
    · have one := running.parserListeners
      rw [parserListeners] at one
      cases one
  · let trace : List BridgeEvent :=
      [.run 0, .connected 0 (.fulfilled 0), .stop 1 none, .ended 1 (.fulfilled ()),
        .subscribed 0 (.fulfilled ()) none none]
    have run : (trace.foldlM MqttBridge.step create).any (fun b => b.rawClient = none ∧
        b.parserListeners = [0] ∧ b.settledCalls = true) = true := by decide +kernel
    obtain ⟨b, reach, test⟩ := Reach.of_foldlM (fun _ _ _ => trivial) run
    obtain ⟨rawClient, parserListeners, settled⟩ := of_decide_eq_true test
    refine ⟨trace, b, reach, quiet_of_settledCalls reach settled rfl, rawClient, parserListeners, ?_⟩
    rintro (stopped | ⟨client, running⟩)
    · cases stopped.parserListeners.symm.trans parserListeners
    · cases running.rawClient.symm.trans rawClient

end MqttBridge

end BluettiMqtt
