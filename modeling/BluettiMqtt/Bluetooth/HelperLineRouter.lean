import BluettiMqtt.Bluetooth.HelperClient
import BluettiMqtt.Core.Json

namespace BluettiMqtt
open Promise

/-- The state that `routeHelperLine` is given. An entry of `pending` stands for
the resolvers and the timer of the call it names. -/
structure HelperLineRouterState where
  pending : AList fun _ : String => Nat
  notificationListeners : List Nat
  readyResolved : Bool

/-- What a line of the helper can make the router throw: a failing operation, or
what a listener throws. -/
inductive RouterError
  | typeError (error : TypeError)
  | listenerError (error : Failure)

/-- What `routeHelperLine` calls. The parts of a notification are what its
payload holds, whatever that is. -/
inductive RouterCall
  | clearTimeout (call : Nat)
  | resolve (call : Nat) (payload : Option Json)
  | reject (call : Nat) (error : Failure)
  | onReady
  | onReadyError (error : Failure)
  | listener (listener : Nat) (sessionId uuid : Option Json) (data : List Byte)

/-- The state left behind, the calls made (oldest first) and what is thrown. -/
structure RoutedLine where
  state : HelperLineRouterState
  calls : List RouterCall
  thrown : Option RouterError

def HELPER_MESSAGE_TYPE_EVENT : String := "event"

def HELPER_EVENT_NOTIFICATION : String := "notification"

section Routing

variable (numberString : Number → String) (bufferFrom : Option Json → Except TypeError (List Byte))
  (hears : Nat → Option Json → Option Json → List Byte → Except Failure Unit)

/-- `createHelperError` of values that need not be strings. -/
def createMessageError (code message : Option Json) : Except TypeError Failure := do
  let codeText ← Json.templateText numberString code
  let messageText ← Json.templateText numberString message
  if Json.isText code HELPER_ERROR_COMMAND_FAILED then
    match message with
    | some (.string message) => return createHelperError HELPER_ERROR_COMMAND_FAILED message
    | none => throw (.readsUndefined "toLowerCase")
    | some .null => throw (.readsNull "toLowerCase")
    | some _ => throw (.notCallable "toLowerCase")
  else return .error s!"{codeText}: {messageText}"

/-- The error that a message carries. -/
def messageError (error : Option Json) : Except TypeError Failure := do
  let code ← Json.read error "code"
  let message ← Json.read error "message"
  createMessageError numberString code message

/-- The session, the characteristic and the bytes of a notification. -/
def notificationParts (payload : Json) : Except TypeError (Option Json × Option Json × List Byte) := do
  let sessionId ← Json.read (some payload) "sessionId"
  let uuid ← Json.read (some payload) "uuid"
  let dataBase64 ← Json.read (some payload) "dataBase64"
  let data ← bufferFrom dataBase64
  return (sessionId, uuid, data)

/-- The listeners are called in turn, until one throws. -/
def notifyListeners (sessionId uuid : Option Json) (data : List Byte) :
    List Nat → List RouterCall × Option RouterError
  | [] => ([], none)
  | listener :: rest =>
    match hears listener sessionId uuid data with
    | .ok () =>
      let others := notifyListeners sessionId uuid data rest
      (.listener listener sessionId uuid data :: others.1, others.2)
    | .error error => ([.listener listener sessionId uuid data], some (.listenerError error))

def routeHelperMessageEvent (state : HelperLineRouterState) (message : Json) : RoutedLine :=
  if Json.isText (message.property "name") "ready" then
    { state := { state with readyResolved := true }, calls := [.onReady], thrown := none }
  else if Json.isText (message.property "name") HELPER_EVENT_NOTIFICATION then
    match message.property "payload" with
    | none => { state := state, calls := [], thrown := none }
    | some payload =>
      match notificationParts bufferFrom payload with
      | .ok (sessionId, uuid, data) =>
        let notified := notifyListeners hears sessionId uuid data state.notificationListeners
        { state := state, calls := notified.1, thrown := notified.2 }
      | .error error => { state := state, calls := [], thrown := some (.typeError error) }
  else { state := state, calls := [], thrown := none }

/-- The end of `routeHelperLine`, once the entry is found. -/
def answerPending (state : HelperLineRouterState) (id : String) (call : Nat) (message : Json) : RoutedLine :=
  let removed := { state with pending := state.pending.erase id }
  if Json.isText (message.property "type") "response" then
    { state := removed, thrown := none
      calls := [.clearTimeout call, .resolve call (message.property "payload")] }
  else
    match messageError numberString (message.property "error") with
    | .ok error => { state := removed, calls := [.clearTimeout call, .reject call error], thrown := none }
    | .error error => { state := removed, calls := [.clearTimeout call], thrown := some (.typeError error) }

/-- `routeHelperLine` on a line that parses. -/
def routeHelperMessage (state : HelperLineRouterState) (message : Json) : RoutedLine :=
  match Json.read (some message) "type" with
  | .error error => { state := state, calls := [], thrown := some (.typeError error) }
  | .ok type =>
    if Json.isText type HELPER_MESSAGE_TYPE_EVENT then routeHelperMessageEvent bufferFrom hears state message
    else
      match message.property "id" with
      | some (.string id) =>
        match state.pending.lookup id with
        | some call => answerPending numberString state id call message
        | none => { state := state, calls := [], thrown := none }
      | _ => { state := state, calls := [], thrown := none }

/-- The router, given `JSON.parse`, `Buffer.from` of a value in base 64 and the
listeners. -/
def routeHelperLine (parse : String → Except Failure Json) (state : HelperLineRouterState) (line : String) :
    RoutedLine :=
  match parse line with
  | .ok message => routeHelperMessage numberString bufferFrom hears state message
  | .error error =>
    { state := state, calls := if state.readyResolved then [] else [.onReadyError error], thrown := none }

end Routing

/-- The messages that `HelperMessage` types: ready events, notifications,
responses and errors. -/
def Json.isHelperMessage (message : Json) : Bool :=
  if Json.isText (message.property "type") HELPER_MESSAGE_TYPE_EVENT then
    if Json.isText (message.property "name") "ready" then Json.isOptionalObject (message.property "payload")
    else if Json.isText (message.property "name") HELPER_EVENT_NOTIFICATION then
      match message.property "payload" with
      | none => true
      | some payload => Json.isString (payload.property "sessionId") && Json.isString (payload.property "uuid") &&
          Json.isString (payload.property "dataBase64")
    else false
  else
    ((message.property "id").isNone || Json.isString (message.property "id")) &&
      if Json.isText (message.property "type") "response" then Json.isOptionalObject (message.property "payload")
      else
        Json.isText (message.property "type") "error" &&
          match message.property "error" with
          | some error => Json.isString (error.property "code") && Json.isString (error.property "message")
          | none => false

/-- The calls that settle a request. -/
def RouterCall.settles (call : Nat) : RouterCall → Bool
  | .resolve other _ => other = call
  | .reject other _ => other = call
  | _ => false

/-- What the router should do with a line in a state: it throws nothing, settles
what it removes once, and heeds well-formed messages only. -/
structure RoutesSafely (wellFormed : Prop) (state : HelperLineRouterState) (routed : RoutedLine) : Prop where
  total : routed.thrown = none
  settled : ∀ id call, state.pending.lookup id = some call → routed.state.pending.lookup id = none →
    routed.calls.countP (RouterCall.settles call) = 1
  unchanged : ¬ wellFormed → routed.state = state

section RoutedLines

variable {numberString : Number → String} {bufferFrom : Option Json → Except TypeError (List Byte)}
  {hears : Nat → Option Json → Option Json → List Byte → Except Failure Unit}

/-- The texts of a well-formed error make the error of `createHelperError`. -/
theorem createMessageError_strings (numberString : Number → String) (code message : String) :
    createMessageError numberString (some (.string code)) (some (.string message)) =
      .ok (createHelperError code message) := by
  by_cases same : code = HELPER_ERROR_COMMAND_FAILED
  · subst same
    rfl
  · have plain : isRecoverableBluetoothConnectionError code message = false := by
      simp [isRecoverableBluetoothConnectionError, same]
    have other : Json.isText (some (.string code)) HELPER_ERROR_COMMAND_FAILED = false := by
      simp [Json.isText, same]
    simp only [createHelperError, plain, Bool.false_eq_true, if_false]
    simp only [createMessageError, Json.templateText, Json.text, other]
    rfl

theorem messageError_strings (numberString : Number → String) {error : Json} (code : Json.isString (error.property "code") = true)
    (message : Json.isString (error.property "message") = true) :
    ∃ failure, messageError numberString (some error) = .ok failure := by
  obtain ⟨codeText, code⟩ := Json.isString_eq_true code
  obtain ⟨messageText, message⟩ := Json.isString_eq_true message
  refine ⟨createHelperError codeText messageText, ?_⟩
  have object : error ≠ .null := by rintro rfl; cases code
  rw [← createMessageError_strings numberString, ← code, ← message]
  cases error <;> first | exact absurd rfl object | rfl

/-- A response or an error that is well formed settles the request it answers. -/
theorem answerPending_settles (numberString : Number → String) (state : HelperLineRouterState) (id : String)
    (call : Nat) {message : Json}
    (event : Json.isText (message.property "type") HELPER_MESSAGE_TYPE_EVENT = false)
    (wellFormed : message.isHelperMessage = true) :
    (answerPending numberString state id call message).thrown = none ∧
      (answerPending numberString state id call message).calls.countP (RouterCall.settles call) = 1 := by
  unfold answerPending
  split
  · simp [RouterCall.settles]
  · next response =>
    simp only [Json.isHelperMessage, event, response, Bool.false_eq_true, if_false, Bool.and_eq_true] at wellFormed
    obtain ⟨-, -, strings⟩ := wellFormed
    cases carried : message.property "error" with
    | none => simp [carried] at strings
    | some error =>
      simp only [carried, Bool.and_eq_true] at strings
      obtain ⟨failure, made⟩ := messageError_strings numberString strings.1 strings.2
      simp [made, RouterCall.settles]

@[simp] theorem answerPending_state (state : HelperLineRouterState) (id : String) (call : Nat) (message : Json) :
    (answerPending numberString state id call message).state =
      { state with pending := state.pending.erase id } := by
  unfold answerPending
  split
  · rfl
  · split <;> rfl

/-- An event changes nothing but `readyResolved`. -/
theorem routeHelperMessageEvent_state (state : HelperLineRouterState) (message : Json) :
    (routeHelperMessageEvent bufferFrom hears state message).state =
      if Json.isText (message.property "name") "ready" then { state with readyResolved := true } else state := by
  unfold routeHelperMessageEvent
  split
  · rfl
  · split
    · split
      · rfl
      · split <;> rfl
    · rfl

/-- A notification is passed on when its parts can be read and no listener
throws. -/
def Notifiable (bufferFrom : Option Json → Except TypeError (List Byte))
    (hears : Nat → Option Json → Option Json → List Byte → Except Failure Unit)
    (listeners : List Nat) (payload : Json) : Prop :=
  ∃ sessionId uuid data, notificationParts bufferFrom payload = .ok (sessionId, uuid, data) ∧
    ∀ listener ∈ listeners, hears listener sessionId uuid data = .ok ()

/-- The lines that the router can deal with in a state. -/
def Routable (bufferFrom : Option Json → Except TypeError (List Byte))
    (hears : Nat → Option Json → Option Json → List Byte → Except Failure Unit)
    (state : HelperLineRouterState) (message : Json) : Prop :=
  message ≠ .null ∧
    if Json.isText (message.property "type") HELPER_MESSAGE_TYPE_EVENT then
      if Json.isText (message.property "name") "ready" then
        state.readyResolved = true ∨ Json.isOptionalObject (message.property "payload") = true
      else Json.isText (message.property "name") HELPER_EVENT_NOTIFICATION = true →
        ∀ payload, message.property "payload" = some payload →
          Notifiable bufferFrom hears state.notificationListeners payload
    else ∀ id, message.property "id" = some (.string id) → id ∈ state.pending → message.isHelperMessage = true

theorem notifyListeners_quiet {sessionId uuid : Option Json} {data : List Byte} (listeners : List Nat) :
    (notifyListeners hears sessionId uuid data listeners).2 = none ↔
      ∀ listener ∈ listeners, hears listener sessionId uuid data = .ok () := by
  induction listeners with
  | nil => simp [notifyListeners]
  | cons listener rest ih =>
    cases heard : hears listener sessionId uuid data with
    | ok => simp [notifyListeners, heard, ih]
    | error error => simp [notifyListeners, heard]

/-- When an event is routed without a throw. -/
theorem routeHelperMessageEvent_quiet (state : HelperLineRouterState) (message : Json) :
    (routeHelperMessageEvent bufferFrom hears state message).thrown = none ↔
      (Json.isText (message.property "name") "ready" = false →
        Json.isText (message.property "name") HELPER_EVENT_NOTIFICATION = true →
          ∀ payload, message.property "payload" = some payload →
            Notifiable bufferFrom hears state.notificationListeners payload) := by
  unfold routeHelperMessageEvent
  split
  · next ready => simp [ready]
  · next ready =>
    split
    · next notification =>
      cases carried : message.property "payload" with
      | none => simp
      | some payload =>
        cases made : notificationParts bufferFrom payload with
        | ok parts =>
          obtain ⟨sessionId, uuid, data⟩ := parts
          simp [ready, notification, notifyListeners_quiet, Notifiable, made]
        | error error => simp [ready, notification, Notifiable, made]
    · next notification => simp [notification]

/-- Nothing is left to settle where `pending` is kept. -/
theorem routesSafely_kept {wellFormed : Prop} {state : HelperLineRouterState} {routed : RoutedLine}
    (kept : routed.state.pending = state.pending) :
    RoutesSafely wellFormed state routed ↔ routed.thrown = none ∧ (¬ wellFormed → routed.state = state) := by
  constructor
  · intro safe
    exact ⟨safe.total, safe.unchanged⟩
  · rintro ⟨total, unchanged⟩
    refine ⟨total, fun id call found gone => ?_, unchanged⟩
    rw [kept, found] at gone
    cases gone

theorem routeHelperMessageEvent_safe_iff {state : HelperLineRouterState} {message : Json}
    (event : Json.isText (message.property "type") HELPER_MESSAGE_TYPE_EVENT = true) :
    RoutesSafely (message.isHelperMessage = true) state (routeHelperMessageEvent bufferFrom hears state message) ↔
      if Json.isText (message.property "name") "ready" then
        state.readyResolved = true ∨ Json.isOptionalObject (message.property "payload") = true
      else Json.isText (message.property "name") HELPER_EVENT_NOTIFICATION = true →
        ∀ payload, message.property "payload" = some payload →
          Notifiable bufferFrom hears state.notificationListeners payload := by
  have kept : (routeHelperMessageEvent bufferFrom hears state message).state.pending = state.pending := by
    rw [routeHelperMessageEvent_state]
    split <;> rfl
  rw [routesSafely_kept kept, routeHelperMessageEvent_quiet, routeHelperMessageEvent_state]
  obtain ⟨pending, listeners, readyResolved⟩ := state
  by_cases ready : Json.isText (message.property "name") "ready" = true
  · simp only [Json.isHelperMessage, event, ready, if_true, Bool.true_eq_false, false_imp_iff, true_and,
      HelperLineRouterState.mk.injEq, Bool.not_eq_true]
    cases readyResolved <;> simp
  · simp [ready]

/-- Answering is safe for well-formed messages, which are the only ones that
should remove an entry. -/
theorem answerPending_safe_iff {state : HelperLineRouterState} {id : String} {call : Nat} {message : Json}
    (event : Json.isText (message.property "type") HELPER_MESSAGE_TYPE_EVENT = false)
    (pending : state.pending.lookup id = some call) :
    RoutesSafely (message.isHelperMessage = true) state (answerPending numberString state id call message) ↔
      message.isHelperMessage = true := by
  constructor
  · intro safe
    by_contra malformed
    have same := congrArg (fun state => state.pending.lookup id) (safe.unchanged malformed)
    simp [pending] at same
  · intro wellFormed
    obtain ⟨quiet, once⟩ := answerPending_settles numberString state id call event wellFormed
    refine ⟨quiet, fun other settledCall found gone => ?_, fun malformed => absurd wellFormed malformed⟩
    have same : other = id := by
      by_contra different
      simp [AList.lookup_erase_ne different, found] at gone
    subst same
    cases pending.symm.trans found
    exact once

/-- The router is safe on a parsed line exactly when it can deal with it. -/
theorem routeHelperMessage_safe_iff (state : HelperLineRouterState) (message : Json) :
    RoutesSafely (message.isHelperMessage = true) state
        (routeHelperMessage numberString bufferFrom hears state message) ↔
      Routable bufferFrom hears state message := by
  by_cases object : message = .null
  · subst object
    refine iff_of_false (fun safe => ?_) fun routable => routable.1 rfl
    cases safe.total
  have type : Json.read (some message) "type" = .ok (message.property "type") := by
    cases message <;> first | exact absurd rfl object | rfl
  simp only [Routable, routeHelperMessage, type, ne_eq, object, not_false_eq_true, true_and]
  split
  · next event => exact routeHelperMessageEvent_safe_iff event
  · next other =>
    rw [Bool.not_eq_true] at other
    split
    · next id carried =>
      cases pending : state.pending.lookup id with
      | some call =>
        have member : id ∈ state.pending := AList.lookup_isSome.mp (by rw [pending]; rfl)
        simp [answerPending_safe_iff other pending, carried, member]
      | none =>
        have absent : id ∉ state.pending := AList.lookup_eq_none.mp pending
        simp [routesSafely_kept, carried, absent]
    · next none_ =>
      simp only [routesSafely_kept, implies_true, and_self, true_iff]
      exact fun id carried => absurd carried (none_ id)

/-- The fields of the client that the router is given. -/
def HelperClient.routerState (c : HelperClient Json) : HelperLineRouterState where
  pending := c.pending
  notificationListeners := c.notificationListeners
  readyResolved := c.readyResolved

/-- A parsed line stands for a message of the protocol. -/
inductive Json.Represents (bufferFrom : Option Json → Except TypeError (List Byte)) (line : Json) :
    HelperMessage Json → Prop
  | response {id : Option String} (type : line.property "type" = some (.string "response"))
      (same : line.property "id" = id.map Json.string) : line.Represents bufferFrom (.response id (line.property "payload"))
  | error {id : Option String} {error : Json} {code message : String}
      (type : line.property "type" = some (.string "error")) (same : line.property "id" = id.map Json.string)
      (carried : line.property "error" = some error) (first : error.property "code" = some (.string code))
      (second : error.property "message" = some (.string message)) :
      line.Represents bufferFrom (.error id code message)
  | ready (type : line.property "type" = some (.string "event"))
      (named : line.property "name" = some (.string "ready")) : line.Represents bufferFrom .ready
  | silent (type : line.property "type" = some (.string "event"))
      (named : line.property "name" = some (.string "notification")) (empty : line.property "payload" = none) :
      line.Represents bufferFrom (.notification none)
  | notification {payload : Json} {sessionId uuid : String} {data : List Byte}
      (type : line.property "type" = some (.string "event"))
      (named : line.property "name" = some (.string "notification")) (carried : line.property "payload" = some payload)
      (made : notificationParts bufferFrom payload = .ok (some (.string sessionId), some (.string uuid), data)) :
      line.Represents bufferFrom (.notification (some ⟨sessionId, uuid, data⟩))
  | otherEvent {name : String} (type : line.property "type" = some (.string "event"))
      (named : line.property "name" = some (.string name)) (different : name ≠ "ready") :
      line.Represents bufferFrom (.otherEvent name)

theorem erase_of_notMem {pending : AList fun _ : String => Nat} {id : String} (absent : id ∉ pending) :
    pending.erase id = pending :=
  AList.ext (List.kerase_of_notMem_keys absent)

/-- A message with an id takes the entry of that id out of `pending`. -/
theorem routeHelperMessage_answer {state : HelperLineRouterState} {line : Json} {id : Option String} {type : String}
    (typed : line.property "type" = some (.string type)) (event : type ≠ HELPER_MESSAGE_TYPE_EVENT)
    (same : line.property "id" = id.map Json.string) :
    (routeHelperMessage numberString bufferFrom hears state line).state =
      { state with pending := id.elim state.pending state.pending.erase } := by
  have read : Json.read (some line) "type" = .ok (line.property "type") := by
    cases line <;> first | rfl | cases typed
  have other : Json.isText (some (.string type)) HELPER_MESSAGE_TYPE_EVENT = false := by simp [Json.isText, event]
  simp only [routeHelperMessage, read, typed, other, same, Bool.false_eq_true, if_false]
  cases id with
  | none => rfl
  | some id =>
    simp only [Option.map_some, Option.elim_some]
    cases found : state.pending.lookup id with
    | some call => exact answerPending_state state id call line
    | none =>
      have absent : id ∉ state.pending := AList.lookup_eq_none.mp found
      rw [erase_of_notMem absent]

theorem routeHelperMessage_event {state : HelperLineRouterState} {line : Json} {name : String}
    (typed : line.property "type" = some (.string "event")) (named : line.property "name" = some (.string name)) :
    (routeHelperMessage numberString bufferFrom hears state line).state =
      if name = "ready" then { state with readyResolved := true } else state := by
  have read : Json.read (some line) "type" = .ok (line.property "type") := by
    cases line <;> first | rfl | cases typed
  have event : Json.isText (some (.string "event")) HELPER_MESSAGE_TYPE_EVENT = true := by decide
  simp only [routeHelperMessage, read, typed, event, if_true, routeHelperMessageEvent_state, named]
  simp [Json.isText]

/-- What an answer does to the client's fields. -/
theorem HelperClient.routerState_answered {c : HelperClient Json} {id : String}
    {outcome : Settlement Failure (Option Json)} :
    (match c.pending.lookup id with
      | some entry => { c with toPendingRequests := c.answer id entry outcome }
      | none => c).routerState =
      { c.routerState with pending := c.pending.erase id } := by
  cases found : c.pending.lookup id with
  | some entry => rfl
  | none =>
    have absent : id ∉ c.pending := AList.lookup_eq_none.mp found
    rw [erase_of_notMem absent]
    rfl

/-- On the messages of the protocol the router does to the client's fields what
`HelperClient.routeHelperLine` does. -/
theorem routeHelperMessage_represents {c : HelperClient Json} {line : Json} {message : HelperMessage Json}
    (represents : line.Represents bufferFrom message) :
    (routeHelperMessage numberString bufferFrom hears c.routerState line).state =
      (c.routeHelperLine message).routerState := by
  cases represents with
  | @response id type same =>
    rw [routeHelperMessage_answer type (by decide) same]
    cases id with
    | none => rfl
    | some id => exact HelperClient.routerState_answered.symm
  | @error id error code message type same carried first second =>
    rw [routeHelperMessage_answer type (by decide) same]
    cases id with
    | none => rfl
    | some id => exact HelperClient.routerState_answered.symm
  | ready type named => exact routeHelperMessage_event type named
  | silent type named => exact routeHelperMessage_event type named
  | notification type named => exact routeHelperMessage_event type named
  | otherEvent type named different =>
    rw [routeHelperMessage_event type named, if_neg different]
    rfl

/-- The router throws nothing, settles what it removes and heeds only messages of
the protocol exactly on the lines that do not parse or that it can deal with. -/
theorem routeHelperLine_safe_iff (parse : String → Except Failure Json) (state : HelperLineRouterState)
    (line : String) :
    RoutesSafely (∃ message, parse line = .ok message ∧ message.isHelperMessage = true) state
        (routeHelperLine numberString bufferFrom hears parse state line) ↔
      ∀ message, parse line = .ok message → Routable bufferFrom hears state message := by
  cases parsed : parse line with
  | ok message =>
    simp only [routeHelperLine, parsed, Except.ok.injEq, exists_eq_left', forall_eq']
    exact routeHelperMessage_safe_iff state message
  | error error => simp [routeHelperLine, parsed, routesSafely_kept]

end RoutedLines

/-- An error message without its error removes the request, stops its deadline and
throws before the request is rejected. -/
theorem bare_error_loses_request :
    let parse := fun line : String =>
      if line = "\x7b\"type\":\"error\",\"id\":\"1\"\x7d" then
        Except.ok (Json.object [("type", .string "error"), ("id", .string "1")])
      else .error (.error "Unexpected token")
    let state : HelperLineRouterState :=
      { pending := AList.insert "1" 0 ∅, notificationListeners := [], readyResolved := true }
    let routed := routeHelperLine (fun _ => "") (fun _ => .ok []) (fun _ _ _ _ => .ok ()) parse state
      "\x7b\"type\":\"error\",\"id\":\"1\"\x7d"
    routed.calls = [.clearTimeout 0] ∧ routed.thrown = some (.typeError (.readsUndefined "code")) ∧
      routed.state.pending.lookup "1" = none ∧
      ¬ RoutesSafely (∃ message, parse "\x7b\"type\":\"error\",\"id\":\"1\"\x7d" = .ok message ∧
        message.isHelperMessage = true) state routed := by
  refine ⟨by rfl, by rfl, by rfl, fun safe => ?_⟩
  cases safe.total

end BluettiMqtt
