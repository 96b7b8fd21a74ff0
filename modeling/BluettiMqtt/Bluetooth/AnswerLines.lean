import BluettiMqtt.Bluetooth.HelperLineRouter
import BluettiMqtt.Core.JsonWriter
import BluettiMqtt.Core.Numbers
import BluettiMqtt.Library.Base64
import BluettiMqtt.Library.JsonPrefix
import BluettiMqtt.Library.LineReader
import BluettiMqtt.Library.Transition

namespace BluettiMqtt
open Promise Transition

namespace Native

structure ScanDevice where
  address : String
  name : String
  rssi : Int16

/-- The payloads of the responses. -/
inductive Answer
  | ok
  | devices (results : List ScanDevice)
  | connected (sessionId address name : String)
  | data (bytes : List Byte)

/-- What the helper writes. A response to a line without an id has none either. -/
inductive Message
  | response (id : Option String) (answer : Answer)
  | error (id : Option String) (code message : String)
  | ready
  | notification (event : HelperNotification)

def texts (properties : List (String × String)) : JsonText.Json :=
  .object (properties.map fun (name, value) => (name, .string value))

def ScanDevice.json (device : ScanDevice) : JsonText.Json :=
  .object [("address", .string device.address), ("name", .string device.name),
    ("rssi", .number (intNumeral device.rssi.toInt))]

def Answer.payload : Answer → JsonText.Json
  | .ok => .object [("ok", .boolean true)]
  | .devices results => .object [("devices", .array (results.map ScanDevice.json))]
  | .connected sessionId address name => texts [("sessionId", sessionId), ("address", address), ("name", name)]
  | .data bytes => texts [("dataBase64", String.ofList (Base64.encode bytes))]

def optionalText : Option String → JsonText.Json
  | none => .null
  | some text => .string text

/-- `WriteResponseAsync`, `WriteErrorAsync` and `WriteEventAsync`. -/
def Message.json : Message → JsonText.Json
  | .response id answer => .object [("type", .string "response"), ("id", optionalText id), ("payload", answer.payload)]
  | .error id code message =>
    .object [("type", .string "error"), ("id", optionalText id), ("error", texts [("code", code), ("message", message)])]
  | .ready =>
    .object [("type", .string "event"), ("name", .string "ready"),
      ("payload", .object [("capabilities", .array [.string "scan", .string "connect", .string "gatt"])])]
  | .notification event =>
    .object [("type", .string "event"), ("name", .string "notification"),
      ("payload", texts [("sessionId", event.sessionId), ("uuid", event.uuid),
        ("dataBase64", String.ofList (Base64.encode event.data))])]

/-- `JsonSerializer.Serialize`, before the line ending. -/
def Message.line (message : Message) : List Char :=
  JsonText.print JSON_SERIALIZER.quoting message.json

/-- What `WriteLineAsync` writes. -/
def Message.written (message : Message) : List Char :=
  message.line ++ ['\r', '\n']

end Native

namespace Json

/-- The entries of an object, of which the last of each name counts. -/
def assigned (entries : List (String × Json)) : List (String × Json) :=
  (entries.foldl (fun object entry => object.set entry.1 entry.2) OrderedMap.empty).entries

mutual

/-- What `JSON.parse` makes of a text. -/
def ofText : JsonText.Json → Json
  | .null => .null
  | .boolean value => .boolean value
  | .number value => .number (.nearest value.value)
  | .string value => .string value
  | .array items => .array (ofTexts items)
  | .object members => .object (assigned (ofMembers members))

def ofTexts : List JsonText.Json → List Json
  | [] => []
  | item :: items => ofText item :: ofTexts items

def ofMembers : List (String × JsonText.Json) → List (String × Json)
  | [] => []
  | (name, value) :: members => (name, ofText value) :: ofMembers members

end

end Json

/-- The message that a line of the helper holds. -/
def Native.Message.message : Native.Message → HelperMessage Json
  | .response id answer => .response id (some (Json.ofText answer.payload))
  | .error id code message => .error id code message
  | .ready => .ready
  | .notification event => .notification (some event)

/-- Node ends lines at the separators of Unicode as well. -/
def READLINE_ENDINGS : Endings where
  ends := fun c => c = '\n' || c = '\r' || c.toNat = 0x2028 || c.toNat = 0x2029
  feed := rfl
  carriageReturn := rfl

/-- `JSON.parse`, given what it throws. -/
def parseLine (syntaxError : String → Failure) (line : String) : Except Failure Json :=
  match JsonText.parse line.toList with
  | some value => .ok (Json.ofText value)
  | none => .error (syntaxError line)

namespace HelperClient

/-- What a call of the router does to the client. -/
def run (c : HelperClient Json) : RouterCall → HelperClient Json
  | .clearTimeout call => { c with toPendingRequests := c.toPendingRequests.clearTimeout call }
  | .resolve call payload => { c with toPendingRequests := c.toPendingRequests.settle call (.fulfilled payload) }
  | .reject call error => { c with toPendingRequests := c.toPendingRequests.settle call (.rejected error) }
  | .onReady => c.settleReady (.fulfilled ())
  | .onReadyError error => c.settleReady (.rejected error)
  | .listener listener (some (.string sessionId)) (some (.string uuid)) data =>
    { c with deliveries := c.deliveries ++ [(listener, ⟨sessionId, uuid, data⟩)] }
  | .listener _ _ _ _ => c

section Lines

variable (numberString : Number → String) (bufferFrom : Option Json → Except TypeError (List Byte))
  (hears : Nat → Option Json → Option Json → List Byte → Except Failure Unit) (syntaxError : String → Failure)

/-- The client's `handleLine`, whose router writes to the client's fields. -/
def handleLine (c : HelperClient Json) (line : List Char) : HelperClient Json :=
  let routed := BluettiMqtt.routeHelperLine numberString bufferFrom hears (parseLine syntaxError) c.routerState (String.ofList line)
  let written :=
    { c with
      pending := routed.state.pending
      readyResolved := routed.state.readyResolved }
  routed.calls.foldl run written

end Lines

/-- The client after an answer. -/
def answered (c : HelperClient Json) (id : Option String) (outcome : Settlement Failure (Option Json)) :
    HelperClient Json :=
  match id with
  | none => c
  | some id =>
    match c.pending.lookup id with
    | some call => { c with toPendingRequests := c.answer id call outcome }
    | none => c

section Messages

variable {numberString : Number → String} {bufferFrom : Option Json → Except TypeError (List Byte)}
  {hears : Nat → Option Json → Option Json → List Byte → Except Failure Unit} {syntaxError : String → Failure}

theorem parseLine_line (message : Native.Message) :
    parseLine syntaxError (String.ofList message.line) = .ok (Json.ofText message.json) := by
  rw [parseLine, String.toList_ofList, Native.Message.line, JsonText.parse_print]

/-- An answer that nobody waits for. -/
theorem handleLine_unasked {c : HelperClient Json} {line : List Char} {message : Json} {type : String}
    (parsed : parseLine syntaxError (String.ofList line) = .ok message)
    (typed : message.property "type" = some (.string type)) (event : type ≠ HELPER_MESSAGE_TYPE_EVENT)
    (unasked : ∀ id, message.property "id" = some (.string id) → c.pending.lookup id = none) :
    c.handleLine numberString bufferFrom hears syntaxError line = c := by
  have read : Json.read (some message) "type" = .ok (message.property "type") := by
    cases message <;> first | rfl | cases typed
  have other : Json.isText (some (.string type)) HELPER_MESSAGE_TYPE_EVENT = false := by simp [Json.isText, event]
  have routed : routeHelperMessage numberString bufferFrom hears c.routerState message =
      { state := c.routerState, calls := [], thrown := none } := by
    simp only [routeHelperMessage, read, typed, other, Bool.false_eq_true, if_false]
    split
    · next id carried =>
      have none_ : c.routerState.pending.lookup id = none := unasked id carried
      rw [none_]
    · rfl
  simp only [handleLine, BluettiMqtt.routeHelperLine, parsed, routed]
  rfl

theorem handleLine_asked {c : HelperClient Json} {line : List Char} {message : Json} {type id : String} {call : Nat}
    (parsed : parseLine syntaxError (String.ofList line) = .ok message)
    (typed : message.property "type" = some (.string type)) (event : type ≠ HELPER_MESSAGE_TYPE_EVENT)
    (same : message.property "id" = some (.string id)) (asked : c.pending.lookup id = some call) :
    c.handleLine numberString bufferFrom hears syntaxError line =
      (answerPending numberString c.routerState id call message).calls.foldl run
        { c with pending := c.pending.erase id } := by
  have read : Json.read (some message) "type" = .ok (message.property "type") := by
    cases message <;> first | rfl | cases typed
  have other : Json.isText (some (.string type)) HELPER_MESSAGE_TYPE_EVENT = false := by simp [Json.isText, event]
  have found : c.routerState.pending.lookup id = some call := asked
  have routed : routeHelperMessage numberString bufferFrom hears c.routerState message =
      answerPending numberString c.routerState id call message := by
    simp only [routeHelperMessage, read, typed, other, same, found, Bool.false_eq_true, if_false]
  simp only [handleLine, BluettiMqtt.routeHelperLine, parsed, routed, answerPending_state]
  rfl

/-- A response and an error settle the call that waits for them. -/
theorem handleLine_answer {c : HelperClient Json} {line : List Char} {message : Json} {id : Option String}
    {outcome : Settlement Failure (Option Json)}
    (parsed : parseLine syntaxError (String.ofList line) = .ok message)
    (typed : ∃ type, message.property "type" = some (.string type) ∧ type ≠ HELPER_MESSAGE_TYPE_EVENT)
    (same : message.property "id" = some (Json.ofText (Native.optionalText id)))
    (settles : ∀ id call, (answerPending numberString c.routerState id call message).calls.foldl run
        { c with pending := c.pending.erase id } = { c with toPendingRequests := c.answer id call outcome })
    : c.handleLine numberString bufferFrom hears syntaxError line = c.answered id outcome := by
  obtain ⟨type, typed, event⟩ := typed
  cases id with
  | none =>
    refine handleLine_unasked parsed typed event fun id carried => ?_
    cases same.symm.trans carried
  | some id =>
    rw [answered]
    cases asked : c.pending.lookup id with
    | some call =>
      rw [handleLine_asked parsed typed event same asked]
      exact settles id call
    | none =>
      refine handleLine_unasked parsed typed event fun other carried => ?_
      cases same.symm.trans carried
      exact asked

theorem foldl_run_listeners (event : HelperNotification) (listeners : List Nat) (c : HelperClient Json)
    (quiet : ∀ listener sessionId uuid data, hears listener sessionId uuid data = .ok ()) :
    (notifyListeners hears (some (.string event.sessionId)) (some (.string event.uuid)) event.data listeners).1.foldl run c =
      { c with deliveries := c.deliveries ++ listeners.map fun listener => (listener, event) } := by
  induction listeners generalizing c with
  | nil => simp [notifyListeners]
  | cons listener listeners ih =>
    simp only [notifyListeners, quiet, List.foldl_cons, ih, run, List.map_cons, List.append_assoc, List.singleton_append]

variable (decodes : ∀ text, bufferFrom (some (.string text)) = .ok (Base64.decodeLenient text.toList))
  (quiet : ∀ listener sessionId uuid data, hears listener sessionId uuid data = .ok ())

include decodes quiet in
/-- The client does on a line of the helper what the message stands for. -/
theorem handleLine_message (c : HelperClient Json) (message : Native.Message) :
    c.handleLine numberString bufferFrom hears syntaxError message.line = c.routeHelperLine message.message := by
  have parsed : parseLine syntaxError (String.ofList message.line) = _ := parseLine_line message
  cases message with
  | response id answer =>
    have settled : c.routeHelperLine (Native.Message.response id answer).message =
        c.answered id (.fulfilled (some (Json.ofText answer.payload))) := by
      cases id <;> rfl
    rw [settled]
    exact handleLine_answer parsed ⟨"response", rfl, by decide⟩ rfl fun id call => rfl
  | error id code text =>
    have settled : c.routeHelperLine (Native.Message.error id code text).message =
        c.answered id (.rejected (createHelperError code text)) := by
      cases id <;> rfl
    rw [settled]
    refine handleLine_answer parsed ⟨"error", rfl, by decide⟩ rfl fun entry call => ?_
    have made : messageError numberString ((Json.ofText (Native.Message.error id code text).json).property "error") =
        .ok (createHelperError code text) :=
      createMessageError_strings numberString code text
    have other : Json.isText ((Json.ofText (Native.Message.error id code text).json).property "type") "response" = false :=
      rfl
    simp only [answerPending, other, made, Bool.false_eq_true, if_false]
    rfl
  | ready =>
    simp only [handleLine, BluettiMqtt.routeHelperLine, parsed]
    rfl
  | notification event =>
    have carried : (Json.ofText (Native.Message.notification event).json).property "payload" =
        some (.object [("sessionId", .string event.sessionId), ("uuid", .string event.uuid),
          ("dataBase64", .string (String.ofList (Base64.encode event.data)))]) := rfl
    have made : notificationParts bufferFrom (.object [("sessionId", .string event.sessionId),
        ("uuid", .string event.uuid), ("dataBase64", .string (String.ofList (Base64.encode event.data)))]) =
        .ok (some (.string event.sessionId), some (.string event.uuid), event.data) := by
      have decoded := decodes (String.ofList (Base64.encode event.data))
      rw [String.toList_ofList, Base64.decodeLenient_encode] at decoded
      change (bufferFrom (some (.string (String.ofList (Base64.encode event.data)))) >>= fun data => _) = _
      rw [decoded]
      rfl
    have routed : routeHelperMessage numberString bufferFrom hears c.routerState
        (Json.ofText (Native.Message.notification event).json) =
        routeHelperMessageEvent bufferFrom hears c.routerState (Json.ofText (Native.Message.notification event).json) :=
      rfl
    have ready : Json.isText ((Json.ofText (Native.Message.notification event).json).property "name") "ready" = false :=
      rfl
    have named : Json.isText ((Json.ofText (Native.Message.notification event).json).property "name")
        HELPER_EVENT_NOTIFICATION = true := rfl
    simp only [handleLine, BluettiMqtt.routeHelperLine, parsed, routed, routeHelperMessageEvent, ready, named, carried,
      made, Bool.false_eq_true, if_false, if_true]
    exact foldl_run_listeners event c.notificationListeners c quiet

end Messages

end HelperClient

/-- The client with the reader of the helper's standard output, which may have ended. -/
structure WiredClient where
  reader : LineReader
  ended : Bool
  client : HelperClient Json

/-- Some output of the helper comes in, or its end, or something else happens to the client. -/
inductive WireEvent
  | chunk (prompt : Bool) (text : List Char)
  | ended
  | other (event : HelperEvent Json)

def HelperEvent.isLine {π : Type*} : HelperEvent π → Bool
  | .line _ => true
  | .malformedLine _ => true
  | _ => false

namespace WiredClient

def create : WiredClient where
  reader := LineReader.start
  ended := false
  client := HelperClient.create

section Steps

variable (numberString : Number → String) (bufferFrom : Option Json → Except TypeError (List Byte))
  (hears : Nat → Option Json → Option Json → List Byte → Except Failure Unit) (syntaxError : String → Failure)

/-- At the end of the output Node hands on as a line what has come in after the last one. -/
def step (w : WiredClient) : WireEvent → Option WiredClient
  | .chunk prompt text =>
    if w.ended then none
    else
      let written := w.reader.write READLINE_ENDINGS prompt text
      some { w with
        reader := written.2
        client := written.1.foldl (HelperClient.handleLine numberString bufferFrom hears syntaxError) w.client }
  | .ended =>
    if w.ended then none
    else
      some { w with
        ended := true
        client :=
          if w.reader.buffer = [] then w.client
          else HelperClient.handleLine numberString bufferFrom hears syntaxError w.client w.reader.buffer }
  | .other event =>
    if event.isLine then none else (w.client.step event).map fun client => { w with client := client }

end Steps

/-- What has come in. -/
def received : List WireEvent → List Char
  | [] => []
  | .chunk _ text :: trace => text ++ received trace
  | .ended :: trace => received trace
  | .other _ :: trace => received trace

section Heard

variable (syntaxError : String → Failure) (messages : List Native.Message)

/-- What the client hears at the end of the output of the line that has not ended. It
counts when no more than its ending is missing. -/
def heardCut (past : List Char) : List (HelperEvent Json) :=
  match messages[past.count '\r']?, past.rtakeWhile fun c => !READLINE_ENDINGS.ends c with
  | some message, c :: rest =>
    if c :: rest = message.line then [.line message.message]
    else [.malformedLine (syntaxError (String.ofList (c :: rest)))]
  | _, _ => []

/-- What the client hears when the helper writes these messages. A message is there with
the carriage return of its line. -/
def hear (past : List Char) : WireEvent → List (HelperEvent Json)
  | .chunk _ text => ((messages.drop (past.count '\r')).take (text.count '\r')).map fun message => .line message.message
  | .ended => heardCut syntaxError messages past
  | .other event => [event]

def heardAfter : List Char → List WireEvent → List (HelperEvent Json)
  | _, [] => []
  | past, e :: trace => hear syntaxError messages past e ++ heardAfter (past ++ received [e]) trace

/-- The events of the client. -/
def heard (trace : List WireEvent) : List (HelperEvent Json) :=
  heardAfter syntaxError messages [] trace

theorem received_cons (e : WireEvent) (trace : List WireEvent) : received (e :: trace) = received [e] ++ received trace := by
  cases e <;> simp [received]

@[simp] theorem received_append (trace : List WireEvent) (e : WireEvent) :
    received (trace ++ [e]) = received trace ++ received [e] := by
  induction trace with
  | nil => rfl
  | cons first trace ih => rw [List.cons_append, received_cons, ih, received_cons first trace, List.append_assoc]

theorem heard_append (trace : List WireEvent) (e : WireEvent) :
    heard syntaxError messages (trace ++ [e]) =
      heard syntaxError messages trace ++ hear syntaxError messages (received trace) e := by
  suffices after_ : ∀ past, heardAfter syntaxError messages past (trace ++ [e]) =
      heardAfter syntaxError messages past trace ++ hear syntaxError messages (past ++ received trace) e from after_ []
  induction trace with
  | nil => simp [heardAfter, received]
  | cons first trace ih =>
    intro past
    rw [List.cons_append, heardAfter, heardAfter, ih, received_cons first trace, List.append_assoc, List.append_assoc]

end Heard

section Runs

variable {numberString : Number → String} {bufferFrom : Option Json → Except TypeError (List Byte)}
  {hears : Nat → Option Json → Option Json → List Byte → Except Failure Unit} {syntaxError : String → Failure}

theorem run_readyResolved (c : HelperClient Json) (call : RouterCall) : (c.run call).readyResolved = c.readyResolved := by
  unfold HelperClient.run
  split <;> rfl

theorem foldl_run_readyResolved (calls : List RouterCall) (c : HelperClient Json) :
    (calls.foldl HelperClient.run c).readyResolved = c.readyResolved := by
  induction calls generalizing c with
  | nil => rfl
  | cons call calls ih => rw [List.foldl_cons, ih, run_readyResolved]

/-- Once the helper is ready it stays so for the router. -/
theorem routeHelperMessage_readyResolved {state : HelperLineRouterState} (ready : state.readyResolved = true)
    (message : Json) : (routeHelperMessage numberString bufferFrom hears state message).state.readyResolved = true := by
  unfold routeHelperMessage
  split
  · exact ready
  · split
    · rw [routeHelperMessageEvent_state]
      split
      · rfl
      · exact ready
    · split
      · split
        · rw [answerPending_state]
          exact ready
        · exact ready
      · exact ready

theorem handleLine_readyResolved {c : HelperClient Json} (ready : c.readyResolved = true) (line : List Char) :
    (c.handleLine numberString bufferFrom hears syntaxError line).readyResolved = true := by
  rw [HelperClient.handleLine, foldl_run_readyResolved]
  change (routeHelperLine numberString bufferFrom hears (parseLine syntaxError) c.routerState
    (String.ofList line)).state.readyResolved = true
  unfold routeHelperLine
  split
  · exact routeHelperMessage_readyResolved ready _
  · exact ready

/-- A line that is no JSON. -/
theorem handleLine_malformed (c : HelperClient Json) {line : List Char} (cut : JsonText.parse line = none) :
    c.handleLine numberString bufferFrom hears syntaxError line =
      c.routeMalformedLine (syntaxError (String.ofList line)) := by
  have parsed : parseLine syntaxError (String.ofList line) = .error (syntaxError (String.ofList line)) := by
    rw [parseLine, String.toList_ofList, cut]
  simp only [HelperClient.handleLine, routeHelperLine, parsed, HelperClient.routeMalformedLine]
  have same : c.routerState.readyResolved = c.readyResolved := rfl
  rw [same]
  by_cases ready : c.readyResolved = true
  · rw [if_pos ready, if_pos ready]
    rfl
  · rw [if_neg ready, if_neg ready]
    rfl

/-- A blank line only matters to a client that is not ready. -/
theorem handleLine_blank {c : HelperClient Json} (ready : c.readyResolved = true) :
    c.handleLine numberString bufferFrom hears syntaxError [] = c := by
  rw [handleLine_malformed c rfl, HelperClient.routeMalformedLine, if_pos ready]

theorem step_readyResolved {c d : HelperClient Json} {e : HelperEvent Json} (run : c.step e = some d)
    (ready : c.readyResolved = true) (other : e.isLine = false) : d.readyResolved = true := by
  cases e with
  | line message => cases other
  | malformedLine error => cases other
  | request call command arguments =>
    obtain ⟨_, same⟩ := Option.ite_none_right_eq_some.mp run
    cases same
    exact ready
  | readySettled call id write =>
    simp only [HelperClient.step] at run
    split at run
    · obtain ⟨_, same⟩ := Option.ite_none_right_eq_some.mp run
      cases same
      exact ready
    · obtain ⟨_, same⟩ := Option.ite_none_right_eq_some.mp run
      cases same
      exact ready
    · cases run
  | deadline call =>
    simp only [HelperClient.step] at run
    split at run
    · obtain ⟨_, same⟩ := Option.ite_none_right_eq_some.mp run
      cases same
      exact ready
    · cases run
  | processError error =>
    obtain ⟨_, same⟩ := Option.ite_none_left_eq_some.mp run
    cases same
    simp only [HelperClient.onProcessError, ready, if_true]
    exact ready
  | exit code =>
    obtain ⟨_, same⟩ := Option.ite_none_left_eq_some.mp run
    cases same
    simp only [HelperClient.onExit, ready, if_true]
    split
    · rfl
    · exact ready
  | _ =>
    cases run
    exact ready

/-- The lines of messages one after the other. -/
theorem reach_lines (messages : List Native.Message) (c : HelperClient Json) :
    Reach HelperClient.step (fun _ _ => True) c (messages.map fun message => .line message.message)
      (messages.foldl (fun c message => c.routeHelperLine message.message) c) := by
  induction messages generalizing c with
  | nil => exact .start
  | cons message messages ih => exact .cons trivial rfl (ih _)

theorem readline_terminates : LineReader.Terminates READLINE_ENDINGS '\r' ['\n'] where
  ends := rfl
  rest := by simp [READLINE_ENDINGS]
  once := by decide

/-- A line of the helper is ASCII without control characters. -/
theorem line_solid (message : Native.Message) :
    message.line ≠ [] ∧ ∀ c ∈ message.line, READLINE_ENDINGS.ends c = false := by
  constructor
  · cases message <;> exact List.cons_ne_nil _ _
  · intro c member
    obtain ⟨low, high⟩ := serialized_ascii message.json c member
    have other : ∀ d : Char, d.toNat < 0x20 → c ≠ d := by
      rintro d control rfl
      omega
    have narrow : c.toNat ≠ 0x2028 ∧ c.toNat ≠ 0x2029 := by omega
    simp [READLINE_ENDINGS, other '\n' (by decide), other '\r' (by decide), narrow]

theorem written_eq (messages : List Native.Message) :
    (messages.map Native.Message.line).flatMap (fun line => line ++ ['\r', '\n']) =
      messages.flatMap Native.Message.written :=
  List.flatMap_map ..

theorem lines_solid (messages : List Native.Message) : ∀ line ∈ messages.map Native.Message.line,
    line ≠ [] ∧ ∀ c ∈ line, READLINE_ENDINGS.ends c = false := by
  intro line member
  obtain ⟨message, _, rfl⟩ := List.mem_map.mp member
  exact line_solid message

theorem paired_lines (messages : List Native.Message) :
    LineReader.Paired ((messages.map Native.Message.line).flatMap fun line => line ++ ['\r', '\n']) := by
  refine LineReader.paired_flatMap fun line member return_ => ?_
  have open_ := (lines_solid messages line member).2 _ return_
  cases READLINE_ENDINGS.carriageReturn.symm.trans open_

variable (decodes : ∀ text, bufferFrom (some (.string text)) = .ok (Base64.decodeLenient text.toList))
  (quiet : ∀ listener sessionId uuid data, hears listener sessionId uuid data = .ok ())

include decodes quiet in
theorem foldl_handleLine (messages : List Native.Message) (c : HelperClient Json) :
    (messages.map Native.Message.line).foldl (HelperClient.handleLine numberString bufferFrom hears syntaxError) c =
      messages.foldl (fun c message => c.routeHelperLine message.message) c := by
  rw [List.foldl_map]
  congr 1
  funext c message
  exact HelperClient.handleLine_message decodes quiet c message

/-- What is true of the wired client while the helper writes these messages. -/
structure Follows (syntaxError : String → Failure) (messages : List Native.Message) (trace : List WireEvent) (w : WiredClient) : Prop where
  reads : w.reader.Reads READLINE_ENDINGS '\r' (messages.map Native.Message.line) (received trace)
  ready : (received trace).count '\r' ≠ 0 → w.client.readyResolved = true
  run : Reach HelperClient.step (fun _ _ => True) HelperClient.create (heard syntaxError messages trace) w.client

theorem foldl_readyResolved (lines : List (List Char)) {c : HelperClient Json} (ready : c.readyResolved = true) :
    (lines.foldl (HelperClient.handleLine numberString bufferFrom hears syntaxError) c).readyResolved = true := by
  induction lines generalizing c with
  | nil => exact ready
  | cons line lines ih => exact ih (handleLine_readyResolved ready line)

include decodes quiet in
/-- Lines that come to a client that is ready. -/
theorem foldl_lines_ready {messages : List Native.Message} {lines : List (List Char)} {c : HelperClient Json}
    (whole : LineReader.nonblank lines = messages.map Native.Message.line) (ready : c.readyResolved = true) :
    lines.foldl (HelperClient.handleLine numberString bufferFrom hears syntaxError) c =
      messages.foldl (fun c message => c.routeHelperLine message.message) c := by
  rw [← foldl_handleLine decodes quiet, ← whole]
  exact LineReader.foldl_nonblank (fun _ => handleLine_blank) (fun _ line ready => handleLine_readyResolved ready line)
    lines ready

include decodes quiet in
/-- The lines that a chunk completes. A client that is not ready has its first message
before any blank line. -/
theorem foldl_lines {messages : List Native.Message} {lines : List (List Char)} {c : HelperClient Json}
    (whole : LineReader.nonblank lines = messages.map Native.Message.line)
    (first : c.readyResolved = true ∨ lines.head? ≠ some [] ∧ ∀ message ∈ messages.head?, message = .ready) :
    lines.foldl (HelperClient.handleLine numberString bufferFrom hears syntaxError) c =
        messages.foldl (fun c message => c.routeHelperLine message.message) c ∧
      (c.readyResolved = true ∨ messages ≠ [] →
        (messages.foldl (fun c message => c.routeHelperLine message.message) c).readyResolved = true) := by
  rcases first with ready | ⟨head, first⟩
  · have same : lines.foldl (HelperClient.handleLine numberString bufferFrom hears syntaxError) c = _ :=
      foldl_lines_ready decodes quiet whole ready
    exact ⟨same, fun _ => same ▸ foldl_readyResolved lines ready⟩
  · cases lines with
    | nil =>
      cases messages with
      | nil => exact ⟨rfl, by simp⟩
      | cons message messages => cases whole
    | cons line lines =>
      have some_ : line ≠ [] := fun empty => head (by rw [empty]; rfl)
      have full : LineReader.nonblank [line] = [line] := by simp [LineReader.nonblank, some_]
      rw [LineReader.nonblank_cons, full] at whole
      cases messages with
      | nil => cases whole
      | cons message messages =>
        obtain ⟨rfl, rest⟩ := List.cons.inj whole
        cases first message rfl
        have ready : (c.routeHelperLine Native.Message.ready.message).readyResolved = true := rfl
        have same : lines.foldl (HelperClient.handleLine numberString bufferFrom hears syntaxError) _ = _ :=
          foldl_lines_ready decodes quiet rest ready
        rw [List.foldl_cons, HelperClient.handleLine_message decodes quiet]
        exact ⟨same, fun _ => by rw [List.foldl_cons, ← same]; exact foldl_readyResolved lines ready⟩

theorem parse_cut_line {message : Native.Message} {rest : List Char} (initial : rest <+: message.line) (begun : rest ≠ [])
    (cut : rest ≠ message.line) : JsonText.parse rest = none := by
  obtain ⟨more, whole⟩ := initial
  obtain ⟨members, object⟩ : ∃ members, message.json = .object members := by cases message <;> exact ⟨_, rfl⟩
  rw [Native.Message.line, object] at whole
  refine JsonText.parse_cut whole begun ?_
  rintro rfl
  rw [List.append_nil] at whole
  rw [Native.Message.line, object] at cut
  exact cut whole

include decodes quiet in
/-- The end of the output, when this has come in after the last line. -/
theorem reach_cut {messages : List Native.Message} {past rest : List Char}
    (unterminated : rest = past.rtakeWhile fun c => !READLINE_ENDINGS.ends c)
    (initial : past <+: messages.flatMap Native.Message.written) (c : HelperClient Json) :
    let closed := if rest = [] then c else c.handleLine numberString bufferFrom hears syntaxError rest
    Reach HelperClient.step (fun _ _ => True) c (heardCut syntaxError messages past) closed ∧
      (c.readyResolved = true → closed.readyResolved = true) := by
  intro closed
  refine ⟨?_, fun ready => ?_⟩
  · cases rest with
    | nil =>
      have nothing : heardCut syntaxError messages past = [] := by
        rw [heardCut, ← unterminated]
        cases messages[past.count '\r']? <;> rfl
      rw [nothing]
      exact .start
    | cons d rest =>
      rw [← written_eq] at initial
      obtain ⟨line, listed, begins⟩ := LineReader.unterminated_of_lines readline_terminates (messages.map Native.Message.line)
        (lines_solid messages) initial (by rw [← unterminated]; exact List.cons_ne_nil _ _)
      rw [List.getElem?_map] at listed
      obtain ⟨message, found, rfl⟩ := Option.map_eq_some_iff.mp listed
      rw [← unterminated] at begins
      have shape : closed = c.handleLine numberString bufferFrom hears syntaxError (d :: rest) := if_neg (List.cons_ne_nil _ _)
      rw [heardCut, found, ← unterminated, shape]
      dsimp only
      by_cases whole : d :: rest = message.line
      · rw [if_pos whole, whole, HelperClient.handleLine_message decodes quiet]
        exact .cons trivial rfl .start
      · rw [if_neg whole, handleLine_malformed c (parse_cut_line begins (List.cons_ne_nil _ _) whole)]
        exact .cons trivial rfl .start
  · change (if rest = [] then c else c.handleLine numberString bufferFrom hears syntaxError rest).readyResolved = true
    split
    · exact ready
    · exact handleLine_readyResolved ready rest

include decodes quiet in
/-- A step of the wired client. -/
theorem follows_step {messages : List Native.Message} (first : messages.head? = some .ready) {trace : List WireEvent}
    {w x : WiredClient} {e : WireEvent} (follows : Follows syntaxError messages trace w)
    (initial : received (trace ++ [e]) <+: messages.flatMap Native.Message.written)
    (run : w.step numberString bufferFrom hears syntaxError e = some x) : Follows syntaxError messages (trace ++ [e]) x := by
  obtain ⟨reads, ready, reach⟩ := follows
  cases e with
  | chunk prompt text =>
    have made : x = { w with
        reader := (w.reader.write READLINE_ENDINGS prompt text).2
        client := (w.reader.write READLINE_ENDINGS prompt text).1.foldl
          (HelperClient.handleLine numberString bufferFrom hears syntaxError) w.client } :=
      (Option.some.inj (Option.ite_none_left_eq_some.mp run).2).symm
    subst made
    have same : received (trace ++ [.chunk prompt text]) = received trace ++ text := by simp [received]
    rw [same, ← written_eq] at initial
    obtain ⟨completed, reads, head⟩ :=
      LineReader.write_lines prompt readline_terminates (lines_solid messages) (paired_lines messages) reads initial
    rw [← List.map_drop, ← List.map_take] at completed
    have begins : w.client.readyResolved = true ∨ (w.reader.write READLINE_ENDINGS prompt text).1.head? ≠ some [] ∧
        ∀ message ∈ ((messages.drop ((received trace).count '\r')).take (text.count '\r')).head?, message = .ready := by
      by_cases none_ : (received trace).count '\r' = 0
      · refine Or.inr ⟨head none_, fun message member => ?_⟩
        rw [none_, List.drop_zero, List.head?_take] at member
        split at member
        · cases member
        · exact Option.some.inj (member.symm.trans first)
      · exact Or.inl (ready none_)
    obtain ⟨ran, later⟩ := foldl_lines decodes quiet completed begins
    refine ⟨by rw [same]; exact reads, fun some_ => ?_, ?_⟩
    · rw [ran]
      refine later ?_
      by_cases none_ : (received trace).count '\r' = 0
      · right
        obtain ⟨message, messages, rfl⟩ : ∃ message rest, messages = message :: rest := by
          cases messages with
          | nil => cases first
          | cons message rest => exact ⟨message, rest, rfl⟩
        rw [same, List.count_append, none_, Nat.zero_add] at some_
        rw [none_, List.drop_zero, ne_eq, List.take_eq_nil_iff, not_or]
        exact ⟨some_, List.cons_ne_nil _ _⟩
      · exact Or.inl (ready none_)
    · rw [heard_append, ran]
      exact reach.trans (reach_lines _ _)
  | ended =>
    obtain ⟨_, same⟩ := Option.ite_none_left_eq_some.mp run
    cases same
    have same : received (trace ++ [.ended]) = received trace := by simp [received]
    rw [same] at initial
    obtain ⟨cut, kept⟩ := reach_cut decodes quiet reads.unterminated initial w.client
    refine ⟨by rw [same]; exact reads, fun some_ => ?_, ?_⟩
    · rw [same] at some_
      exact kept (ready some_)
    · rw [heard_append]
      exact reach.trans cut
  | other event =>
    obtain ⟨line, asked⟩ := Option.ite_none_left_eq_some.mp run
    obtain ⟨client, ran, rfl⟩ := Option.map_eq_some_iff.mp asked
    have same : received (trace ++ [.other event]) = received trace := by simp [received]
    refine ⟨by rw [same]; exact reads, fun some_ => ?_, ?_⟩
    · rw [same] at some_
      exact step_readyResolved ran (ready some_) (by simpa using line)
    · rw [heard_append]
      exact .next reach trivial ran

include decodes quiet in
theorem follows_of_reach {messages : List Native.Message} (first : messages.head? = some .ready)
    {trace : List WireEvent} {w : WiredClient}
    (reach : Reach (step numberString bufferFrom hears syntaxError) (fun _ _ => True) create trace w)
    (initial : received trace <+: messages.flatMap Native.Message.written) : Follows syntaxError messages trace w := by
  induction reach with
  | start => exact ⟨LineReader.reads_start _ _, fun some_ => absurd rfl some_, .start⟩
  | @next trace s e t _ _ ran ih =>
    have sooner : received trace <+: messages.flatMap Native.Message.written := by
      rw [received_append] at initial
      exact (List.prefix_append _ _).trans initial
    exact follows_step decodes quiet first (ih sooner) initial ran

include decodes quiet in
/-- Whatever pieces the output of the helper comes in, and whatever else happens in
between, the client is where the messages bring it whose lines have come in. -/
theorem helper_output_arrives {messages : List Native.Message} (first : messages.head? = some .ready)
    {trace : List WireEvent} {w : WiredClient}
    (reach : Reach (step numberString bufferFrom hears syntaxError) (fun _ _ => True) create trace w)
    (initial : received trace <+: messages.flatMap Native.Message.written) :
    Reach HelperClient.step (fun _ _ => True) HelperClient.create (heard syntaxError messages trace) w.client :=
  (follows_of_reach decodes quiet first reach initial).run

end Runs

/-- `Buffer.from` of texts in base 64, which is all that comes. -/
def textBuffer : Option Json → Except TypeError (List Byte)
  | some (.string text) => .ok (Base64.decodeLenient text.toList)
  | _ => .error .invalidArgument

/-- The ready line is cut between its carriage return and its line feed, which comes late,
together with a notification and the beginning of another one, with which the output ends. -/
theorem helper_output_arrives_late :
    let messages := [Native.Message.ready, .notification ⟨"s", "ff01", [0x01#8, 0x03#8]⟩,
      .notification ⟨"s", "ff01", [0x02#8]⟩]
    let written := messages.flatMap Native.Message.written
    let half := Native.Message.ready.line.length + 1
    let trace := [WireEvent.chunk true (written.take half), .other (.onNotification 0),
      .chunk false ((written.drop half).take 150), .ended]
    ∃ w, Reach (step (fun _ => "") textBuffer (fun _ _ _ _ => .ok ()) .error) (fun _ _ => True) create trace w ∧
      Reach HelperClient.step (fun _ _ => True) HelperClient.create (heard .error messages trace) w.client := by
  intro messages written half trace
  have reach : ∃ w, Reach (step (fun _ => "") textBuffer (fun _ _ _ _ => .ok ()) .error) (fun _ _ => True) create
      trace w :=
    ⟨_, .cons trivial rfl (.cons trivial rfl (.cons trivial rfl (.cons trivial rfl .start)))⟩
  obtain ⟨w, reach⟩ := reach
  have initial : received trace <+: written := by
    have parts : received trace = written.take half ++ (written.drop half).take 150 := by simp [trace, received]
    rw [parts]
    nth_rewrite 3 [← List.take_append_drop half written]
    exact (List.prefix_append_right_inj _).mpr (List.take_prefix _ _)
  exact ⟨w, reach, helper_output_arrives (fun _ => rfl) (fun _ _ _ _ => rfl) rfl reach initial⟩

end WiredClient

end BluettiMqtt
