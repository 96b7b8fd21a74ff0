import BluettiMqtt.Core.JsonWriter
import BluettiMqtt.Library.Base64
import BluettiMqtt.Library.LineReader
import Mathlib.Data.List.Forall2

namespace BluettiMqtt

/-- What the methods of the client ask of the helper. A scan takes a whole number of
milliseconds. -/
inductive ClientRequest
  | scan (timeoutMs : Int)
  | connect (address : String)
  | disconnect (sessionId : String)
  | readCharacteristic (sessionId uuid : String)
  | writeCharacteristic (sessionId uuid : String) (data : List Byte) (withoutResponse : Bool)
  | subscribe (sessionId uuid : String)
  deriving DecidableEq

def ClientRequest.command : ClientRequest → String
  | .scan _ => "scan"
  | .connect _ => "connect"
  | .disconnect _ => "disconnect"
  | .readCharacteristic _ _ => "readCharacteristic"
  | .writeCharacteristic _ _ _ _ => "writeCharacteristic"
  | .subscribe _ _ => "subscribe"

def ClientRequest.argumentsObject : ClientRequest → List (String × JsonText.Json)
  | .scan timeoutMs => [("timeoutMs", .number (intNumeral timeoutMs))]
  | .connect address => [("address", .string address)]
  | .disconnect sessionId => [("sessionId", .string sessionId)]
  | .readCharacteristic sessionId uuid => [("sessionId", .string sessionId), ("uuid", .string uuid)]
  | .writeCharacteristic sessionId uuid data withoutResponse =>
    [("sessionId", .string sessionId), ("uuid", .string uuid),
      ("dataBase64", .string (String.ofList (Base64.encode data))), ("withoutResponse", .boolean withoutResponse)]
  | .subscribe sessionId uuid => [("sessionId", .string sessionId), ("uuid", .string uuid)]

/-- The object that `sendHelperRequest` writes, which a line feed follows. -/
def ClientRequest.requestObject (request : ClientRequest) (id : String) : JsonText.Json :=
  .object [("id", .string id), ("command", .string request.command), ("arguments", .object request.argumentsObject)]

def ClientRequest.line (request : ClientRequest) (id : String) : List Char :=
  (stringify (request.requestObject id)).toList

namespace Native

/-- A line as the helper takes it. -/
structure HelperRequest where
  id : Option String
  command : Option String
  arguments : Option JsonText.Json

/-- What the handlers throw before they call the system: an error of their own, or one of
the functions that read JSON, numbers and base 64. -/
inductive Exception
  | thrown (message : String)
  | invalidOperation
  | format
  deriving DecidableEq

/-- What the handlers ask of the system. -/
inductive NativeCall
  | ping
  | scan (timeoutMs : Int)
  | connect (addressText : String)
  | disconnect (sessionId : String)
  | readCharacteristic (sessionId uuid : String)
  | writeCharacteristic (sessionId uuid : String) (data : List Byte) (withoutResponse : Bool)
  | subscribe (sessionId uuid : String)
  deriving DecidableEq

/-- What comes of a line. -/
inductive Outcome
  | invalidJson
  | invalidRequest
  | unsupported (id command : Option String)
  | failed (id : Option String) (exception : Exception)
  | call (id : Option String) (call : NativeCall)
  deriving DecidableEq

/-- The end of a handler, with the `catch` around it. -/
def Outcome.of (id : Option String) : Except Exception NativeCall → Outcome
  | .ok asked => .call id asked
  | .error exception => .failed id exception

/-- `Console.In` ends a line at carriage returns and line feeds. It is taken to decode
the UTF-8 that Node writes; ASCII it decodes in any code page. -/
def CONSOLE_ENDINGS : Endings where
  ends := fun c => c = '\n' || c = '\r'
  feed := rfl
  carriageReturn := rfl

def isWhiteSpace (c : Char) : Bool :=
  let code := c.toNat
  (9 ≤ code && code ≤ 13) || code = 0x20 || code = 0x85 || code = 0xa0 || code = 0x1680 ||
    (0x2000 ≤ code && code ≤ 0x200a) || code = 0x2028 || code = 0x2029 || code = 0x202f || code = 0x205f ||
    code = 0x3000

/-- `string.IsNullOrWhiteSpace`. -/
def isBlank (line : List Char) : Bool :=
  line.all isWhiteSpace

/-- A property that holds a text or nothing. -/
def readText : JsonText.Json → Option (Option String)
  | .null => some none
  | .string value => some (some value)
  | _ => none

/-- A property of the request, whose name may be spelt in either case. -/
def readProperty (request : HelperRequest) (property : String × JsonText.Json) : Option HelperRequest :=
  let name := property.1.toList.map Char.toLower
  if name = "id".toList then (readText property.2).map fun id => { request with id := id }
  else if name = "command".toList then (readText property.2).map fun command => { request with command := command }
  else if name = "arguments".toList then
    match property.2 with
    | .null => some { request with arguments := none }
    | element => some { request with arguments := some element }
  else some request

/-- `JsonSerializer.Deserialize<HelperRequest>`, whose exception is `none`. -/
def deserialize (line : List Char) : Option (Option HelperRequest) :=
  match JsonText.parse line with
  | some .null => some none
  | some (.object properties) =>
    (properties.foldlM readProperty { id := none, command := none, arguments := none }).map some
  | _ => none

def getPropertyOrDefault (element : JsonText.Json) (propertyName : String) : Except Exception (Option JsonText.Json) :=
  match element with
  | .object properties => .ok ((properties.reverse.find? fun property => property.1 = propertyName).map Prod.snd)
  | _ => .error .invalidOperation

def getPropertyOrDefaultNullable (element : Option JsonText.Json) (propertyName : String) :
    Except Exception (Option JsonText.Json) :=
  match element with
  | none => .ok none
  | some element => getPropertyOrDefault element propertyName

def requireString (element : Option JsonText.Json) (propertyName : String) : Except Exception String :=
  match element with
  | none => .error (.thrown s!"Missing arguments object. Expected '{propertyName}'.")
  | some element => do
    match ← getPropertyOrDefault element propertyName with
    | some (.string value) => return value
    | _ => throw (.thrown s!"Missing string argument '{propertyName}'.")

/-- Digits, which a sign may precede. -/
def integer? : List Char → Option Int
  | '-' :: digits => if digits.all Char.isDigit then some (-Nat.ofDigitChars 10 digits 0) else none
  | digits => if digits.all Char.isDigit then some (Nat.ofDigitChars 10 digits 0) else none

def isInt32 (value : Int) : Bool :=
  -2147483648 ≤ value && value < 2147483648

def getInt32 : JsonText.Json → Except Exception Int
  | .number value =>
    match integer? value.text with
    | some value => if isInt32 value then .ok value else .error .format
    | none => .error .format
  | _ => .error .invalidOperation

def getBoolean : JsonText.Json → Except Exception Bool
  | .boolean value => .ok value
  | _ => .error .invalidOperation

def fromBase64String (text : String) : Except Exception (List Byte) :=
  match Base64.decodeStrict text.toList with
  | some data => .ok data
  | none => .error .format

section Handlers

variable (known : String → Bool) (request : HelperRequest)

def getConnection : Except Exception String := do
  let sessionId ← requireString request.arguments "sessionId"
  if known sessionId then return sessionId else throw (.thrown s!"Unknown session '{sessionId}'.")

def handleScan : Except Exception NativeCall := do
  match ← getPropertyOrDefaultNullable request.arguments "timeoutMs" with
  | none => return .scan 5000
  | some timeoutMs => return .scan (← getInt32 timeoutMs)

def handleConnect : Except Exception NativeCall := do
  return .connect (← requireString request.arguments "address")

def handleDisconnect : Except Exception NativeCall := do
  return .disconnect (← requireString request.arguments "sessionId")

def handleReadCharacteristic : Except Exception NativeCall := do
  let sessionId ← getConnection known request
  let uuid ← requireString request.arguments "uuid"
  return .readCharacteristic sessionId uuid

def handleWriteCharacteristic : Except Exception NativeCall := do
  let sessionId ← getConnection known request
  let uuid ← requireString request.arguments "uuid"
  let dataBase64 ← requireString request.arguments "dataBase64"
  let withoutResponse ← match ← getPropertyOrDefaultNullable request.arguments "withoutResponse" with
    | none => pure false
    | some value => getBoolean value
  let data ← fromBase64String dataBase64
  return .writeCharacteristic sessionId uuid data withoutResponse

def handleSubscribe : Except Exception NativeCall := do
  let sessionId ← getConnection known request
  let uuid ← requireString request.arguments "uuid"
  return .subscribe sessionId uuid

/-- The `switch` over the commands. -/
def handle : Outcome :=
  match request.command with
  | some "ping" => .of request.id (.ok .ping)
  | some "scan" => .of request.id (handleScan request)
  | some "connect" => .of request.id (handleConnect request)
  | some "disconnect" => .of request.id (handleDisconnect request)
  | some "readCharacteristic" => .of request.id (handleReadCharacteristic known request)
  | some "writeCharacteristic" => .of request.id (handleWriteCharacteristic known request)
  | some "subscribe" => .of request.id (handleSubscribe known request)
  | command => .unsupported request.id command

end Handlers

/-- The loop of `RunAsync` on a line, given the sessions that the helper has. -/
def processLine (known : String → Bool) (line : List Char) : Outcome :=
  match deserialize line with
  | none => .invalidJson
  | some none => .invalidRequest
  | some (some request) => handle known request

/-- The lines in a text that the loop comes to, one after the other. -/
def readLines (arrived : List Char) : List (List Char) :=
  (LineReader.splitLines CONSOLE_ENDINGS arrived).1.filter fun line => !isBlank line

end Native

/-- The call, provided that the helper has the session. -/
def Native.inSession (known : String → Bool) (sessionId : String) (call : NativeCall) : Except Exception NativeCall :=
  if known sessionId then .ok call else .error (.thrown s!"Unknown session '{sessionId}'.")

/-- What the helper is to make of a request. -/
def ClientRequest.native (known : String → Bool) : ClientRequest → Except Native.Exception Native.NativeCall
  | .scan timeoutMs => if Native.isInt32 timeoutMs then .ok (.scan timeoutMs) else .error .format
  | .connect address => .ok (.connect address)
  | .disconnect sessionId => .ok (.disconnect sessionId)
  | .readCharacteristic sessionId uuid => Native.inSession known sessionId (.readCharacteristic sessionId uuid)
  | .writeCharacteristic sessionId uuid data withoutResponse =>
    Native.inSession known sessionId (.writeCharacteristic sessionId uuid data withoutResponse)
  | .subscribe sessionId uuid => Native.inSession known sessionId (.subscribe sessionId uuid)

namespace Native

theorem isDigits_repr (n : Nat) : (toString n).toList.all Char.isDigit = true :=
  List.all_eq_true.mpr isDigit_of_mem_repr

theorem ofDigitChars_repr (n : Nat) : Nat.ofDigitChars 10 (toString n).toList 0 = n := by
  have text : (toString n).toList = Nat.toDigits 10 n := Nat.toList_repr
  rw [text, Nat.ofDigitChars_ten_toDigits]

theorem integer?_intNumeral (value : Int) : integer? (intNumeral value).text = some value := by
  cases value with
  | ofNat n =>
    obtain ⟨c, digits, text⟩ : ∃ c digits, (toString n).toList = c :: digits :=
      List.exists_cons_of_ne_nil (repr_ne_nil n)
    have digit : c.isDigit = true := isDigit_of_mem_repr (n := n) c (by rw [text]; exact List.mem_cons_self)
    have sign : c ≠ '-' := by
      rintro rfl
      cases digit
    have all := isDigits_repr n
    have read := ofDigitChars_repr n
    rw [text] at all read
    change integer? (toString n).toList = _
    rw [text, integer?.eq_2 _ fun rest heading => sign (List.cons.inj heading).1, if_pos all, read]
    rfl
  | negSucc n =>
    have text : (intNumeral (Int.negSucc n)).text = '-' :: (toString (n + 1)).toList := String.toList_append
    rw [text, integer?, if_pos (isDigits_repr _), ofDigitChars_repr]
    rfl

theorem decode_encode (data : List Byte) : fromBase64String (String.ofList (Base64.encode data)) = .ok data := by
  rw [fromBase64String, String.toList_ofList, Base64.decodeStrict_encode]

/-- The request that a line holds. -/
def received (request : ClientRequest) (id : String) : HelperRequest where
  id := some id
  command := some request.command
  arguments := some (.object request.argumentsObject)

theorem deserialize_line (request : ClientRequest) (id : String) :
    deserialize (request.line id) = some (some (received request id)) := by
  have read : request.requestObject id =
      .object [("id", .string id), ("command", .string request.command), ("arguments", .object request.argumentsObject)] :=
    rfl
  rw [deserialize, ClientRequest.line, parse_stringify, read]
  simp [readProperty, readText, received]

theorem getConnection_bind {known : String → Bool} {request : HelperRequest} {sessionId : String} {call : NativeCall}
    {next : String → Except Exception NativeCall} (carried : requireString request.arguments "sessionId" = .ok sessionId)
    (same : next sessionId = .ok call) : (getConnection known request >>= next) = inSession known sessionId call := by
  rw [getConnection, carried, inSession]
  change (ite _ _ _ >>= next) = _
  cases known sessionId
  · rfl
  · exact same

/-- A handler finds in a request what the client has put there. -/
theorem handle_received (request : ClientRequest) (id : String) (known : String → Bool) :
    handle known (received request id) = .of (some id) (request.native known) := by
  cases request with
  | scan timeoutMs =>
    have asked : handle known (received (.scan timeoutMs) id) =
        .of (some id) (.scan <$> getInt32 (.number (intNumeral timeoutMs))) := rfl
    simp only [asked, getInt32, integer?_intNumeral, ClientRequest.native]
    cases isInt32 timeoutMs <;> rfl
  | connect address => rfl
  | disconnect sessionId => rfl
  | readCharacteristic sessionId uuid =>
    change Outcome.of (some id) (handleReadCharacteristic known _) = _
    rw [handleReadCharacteristic, getConnection_bind rfl rfl, ClientRequest.native]
  | writeCharacteristic sessionId uuid data withoutResponse =>
    have made : (do
        let data ← fromBase64String (String.ofList (Base64.encode data))
        return NativeCall.writeCharacteristic sessionId uuid data withoutResponse) =
        Except.ok (.writeCharacteristic sessionId uuid data withoutResponse) := by
      rw [decode_encode]
      rfl
    change Outcome.of (some id) (handleWriteCharacteristic known _) = _
    rw [handleWriteCharacteristic, getConnection_bind rfl made, ClientRequest.native]
  | subscribe sessionId uuid =>
    change Outcome.of (some id) (handleSubscribe known _) = _
    rw [handleSubscribe, getConnection_bind rfl rfl, ClientRequest.native]

theorem processLine_line (request : ClientRequest) (id : String) (known : String → Bool) :
    processLine known (request.line id) = .of (some id) (request.native known) := by
  rw [processLine, deserialize_line]
  exact handle_received request id known

/-- A line is one object, without line endings in it. -/
theorem line_solid (request : ClientRequest) (id : String) :
    request.line id ≠ [] ∧ ∀ c ∈ request.line id, CONSOLE_ENDINGS.ends c = false := by
  obtain ⟨rest, shape⟩ : ∃ rest, request.line id = '{' :: rest := by
    rw [ClientRequest.line, stringify, String.toList_ofList]
    exact ⟨_, rfl⟩
  refine ⟨by rw [shape]; exact List.cons_ne_nil _ _, fun c member => ?_⟩
  rw [ClientRequest.line, stringify, String.toList_ofList] at member
  have printable := JsonText.print_printable JSON_STRINGIFY.quoting _ c member
  have other : ∀ d : Char, d.toNat < 0x20 → c ≠ d := by
    rintro d control rfl
    omega
  simp [CONSOLE_ENDINGS, other '\n' (by decide), other '\r' (by decide)]

theorem line_not_blank (request : ClientRequest) (id : String) : isBlank (request.line id) = false := by
  rw [ClientRequest.line, stringify, String.toList_ofList]
  rfl

theorem readLines_nonblank (arrived : List Char) :
    readLines arrived =
      (LineReader.nonblank (LineReader.splitLines CONSOLE_ENDINGS arrived).1).filter fun line => !isBlank line := by
  rw [readLines, LineReader.nonblank, List.filter_filter]
  apply List.filter_congr
  intro line _
  cases line with
  | nil => rfl
  | cons c rest => simp

theorem console_terminates : LineReader.Terminates CONSOLE_ENDINGS '\n' [] where
  ends := rfl
  rest := by simp
  once := by simp

/-- These lines are the requests that have arrived with their line feeds. -/
theorem readLines_arrived (sent : List (String × ClientRequest)) {arrived : List Char}
    (initial : arrived <+: sent.flatMap fun entry => entry.2.line entry.1 ++ ['\n']) :
    readLines arrived = (sent.take (arrived.count '\n')).map fun entry => entry.2.line entry.1 := by
  have solid : ∀ line ∈ sent.map fun entry => entry.2.line entry.1,
      line ≠ [] ∧ ∀ c ∈ line, CONSOLE_ENDINGS.ends c = false := by
    rintro line member
    obtain ⟨entry, _, rfl⟩ := List.mem_map.mp member
    exact line_solid entry.2 entry.1
  have written : (sent.map fun entry => entry.2.line entry.1).flatMap (fun line => line ++ ['\n']) =
      sent.flatMap fun entry => entry.2.line entry.1 ++ ['\n'] := List.flatMap_map ..
  rw [← written] at initial
  have seen := LineReader.absorb_arrived console_terminates _ solid initial []
  rw [LineReader.absorb_text, List.nil_append, List.nil_append, ← List.map_take] at seen
  have complete : LineReader.nonblank (LineReader.splitLines CONSOLE_ENDINGS arrived).1 = _ := seen
  rw [readLines_nonblank, complete, List.filter_eq_self]
  intro line member
  obtain ⟨entry, _, rfl⟩ := List.mem_map.mp member
  rw [line_not_blank]
  rfl

end Native

end BluettiMqtt
