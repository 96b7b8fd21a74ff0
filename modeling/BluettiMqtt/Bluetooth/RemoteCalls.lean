import BluettiMqtt.Bluetooth.RequestLoop
import BluettiMqtt.Bluetooth.SettlementReasons

namespace BluettiMqtt
open Promise Transition

/-- What the methods of the client return. Devices and connections are objects of the payload. -/
inductive ClientResult
  | devices (devices : List Json)
  | connection (payload : Json)
  | data (bytes : List Byte)
  | done

def isHelperScanDevice (value : Json) : Bool :=
  Json.isString (value.property "address") && Json.isString (value.property "name")

def isHelperConnectPayload (value : Json) : Bool :=
  Json.isString (value.property "sessionId") && Json.isString (value.property "address") &&
    Json.isString (value.property "name")

/-- The methods of the client after their requests. -/
def ClientRequest.returned : ClientRequest → Option Json → Except Failure ClientResult
  | .scan _, payload =>
    match payload.bind fun payload => payload.property "devices" with
    | some (.array devices) => .ok (.devices (devices.filter isHelperScanDevice))
    | _ => .ok (.devices [])
  | .connect _, payload =>
    match payload.filter isHelperConnectPayload with
    | some payload => .ok (.connection payload)
    | none => .error (.error "Helper returned an invalid connect payload")
  | .readCharacteristic _ _, payload =>
    match payload.bind fun payload => payload.property "dataBase64" with
    | some (.string dataBase64) => .ok (.data (Base64.decodeLenient dataBase64.toList))
    | _ => .error (.error "Helper returned an invalid readCharacteristic payload")
  | .disconnect _, _ => .ok .done
  | .writeCharacteristic _ _ _ _, _ => .ok .done
  | .subscribe _ _, _ => .ok .done

namespace Native

/-- What a method is to return for an answer. -/
def Answer.returned : Answer → ClientResult
  | .ok => .done
  | .devices results => .devices (results.map fun device => Json.ofText device.json)
  | .connected sessionId address name =>
    .connection (.object [("sessionId", .string sessionId), ("address", .string address), ("name", .string name)])
  | .data bytes => .data bytes

theorem ofTexts_eq (items : List JsonText.Json) : Json.ofTexts items = items.map Json.ofText := by
  induction items with
  | nil => rfl
  | cons item items ih => rw [Json.ofTexts, ih, List.map_cons]

theorem isHelperScanDevice_json (device : ScanDevice) : isHelperScanDevice (Json.ofText device.json) = true := rfl

/-- A scan leaves no device out, however long it was to take. -/
theorem returned_scan (results : List ScanDevice) (timeoutMs : Int) :
    (ClientRequest.scan timeoutMs).returned (some (Json.ofText (Answer.devices results).payload)) =
      .ok (Answer.devices results).returned := by
  have items : (Json.ofText (Answer.devices results).payload).property "devices" =
      some (.array (results.map fun device => Json.ofText device.json)) := by
    change some (Json.array (Json.ofTexts (results.map ScanDevice.json))) = _
    rw [ofTexts_eq, List.map_map]
    rfl
  have valid : (results.map fun device => Json.ofText device.json).filter isHelperScanDevice =
      results.map fun device => Json.ofText device.json := by
    refine List.filter_eq_self.mpr fun value member => ?_
    obtain ⟨device, _, rfl⟩ := List.mem_map.mp member
    exact isHelperScanDevice_json device
  rw [ClientRequest.returned, Option.bind_some, items]
  simp only [valid]
  rfl

/-- The method that has asked returns what the answer stands for. -/
theorem returned_answer {request : ClientRequest} {known : String → Bool} {call : NativeCall} {result : SystemResult}
    {answer : Answer} (asked : request.native known = .ok call) (answered : call.answer result = some answer) :
    request.returned (some (Json.ofText answer.payload)) = .ok answer.returned := by
  have inSession {sessionId : String} {other : NativeCall} (asked : inSession known sessionId other = .ok call) :
      other = call := by
    rw [Native.inSession] at asked
    split at asked
    · exact Except.ok.inj asked
    · cases asked
  cases request with
  | scan timeoutMs =>
    rw [ClientRequest.native] at asked
    split at asked
    · cases asked
      cases result with
      | devices results =>
        cases answered
        exact returned_scan results timeoutMs
      | _ => cases answered
    · cases asked
  | connect address =>
    cases asked
    cases result <;> cases answered
    rfl
  | disconnect sessionId =>
    cases asked
    cases result <;> cases answered
    rfl
  | readCharacteristic sessionId uuid =>
    cases inSession asked
    cases result <;> cases answered
    rename_i bytes
    have held : (Json.ofText (Answer.data bytes).payload).property "dataBase64" =
        some (.string (String.ofList (Base64.encode bytes))) := rfl
    rw [ClientRequest.returned, Option.bind_some, held]
    simp only [String.toList_ofList, Base64.decodeLenient_encode]
    rfl
  | writeCharacteristic sessionId uuid data withoutResponse =>
    cases inSession asked
    cases result <;> cases answered
    rfl
  | subscribe sessionId uuid =>
    cases inSession asked
    cases result <;> cases answered
    rfl

end Native

/-- The client and the helper at the two ends of their pipes. `sent` is what the client has
written to its end (oldest first), under which ids, and `arrived` what has come out at the
other; `wire` and `outputs` (oldest first) are history variables. -/
structure RemoteCalls where
  wired : WiredClient
  asked : Table Nat ClientRequest
  sent : List (String × ClientRequest)
  arrived : List Char
  loop : Native.RequestLoop
  output : Native.OutputLoop
  wire : List WireEvent
  outputs : List Native.OutputEvent

/-- A method of the client is called, its request is written, or something else happens to
the client; text comes out of the pipe to the helper, whose loop reads a line or hears from
the system, or something else happens to its output; text comes out of the other pipe, or
its end. -/
inductive RemoteEvent
  | call (call : Nat) (request : ClientRequest)
  | written (call : Nat) (id : String)
  | client (event : HelperEvent Json)
  | arrive (text : List Char)
  | read (text : String)
  | returned (result : Settlement String Native.SystemResult)
  | output (event : Native.OutputEvent)
  | chunk (prompt : Bool) (text : List Char)
  | ended

/-- An event of the client in which it writes nothing. -/
def HelperEvent.isSilent {π : Type*} : HelperEvent π → Bool
  | .request _ _ _ => false
  | .readySettled _ _ (.fulfilled _) => false
  | _ => true

def Native.OutputEvent.isAnswer : Native.OutputEvent → Bool
  | .answer _ => true
  | _ => false

namespace RemoteCalls

def create : RemoteCalls where
  wired := WiredClient.create
  asked := fun _ => none
  sent := []
  arrived := []
  loop := Native.RequestLoop.create
  output := Native.OutputLoop.create
  wire := []
  outputs := []

/-- What the client has written. -/
def sentText (sent : List (String × ClientRequest)) : List Char :=
  sent.flatMap fun entry => entry.2.line entry.1 ++ ['\n']

def outputStep (p : RemoteCalls) (e : Native.OutputEvent) : Option RemoteCalls :=
  (p.output.step e).map fun output => { p with output := output, outputs := p.outputs ++ [e] }

/-- The loop goes on, and writes the message of a line that it is done with. -/
def reply (p : RemoteCalls) (loop : Native.RequestLoop) : Option RemoteCalls :=
  (loop.served.drop p.loop.served.length).foldlM (fun p service => p.outputStep (.answer service.message))
    { p with loop := loop }

section Steps

variable (numberString : Number → String) (bufferFrom : Option Json → Except TypeError (List Byte))
  (hears : Nat → Option Json → Option Json → List Byte → Except Failure Unit) (syntaxError : String → Failure)

def wireStep (p : RemoteCalls) (e : WireEvent) : Option RemoteCalls :=
  (p.wired.step numberString bufferFrom hears syntaxError e).map fun wired => { p with wired := wired, wire := p.wire ++ [e] }

/-- One step; `none` when the event is not enabled. -/
def step (p : RemoteCalls) : RemoteEvent → Option RemoteCalls
  | .call call request =>
    let event := HelperEvent.request call request.command (some (Json.ofText (.object request.argumentsObject)))
    (p.wireStep numberString bufferFrom hears syntaxError (.other event)).map fun q =>
      { q with asked := q.asked.insert call request }
  | .written call id =>
    (p.asked call).bind fun request =>
      (p.wireStep numberString bufferFrom hears syntaxError (.other (.readySettled call id (.fulfilled ())))).map fun q =>
        { q with sent := q.sent ++
            (q.wired.client.requests.drop p.wired.client.requests.length).map fun written => (written.id, request) }
  | .client event =>
    if event.isSilent then p.wireStep numberString bufferFrom hears syntaxError (.other event) else none
  | .arrive text =>
    if (p.arrived ++ text).isPrefixOf (sentText p.sent) then some { p with arrived := p.arrived ++ text } else none
  | .read text =>
    if p.output.running && p.output.started && !p.output.answering && p.loop.current.isNone then
      ((Native.readLines p.arrived)[p.loop.served.length]?).bind fun line => p.reply (p.loop.read text line)
    else none
  | .returned result => (p.loop.returned result).bind p.reply
  | .output event => if event.isAnswer then none else p.outputStep event
  | .chunk prompt text =>
    if (WiredClient.received p.wire ++ text).isPrefixOf p.output.writer.output then
      p.wireStep numberString bufferFrom hears syntaxError (.chunk prompt text)
    else none
  | .ended => p.wireStep numberString bufferFrom hears syntaxError .ended

end Steps

variable {numberString : Number → String} {bufferFrom : Option Json → Except TypeError (List Byte)}
  {hears : Nat → Option Json → Option Json → List Byte → Except Failure Unit} {syntaxError : String → Failure}

/-- No call is forgotten, and a call that has an id keeps it. -/
def KeepsIds (c d : HelperClient Json) : Prop :=
  ∀ call record, c.calls call = some record → ∃ later, d.calls call = some later ∧ ∀ id, record.id = some id → later.id = some id

theorem KeepsIds.refl (c : HelperClient Json) : KeepsIds c c :=
  fun _ record entry => ⟨record, entry, fun _ held => held⟩

theorem KeepsIds.trans {c d e : HelperClient Json} (first : KeepsIds c d) (second : KeepsIds d e) : KeepsIds c e := by
  intro call record entry
  obtain ⟨later, stored, kept⟩ := first call record entry
  obtain ⟨last, found, still⟩ := second call later stored
  exact ⟨last, found, fun id held => still id (kept id held)⟩

theorem keepsIds_adjust {c d : HelperClient Json} {key : Nat} {f : HelperCall Json → HelperCall Json}
    (adjusted : d.calls = c.calls.adjust (some key) f) (same : ∀ record, (f record).id = record.id) : KeepsIds c d := by
  intro call record entry
  rw [adjusted]
  by_cases here : key = call
  · subst here
    exact ⟨f record, Table.adjust_self f entry, fun id held => (same record).trans held⟩
  · exact ⟨record, (Table.adjust_of_ne _ _ (by simpa using here)).trans entry, fun _ held => held⟩

theorem keepsIds_run (c : HelperClient Json) (call : RouterCall) : KeepsIds c (c.run call) := by
  unfold HelperClient.run
  split
  · exact keepsIds_adjust rfl fun _ => rfl
  · exact keepsIds_adjust rfl fun _ => rfl
  · exact keepsIds_adjust rfl fun _ => rfl
  · exact .refl c
  · exact .refl c
  · exact .refl c
  · exact .refl c

theorem keepsIds_foldl {α : Type*} {f : HelperClient Json → α → HelperClient Json} (each : ∀ c a, KeepsIds c (f c a))
    (items : List α) (c : HelperClient Json) : KeepsIds c (items.foldl f c) := by
  induction items generalizing c with
  | nil => exact .refl c
  | cons item items ih => exact (each c item).trans (ih _)

/-- A line settles calls at most, whatever it holds. -/
theorem keepsIds_handleLine (c : HelperClient Json) (line : List Char) :
    KeepsIds c (c.handleLine numberString bufferFrom hears syntaxError line) :=
  fun call record entry => keepsIds_foldl keepsIds_run _ _ call record entry

theorem keepsIds_step {c d : HelperClient Json} {e : HelperEvent Json} (consistent : c.Consistent)
    (run : c.step e = some d) : KeepsIds c d := by
  intro call record entry
  have grown := HelperClient.step_grown consistent run call
  rw [entry] at grown
  generalize d.calls call = after at grown
  cases grown with
  | @kept _ later grows => exact ⟨later, rfl, grows.id⟩

theorem wired_other {w x : WiredClient} {event : HelperEvent Json}
    (run : w.step numberString bufferFrom hears syntaxError (.other event) = some x) :
    ¬event.isLine = true ∧ w.client.step event = some x.client := by
  obtain ⟨other, asked⟩ := Option.ite_none_left_eq_some.mp run
  obtain ⟨client, ran, rfl⟩ := Option.map_eq_some_iff.mp asked
  exact ⟨other, ran⟩

theorem keepsIds_wired {w x : WiredClient} {e : WireEvent} (consistent : w.client.Consistent)
    (run : w.step numberString bufferFrom hears syntaxError e = some x) : KeepsIds w.client x.client := by
  cases e with
  | chunk prompt text =>
    obtain ⟨_, same⟩ := Option.ite_none_left_eq_some.mp run
    cases same
    exact keepsIds_foldl keepsIds_handleLine _ _
  | ended =>
    obtain ⟨_, same⟩ := Option.ite_none_left_eq_some.mp run
    cases same
    change KeepsIds w.client (if w.reader.buffer = [] then w.client else _)
    split
    · exact .refl _
    · exact keepsIds_handleLine _ _
  | other event => exact keepsIds_step consistent (wired_other run).2

/-- The lines that the client has heard are messages of the helper. -/
theorem heard_line {trace : List WireEvent} {w : WiredClient}
    (reach : Reach (WiredClient.step numberString bufferFrom hears syntaxError) (fun _ _ => True) WiredClient.create trace w)
    {messages : List Native.Message} {message : HelperMessage Json}
    (member : .line message ∈ WiredClient.heard syntaxError messages trace) : ∃ source ∈ messages, source.message = message := by
  induction reach with
  | start => cases member
  | @next trace w e x _ _ run ih =>
    rw [WiredClient.heard_append, List.mem_append] at member
    rcases member with earlier | last
    · exact ih earlier
    · cases e with
      | chunk prompt text =>
        obtain ⟨source, taken, same⟩ := List.mem_map.mp last
        cases same
        exact ⟨source, List.mem_of_mem_drop (List.mem_of_mem_take taken), rfl⟩
      | ended =>
        simp only [WiredClient.hear, WiredClient.heardCut] at last
        split at last
        · next source _ _ found _ =>
          split at last
          · cases List.mem_singleton.mp last
            exact ⟨source, List.mem_of_getElem? found, rfl⟩
          · cases List.mem_singleton.mp last
        · cases last
      | other event =>
        cases List.mem_singleton.mp last
        exact absurd rfl (wired_other run).1

end RemoteCalls

namespace Native.OutputLoop

variable {l m : OutputLoop} {e : OutputEvent}

/-- What an event adds to the answers. -/
def added : OutputEvent → List Message
  | .answer message => [message]
  | _ => []

/-- An event adds its answer, if it is one, and writes on at most. -/
theorem step_adds (run : l.step e = some m) : m.answers = l.answers ++ added e ∧ l.writer.output <+: m.writer.output := by
  cases e with
  | answer message =>
    obtain ⟨_, same⟩ := Option.ite_none_right_eq_some.mp run
    cases same
    exact ⟨rfl, List.prefix_refl _⟩
  | notify event =>
    obtain ⟨_, same⟩ := Option.ite_none_right_eq_some.mp run
    cases same
    exact ⟨(List.append_nil _).symm, List.prefix_refl _⟩
  | acquire place =>
    obtain ⟨writer, acquired, rfl⟩ := Option.map_eq_some_iff.mp run
    obtain ⟨_, _, _, rfl⟩ := LockedWriter.acquire_eq_some.mp acquired
    exact ⟨(List.append_nil _).symm, List.prefix_refl _⟩
  | put size =>
    obtain ⟨writer, wrote, rfl⟩ := Option.map_eq_some_iff.mp run
    obtain ⟨_, _, _, _, rfl⟩ := LockedWriter.put_eq_some.mp wrote
    exact ⟨(List.append_nil _).symm, List.prefix_append _ _⟩
  | release =>
    simp only [step] at run
    split at run
    · next message rest writer held released =>
      obtain ⟨_, _, rfl⟩ := LockedWriter.release_eq_some.mp released
      split at run
      · cases run
        exact ⟨(List.append_nil _).symm, List.prefix_refl _⟩
      · cases run
        exact ⟨(List.append_nil _).symm, List.prefix_refl _⟩
    · cases run
  | cancel place =>
    simp only [step] at run
    split at run
    · obtain ⟨_, same⟩ := Option.ite_none_right_eq_some.mp run
      cases same
      exact ⟨(List.append_nil _).symm, List.prefix_refl _⟩
    · cases run
  | cancelWrite =>
    simp only [step] at run
    split at run
    · next returned =>
      obtain ⟨_, same⟩ := Option.ite_none_right_eq_some.mp run
      cases same
      obtain ⟨_, _, _, _, rfl⟩ := LockedWriter.giveBack_eq_some.mp returned
      exact ⟨(List.append_nil _).symm, List.prefix_refl _⟩
    · cases run
  | fail =>
    simp only [step] at run
    split at run
    · next failed =>
      obtain ⟨_, _, _, rfl⟩ := LockedWriter.fail_eq_some.mp failed
      split at run
      · cases run
        exact ⟨(List.append_nil _).symm, List.prefix_refl _⟩
      · cases run
        exact ⟨(List.append_nil _).symm, List.prefix_refl _⟩
    · cases run

end Native.OutputLoop

namespace RemoteCalls

variable {numberString : Number → String} {bufferFrom : Option Json → Except TypeError (List Byte)}
  {hears : Nat → Option Json → Option Json → List Byte → Except Failure Unit} {syntaxError : String → Failure}
  {p q : RemoteCalls}

/-- The client and the helper have to do with the same requests. -/
structure Bound (numberString : Number → String) (bufferFrom : Option Json → Except TypeError (List Byte))
    (hears : Nat → Option Json → Option Json → List Byte → Except Failure Unit) (syntaxError : String → Failure)
    (p : RemoteCalls) : Prop where
  wired : Reach (WiredClient.step numberString bufferFrom hears syntaxError) (fun _ _ => True) WiredClient.create p.wire p.wired
  locked : Reach Native.OutputLoop.step (fun _ _ => True) Native.OutputLoop.create p.outputs p.output
  delivered : WiredClient.received p.wire <+: p.output.writer.output
  arrived : p.arrived <+: sentText p.sent
  owned : ∀ entry ∈ p.sent, ∃ call record, p.wired.client.calls call = some record ∧ record.id = some entry.1 ∧
    p.asked call = some entry.2
  distinct : (p.sent.map Prod.fst).Nodup
  answers : p.output.answers = .ready :: p.loop.served.map Native.Service.message
  sequential : p.loop.Sequential (p.sent.map fun entry => entry.2.line entry.1)

theorem bound_create : create.Bound numberString bufferFrom hears syntaxError where
  wired := .start
  locked := .start
  delivered := List.prefix_refl _
  arrived := List.prefix_refl _
  owned := by simp [create]
  distinct := List.nodup_nil
  answers := rfl
  sequential := Native.RequestLoop.sequential_create _

/-- The client's own step, in which text may come in that the helper has written. -/
theorem Bound.wire (bound : p.Bound numberString bufferFrom hears syntaxError) (consistent : p.wired.client.Consistent)
    {e : WireEvent} (delivered : WiredClient.received (p.wire ++ [e]) <+: p.output.writer.output)
    (run : p.wireStep numberString bufferFrom hears syntaxError e = some q) :
    q.Bound numberString bufferFrom hears syntaxError ∧ q.asked = p.asked ∧ q.sent = p.sent ∧
      p.wired.step numberString bufferFrom hears syntaxError e = some q.wired := by
  obtain ⟨wired, ran, rfl⟩ := Option.map_eq_some_iff.mp run
  refine ⟨{ bound with
    wired := .next bound.wired trivial ran
    delivered := delivered
    owned := fun entry member => ?_ }, rfl, rfl, ran⟩
  obtain ⟨call, record, stored, named, asked⟩ := bound.owned entry member
  obtain ⟨later, found, kept⟩ := keepsIds_wired consistent ran call record stored
  exact ⟨call, later, found, kept _ named, asked⟩

theorem received_other (trace : List WireEvent) (event : HelperEvent Json) :
    WiredClient.received (trace ++ [.other event]) = WiredClient.received trace := by
  rw [WiredClient.received_append]
  exact List.append_nil _

theorem Bound.call (bound : p.Bound numberString bufferFrom hears syntaxError) (consistent : p.wired.client.Consistent)
    {call : Nat} {request : ClientRequest} (run : p.step numberString bufferFrom hears syntaxError (.call call request) = some q) :
    q.Bound numberString bufferFrom hears syntaxError := by
  obtain ⟨r, wired, rfl⟩ := Option.map_eq_some_iff.mp run
  obtain ⟨after, asked, sent, ran⟩ := bound.wire consistent ((received_other _ _).symm ▸ bound.delivered) wired
  obtain ⟨fresh, _⟩ := Option.ite_none_right_eq_some.mp (wired_other ran).2
  refine { after with owned := fun entry member => ?_ }
  obtain ⟨other, record, stored, named, held⟩ := bound.owned entry (sent ▸ member)
  obtain ⟨later, found, kept⟩ := keepsIds_wired consistent ran other record stored
  have apart : other ≠ call := by
    rintro rfl
    rw [stored] at fresh
    cases fresh
  refine ⟨other, later, found, kept _ named, ?_⟩
  change r.asked.insert call request other = _
  rw [Table.insert_of_ne _ _ apart, asked, held]

/-- What writing a request adds to the requests and to the calls. -/
theorem written_requests {c d : HelperClient Json} {call : Nat} {id : String}
    (run : c.step (.readySettled call id (.fulfilled ())) = some d) :
    d.requests = c.requests ∨ id ∉ c.issued ∧ (∃ request, d.requests = c.requests ++ [request] ∧ request.id = id) ∧
      ∃ record, d.calls call = some record ∧ record.id = some id := by
  simp only [HelperClient.step] at run
  split at run
  · next record _ entry _ =>
    obtain ⟨⟨_, fresh⟩, same⟩ := Option.ite_none_right_eq_some.mp run
    cases same
    exact Or.inr ⟨fresh, ⟨_, rfl, rfl⟩, _, Table.adjust_self _ entry, rfl⟩
  · obtain ⟨_, same⟩ := Option.ite_none_right_eq_some.mp run
    cases same
    exact Or.inl rfl
  · cases run

/-- A request of a call is written, under an id that is new. -/
theorem Bound.send (bound : p.Bound numberString bufferFrom hears syntaxError) {call : Nat} {record : HelperCall Json}
    {id : String} {request : ClientRequest} (unissued : id ∉ p.sent.map Prod.fst)
    (stored : p.wired.client.calls call = some record) (mine : record.id = some id) (asked : p.asked call = some request) :
    Bound numberString bufferFrom hears syntaxError { p with sent := p.sent ++ [(id, request)] } := by
  refine { bound with arrived := ?_, owned := fun entry member => ?_, distinct := ?_, sequential := ?_ }
  · refine bound.arrived.trans ?_
    change sentText p.sent <+: sentText (p.sent ++ [(id, request)])
    rw [sentText, sentText, List.flatMap_append]
    exact List.prefix_append _ _
  · rcases List.mem_append.mp member with earlier | last
    · exact bound.owned entry earlier
    · cases List.mem_singleton.mp last
      exact ⟨call, record, stored, mine, asked⟩
  · rw [List.map_append]
    exact List.nodup_append.mpr ⟨bound.distinct, List.nodup_singleton _, fun other member last among => by
      cases List.mem_singleton.mp among
      rintro rfl
      exact unissued member⟩
  · refine bound.sequential.longer ?_
    rw [List.map_append]
    exact List.prefix_append _ _

theorem Bound.written (bound : p.Bound numberString bufferFrom hears syntaxError) (consistent : p.wired.client.Consistent)
    {call : Nat} {id : String} (run : p.step numberString bufferFrom hears syntaxError (.written call id) = some q) :
    q.Bound numberString bufferFrom hears syntaxError := by
  obtain ⟨request, held, run⟩ := Option.bind_eq_some_iff.mp run
  obtain ⟨r, wired, rfl⟩ := Option.map_eq_some_iff.mp run
  obtain ⟨after, asked, sent, ran⟩ := bound.wire consistent ((received_other _ _).symm ▸ bound.delivered) wired
  rcases written_requests (wired_other ran).2 with none_ | ⟨fresh, ⟨written, one, named⟩, record, stored, mine⟩
  · have nothing : r.wired.client.requests.drop p.wired.client.requests.length = [] := by
      rw [none_]
      exact List.drop_length
    simp only [nothing, List.map_nil, List.append_nil]
    exact after
  · have single : r.wired.client.requests.drop p.wired.client.requests.length = [written] := by
      rw [one]
      exact List.drop_left
    simp only [single, List.map_cons, List.map_nil, named]
    have unissued : id ∉ r.sent.map Prod.fst := by
      intro member
      obtain ⟨entry, among, rfl⟩ := List.mem_map.mp member
      obtain ⟨owner, record, stored, named, _⟩ := bound.owned entry (sent ▸ among)
      exact fresh (consistent.issued owner record _ stored named)
    exact after.send unissued stored mine (asked.symm ▸ held)

theorem Bound.arrive (bound : p.Bound numberString bufferFrom hears syntaxError) {text : List Char}
    (run : p.step numberString bufferFrom hears syntaxError (.arrive text) = some q) :
    q.Bound numberString bufferFrom hears syntaxError := by
  obtain ⟨initial, same⟩ := Option.ite_none_right_eq_some.mp run
  cases same
  exact { bound with arrived := List.isPrefixOf_iff_prefix.mp initial }

theorem Bound.chunk (bound : p.Bound numberString bufferFrom hears syntaxError) (consistent : p.wired.client.Consistent)
    {prompt : Bool} {text : List Char} (run : p.step numberString bufferFrom hears syntaxError (.chunk prompt text) = some q) :
    q.Bound numberString bufferFrom hears syntaxError := by
  obtain ⟨initial, ran⟩ := Option.ite_none_right_eq_some.mp run
  refine (bound.wire consistent ?_ ran).1
  have read : WiredClient.received [.chunk prompt text] = text := List.append_nil _
  rw [WiredClient.received_append, read]
  exact List.isPrefixOf_iff_prefix.mp initial

theorem Bound.ended (bound : p.Bound numberString bufferFrom hears syntaxError) (consistent : p.wired.client.Consistent)
    (run : p.step numberString bufferFrom hears syntaxError .ended = some q) :
    q.Bound numberString bufferFrom hears syntaxError := by
  refine (bound.wire consistent ?_ run).1
  rw [WiredClient.received_append]
  exact (List.append_nil _).symm ▸ bound.delivered

theorem Bound.output (bound : p.Bound numberString bufferFrom hears syntaxError) {e : Native.OutputEvent}
    (run : p.step numberString bufferFrom hears syntaxError (.output e) = some q) :
    q.Bound numberString bufferFrom hears syntaxError := by
  obtain ⟨silent, made⟩ := Option.ite_none_left_eq_some.mp run
  obtain ⟨output, ran, rfl⟩ := Option.map_eq_some_iff.mp made
  obtain ⟨answers, longer⟩ := Native.OutputLoop.step_adds ran
  refine { bound with
    locked := .next bound.locked trivial ran
    delivered := bound.delivered.trans longer
    answers := ?_ }
  have none_ : Native.OutputLoop.added e = [] := by
    cases e with
    | answer message => exact absurd rfl silent
    | _ => rfl
  rw [answers, none_, List.append_nil]
  exact bound.answers

/-- The output after some services. -/
structure Replied (p q : RemoteCalls) (services : List Native.Service) : Prop where
  rest : q = { p with output := q.output, outputs := q.outputs }
  locked : Reach Native.OutputLoop.step (fun _ _ => True) Native.OutputLoop.create q.outputs q.output
  longer : p.output.writer.output <+: q.output.writer.output
  answers : q.output.answers = p.output.answers ++ services.map Native.Service.message

theorem replied_of_foldlM {services : List Native.Service}
    (locked : Reach Native.OutputLoop.step (fun _ _ => True) Native.OutputLoop.create p.outputs p.output)
    (run : services.foldlM (fun p service => p.outputStep (.answer service.message)) p = some q) :
    Replied p q services := by
  induction services generalizing p with
  | nil =>
    cases run
    exact ⟨rfl, locked, List.prefix_refl _, (List.append_nil _).symm⟩
  | cons service services ih =>
    rw [List.foldlM_cons] at run
    obtain ⟨r, made, later⟩ := Option.bind_eq_some_iff.mp run
    obtain ⟨output, ran, rfl⟩ := Option.map_eq_some_iff.mp made
    obtain ⟨rest, locked, longer, answers⟩ := ih (.next locked trivial ran) later
    obtain ⟨first, more⟩ := Native.OutputLoop.step_adds ran
    refine ⟨rest, locked, more.trans longer, ?_⟩
    rw [answers]
    change output.answers ++ _ = _
    rw [first, Native.OutputLoop.added, List.map_cons, List.append_assoc, List.singleton_append]

/-- The loop has served some more, and writes the messages. -/
theorem Bound.reply (bound : p.Bound numberString bufferFrom hears syntaxError) {loop : Native.RequestLoop}
    {services : List Native.Service} (served : loop.served = p.loop.served ++ services)
    (sequential : loop.Sequential (p.sent.map fun entry => entry.2.line entry.1)) (run : p.reply loop = some q) :
    q.Bound numberString bufferFrom hears syntaxError := by
  rw [RemoteCalls.reply, served, List.drop_left] at run
  obtain ⟨rest, locked, longer, answers⟩ : Replied { p with loop := loop } q services :=
    replied_of_foldlM bound.locked run
  rw [rest]
  refine { bound with
    locked := locked
    delivered := bound.delivered.trans longer
    answers := ?_
    sequential := sequential }
  change q.output.answers = .ready :: loop.served.map Native.Service.message
  rw [answers, served, List.map_append]
  change p.output.answers ++ _ = _
  rw [bound.answers, List.cons_append]

/-- A line is done with at once or awaits the system. -/
theorem read_served (h : Native.RequestLoop) (text : String) (line : List Char) :
    ∃ services, (h.read text line).served = h.served ++ services := by
  have same : ∃ services, h.served = h.served ++ services := ⟨[], (List.append_nil _).symm⟩
  rw [Native.RequestLoop.read]
  cases Native.processLine (fun sessionId => sessionId ∈ h.connections) line with
  | call id call =>
    cases call with
    | ping => exact ⟨_, rfl⟩
    | disconnect sessionId =>
      simp only
      split
      · exact same
      · exact ⟨_, rfl⟩
    | _ => exact same
  | _ => exact ⟨_, rfl⟩

theorem returned_served {h k : Native.RequestLoop} {result : Settlement String Native.SystemResult}
    (run : h.returned result = some k) : ∃ services, k.served = h.served ++ services := by
  cases result with
  | fulfilled result =>
    simp only [Native.RequestLoop.returned] at run
    split at run
    · obtain ⟨_, _, rfl⟩ := Option.map_eq_some_iff.mp run
      exact ⟨_, rfl⟩
    · cases run
  | rejected message =>
    obtain ⟨_, _, rfl⟩ := Option.map_eq_some_iff.mp run
    exact ⟨_, rfl⟩

theorem Bound.read (bound : p.Bound numberString bufferFrom hears syntaxError) {text : String}
    (run : p.step numberString bufferFrom hears syntaxError (.read text) = some q) :
    q.Bound numberString bufferFrom hears syntaxError := by
  obtain ⟨ready, run⟩ := Option.ite_none_right_eq_some.mp run
  obtain ⟨line, found, run⟩ := Option.bind_eq_some_iff.mp run
  simp only [Bool.and_eq_true, Option.isNone_iff_eq_none] at ready
  have next : (p.sent.map fun entry => entry.2.line entry.1)[p.loop.served.length]? = some line := by
    rw [Native.readLines_arrived p.sent bound.arrived, List.map_take, List.getElem?_take] at found
    exact (Option.ite_none_right_eq_some.mp found).2
  obtain ⟨services, served⟩ := read_served p.loop text line
  exact bound.reply served (bound.sequential.read ready.2 text next) run

theorem Bound.returned (bound : p.Bound numberString bufferFrom hears syntaxError)
    {result : Settlement String Native.SystemResult}
    (run : p.step numberString bufferFrom hears syntaxError (.returned result) = some q) :
    q.Bound numberString bufferFrom hears syntaxError := by
  obtain ⟨loop, returned, run⟩ := Option.bind_eq_some_iff.mp run
  obtain ⟨services, served⟩ := returned_served returned
  exact bound.reply served (bound.sequential.returned returned) run

section Runs

variable (decodes : ∀ text, bufferFrom (some (.string text)) = .ok (Base64.decodeLenient text.toList))
  (quiet : ∀ listener sessionId uuid data, hears listener sessionId uuid data = .ok ())

include decodes quiet in
/-- The client by itself has run on the messages that it has heard. -/
theorem Bound.client (bound : p.Bound numberString bufferFrom hears syntaxError) :
    Reach HelperClient.step (fun _ _ => True) HelperClient.create (WiredClient.heard syntaxError p.output.writer.granted p.wire)
      p.wired.client :=
  WiredClient.reach_of_ordered decodes quiet (Native.OutputLoop.ordered_of_reach bound.locked) bound.wired bound.delivered

include decodes quiet in
theorem Bound.consistent (bound : p.Bound numberString bufferFrom hears syntaxError) : p.wired.client.Consistent :=
  (bound.client decodes quiet).invariant HelperClient.consistent_create fun _ _ _ consistent _ run =>
    HelperClient.consistent_step consistent run

include decodes quiet in
theorem bound_of_reach {trace : List RemoteEvent}
    (reach : Reach (step numberString bufferFrom hears syntaxError) (fun _ _ => True) create trace p) :
    p.Bound numberString bufferFrom hears syntaxError := by
  refine reach.invariant bound_create fun p e q bound _ run => ?_
  have consistent := bound.consistent decodes quiet
  cases e with
  | call call request => exact bound.call consistent run
  | written call id => exact bound.written consistent run
  | client event =>
    obtain ⟨_, ran⟩ := Option.ite_none_right_eq_some.mp run
    exact (bound.wire consistent ((received_other _ _).symm ▸ bound.delivered) ran).1
  | arrive text => exact bound.arrive run
  | read text => exact bound.read run
  | returned result => exact bound.returned run
  | output event => exact bound.output run
  | chunk prompt text => exact bound.chunk consistent run
  | ended => exact bound.ended consistent run

end Runs

/-- What a call has settled with: what the system has returned for its own request, an error
with which the helper has refused or failed it, or an error of the client's own. `earlier`
is what the helper had done before, and says which sessions were open. -/
inductive Settled (syntaxError : String → Failure) (p : RemoteCalls) (call : Nat) (command : String) :
    Settlement Failure (Option Json) → Prop
  | returned {id request earlier native result answer payload} : p.asked call = some request → (id, request) ∈ p.sent →
      earlier ++ [⟨.call (some id) native, some (.fulfilled result), .response (some id) answer⟩] <+: p.loop.served →
      request.native (fun sessionId => sessionId ∈ Native.openSessions earlier) = .ok native →
      native.answer result = some answer → request.returned payload = .ok answer.returned →
      Settled syntaxError p call command (.fulfilled payload)
  | failed {id request earlier service code text} : p.asked call = some request → (id, request) ∈ p.sent →
      earlier ++ [service] <+: p.loop.served →
      service.Serves (.of (some id) (request.native fun sessionId => sessionId ∈ Native.openSessions earlier)) →
      service.message = .error (some id) code text → Settled syntaxError p call command (.rejected (createHelperError code text))
  | own {e error} : e ∈ WiredClient.heard syntaxError p.output.writer.granted p.wire → e.Gives command error →
      Settled syntaxError p call command (.rejected error)

/-- What the loop makes of a request of the client. -/
def process (known : String → Bool) (entry : String × ClientRequest) : Native.Outcome :=
  .of (some entry.1) (entry.2.native known)

theorem Bound.history (bound : p.Bound numberString bufferFrom hears syntaxError) :
    Native.History process (p.sent.take p.loop.served.length) p.loop.served := by
  have history := bound.sequential.history
  rw [← List.map_take] at history
  have same (known : String → Bool) (entry : String × ClientRequest) :
      Native.processLine known (entry.2.line entry.1) = process known entry :=
    Native.processLine_line entry.2 entry.1 known
  exact history.of_map same

/-- A message that has the lock and carries an id is about a request that was sent under it. -/
theorem Bound.answered (bound : p.Bound numberString bufferFrom hears syntaxError) {message : Native.Message}
    (granted : message ∈ p.output.writer.granted) (answer : message.isAnswer = true) :
    ∃ entry ∈ p.sent, ∃ earlier service, earlier ++ [service] <+: p.loop.served ∧ service.message = message ∧
      service.Serves (process (fun sessionId => sessionId ∈ Native.openSessions earlier) entry) := by
  have loop : message.fromLoop = true := by cases message <;> first | rfl | cases answer
  have among := ((Native.OutputLoop.ordered_of_reach bound.locked).granted_answers.sublist).subset
    (List.mem_filter.mpr ⟨granted, loop⟩)
  rw [bound.answers, List.mem_cons, List.mem_map] at among
  rcases among with rfl | ⟨service, member, same⟩
  · cases answer
  · obtain ⟨entry, sent, earlier, initial, serves⟩ := bound.history.serves member
    exact ⟨entry, List.mem_of_mem_take sent, earlier, service, initial, same, serves⟩

/-- The request that was sent under the id of a call is the one of this call. -/
theorem Bound.asked (bound : p.Bound numberString bufferFrom hears syntaxError) (consistent : p.wired.client.Consistent)
    {call : Nat} {record : HelperCall Json} (stored : p.wired.client.calls call = some record)
    {entry : String × ClientRequest} (named : record.id = some entry.1) (member : entry ∈ p.sent) :
    p.asked call = some entry.2 := by
  obtain ⟨owner, other, found, likewise, asked⟩ := bound.owned entry member
  cases consistent.distinct call owner record other entry.1 stored found named likewise
  exact asked

section Calls

variable (decodes : ∀ text, bufferFrom (some (.string text)) = .ok (Base64.decodeLenient text.toList))
  (quiet : ∀ listener sessionId uuid data, hears listener sessionId uuid data = .ok ())

include decodes quiet in
theorem Bound.settled (bound : p.Bound numberString bufferFrom hears syntaxError) {call : Nat} {record : HelperCall Json}
    (stored : p.wired.client.calls call = some record) {outcome : Settlement Failure (Option Json)}
    (member : outcome ∈ record.settlements) : p.Settled syntaxError call record.command outcome := by
  have consistent := bound.consistent decodes quiet
  cases HelperClient.settled_for_reason (bound.client decodes quiet) stored member with
  | @answered id payload named line =>
    obtain ⟨message, granted, same⟩ := heard_line bound.wired line
    cases message with
    | response other answer =>
      cases same
      obtain ⟨⟨sentId, request⟩, sent, earlier, service, initial, carried, serves⟩ := bound.answered granted rfl
      obtain ⟨own, native, result, asked, answered, rfl⟩ := serves.response carried
      cases own
      exact .returned (bound.asked consistent stored named sent) sent initial asked answered
        (Native.returned_answer asked answered)
    | error other code text => cases same
    | ready => cases same
    | notification event => cases same
  | @failed id code text named line =>
    obtain ⟨message, granted, same⟩ := heard_line bound.wired line
    cases message with
    | error other code_ text_ =>
      cases same
      obtain ⟨⟨sentId, request⟩, sent, earlier, service, initial, carried, serves⟩ := bound.answered granted rfl
      cases serves.error carried
      exact .failed (bound.asked consistent stored named sent) sent initial serves carried
    | response other answer => cases same
    | ready => cases same
    | notification event => cases same
  | own heard given => exact .own heard given

include decodes quiet in
/-- However calls, lines, notifications and timers interleave, and in whatever pieces the
pipes carry the lines, the helper serves the requests in the order in which they were
written, each at most once and over the sessions that are open then; and whatever a call
has settled with is what became of its own request, or an error of the client's own. -/
theorem remote_calls_answered {trace : List RemoteEvent}
    (reach : Reach (step numberString bufferFrom hears syntaxError) (fun _ _ => True) create trace p) :
    Native.History process (p.sent.take p.loop.served.length) p.loop.served ∧ (p.sent.map Prod.fst).Nodup ∧
      ∀ call record, p.wired.client.calls call = some record → ∀ outcome ∈ record.settlements,
        p.Settled syntaxError call record.command outcome := by
  have bound := bound_of_reach decodes quiet reach
  exact ⟨bound.history, bound.distinct, fun call record stored outcome member => bound.settled decodes quiet stored member⟩

end Calls

set_option maxRecDepth 10000 in
/-- A connection is asked for before the helper is ready, and made. -/
theorem remote_calls_answered_connect :
    let request := ClientRequest.connect "AA:BB:CC:DD:EE:FF"
    let answer := Native.Message.response (some "1") (.connected "s" "AA:BB:CC:DD:EE:FF" "AC500")
    let trace : List RemoteEvent := [.call 0 request, .output (.acquire 0), .output (.put 200), .output .release,
      .chunk true Native.Message.ready.written, .written 0 "1", .arrive (request.line "1" ++ ['\n']), .read "",
      .returned (.fulfilled (.opened "s" "AC500")), .output (.acquire 0), .output (.put 200), .output .release,
      .chunk true answer.written]
    ∃ p, Reach (step (fun _ => "") WiredClient.textBuffer (fun _ _ _ _ => .ok ()) .error) (fun _ _ => True) create trace p ∧
      (p.sent.map Prod.fst).Nodup ∧
      ∃ record, p.wired.client.calls 0 = some record ∧ ∃ outcome ∈ record.settlements, p.Settled .error 0 record.command outcome := by
  intro request answer trace
  have run : (trace.foldlM (step (fun _ => "") WiredClient.textBuffer (fun _ _ _ _ => .ok ()) .error) create).any
      (fun p => (p.wired.client.calls 0).any fun record => !record.settlements.isEmpty) = true := by
    decide +kernel
  obtain ⟨p, reach, settled⟩ : ∃ p, Reach (step (fun _ => "") WiredClient.textBuffer (fun _ _ _ _ => .ok ()) .error)
      (fun _ _ => True) create trace p ∧ _ := Reach.of_foldlM (fun _ _ _ => trivial) run
  obtain ⟨record, stored, some_⟩ := (Option.any_eq_true _ _).mp settled
  obtain ⟨_, distinct, explained⟩ := remote_calls_answered (fun _ => rfl) (fun _ _ _ _ => rfl) reach
  obtain ⟨outcome, member⟩ : ∃ outcome, outcome ∈ record.settlements := by
    rw [Bool.not_eq_true', List.isEmpty_eq_false_iff] at some_
    exact List.exists_mem_of_ne_nil _ some_
  exact ⟨p, reach, distinct, record, stored, outcome, member, explained 0 record stored outcome member⟩

end RemoteCalls

end BluettiMqtt
