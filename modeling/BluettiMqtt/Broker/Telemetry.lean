import BluettiMqtt.Broker.DeviceIdentity
import BluettiMqtt.Broker.Snapshot
import BluettiMqtt.Broker.WriteSafety

namespace BluettiMqtt
open Promise Transition JsonText

def STATE_TOPIC_PREFIX : String := "bluetti/state/"

def stateTopic (device : BluettiDevice) (name : String) : String :=
  STATE_TOPIC_PREFIX ++ device.type ++ "-" ++ device.serialNumber ++ "/" ++ name

/-- The topics and payloads that `handleParserMessage` publishes, in this order. -/
def publications (device : BluettiDevice) (parsed : ParsedFieldMap) : List (String × String) :=
  (objectEntries parsed.entries).map (fun (name, value) => (stateTopic device name, serializeValue value)) ++
    [(stateTopic device RAW_SNAPSHOT_SUFFIX, rawSnapshot parsed)]

/-- A call of `client.publish` by a call of `handleParserMessage`. -/
structure Publish where
  call : Nat
  client : Nat
  message : String × String
  deriving DecidableEq

/-- A call of `handleParserMessage`: the client that it got, what it has not
published yet, and how it has settled. -/
structure ParserCall where
  client : Option Nat
  device : BluettiDevice
  parsed : ParsedFieldMap
  rest : List (String × String)
  outcome : Option (Settlement Failure Unit)

def ParserCall.start (client : Option Nat) (device : BluettiDevice) (parsed : ParsedFieldMap) : ParserCall :=
  { client := client, device := device, parsed := parsed, rest := publications device parsed, outcome := none }

/-- The bridge with the calls of its parser listeners. `publishes` (oldest first)
is a history variable. -/
structure TelemetryBridge where
  bridge : MqttBridge
  calls : Table Nat ParserCall
  publishes : List Publish

/-- The bridge moves, one of its listeners gets a parser message, or a promise of
`client.publish` settles. A `publish` that throws is one that is rejected. -/
inductive TelemetryEvent
  | bridge (event : BridgeEvent)
  | parserMessage (call : Nat) (device : BluettiDevice) (parsed : ParsedFieldMap)
  | published (call : Nat) (result : Settlement Failure Unit)

namespace TelemetryBridge

def create : TelemetryBridge where
  bridge := .create
  calls := fun _ => none
  publishes := []

def setCall (s : TelemetryBridge) (call : Nat) (record : ParserCall) : TelemetryBridge :=
  { s with calls := s.calls.insert call record }

/-- The call goes on with the next publication, or is at its end. -/
def publishNext (s : TelemetryBridge) (call client : Nat) (record : ParserCall) : TelemetryBridge :=
  match record.rest with
  | [] => s.setCall call { record with outcome := some (.fulfilled ()) }
  | message :: rest =>
    { s with publishes := s.publishes ++ [Publish.mk call client message] }.setCall call
      { record with rest := rest }

/-- `handleParserMessage` up to its first `await`. -/
def handleParserMessage (s : TelemetryBridge) (call : Nat) (device : BluettiDevice) (parsed : ParsedFieldMap) :
    TelemetryBridge :=
  let record := ParserCall.start s.bridge.rawClient device parsed
  match s.bridge.rawClient with
  | none => s.setCall call { record with outcome := some (.rejected (.error "MQTT bridge is not connected")) }
  | some client => { s with bridge := s.bridge.handleParserMessage device }.publishNext call client record

/-- The call after `await client.publish(...)`. -/
def published (s : TelemetryBridge) (call client : Nat) (record : ParserCall) : Settlement Failure Unit → TelemetryBridge
  | .fulfilled _ => s.publishNext call client record
  | .rejected error => s.setCall call { record with outcome := some (.rejected error) }

/-- One step; `none` when the event is not enabled. -/
def step (s : TelemetryBridge) : TelemetryEvent → Option TelemetryBridge
  | .bridge (.parserMessage _) => none
  | .bridge event => (s.bridge.step event).map fun bridge => { s with bridge := bridge }
  | .parserMessage call device parsed =>
    if s.bridge.parserListeners ≠ [] ∧ (s.calls call).isNone = true then some (s.handleParserMessage call device parsed)
    else none
  | .published call result =>
    match s.calls call with
    | some record =>
      match record.client, record.outcome with
      | some client, none => some (s.published call client record result)
      | _, _ => none
    | none => none

/-- What a call has published, in this order. -/
def publishedBy (s : TelemetryBridge) (call : Nat) : List (String × String) :=
  (s.publishes.filter fun publish => publish.call = call).map Publish.message

variable {s t : TelemetryBridge} {call client : Nat} {record : ParserCall}

/-- One call has moved, by publishing at most one message or by settling. -/
inductive Moved (s t : TelemetryBridge) (call : Nat) (old : ParserCall) : Prop
  | published {client : Nat} {message : String × String} {rest : List (String × String)} :
      old.client = some client → old.rest = message :: rest →
      t.publishes = s.publishes ++ [Publish.mk call client message] →
      t.calls = s.calls.insert call { old with rest := rest } → Moved s t call old
  | settled {outcome : Settlement Failure Unit} : (outcome = .fulfilled () → old.rest = []) →
      t.publishes = s.publishes → t.calls = s.calls.insert call { old with outcome := some outcome } → Moved s t call old

/-- A call that moves keeps its client, its device and its fields. -/
theorem Moved.insert (moved : Moved s t call record) : ∃ later, t.calls = s.calls.insert call later ∧
    later.client = record.client ∧ later.device = record.device ∧ later.parsed = record.parsed := by
  cases moved with
  | published _ _ _ calls => exact ⟨_, calls, rfl, rfl, rfl⟩
  | settled _ _ calls => exact ⟨_, calls, rfl, rfl, rfl⟩

theorem moved_publishNext {u : TelemetryBridge} (publishes : u.publishes = s.publishes) (calls : u.calls = s.calls)
    (got : record.client = some client) : Moved s (u.publishNext call client record) call record := by
  unfold publishNext
  split
  · next done => exact .settled (fun _ => done) publishes (congrArg (Table.insert · call _) calls)
  · next message rest more =>
    exact .published got more (congrArg (· ++ _) publishes) (congrArg (Table.insert · call _) calls)

/-- A step of the bridge, a call that begins, or a call that goes on. -/
theorem step_cases {e : TelemetryEvent} (run : s.step e = some t) :
    t.calls = s.calls ∧ t.publishes = s.publishes ∨
    (∃ call record, e = .parserMessage call record.device record.parsed ∧ s.calls call = none ∧
      record.client = s.bridge.rawClient ∧ record.rest = publications record.device record.parsed ∧
      record.outcome = none ∧ Moved s t call record) ∨
    ∃ call record, s.calls call = some record ∧ record.outcome = none ∧ Moved s t call record := by
  cases e with
  | bridge event =>
    cases event with
    | parserMessage device => cases run
    | _ =>
      obtain ⟨bridge, _, rfl⟩ := Option.map_eq_some_iff.mp run
      exact Or.inl ⟨rfl, rfl⟩
  | parserMessage call device parsed =>
    obtain ⟨⟨_, fresh⟩, same⟩ := Option.ite_none_right_eq_some.mp run
    cases Option.some.inj same
    refine Or.inr (Or.inl ⟨call, ParserCall.start s.bridge.rawClient device parsed, rfl,
      Option.isNone_iff_eq_none.mp fresh, rfl, rfl, rfl, ?_⟩)
    unfold handleParserMessage
    split
    · exact .settled (by rintro ⟨⟩) rfl rfl
    · next client got => exact moved_publishNext rfl rfl got
  | published call result =>
    simp only [step] at run
    split at run
    · next record entry =>
      split at run
      · next client got open_ =>
        cases Option.some.inj run
        refine Or.inr (Or.inr ⟨call, record, entry, open_, ?_⟩)
        cases result with
        | fulfilled => exact moved_publishNext rfl rfl got
        | rejected error => exact .settled (by rintro ⟨⟩) rfl rfl
      · cases run
    · cases run

/-- What has been published for a call, and who publishes. -/
structure Told (s : TelemetryBridge) : Prop where
  split : ∀ call record, s.calls call = some record →
    publications record.device record.parsed = s.publishedBy call ++ record.rest ∧
    (record.outcome = some (.fulfilled ()) → record.rest = [])
  owned : ∀ publish ∈ s.publishes, ∃ record, s.calls publish.call = some record ∧
    record.client = some publish.client ∧ publish.message ∈ publications record.device record.parsed

theorem publishedBy_append {publish : Publish} (publishes : t.publishes = s.publishes ++ [publish]) (call : Nat) :
    t.publishedBy call = s.publishedBy call ++ if publish.call = call then [publish.message] else [] := by
  rw [publishedBy, publishedBy, publishes, List.filter_append, List.map_append]
  by_cases here : publish.call = call
  · simp [here]
  · simp [here]

/-- A call that has moved, when it had told the rest of its publications before. -/
theorem Told.moved (told : s.Told) (kept : ∀ old, s.calls call = some old → old.client = record.client ∧
      old.device = record.device ∧ old.parsed = record.parsed)
    (open_ : record.outcome = none) (mine : publications record.device record.parsed = s.publishedBy call ++ record.rest)
    (moved : Moved s t call record) : t.Told := by
  have others (publish : Publish) (member : publish ∈ s.publishes) {later : ParserCall}
      (calls : t.calls = s.calls.insert call later) (same : later.client = record.client ∧
        later.device = record.device ∧ later.parsed = record.parsed) :
      ∃ record, t.calls publish.call = some record ∧ record.client = some publish.client ∧
        publish.message ∈ publications record.device record.parsed := by
    obtain ⟨old, entry, client, listed⟩ := told.owned publish member
    rw [calls]
    by_cases here : publish.call = call
    · obtain ⟨a, b, c⟩ := kept old (here ▸ entry)
      refine ⟨later, here ▸ Table.insert_self _ _ _, ?_, ?_⟩
      · rw [same.1, ← a, client]
      · rw [same.2.1, same.2.2, ← b, ← c]
        exact listed
    · exact ⟨old, by rw [Table.insert_of_ne _ _ here, entry], client, listed⟩
  cases moved with
  | @published client message rest got more publishes calls =>
    refine ⟨fun other found entry => ?_, fun publish member => ?_⟩
    · rw [publishedBy_append publishes]
      rw [calls] at entry
      rcases Table.insert_eq_some.mp entry with ⟨rfl, rfl⟩ | ⟨elsewhere, entry⟩
      · rw [if_pos rfl, List.append_assoc]
        exact ⟨by rw [mine, more]; rfl, fun done => absurd (open_.symm.trans done) (by rintro ⟨⟩)⟩
      · rw [if_neg (Ne.symm elsewhere), List.append_nil]
        exact told.split other found entry
    · rw [publishes] at member
      rcases List.mem_append.mp member with old | new
      · exact others publish old calls ⟨rfl, rfl, rfl⟩
      · rw [List.mem_singleton.mp new]
        refine ⟨{ record with rest := rest }, by rw [calls]; exact Table.insert_self _ _ _, got, ?_⟩
        rw [mine, more]
        exact List.mem_append_right _ List.mem_cons_self
  | @settled outcome done publishes calls =>
    have same (other : Nat) : t.publishedBy other = s.publishedBy other := by rw [publishedBy, publishes, publishedBy]
    refine ⟨fun other found entry => ?_, fun publish member => ?_⟩
    · rw [same]
      rw [calls] at entry
      rcases Table.insert_eq_some.mp entry with ⟨rfl, rfl⟩ | ⟨_, entry⟩
      · exact ⟨mine, fun fulfilled => done (Option.some.inj fulfilled)⟩
      · exact told.split other found entry
    · exact others publish (publishes ▸ member) calls ⟨rfl, rfl, rfl⟩

theorem Told.step {e : TelemetryEvent} (told : s.Told) (run : s.step e = some t) : t.Told := by
  rcases step_cases run with ⟨calls, publishes⟩ | ⟨call, record, _, fresh, _, whole, open_, moved⟩ |
    ⟨call, record, entry, open_, moved⟩
  · refine ⟨fun call record entry => ?_, fun publish member => ?_⟩
    · rw [publishedBy, publishes]
      exact told.split call record (calls ▸ entry)
    · rw [calls]
      exact told.owned publish (publishes ▸ member)
  · have silent : s.publishedBy call = [] := by
      rw [publishedBy, List.map_eq_nil_iff, List.filter_eq_nil_iff]
      intro publish member same
      obtain ⟨record, entry, _⟩ := told.owned publish member
      rw [of_decide_eq_true same, fresh] at entry
      cases entry
    refine told.moved (fun old entry => ?_) open_ (by rw [silent, whole, List.nil_append]) moved
    cases fresh.symm.trans entry
  · refine told.moved (fun old same => ?_) open_ (told.split call record entry).1 moved
    cases entry.symm.trans same
    exact ⟨rfl, rfl, rfl⟩

theorem told_of_reach {trace : List TelemetryEvent} (reach : Reach step (fun _ _ => True) create trace s) : s.Told := by
  refine reach.invariant (P := Told) ⟨?_, ?_⟩ fun _ _ _ told _ run => told.step run
  · rintro call record ⟨⟩
  · rintro publish ⟨⟩

/-- A call that has settled does nothing more. -/
theorem step_settled {e : TelemetryEvent} (entry : s.calls call = some record) (done : record.outcome ≠ none)
    (run : s.step e = some t) : t.calls call = some record ∧ t.publishedBy call = s.publishedBy call := by
  have others {other : Nat} {moving : ParserCall} (elsewhere : call ≠ other) (moved : Moved s t other moving) :
      t.calls call = some record ∧ t.publishedBy call = s.publishedBy call := by
    cases moved with
    | published _ _ publishes calls =>
      refine ⟨by rw [calls, Table.insert_of_ne _ _ elsewhere, entry], ?_⟩
      rw [publishedBy_append publishes, if_neg (Ne.symm elsewhere), List.append_nil]
    | settled _ publishes calls =>
      exact ⟨by rw [calls, Table.insert_of_ne _ _ elsewhere, entry], by rw [publishedBy, publishes, publishedBy]⟩
  rcases step_cases run with ⟨calls, publishes⟩ | ⟨other, moving, _, fresh, _, _, _, moved⟩ |
    ⟨other, moving, found, open_, moved⟩
  · exact ⟨by rw [calls, entry], by rw [publishedBy, publishes, publishedBy]⟩
  · refine others ?_ moved
    rintro rfl
    cases fresh.symm.trans entry
  · refine others ?_ moved
    rintro rfl
    cases found.symm.trans entry
    exact done open_

theorem settled_for_good {later : List TelemetryEvent} (entry : s.calls call = some record) (done : record.outcome ≠ none)
    (reach : Reach step (fun _ _ => True) s later t) :
    t.calls call = some record ∧ t.publishedBy call = s.publishedBy call := by
  induction reach with
  | start => exact ⟨entry, rfl⟩
  | next _ _ run ih =>
    obtain ⟨same, published⟩ := step_settled ih.1 done run
    exact ⟨same, published.trans ih.2⟩

/-- A call keeps the client, the device and the fields that it began with. -/
theorem step_origin {e : TelemetryEvent} (run : s.step e = some t) (entry : t.calls call = some record) :
    (∃ old, s.calls call = some old ∧ old.client = record.client ∧ old.device = record.device ∧ old.parsed = record.parsed) ∨
      e = .parserMessage call record.device record.parsed ∧ record.client = s.bridge.rawClient := by
  rcases step_cases run with ⟨calls, _⟩ | ⟨other, moving, begun, _, client, _, _, moved⟩ | ⟨other, moving, found, _, moved⟩
  · exact Or.inl ⟨record, calls ▸ entry, rfl, rfl, rfl⟩
  · obtain ⟨later, calls, got, device, parsed⟩ := moved.insert
    rw [calls] at entry
    rcases Table.insert_eq_some.mp entry with ⟨rfl, rfl⟩ | ⟨_, old⟩
    · rw [device, parsed, got]
      exact Or.inr ⟨begun, client⟩
    · exact Or.inl ⟨record, old, rfl, rfl, rfl⟩
  · obtain ⟨later, calls, got, device, parsed⟩ := moved.insert
    rw [calls] at entry
    rcases Table.insert_eq_some.mp entry with ⟨rfl, rfl⟩ | ⟨_, old⟩
    · exact Or.inl ⟨moving, found, got.symm, device.symm, parsed.symm⟩
    · exact Or.inl ⟨record, old, rfl, rfl, rfl⟩

/-- Every call comes from a parser message and publishes to the client that the
bridge had then. -/
theorem origin_of_reach {trace : List TelemetryEvent} (reach : Reach step (fun _ _ => True) create trace s)
    (entry : s.calls call = some record) :
    ∃ before t after, trace = before ++ .parserMessage call record.device record.parsed :: after ∧
      Reach step (fun _ _ => True) create before t ∧ record.client = t.bridge.rawClient := by
  induction reach generalizing record with
  | start => cases entry
  | @next trace s e t reach _ run ih =>
    rcases step_origin run entry with ⟨old, found, client, device, parsed⟩ | ⟨rfl, client⟩
    · obtain ⟨before, middle, after, rfl, began, got⟩ := ih found
      refine ⟨before, middle, after ++ [e], ?_, began, client ▸ got⟩
      rw [device, parsed, List.append_assoc, List.cons_append]
    · exact ⟨trace, s, [], rfl, reach, client⟩

end TelemetryBridge

section Topics

variable {device device' : BluettiDevice} {name name' : String}

theorem stateTopic_toList (device : BluettiDevice) (name : String) : (stateTopic device name).toList =
    STATE_TOPIC_PREFIX.toList ++ (device.type.toList ++ '-' :: (device.serialNumber.toList ++ '/' :: name.toList)) := by
  simp [stateTopic, String.toList_append]

/-- No state topic is a command topic, whatever the device and the field are called. -/
theorem COMMAND_TOPIC_stateTopic (device : BluettiDevice) (name : String) : COMMAND_TOPIC (stateTopic device name) = none := by
  unfold COMMAND_TOPIC
  refine if_neg fun matched => ?_
  have ninth := congrArg (·[8]?) matched.1
  rw [stateTopic_toList] at ninth
  change some 's' = some 'c' at ninth
  exact absurd ninth (by decide)

theorem stateTopic_inj (alphanumeric : ∀ c ∈ device.type.toList, c.isAlphanum = true)
    (alphanumeric' : ∀ c ∈ device'.type.toList, c.isAlphanum = true)
    (digits : ∀ c ∈ device.serialNumber.toList, c.isDigit = true)
    (digits' : ∀ c ∈ device'.serialNumber.toList, c.isDigit = true)
    (same : stateTopic device name = stateTopic device' name') : deviceKey device = deviceKey device' ∧ name = name' := by
  have lists := congrArg String.toList same
  rw [stateTopic_toList, stateTopic_toList] at lists
  have models := congrArg (List.span Char.isAlphanum) (List.append_cancel_left lists)
  rw [span_group alphanumeric rfl, span_group alphanumeric' rfl] at models
  obtain ⟨type, rest⟩ := Prod.mk.inj models
  have serials := congrArg (List.span Char.isDigit) (List.cons.inj rest).2
  rw [span_group digits rfl, span_group digits' rfl] at serials
  obtain ⟨serial, rest⟩ := Prod.mk.inj serials
  rw [deviceKey, deviceKey, String.toList_inj.mp type, String.toList_inj.mp serial]
  exact ⟨rfl, String.toList_inj.mp (List.cons.inj rest).2⟩

theorem topic_of_mem {parsed : ParsedFieldMap} {message : String × String} (member : message ∈ publications device parsed) :
    ∃ name, message.1 = stateTopic device name := by
  rcases List.mem_append.mp member with field | snapshot
  · obtain ⟨entry, _, rfl⟩ := List.mem_map.mp field
    exact ⟨entry.1, rfl⟩
  · rw [List.mem_singleton.mp snapshot]
    exact ⟨_, rfl⟩

end Topics

/-- What has been decoded is told by the snapshot, which is published last. It is one
line of JSON that has each field once and tells the topics and payloads published
before it, and the readings. -/
theorem snapshot_retells (device : BluettiDevice) {address : Nat} {data : List Byte} {parsed : ParsedFieldMap}
    (decoded : device.parse address data = .ok parsed) :
    ∃ (payload : String) (members : List (String × JsonText.Json)),
    publications device parsed = members.map (fun (name, value) => (stateTopic device name, statePayload value)) ++
      [(stateTopic device RAW_SNAPSHOT_SUFFIX, payload)] ∧
    parse payload.toList = some (.object members) ∧ (members.map Prod.fst).Nodup ∧ (∀ c ∈ payload.toList, 0x20 ≤ c.toNat) ∧
    members.length = parsed.entries.length ∧
    ∀ name value, (name, value) ∈ parsed.entries → ∃ told, (name, told) ∈ members ∧ Tells value told := by
  have finite := DeviceStruct.parse_isFinite decoded
  refine ⟨rawSnapshot parsed, normalizeRecord parsed, ?_, parse_stringify _, ?_, ?_, ?_, fun name value listed => ?_⟩
  · rw [publications, normalizeRecord, List.map_map]
    congr 1
    refine List.map_congr_left fun entry member => ?_
    exact congrArg (Prod.mk _) (statePayload_normalizeValue (finite _ _ (mem_objectEntries.mp member))).symm
  · rw [normalizeRecord, List.map_map]
    exact ((objectEntries_perm parsed.entries).map Prod.fst).nodup_iff.mpr parsed.distinct
  · rw [rawSnapshot, stringify, String.toList_ofList]
    exact print_printable _ _
  · rw [normalizeRecord, List.length_map, (objectEntries_perm parsed.entries).length_eq]
  · exact ⟨normalizeValue value, List.mem_map.mpr ⟨_, mem_objectEntries.mpr listed, rfl⟩,
      tells_normalizeValue (finite name value listed)⟩

/-- A station with a battery pack of 16 cells. -/
def BluettiDevice.sampleAc300 : BluettiDevice :=
  { address := "24:4C:AB:2C:24:8F", serialNumber := "2237000003359", definition := BLUETTI_DEFINITIONS[1] }

/-- The registers 98 to 120 of the station. -/
def packWindow : List Byte :=
  (5312#16 :: 87#16 :: (List.replicate 5 0#16 ++ List.replicate 16 332#16)).flatMap writeUint16BigEndian

theorem snapshot_retells_pack : ∃ parsed payload members voltage cells,
    BluettiDevice.sampleAc300.parse 98 packWindow = .ok parsed ∧
    (stateTopic .sampleAc300 RAW_SNAPSHOT_SUFFIX, payload) ∈ publications .sampleAc300 parsed ∧
    parse payload.toList = some (.object members) ∧
    ("pack_voltage", .number voltage) ∈ members ∧ Number.nearest voltage.value = Number.nearest (5312 / 100) ∧
    ("cell_voltages", .array cells) ∈ members ∧ cells.length = 16 := by
  have read : (BluettiDevice.sampleAc300.parse 98 packWindow).toOption.any (fun parsed =>
      parsed.get? "pack_voltage" = some (.number (5312 / 100)) ∧
      parsed.get? "cell_voltages" = some (.numbers (List.replicate 16 (332 / 100)))) = true := by
    decide +kernel
  cases decoded : BluettiDevice.sampleAc300.parse 98 packWindow with
  | error failure => rw [decoded] at read; cases read
  | ok parsed =>
    rw [decoded] at read
    obtain ⟨voltage, cells⟩ := of_decide_eq_true read
    obtain ⟨payload, members, published, json, _, _, _, tells⟩ := snapshot_retells .sampleAc300 decoded
    obtain ⟨told, listed, number⟩ := tells _ _ (OrderedMap.get?_eq_some.mp voltage)
    obtain ⟨told', listed', numbers⟩ := tells _ _ (OrderedMap.get?_eq_some.mp cells)
    cases told with
    | number text =>
      cases told' with
      | array items =>
        refine ⟨parsed, payload, members, text, items, rfl, ?_, json, listed, number, listed', ?_⟩
        · rw [published]
          exact List.mem_append_right _ List.mem_cons_self
        · exact (List.Forall₂.length_eq numbers).symm.trans List.length_replicate
      | _ => cases numbers
    | _ => cases number

namespace TelemetryBridge

variable {s : TelemetryBridge} {trace : List TelemetryEvent}

/-- However calls of the parser listener interleave with each other and with the
bridge, each publishes to the client it found, in order and without a gap; it has
published everything when it is fulfilled, and nothing more once it has settled.
No topic is a command topic or that of another station. -/
theorem telemetry_in_order (reach : Reach step (fun _ _ => True) create trace s) :
    (∀ call record, s.calls call = some record →
      (∃ before t after, trace = before ++ .parserMessage call record.device record.parsed :: after ∧
        Reach step (fun _ _ => True) create before t ∧ record.client = t.bridge.rawClient) ∧
      publications record.device record.parsed = s.publishedBy call ++ record.rest ∧
      (record.outcome = some (.fulfilled ()) → record.rest = []) ∧
      (record.outcome ≠ none → ∀ later t, Reach step (fun _ _ => True) s later t →
        t.calls call = some record ∧ t.publishedBy call = s.publishedBy call)) ∧
    (∀ publish ∈ s.publishes, COMMAND_TOPIC publish.message.1 = none ∧
      ∃ record, s.calls publish.call = some record ∧ record.client = some publish.client) ∧
    ∀ first ∈ s.publishes, ∀ second ∈ s.publishes, ∀ one other,
      s.calls first.call = some one → s.calls second.call = some other →
      (∃ name, Advertises name one.device.type one.device.serialNumber) →
      (∃ name, Advertises name other.device.type other.device.serialNumber) →
      first.message.1 = second.message.1 → deviceKey one.device = deviceKey other.device := by
  have told := told_of_reach reach
  refine ⟨fun call record entry => ?_, fun publish member => ?_, ?_⟩
  · obtain ⟨split, fulfilled⟩ := told.split call record entry
    exact ⟨origin_of_reach reach entry, split, fulfilled, fun done later t more => settled_for_good entry done more⟩
  · obtain ⟨record, entry, client, listed⟩ := told.owned publish member
    obtain ⟨name, topic⟩ := topic_of_mem listed
    exact ⟨by rw [topic, COMMAND_TOPIC_stateTopic], record, entry, client⟩
  · rintro first member second member' one other entry entry' ⟨name, named⟩ ⟨name', named'⟩ same
    obtain ⟨found, here, _, listed⟩ := told.owned first member
    obtain ⟨found', here', _, listed'⟩ := told.owned second member'
    cases here.symm.trans entry
    cases here'.symm.trans entry'
    obtain ⟨field, topic⟩ := topic_of_mem listed
    obtain ⟨field', topic'⟩ := topic_of_mem listed'
    rw [topic, topic'] at same
    exact (stateTopic_inj (models_alphanumeric _ named.1).2 (models_alphanumeric _ named'.1).2
      (isDigits_iff.mp named.2.1).2 (isDigits_iff.mp named'.2.1).2 same).1

/-- Two messages of one station whose publications overlap; the second fails. -/
def overlapping : List TelemetryEvent :=
  [.bridge (.run 0), .bridge (.connected 0 (.fulfilled 0)), .bridge (.subscribed 0 (.fulfilled ()) none none),
    .parserMessage 0 BluettiDevice.sampleEb3a (OrderedMap.empty.set "ac_output_on" (.boolean true)),
    .parserMessage 1 BluettiDevice.sampleEb3a (OrderedMap.empty.set "ac_input_power" (.number 12)),
    .published 1 (.rejected (.error "client disconnecting")), .published 0 (.fulfilled ()), .published 0 (.fulfilled ())]

theorem telemetry_in_order_overlapping : ∃ s record, Reach step (fun _ _ => True) create overlapping s ∧
    s.calls 0 = some record ∧ record.rest = [] ∧
    publications record.device record.parsed = s.publishedBy 0 ++ record.rest := by
  have run : (overlapping.foldlM step create).any (fun s =>
      (s.calls 0).map ParserCall.outcome = some (some (.fulfilled ()))) = true := by
    decide +kernel
  obtain ⟨s, reach, found⟩ := Reach.of_foldlM (fun _ _ _ => trivial) run
  obtain ⟨record, entry, done⟩ := Option.map_eq_some_iff.mp (of_decide_eq_true found)
  obtain ⟨_, split, fulfilled, _⟩ := (telemetry_in_order reach).1 0 record entry
  exact ⟨s, record, reach, entry, fulfilled done, split⟩

end TelemetryBridge

end BluettiMqtt
