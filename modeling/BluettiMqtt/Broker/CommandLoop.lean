import BluettiMqtt.Bluetooth.LinkService
import BluettiMqtt.Broker.Telemetry
import BluettiMqtt.Devices.SetterRoundTrip

namespace BluettiMqtt
open Promise Transition

namespace DeviceLink

/-- The call has been fulfilled with a response to its command. -/
def Completed (s : DeviceLink) (call : CallId) (command : DeviceCommand) (response : List Byte) : Prop :=
  ∃ record, s.session.performs call = some record ∧ record.command = command ∧
    record.phase = .settled (.fulfilled response)

variable {initial : RegisterImage} {start s : DeviceLink} {trace : List LinkEvent} {call : CallId}
  {command : DeviceCommand} {response : List Byte}

/-- A fulfilled call has been served, and its response is the device's. -/
theorem Completed.served (completed : s.Completed call command response) (explained : s.session.Explained initial s.served) :
    ∃ earlier later, s.served = earlier ++ ⟨call, command, none⟩ :: later ∧
      response = command.success (Served.after initial earlier) := by
  obtain ⟨record, entry, rfl, settled⟩ := completed
  have explains := (explained call record entry).2 _ settled
  generalize told : Settlement.fulfilled response = outcome at explains
  cases explains with
  | @answered earlier later refused place =>
    cases refused with
    | none =>
      rw [Served.outcome_executed rfl] at told
      exact ⟨earlier, later, place, Settlement.fulfilled.inj told⟩
    | some code =>
      rw [Served.outcome_refused rfl] at told
      cases told
  | failed => cases told

/-- What has been served before a call are the calls that were accepted before it. -/
theorem InOrder.served_before (inOrder : InOrder start trace s) {before rest : List CallId}
    (order : accepted start trace = before ++ call :: rest) {earlier later : List Served} {one : Served}
    (served : s.served = earlier ++ one :: later) (same : one.call = call) : earlier.map Served.call = before := by
  have distinct := inOrder.distinct
  have whole := inOrder.order
  rw [served, List.map_append, List.map_cons, same, List.append_assoc, List.cons_append] at whole
  have once := distinct
  rw [whole, List.nodup_middle, List.nodup_cons, List.mem_append, not_or] at once
  exact ((List.append_cons_inj_of_notMem once.1.1 once.1.2).mp (whole.symm.trans order)).1

/-- A read reports what the last write before it has written. -/
theorem InOrder.read_after_write (inOrder : InOrder start trace s) (explained : s.session.Explained initial s.served)
    {before between rest : List CallId} {setter reader : CallId}
    (order : accepted start trace = before ++ setter :: (between ++ reader :: rest)) {request : WriteSingleRegister}
    {echo : List Byte} (written : s.Completed setter (.writeSingleRegister request) echo)
    {window : ReadHoldingRegisters} (read : s.Completed reader (.readHoldingRegisters window) response)
    (alone : ∀ call ∈ between, ∀ record, s.session.performs call = some record →
      ¬record.command.Writes request.address.toNat) :
    ∃ image, response = (DeviceCommand.readHoldingRegisters window).success image ∧
      image request.address.toNat = request.value := by
  obtain ⟨first, others, setting, _⟩ := written.served explained
  obtain ⟨earlier, later, reading, rfl⟩ := read.served explained
  have prior := inOrder.served_before order setting rfl
  have until_ := inOrder.served_before (order.trans (List.append_assoc before (setter :: between) (reader :: rest)).symm)
    reading rfl
  obtain ⟨middle, rfl, image⟩ : ∃ middle, earlier = first ++ ⟨setter, .writeSingleRegister request, none⟩ :: middle ∧
      middle.map Served.call = between := by
    rcases List.append_eq_append_iff.mp (setting.symm.trans reading) with ⟨more, rfl, split⟩ | ⟨more, longer, _⟩
    · rw [List.map_append, prior] at until_
      obtain ⟨same, calls⟩ := List.append_inj until_ rfl
      cases more with
      | nil => cases calls
      | cons one middle =>
        obtain ⟨rfl, _⟩ := List.cons.inj split
        exact ⟨middle, rfl, (List.cons.inj calls).2⟩
    · have lengths := congrArg List.length longer
      have front := congrArg List.length prior
      have back := congrArg List.length until_
      simp only [List.length_append, List.length_map, List.length_cons] at lengths front back
      omega
  refine ⟨_, rfl, ?_⟩
  have untouched : ∀ served ∈ middle, served.refused = none → ¬served.command.Writes request.address.toNat := by
    intro served member _
    obtain ⟨record, entry, same⟩ := inOrder.asked served (by
      rw [reading]
      exact List.mem_append_left _ (List.mem_append_right _ (List.mem_cons_of_mem _ member)))
    rw [← same]
    exact alone served.call (image ▸ List.mem_map_of_mem member) record entry
  rw [Served.after_append]
  exact (Served.after_untouched untouched).trans (RegisterImage.store_word _ _)

end DeviceLink

section Reported

variable {text : String} {kind : FieldKind} {reported : ParsedValue}

/-- A value that is no number is published as it was sent. -/
theorem serializeValue_of_readsBack (reads : ReadsBack kind (parseCommandValue text) reported)
    (plain : INTEGER_PAYLOAD_PATTERN text.toList = false) : serializeValue reported = text := by
  unfold parseCommandValue at reads
  split at reads
  · next on =>
    cases reads
    exact on.symm
  · split at reads
    · next off =>
      cases reads
      exact off.symm
    · rw [plain] at reads
      cases reads
      rfl

/-- What is published of a field without options stands for the value that was sent. -/
theorem parseCommandValue_of_readsBack (reads : ReadsBack kind (parseCommandValue text) reported)
    (unlisted : ∀ enumDefinition, kind ≠ .enum enumDefinition) :
    parseCommandValue (serializeValue reported) = parseCommandValue text := by
  generalize value : parseCommandValue text = sent at reads
  cases reads with
  | boolean flag => cases flag <;> decide
  | integer range integer word => rw [serializeValue_word word, parseCommandValue_toString]
  | option => exact absurd rfl (unlisted _)
  | rawNumber => exact absurd rfl (unlisted _)

end Reported

/-- A command that the bridge takes from the broker comes back to it. Once the device
has executed it, the next read of its register makes the bridge publish the value
that was sent, on the state topic of the field that the command topic names, unless
another write to the register comes in between. -/
theorem command_is_reported {b : MqttBridge} {topic : String} {payload : List Byte} {message : CommandMessage}
    (incoming : b.incomingMessage topic payload = .ok (some message))
    (supported : message.device.definition ∈ BLUETTI_DEFINITIONS) {fresh : DeviceSession} {image : RegisterImage}
    {trace : List LinkEvent} {link : DeviceLink} (initialized : fresh.Initialized)
    (reach : Reach DeviceLink.step DeviceLink.InUse (DeviceLink.create fresh image) trace link)
    {before between rest : List CallId} {setter reader : CallId}
    (order : DeviceLink.accepted (DeviceLink.create fresh image) trace = before ++ setter :: (between ++ reader :: rest))
    {echo response : List Byte} {window : ReadHoldingRegisters}
    (written : link.Completed setter (.writeSingleRegister message.command) echo)
    (read : link.Completed reader (.readHoldingRegisters window) response)
    (alone : ∀ call ∈ between, ∀ record, link.session.performs call = some record →
      ¬record.command.Writes message.command.address.toNat)
    (lower : window.startingAddress.toNat ≤ message.command.address.toNat)
    (upper : message.command.address.toNat < window.startingAddress.toNat + window.quantity) :
    ∃ model serialNumber fieldName field parsed reported,
      COMMAND_TOPIC topic = some (model, serialNumber, fieldName) ∧
      field ∈ message.device.writableFields ∧ field.name = fieldName ∧
      message.device.parse window.startingAddress.toNat ((DeviceCommand.readHoldingRegisters window).parseResponse response) =
        .ok parsed ∧
      (stateTopic message.device fieldName, serializeValue reported) ∈ publications message.device parsed ∧
      let text := trim (String.ofList (utf8Text none (payload.map BitVec.toNat)))
      ReadsBack field.kind (parseCommandValue text) reported ∧
      (INTEGER_PAYLOAD_PATTERN text.toList = false → serializeValue reported = text) ∧
      ((∀ enumDefinition, field.kind ≠ .enum enumDefinition) →
        parseCommandValue (serializeValue reported) = parseCommandValue text) := by
  obtain ⟨inOrder, coherent⟩ := DeviceLink.inOrder_of_reach ⟨rfl, rfl⟩ (DeviceLink.coherent_create initialized image) reach
  obtain ⟨registers, rfl, holds⟩ := inOrder.read_after_write coherent.explained order written read alone
  unfold MqttBridge.incomingMessage at incoming
  split at incoming
  · cases incoming
  · next model serialNumber fieldName matched =>
    split at incoming
    · cases incoming
    · next device entry =>
      obtain ⟨command, ⟨field, listed, named, place, writable, ⟨number, encoded, word, _⟩, _⟩, rfl⟩ :=
        incomingCommand_some incoming
      have settable : field ∈ device.writableFields := List.mem_filter.mpr ⟨listed, writable⟩
      have readable := BluettiDevice.readable_of_writable supported settable
      obtain ⟨parsed, run, entries⟩ := DeviceStruct.parse_imageBytes
        (DeviceStruct.built_of_fields (BluettiDevice.built_of_supported supported)) registers window.startingAddress.toNat
        window.quantity
      have found : parsed.get? fieldName = some (field.reading registers) := by
        rw [entries, ← named, if_neg readable.plain]
        exact BluettiDevice.lastReading_of_readable readable (place ▸ lower) (place ▸ upper)
      have reads : ReadsBack field.kind (parseCommandValue (trim (String.ofList (utf8Text none (payload.map BitVec.toNat)))))
          (field.reading registers) := by
        refine BluettiDevice.encodedValue_readsBack readable encoded ?_
        rw [Number.integer?_eq_some.mp word, place, holds]
      refine ⟨model, serialNumber, fieldName, field, parsed, _, matched, settable, named, ?_, ?_, reads,
        serializeValue_of_readsBack reads, parseCommandValue_of_readsBack reads⟩
      · rw [DeviceCommand.success_parseResponse]
        exact run
      · exact List.mem_append_left _ (List.mem_map.mpr
          ⟨_, mem_objectEntries.mpr (OrderedMap.get?_eq_some.mp found), rfl⟩)

/-- The output of an EB3A is switched on, and its register read alone. -/
theorem command_is_reported_switch : ∃ response parsed,
    BluettiDevice.sampleEb3a.parse 3007 ((DeviceCommand.readHoldingRegisters ⟨3007#16, 1, by decide, by decide⟩).parseResponse
      response) = .ok parsed ∧
    (stateTopic BluettiDevice.sampleEb3a "ac_output_on", "ON") ∈ publications BluettiDevice.sampleEb3a parsed := by
  let switch : WriteSingleRegister := ⟨3007#16, 1#16⟩
  let window : ReadHoldingRegisters := ⟨3007#16, 1, by decide, by decide⟩
  let b : MqttBridge := { MqttBridge.create with
    devices := Table.insert (fun _ => none) "EB3A-2237000003358" BluettiDevice.sampleEb3a }
  have incoming : b.incomingMessage "bluetti/command/EB3A-2237000003358/ac_output_on" [0x4f#8, 0x4e#8] =
      .ok (some { device := BluettiDevice.sampleEb3a, command := switch }) := by
    decide +kernel
  have initialized := DeviceSession.initialized_opened "AA:BB:CC:DD:EE:FF" 10000 []
  let start := DeviceLink.create (DeviceSession.opened "AA:BB:CC:DD:EE:FF" 10000 []) (fun _ => 0)
  have first : start.InUse (.session (.perform 0 (.writeSingleRegister switch))) :=
    ⟨fun _ _ _ => DeviceSession.quiet_opened _ _ _, rfl, by rintro _ _ ⟨⟩⟩
  let exchange (call : CallId) : List LinkEvent :=
    [.serve none, .notify 8, .session (.writeSettled call (.fulfilled ()))]
  have allowed (call : CallId) : ∀ e ∈ exchange call, ∀ s, DeviceLink.InUse s e := by
    simp only [exchange, List.mem_cons, List.not_mem_nil, or_false, forall_eq_or_imp, forall_eq]
    exact ⟨fun _ => trivial, fun _ => trivial, DeviceLink.inUse_of_other (by rintro _ _ ⟨⟩) rfl (by rintro _ _ ⟨⟩)⟩
  have settles (call : CallId) (s : DeviceLink) : s.InUse (.session (.responseSettled call)) :=
    DeviceLink.inUse_of_other (by rintro _ _ ⟨⟩) rfl (by rintro _ _ ⟨⟩) s
  let done (v : DeviceLink) : Bool :=
    (v.session.performs 0).map (fun record => (record.command, record.phase)) =
        some (.writeSingleRegister switch, .settled (.fulfilled (DeviceCommand.writeSingleRegister switch).frame)) ∧
      (v.session.performs 1).map (fun record => (record.command, record.phase)) =
        some (.readHoldingRegisters window, .settled (.fulfilled
          ((DeviceCommand.readHoldingRegisters window).success fun address => if address = 3007 then 1 else 0)))
  have run : (((exchange 0).foldlM DeviceLink.step { start with
      session := start.session.perform 0 (.writeSingleRegister switch)
      requests := [(0, (DeviceCommand.writeSingleRegister switch).frame)] }).any fun s =>
        (s.step (.session (.responseSettled 0))).any fun t =>
          (t.step (.session (.perform 1 (.readHoldingRegisters window)))).any fun u =>
            (((exchange 1).foldlM DeviceLink.step u).any fun v =>
              (v.step (.session (.responseSettled 1))).any done)) = true := by
    decide +kernel
  obtain ⟨s, served, next⟩ := Reach.of_foldlM (allowed 0) run
  obtain ⟨t, settled, next⟩ := (Option.any_eq_true _ _).mp next
  have early : Reach DeviceLink.step DeviceLink.InUse start
      (.session (.perform 0 (.writeSingleRegister switch)) :: exchange 0) s := .cons first rfl served
  have quiet := (DeviceLink.inOrder_of_reach ⟨rfl, rfl⟩ (DeviceLink.coherent_create initialized _) early).2.quiet_of_responseSettled
    settled
  obtain ⟨u, asked, next⟩ := (Option.any_eq_true _ _).mp next
  obtain ⟨v, answered, next⟩ := Reach.of_foldlM (allowed 1) next
  obtain ⟨w, finished, last⟩ := (Option.any_eq_true _ _).mp next
  have second : t.InUse (.session (.perform 1 (.readHoldingRegisters window))) :=
    ⟨fun _ _ _ => quiet, rfl, by rintro _ _ ⟨⟩⟩
  have reach := ((early.next (settles 0 s) settled).next second asked).trans
    (answered.next (settles 1 v) finished)
  have order : DeviceLink.accepted start (((.session (.perform 0 (.writeSingleRegister switch)) :: exchange 0) ++
      [.session (.responseSettled 0)]) ++ [.session (.perform 1 (.readHoldingRegisters window))] ++
        (exchange 1 ++ [.session (.responseSettled 1)])) = [] ++ 0 :: ([] ++ 1 :: []) := by
    decide +kernel
  obtain ⟨wrote, read⟩ := of_decide_eq_true last
  obtain ⟨setting, entry, same⟩ := Option.map_eq_some_iff.mp wrote
  obtain ⟨reading, entry', same'⟩ := Option.map_eq_some_iff.mp read
  obtain ⟨_, _, fieldName, field, parsed, reported, matched, _, _, parses, published, _, whole, _⟩ :=
    command_is_reported incoming (List.getElem_mem _) initialized reach order
      ⟨setting, entry, (Prod.mk.inj same).1, (Prod.mk.inj same).2⟩ ⟨reading, entry', (Prod.mk.inj same').1, (Prod.mk.inj same').2⟩
      (by rintro _ ⟨⟩) (by decide) (by decide)
  have topic : COMMAND_TOPIC "bluetti/command/EB3A-2237000003358/ac_output_on" =
      some ("EB3A", "2237000003358", "ac_output_on") := by
    decide +kernel
  have text : trim (String.ofList (utf8Text none ([0x4f#8, 0x4e#8].map BitVec.toNat))) = "ON" := by decide +kernel
  cases topic.symm.trans matched
  rw [whole (by rw [text]; decide), text] at published
  exact ⟨_, parsed, parses, published⟩

end BluettiMqtt
