import BluettiMqtt.Broker.PayloadUtils
import BluettiMqtt.Devices.Definition

namespace BluettiMqtt

def isBooleanWord (name : String) : Bool :=
  name = BOOLEAN_ON_VALUE || name = BOOLEAN_OFF_VALUE

/-- Texts that survive `trim` and that only the boolean words keep
`parseCommandValue` from taking as they are. -/
def isOptionText (name : String) : Bool :=
  name.toList.all (fun c => !isWhiteSpace c) && !INTEGER_PAYLOAD_PATTERN name.toList

/-- Enum definitions with one option text for each of their register words. -/
def EnumDefinition.isSpellable (enumDefinition : EnumDefinition) : Bool :=
  (enumDefinition.options.map Prod.snd).Nodup &&
    enumDefinition.options.all fun option => isOptionText option.1 && option.2 ≤ 0xffff

namespace EnumDefinition

variable {enumDefinition : EnumDefinition} {name : String} {value : Nat}

theorem property_of_mem (listed : (name, value) ∈ enumDefinition.options) :
    enumDefinition.property name = some (.number (.ofInt value)) := by
  have found := Table.find?_of_distinct Prod.fst enumDefinition.distinct listed
  simp only [property, found]

theorem enumValue_of_mem (spellable : enumDefinition.isSpellable = true)
    (listed : (name, value) ∈ enumDefinition.options) :
    enumValue enumDefinition value = { name := name, value := value } := by
  obtain ⟨separate, _⟩ := Bool.and_eq_true_iff.mp spellable
  exact enumValue_of_distinct (of_decide_eq_true separate) listed

theorem isOptionText_of_mem (spellable : enumDefinition.isSpellable = true)
    (listed : (name, value) ∈ enumDefinition.options) : isOptionText name = true ∧ value ≤ 0xffff := by
  obtain ⟨_, texts⟩ := Bool.and_eq_true_iff.mp spellable
  have text := List.all_eq_true.mp texts _ listed
  simpa using text

end EnumDefinition

theorem parseCommandValue_optionText {name : String} (plain : isOptionText name = true) :
    parseCommandValue (trim name) =
      if name = BOOLEAN_ON_VALUE then .boolean true
      else if name = BOOLEAN_OFF_VALUE then .boolean false else .string name := by
  obtain ⟨solid, letters⟩ := Bool.and_eq_true_iff.mp plain
  have whole : trim name = name := trim_of_solid (by simpa using solid)
  have unmatched : INTEGER_PAYLOAD_PATTERN name.toList = false := by simpa using letters
  rw [whole, parseCommandValue]
  simp only [unmatched, Bool.false_eq_true, if_false]

/-- What the schemas promise about a field with a setter: it is the field that
its name selects, its address fits a request, and its readings are booleans,
register words or spellable options. -/
structure Settable (device : BluettiDevice) (field : DeviceField) : Prop where
  selected : device.struct.fields.find? (device.settable field.name) = some field
  narrow : field.address ≤ 0xffff
  commandable : match field.kind with
    | .uint _ => True
    | .bool => True
    | .enum enumDefinition => enumDefinition.isSpellable = true
    | _ => False

/-- The published `payload` is accepted on the command topic of the field and
writes a word that reads as `value`. -/
def EchoAccepted (device : BluettiDevice) (field : DeviceField) (value : ParsedValue) : Prop :=
  ∃ command, incomingCommand device field.name (serializeValue value) = .ok (some command) ∧
    command.address.toNat = field.address ∧ field.parse (writeUint16BigEndian command.value) = .ok value

namespace Settable

variable {device : BluettiDevice} {field : DeviceField}

theorem incomingCommand_eq (settable : Settable device field) (payload : String) :
    incomingCommand device field.name payload = do
      let encoded ← BluettiDevice.encodedValue field.name field (parseCommandValue (trim payload))
      let command ← WriteSingleRegister.create (.number (.ofInt field.address)) encoded
      return some command := by
  have setter : device.hasFieldSetter field.name = true :=
    List.any_eq_true.mpr ⟨field, List.mem_of_find?_eq_some settable.selected,
      List.find?_some settable.selected⟩
  simp [incomingCommand, setter, BluettiDevice.buildSetterCommand, settable.selected]

/-- A payload that encodes to a register word is accepted. -/
theorem incomingCommand_word (settable : Settable device field) {payload : String} {word : Nat}
    (bound : word ≤ 0xffff)
    (encoded : BluettiDevice.encodedValue field.name field (parseCommandValue (trim payload)) =
      .ok (.number (.ofInt word))) :
    incomingCommand device field.name payload =
      .ok (some { address := BitVec.ofNat 16 field.address, value := BitVec.ofNat 16 word }) := by
  have target := expectUint16_ofNat settable.narrow
  have stored := expectUint16_ofNat bound
  rw [settable.incomingCommand_eq, encoded]
  simp only [WriteSingleRegister.create, bind, Except.bind, target, stored, pure, Except.pure]

/-- Such a payload is echoed when the word it encodes to reads as the value. -/
theorem echoAccepted_of_word (settable : Settable device field) {value : ParsedValue} (word : BitVec 16)
    (encoded : BluettiDevice.encodedValue field.name field (parseCommandValue (trim (serializeValue value))) =
      .ok (.number (.ofInt word.toNat)))
    (reads : field.parse (writeUint16BigEndian word) = .ok value) : EchoAccepted device field value := by
  have bound : word.toNat ≤ 0xffff := by omega
  have narrow := settable.narrow
  refine ⟨_, settable.incomingCommand_word bound encoded, ?_, ?_⟩
  · simp only [BitVec.toNat_ofNat]
    omega
  · simpa only [BitVec.ofNat_toNat, BitVec.setWidth_eq] using reads

theorem echo_uint (settable : Settable device field) {range : Option (ℚ × ℚ)}
    (kind : field.kind = .uint range) (word : BitVec 16) :
    EchoAccepted device field (.number word.toNat) := by
  refine settable.echoAccepted_of_word word ?_ (field.parse_uint word kind)
  rw [serializeValue_word word.isLt, trim_toString, parseCommandValue_toString]
  simp [BluettiDevice.encodedValue, kind]

theorem echo_bool (settable : Settable device field) (kind : field.kind = .bool) (flag : Bool) :
    EchoAccepted device field (.boolean flag) := by
  have on : parseCommandValue (trim BOOLEAN_ON_VALUE) = .boolean true := by decide
  have off : parseCommandValue (trim BOOLEAN_OFF_VALUE) = .boolean false := by decide
  cases flag with
  | true =>
    refine settable.echoAccepted_of_word 1 ?_ (field.parse_bool 1 kind)
    simp [serializeValue, on, BluettiDevice.encodedValue, kind]
  | false =>
    refine settable.echoAccepted_of_word 0 ?_ (field.parse_bool 0 kind)
    simp [serializeValue, off, BluettiDevice.encodedValue, kind]

variable {enumDefinition : EnumDefinition} {name : String} {value : Nat}

/-- An option text writes its register word. -/
theorem option_accepted (settable : Settable device field) (kind : field.kind = .enum enumDefinition)
    (listed : (name, value) ∈ enumDefinition.options) (plain : isBooleanWord name = false) :
    incomingCommand device field.name name =
      .ok (some { address := BitVec.ofNat 16 field.address, value := BitVec.ofNat 16 value }) := by
  have spellable : enumDefinition.isSpellable = true := by
    simpa only [kind] using settable.commandable
  obtain ⟨text, bound⟩ := EnumDefinition.isOptionText_of_mem spellable listed
  refine settable.incomingCommand_word bound ?_
  simp only [isBooleanWord, Bool.or_eq_false_iff, decide_eq_false_iff_not] at plain
  rw [parseCommandValue_optionText text, if_neg plain.1, if_neg plain.2]
  simp only [BluettiDevice.encodedValue, kind, EnumDefinition.property_of_mem listed]

/-- A boolean word is taken for a boolean before the field is known. -/
theorem booleanWord_refused (settable : Settable device field) (kind : field.kind = .enum enumDefinition)
    (word : isBooleanWord name = true) :
    incomingCommand device field.name name =
      .error (.error s!"Field {field.name} expects a known enum option") := by
  have on : parseCommandValue (trim BOOLEAN_ON_VALUE) = .boolean true := by decide
  have off : parseCommandValue (trim BOOLEAN_OFF_VALUE) = .boolean false := by decide
  simp only [isBooleanWord, Bool.or_eq_true, decide_eq_true_eq] at word
  rcases word with rfl | rfl
  · rw [settable.incomingCommand_eq, on]
    simp [BluettiDevice.encodedValue, kind, bind, Except.bind]
  · rw [settable.incomingCommand_eq, off]
    simp [BluettiDevice.encodedValue, kind, bind, Except.bind]

theorem option_accepted_iff (settable : Settable device field) (kind : field.kind = .enum enumDefinition)
    (listed : (name, value) ∈ enumDefinition.options) :
    incomingCommand device field.name name =
        .ok (some { address := BitVec.ofNat 16 field.address, value := BitVec.ofNat 16 value }) ↔
      isBooleanWord name = false := by
  constructor
  · intro accepted
    rw [← Bool.not_eq_true]
    intro word
    rw [settable.booleanWord_refused kind word] at accepted
    cases accepted
  · exact settable.option_accepted kind listed

/-- A known enum reading is echoed unless its text is a boolean word. -/
theorem echo_option_iff (settable : Settable device field) (kind : field.kind = .enum enumDefinition)
    {word : BitVec 16} {reading : ParsedValue} (listed : (name, word.toNat) ∈ enumDefinition.options)
    (reads : field.parse (writeUint16BigEndian word) = .ok reading) :
    EchoAccepted device field reading ↔ isBooleanWord name = false := by
  have spellable : enumDefinition.isSpellable = true := by
    simpa only [kind] using settable.commandable
  have decoded := EnumDefinition.enumValue_of_mem spellable listed
  have same : reading = .enumValue { name := name, value := word.toNat } := by
    rw [field.parse_enum word kind, decoded] at reads
    exact (Except.ok.inj reads).symm
  have published : serializeValue reading = name := by rw [same, serializeValue]
  constructor
  · rintro ⟨command, accepted, _⟩
    rw [← Bool.not_eq_true]
    intro boolean
    rw [published, settable.booleanWord_refused kind boolean] at accepted
    cases accepted
  · intro plain
    have narrow := settable.narrow
    refine ⟨_, published ▸ settable.option_accepted kind listed plain, ?_, ?_⟩
    · simp only [BitVec.toNat_ofNat]
      omega
    · simpa only [BitVec.ofNat_toNat, BitVec.setWidth_eq] using reads

end Settable

/-- The schema facts behind `Settable`, as a test of a definition. -/
def DeviceDefinition.isCommandable (definition : DeviceDefinition) : Bool :=
  (definition.writableFields.map DeviceField.name).Nodup && definition.writableFields.all fun field =>
    field.address ≤ 0xffff && match field.kind with
      | .uint _ => field.name ≠ "led_mode"
      | .bool => field.name ≠ "led_mode"
      | .enum enumDefinition => enumDefinition.isSpellable && enumDefinition.options.all fun option =>
          isBooleanWord option.1 == (field.name = "led_mode" && option.2 = 4)
      | _ => false

theorem definitions_commandable {definition : DeviceDefinition} (supported : definition ∈ BLUETTI_DEFINITIONS) :
    definition.isCommandable = true := by
  have all : BLUETTI_DEFINITIONS.all DeviceDefinition.isCommandable = true := by decide +kernel
  exact List.all_eq_true.mp all definition supported

/-- Whether the field has a reading of its own for a register word. -/
def DeviceField.knows (field : DeviceField) (word : Nat) : Bool :=
  match field.kind with
  | .enum enumDefinition => enumDefinition.options.any fun option => option.2 = word
  | _ => true

namespace BluettiDevice

variable {device : BluettiDevice} {field : DeviceField}

theorem selected_of_writable (supported : device.definition ∈ BLUETTI_DEFINITIONS)
    (writable : field ∈ device.writableFields) :
    device.struct.fields.find? (device.settable field.name) = some field := by
  obtain ⟨distinct, _⟩ := Bool.and_eq_true_iff.mp (definitions_commandable supported)
  have found := Table.find?_of_distinct DeviceField.name (of_decide_eq_true distinct) writable
  rw [DeviceDefinition.writableFields, List.find?_filter] at found
  have test : (fun other => decide (isAddressWritable other.address
      (device.definition.writableRanges.getD []) = true ∧ (decide (other.name = field.name) = true))) =
      device.settable field.name := by
    funext other
    rw [settable, Bool.and_comm, Bool.decide_and, Bool.decide_eq_true, Bool.decide_eq_true, writableRanges]
  rw [← test]
  exact found

theorem settable_of_writable (supported : device.definition ∈ BLUETTI_DEFINITIONS)
    (writable : field ∈ device.writableFields) : Settable device field := by
  obtain ⟨_, checks⟩ := Bool.and_eq_true_iff.mp (definitions_commandable supported)
  obtain ⟨narrow, kind⟩ := Bool.and_eq_true_iff.mp (List.all_eq_true.mp checks field writable)
  refine ⟨selected_of_writable supported writable, of_decide_eq_true narrow, ?_⟩
  cases split : field.kind <;> simp only [split, Bool.and_eq_true, Bool.false_eq_true] at kind ⊢
  exact kind.1

/-- Of the options of writable fields, the boolean words name only `LedMode.OFF`. -/
theorem isBooleanWord_iff (supported : device.definition ∈ BLUETTI_DEFINITIONS)
    (writable : field ∈ device.writableFields) {enumDefinition : EnumDefinition}
    (kind : field.kind = .enum enumDefinition) {name : String} {value : Nat}
    (listed : (name, value) ∈ enumDefinition.options) :
    isBooleanWord name = true ↔ field.name = "led_mode" ∧ value = 4 := by
  obtain ⟨_, checks⟩ := Bool.and_eq_true_iff.mp (definitions_commandable supported)
  obtain ⟨_, words⟩ := Bool.and_eq_true_iff.mp (List.all_eq_true.mp checks field writable)
  rw [kind] at words
  obtain ⟨_, options⟩ := Bool.and_eq_true_iff.mp words
  have word := eq_of_beq (List.all_eq_true.mp options _ listed)
  rw [word, Bool.and_eq_true, decide_eq_true_eq, decide_eq_true_eq]

theorem not_ledMode (supported : device.definition ∈ BLUETTI_DEFINITIONS)
    (writable : field ∈ device.writableFields) (plain : ∀ enumDefinition, field.kind ≠ .enum enumDefinition) :
    field.name ≠ "led_mode" := by
  obtain ⟨_, checks⟩ := Bool.and_eq_true_iff.mp (definitions_commandable supported)
  obtain ⟨_, kind⟩ := Bool.and_eq_true_iff.mp (List.all_eq_true.mp checks field writable)
  cases split : field.kind with
  | enum enumDefinition => exact absurd split (plain enumDefinition)
  | uint => simpa [split] using kind
  | bool => simpa [split] using kind
  | _ => simp [split] at kind

/-- The state and command payloads of a writable field agree, and its option
texts are accepted, except for the option `OFF` of the field `led_mode`. -/
theorem payload_echoed (supported : device.definition ∈ BLUETTI_DEFINITIONS)
    (writable : field ∈ device.writableFields) :
    (∀ (word : BitVec 16) (value : ParsedValue), field.knows word.toNat = true →
      field.parse (writeUint16BigEndian word) = .ok value →
        (EchoAccepted device field value ↔ ¬(field.name = "led_mode" ∧ word = 4))) ∧
    (∀ (enumDefinition : EnumDefinition) (name : String) (value : Nat),
      field.kind = .enum enumDefinition → (name, value) ∈ enumDefinition.options →
        (incomingCommand device field.name name =
            .ok (some { address := BitVec.ofNat 16 field.address, value := BitVec.ofNat 16 value }) ↔
          ¬(field.name = "led_mode" ∧ value = 4))) := by
  have settable := settable_of_writable supported writable
  refine ⟨fun word value known reads => ?_, fun enumDefinition name value kind listed => ?_⟩
  · cases kind : field.kind with
    | uint range =>
      rw [field.parse_uint word kind] at reads
      cases reads
      have other := not_ledMode supported writable (by simp [kind])
      exact iff_of_true (settable.echo_uint kind word) fun led => other led.1
    | bool =>
      rw [field.parse_bool word kind] at reads
      cases reads
      have other := not_ledMode supported writable (by simp [kind])
      exact iff_of_true (settable.echo_bool kind _) fun led => other led.1
    | enum enumDefinition =>
      simp only [DeviceField.knows, kind, List.any_eq_true, decide_eq_true_eq] at known
      obtain ⟨⟨name, number⟩, listed, rfl⟩ := known
      rw [settable.echo_option_iff kind listed reads, ← Bool.not_eq_true,
        isBooleanWord_iff supported writable kind listed]
      have same : word.toNat = 4 ↔ word = 4 := by
        rw [← BitVec.toNat_inj]
        rfl
      rw [same]
    | _ => exact absurd settable.commandable (by simp [kind])
  · rw [settable.option_accepted_iff kind listed, ← Bool.not_eq_true,
      isBooleanWord_iff supported writable kind listed]

/-- An EB3A, the one model with a `led_mode`. -/
def sampleEb3a : BluettiDevice :=
  { address := "24:4C:AB:2C:24:8E", serialNumber := "2237000003358", definition := BLUETTI_DEFINITIONS[4] }

theorem sampleEb3a_ledMode :
    sampleEb3a.definition ∈ BLUETTI_DEFINITIONS ∧ EnumField "led_mode" 3034 LedMode ∈ sampleEb3a.writableFields :=
  ⟨List.getElem_mem _, by decide +kernel⟩

theorem payload_echoed_sos : EchoAccepted sampleEb3a (EnumField "led_mode" 3034 LedMode)
      (.enumValue { name := "SOS", value := 3 }) ∧
    incomingCommand sampleEb3a "led_mode" "SOS" = .ok (some { address := 3034, value := 3 }) := by
  obtain ⟨supported, writable⟩ := sampleEb3a_ledMode
  obtain ⟨echoed, accepted⟩ := payload_echoed supported writable
  exact ⟨(echoed 3 _ (by decide) rfl).mpr (by decide),
    (accepted LedMode "SOS" 3 rfl (by decide)).mpr (by decide)⟩

/-- The reading `OFF` of the LED mode is published as `OFF`, which the command
topic takes for `false` and refuses. -/
theorem led_off_refused : sampleEb3a.definition ∈ BLUETTI_DEFINITIONS ∧
    EnumField "led_mode" 3034 LedMode ∈ sampleEb3a.writableFields ∧ ("OFF", 4) ∈ LedMode.options ∧
    (EnumField "led_mode" 3034 LedMode).parse (writeUint16BigEndian 4) =
      .ok (.enumValue { name := "OFF", value := 4 }) ∧
    incomingCommand sampleEb3a "led_mode" (serializeValue (.enumValue { name := "OFF", value := 4 })) =
      .error (.error "Field led_mode expects a known enum option") := by
  obtain ⟨supported, writable⟩ := sampleEb3a_ledMode
  have settable := settable_of_writable supported writable
  exact ⟨supported, writable, by decide, rfl, settable.booleanWord_refused rfl (by decide)⟩

end BluettiDevice

end BluettiMqtt
