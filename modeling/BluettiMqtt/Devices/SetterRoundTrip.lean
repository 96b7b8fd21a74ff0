import BluettiMqtt.Core.RequestFrames
import BluettiMqtt.Devices.Definition
import BluettiMqtt.Devices.WindowDecoding

namespace BluettiMqtt

/-- The sizes that the constructors of the field classes set. -/
def DeviceField.isBuilt (field : DeviceField) : Bool :=
  match field.kind with
  | .uint _ => field.size = 1
  | .bool => field.size = 1
  | .enum _ => field.size = 1
  | .decimal _ _ => field.size = 1
  | .version => field.size = 2
  | .serialNumber => field.size = 4
  | .decimalArray _ => true
  | .string => true
  | .swapString => true

theorem DeviceField.built_of_isBuilt {field : DeviceField} (sized : field.isBuilt = true) : field.Built := by
  obtain ⟨name, address, size, kind⟩ := field
  cases kind with
  | uint range =>
    obtain rfl : size = 1 := of_decide_eq_true sized
    exact .uint name address range
  | bool =>
    obtain rfl : size = 1 := of_decide_eq_true sized
    exact .bool name address
  | enum enumDefinition =>
    obtain rfl : size = 1 := of_decide_eq_true sized
    exact .enum name address enumDefinition
  | decimal scale range =>
    obtain rfl : size = 1 := of_decide_eq_true sized
    exact .decimal name address scale range
  | decimalArray scale => exact .decimalArray name address size scale
  | string => exact .string name address size
  | swapString => exact .swapString name address size
  | version =>
    obtain rfl : size = 2 := of_decide_eq_true sized
    exact .version name address
  | serialNumber =>
    obtain rfl : size = 4 := of_decide_eq_true sized
    exact .serialNumber name address

/-- What the schemas promise about a field that can be set: its address fits a
request, it is declared last among the fields of its name, and each of its words
is in range and tells what was set. -/
def DeviceDefinition.isReadable (definition : DeviceDefinition) : Bool :=
  definition.buildStruct.fields.all DeviceField.isBuilt && definition.writableFields.all fun field =>
    field.address ≤ 0xffff && field.name ≠ "__proto__" &&
      definition.buildStruct.fields.reverse.find? (fun other => other.name = field.name) = some field &&
      match field.kind with
      | .uint none => true
      | .bool => true
      | .enum enumDefinition => (enumDefinition.options.map Prod.snd).Nodup
      | _ => false

theorem definitions_readable {definition : DeviceDefinition} (supported : definition ∈ BLUETTI_DEFINITIONS) :
    definition.isReadable = true := by
  have all : BLUETTI_DEFINITIONS.all DeviceDefinition.isReadable = true := by decide +kernel
  exact List.all_eq_true.mp all definition supported

theorem DeviceStruct.built_of_fields {struct : DeviceStruct} (built : ∀ field ∈ struct.fields, field.Built) :
    struct.Built :=
  .addMany .new built

/-- The value that was set is the value that is reported: itself for booleans and
integers, the option for its name, and an enum value with the word for a word. -/
inductive ReadsBack : FieldKind → CommandValue → ParsedValue → Prop
  | boolean (flag : Bool) : ReadsBack .bool (.boolean flag) (.boolean flag)
  | integer (range : Option (ℚ × ℚ)) (integer : Nat) (word : integer < 2 ^ 16) :
      ReadsBack (.uint range) (.number (.ofInt integer)) (.number integer)
  | option {enumDefinition : EnumDefinition} {name : String} {value : Nat}
      (listed : (name, value) ∈ enumDefinition.options) :
      ReadsBack (.enum enumDefinition) (.string name) (.enumValue { name := name, value := value })
  | rawNumber (enumDefinition : EnumDefinition) (name : String) (value : Nat) :
      ReadsBack (.enum enumDefinition) (.number (.ofInt value)) (.enumValue { name := name, value := value })

namespace BluettiDevice

variable {device : BluettiDevice} {field : DeviceField} {name : String} {value : CommandValue}

/-- What the schema promises about one field. -/
structure Readable (device : BluettiDevice) (field : DeviceField) : Prop where
  narrow : field.address ≤ 0xffff
  plain : field.name ≠ "__proto__"
  last : device.struct.fields.reverse.find? (fun other => other.name = field.name) = some field
  single : field.size = 1
  telling : match field.kind with
    | .uint none => True
    | .bool => True
    | .enum enumDefinition => (enumDefinition.options.map Prod.snd).Nodup
    | _ => False

theorem built_of_supported (supported : device.definition ∈ BLUETTI_DEFINITIONS) :
    ∀ field ∈ device.struct.fields, field.Built := by
  obtain ⟨sized, _⟩ := Bool.and_eq_true_iff.mp (definitions_readable supported)
  exact fun field member => DeviceField.built_of_isBuilt (List.all_eq_true.mp sized field member)

theorem readable_of_writable (supported : device.definition ∈ BLUETTI_DEFINITIONS)
    (writable : field ∈ device.writableFields) : Readable device field := by
  obtain ⟨_, checks⟩ := Bool.and_eq_true_iff.mp (definitions_readable supported)
  have check := List.all_eq_true.mp checks field writable
  simp only [Bool.and_eq_true, decide_eq_true_eq] at check
  obtain ⟨⟨⟨narrow, plain⟩, last⟩, telling⟩ := check
  have sized := List.all_eq_true.mp (Bool.and_eq_true_iff.mp (definitions_readable supported)).1 field
    (List.mem_filter.mp writable).1
  refine ⟨narrow, by simpa using plain, last, ?_, ?_⟩
  all_goals cases kind : field.kind with
    | uint range => cases range <;> simp_all [DeviceField.isBuilt]
    | _ => simp_all [DeviceField.isBuilt]

/-- Only a listed option stands for a number. -/
theorem property_eq_number {enumDefinition : EnumDefinition} {text : String} {number : Nat}
    (found : enumDefinition.property text = some (.number (.ofInt number))) :
    (text, number) ∈ enumDefinition.options := by
  unfold EnumDefinition.property at found
  split at found
  · next option value listed =>
    have named : option = text := by simpa using List.find?_some listed
    have same : value = number := by
      simpa [Number.ofInt] using found
    rw [← named, ← same]
    exact List.mem_of_find?_eq_some listed
  · split at found
    · cases found
    · cases found

/-- The word that is written for a value reads back as the value. -/
theorem encodedValue_readsBack {image : RegisterImage} {operand : Operand} (readable : Readable device field)
    (encoded : encodedValue name field value = .ok operand)
    (word : operand = .number (.ofInt (image field.address).toNat)) : ReadsBack field.kind value (field.reading image) := by
  subst word
  have telling := readable.telling
  unfold encodedValue at encoded
  unfold DeviceField.reading
  cases kind : field.kind with
  | uint range =>
    simp only [kind] at encoded ⊢
    split at encoded
    · next number =>
      split at encoded
      · cases encoded
        exact .integer range _ (BitVec.isLt _)
      · cases encoded
    · cases encoded
  | bool =>
    simp only [kind] at encoded ⊢
    split at encoded
    · next flag =>
      have bit : (image (field.address + 0)).toNat = if flag then 1 else 0 := by
        cases flag <;> simpa [Number.ofInt, eq_comm] using encoded
      cases flag <;> simp only [bit] <;> exact .boolean _
    · cases encoded
  | enum enumDefinition =>
    simp only [kind] at encoded ⊢
    split at encoded
    · next number =>
      cases encoded
      rw [Nat.add_zero]
      have same := enumValue_value enumDefinition (image field.address).toNat
      cases decoded : enumValue enumDefinition (image field.address).toNat with
      | mk option word =>
        rw [decoded] at same
        rw [← same]
        exact .rawNumber enumDefinition option word
    · next text =>
      split at encoded
      · next found same =>
        cases encoded
        simp only [kind] at telling
        have listed := property_eq_number same
        rw [Nat.add_zero, enumValue_of_distinct telling listed]
        exact .option listed
      · cases encoded
    · cases encoded
  | _ => simp [kind] at telling

theorem find?_and {α : Type} {first second : α → Bool} {items : List α} {item : α}
    (found : items.find? first = some item) (holds : second item = true) :
    items.find? (fun other => first other && second other) = some item := by
  obtain ⟨here, before, after, rfl, misses⟩ := List.find?_eq_some_iff_append.mp found
  refine List.find?_eq_some_iff_append.mpr ⟨by rw [here, holds]; rfl, before, after, rfl, fun other member => ?_⟩
  have miss := misses other member
  cases decided : first other <;> simp_all

/-- A covered field that can be set is the one that its name reports. -/
theorem lastReading_of_readable {image : RegisterImage} {start count : Nat} (readable : Readable device field)
    (lower : start ≤ field.address) (upper : field.address < start + count) :
    device.struct.lastReading image start count field.name = some (field.reading image) := by
  have covered : field.within start count = true := by
    have single := readable.single
    simp only [DeviceField.within, Bool.and_eq_true, decide_eq_true_eq]
    omega
  have inRange : field.isInRange (field.reading image) = true := by
    have telling := readable.telling
    unfold DeviceField.isInRange
    split
    · next kind _ => simp [kind] at telling
    · next kind _ => simp [kind] at telling
    · rfl
  have reports : DeviceStruct.reported image start count field = true := by
    rw [DeviceStruct.reported, covered, inRange]
    rfl
  rw [DeviceStruct.lastReading, find?_and readable.last reports]
  rfl

/-- Setters and decoders agree: a window of any size that covers the register of an
accepted setting reports the value that was set. -/
theorem setter_read_back (supported : device.definition ∈ BLUETTI_DEFINITIONS) {command : WriteSingleRegister}
    (accepted : device.buildSetterCommand name value = .ok command) {image : RegisterImage} {start count : Nat}
    (lower : start ≤ command.address.toNat) (upper : command.address.toNat < start + count)
    (holds : image command.address.toNat = command.value) :
    ∃ parsed field reported, device.parse start (imageBytes image start count) = .ok parsed ∧
      device.struct.fields.find? (device.settable name) = some field ∧ parsed.get? name = some reported ∧
      ReadsBack field.kind value reported := by
  unfold buildSetterCommand at accepted
  cases found : device.struct.fields.find? (device.settable name) with
  | none => simp [found] at accepted
  | some field =>
    simp only [found] at accepted
    cases encoded : encodedValue name field value with
    | error => simp [encoded, bind, Except.bind] at accepted
    | ok operand =>
      rw [encoded] at accepted
      obtain ⟨address, word⟩ := WriteSingleRegister.create_eq_ok.mp accepted
      have named := List.find?_some found
      simp only [BluettiDevice.settable, Bool.and_eq_true, decide_eq_true_eq] at named
      have writable : field ∈ device.writableFields :=
        List.mem_filter.mpr ⟨List.mem_of_find?_eq_some found, named.2⟩
      have readable := readable_of_writable supported writable
      have place : command.address.toNat = field.address := by
        have same := Operand.number.inj address
        simpa [Number.ofInt, eq_comm] using same
      obtain ⟨parsed, run, entries⟩ :=
        DeviceStruct.parse_imageBytes (DeviceStruct.built_of_fields (built_of_supported supported)) image start count
      rw [place] at lower upper holds
      refine ⟨parsed, field, field.reading image, run, rfl, ?_, ?_⟩
      · rw [entries, ← named.1, if_neg readable.plain]
        exact lastReading_of_readable readable lower upper
      · exact encodedValue_readsBack readable encoded (by rw [word, holds])

/-- An AC200M whose sleep mode is set by name, read back in its control window. -/
theorem setter_read_back_sleep :
    let device : BluettiDevice :=
      { address := "24:4C:AB:2C:24:8E", serialNumber := "2237000003358", definition := BLUETTI_DEFINITIONS[0] }
    let image : RegisterImage := fun address => if address = 3061 then 5 else 0
    ∃ parsed field reported, device.parse 3001 (imageBytes image 3001 61) = .ok parsed ∧
      device.struct.fields.find? (device.settable "auto_sleep_mode") = some field ∧
      parsed.get? "auto_sleep_mode" = some reported ∧ ReadsBack field.kind (.string "NEVER") reported := by
  intro device image
  have accepted : device.buildSetterCommand "auto_sleep_mode" (.string "NEVER") = .ok ⟨3061, 5⟩ := by decide +kernel
  exact setter_read_back (List.getElem_mem _) accepted (by decide) (by decide) rfl

end BluettiDevice

end BluettiMqtt
