import BluettiMqtt.Broker.MqttBridge
import BluettiMqtt.Devices.Registry
import Mathlib.Data.List.TakeDrop

namespace BluettiMqtt

/-- The advertisement names of supported devices: a model and its serial number,
with nothing between them. -/
def Advertises (name model serialNumber : String) : Prop :=
  model ∈ DEVICE_NAME_MODELS ∧ isDigits serialNumber.toList = true ∧ name = model ++ serialNumber

/-- A field name, of lower-case letters, digits and underscores. -/
def isFieldName (fieldName : String) : Bool :=
  fieldName.toList ≠ [] && fieldName.toList.all fun c => c.isLower || c.isDigit || c = '_'

def commandTopic (device : BluettiDevice) (fieldName : String) : String :=
  "bluetti/command/" ++ deviceKey device ++ "/" ++ fieldName

section Names

variable {name model model' serialNumber serialNumber' : String}

theorem isDigits_iff {text : List Char} : isDigits text = true ↔ text ≠ [] ∧ ∀ c ∈ text, c.isDigit = true := by
  rw [isDigits, Bool.and_eq_true, decide_eq_true_eq, List.all_eq_true]

theorem isFieldName_iff {fieldName : String} : isFieldName fieldName = true ↔
    fieldName.toList ≠ [] ∧ ∀ c ∈ fieldName.toList, (c.isLower || c.isDigit || decide (c = '_')) = true := by
  rw [isFieldName, Bool.and_eq_true, decide_eq_true_eq, List.all_eq_true]

/-- One model followed by digits is never another model: EP500P is not EP500 and
a digit, and AC60 is not the beginning of another name. -/
theorem models_apart : ∀ model ∈ DEVICE_NAME_MODELS, ∀ model' ∈ DEVICE_NAME_MODELS,
    model.toList <+: model'.toList → (model'.toList.drop model.toList.length).all Char.isDigit = true →
    model = model' := by
  decide

theorem model_unique {rest rest' : List Char} (known : model ∈ DEVICE_NAME_MODELS) (known' : model' ∈ DEVICE_NAME_MODELS)
    (digits : ∀ c ∈ rest, c.isDigit = true) (digits' : ∀ c ∈ rest', c.isDigit = true)
    (same : model.toList ++ rest = model'.toList ++ rest') : model = model' := by
  rcases List.append_eq_append_iff.mp same with ⟨between, longer, split⟩ | ⟨between, longer, split⟩
  · refine models_apart model known model' known' ⟨between, longer.symm⟩ (List.all_eq_true.mpr fun c member => ?_)
    rw [longer, List.drop_left] at member
    exact digits c (split ▸ List.mem_append_left _ member)
  · refine (models_apart model' known' model known ⟨between, longer.symm⟩ (List.all_eq_true.mpr fun c member => ?_)).symm
    rw [longer, List.drop_left] at member
    exact digits' c (split ▸ List.mem_append_left _ member)

theorem Advertises.unique (first : Advertises name model serialNumber) (second : Advertises name model' serialNumber') :
    model = model' ∧ serialNumber = serialNumber' := by
  obtain ⟨known, digits, rfl⟩ := first
  obtain ⟨known', digits', same⟩ := second
  have lists := congrArg String.toList same
  simp only [String.toList_append] at lists
  obtain rfl := model_unique known known' (isDigits_iff.mp digits).2 (isDigits_iff.mp digits').2 lists
  exact ⟨rfl, String.toList_inj.mp (List.append_cancel_left lists)⟩

theorem Advertises.of_match (matched : matchDeviceName name = some (model, serialNumber)) :
    Advertises name model serialNumber := by
  obtain ⟨alternative, known, captured⟩ := List.exists_of_findSome?_eq_some matched
  obtain ⟨fits, groups⟩ := Option.ite_none_right_eq_some.mp captured
  cases groups
  obtain ⟨start, digits⟩ := Bool.and_eq_true_iff.mp fits
  refine ⟨known, by rwa [String.toList_ofList], String.toList_inj.mp ?_⟩
  rw [String.toList_append, String.toList_ofList]
  exact (List.prefix_iff_eq_append.mp (List.isPrefixOf_iff_prefix.mp start)).symm

theorem Advertises.match_ (named : Advertises name model serialNumber) :
    matchDeviceName name = some (model, serialNumber) := by
  have found : (matchDeviceName name).isSome = true := by
    obtain ⟨known, digits, rfl⟩ := named
    refine List.findSome?_isSome_iff.mpr ⟨model, known, ?_⟩
    rw [String.toList_append, List.drop_left, digits, List.isPrefixOf_iff_prefix.mpr (List.prefix_append _ _)]
    rfl
  obtain ⟨⟨model', serialNumber'⟩, matched⟩ := Option.isSome_iff_exists.mp found
  obtain ⟨rfl, rfl⟩ := named.unique (Advertises.of_match matched)
  exact matched

theorem definition_of_model : ∀ model ∈ DEVICE_NAME_MODELS, ∃ definition, BLUETTI_DEFINITION_MAP model = some definition := by
  have all : ∀ model ∈ DEVICE_NAME_MODELS, (BLUETTI_DEFINITION_MAP model).isSome = true := by decide +kernel
  exact fun model known => Option.isSome_iff_exists.mp (all model known)

theorem BLUETTI_DEFINITION_MAP_type {definition : DeviceDefinition} (found : BLUETTI_DEFINITION_MAP model = some definition) :
    definition.type = model :=
  of_decide_eq_true (List.find?_some (p := fun definition : DeviceDefinition => decide (definition.type = model)) found)

end Names

section Devices

variable {address name model serialNumber : String} {device : BluettiDevice}

theorem Advertises.create (named : Advertises name model serialNumber) (address : String) :
    ∃ device, createDeviceFromAdvertisement address name = .ok device ∧ device.address = address ∧
      device.type = model ∧ device.serialNumber = serialNumber := by
  obtain ⟨definition, found⟩ := definition_of_model model named.1
  refine ⟨{ address, serialNumber, definition }, ?_, rfl, BLUETTI_DEFINITION_MAP_type found, rfl⟩
  unfold createDeviceFromAdvertisement
  rw [named.match_]
  simp only [found]

theorem Advertises.of_create (created : createDeviceFromAdvertisement address name = .ok device) :
    Advertises name device.type device.serialNumber ∧ device.definition ∈ BLUETTI_DEFINITIONS := by
  unfold createDeviceFromAdvertisement at created
  cases matched : matchDeviceName name with
  | none =>
    rw [matched] at created
    cases created
  | some groups =>
    obtain ⟨model, serialNumber⟩ := groups
    have named := Advertises.of_match matched
    obtain ⟨definition, found⟩ := definition_of_model model named.1
    rw [matched] at created
    simp only [found, Except.ok.injEq] at created
    subst created
    have type : definition.type = model := BLUETTI_DEFINITION_MAP_type found
    rw [← type] at named
    exact ⟨named, List.mem_of_find?_eq_some found⟩

end Devices

section Topics

variable {address name model serialNumber fieldName : String} {device : BluettiDevice}

theorem models_alphanumeric : ∀ model ∈ DEVICE_NAME_MODELS, model.toList ≠ [] ∧ ∀ c ∈ model.toList, c.isAlphanum = true := by
  simp [DEVICE_NAME_MODELS]

/-- A field character of the topic pattern, which ignores case. -/
theorem isFieldCharacter_of_isFieldName {c : Char} (made : isFieldName fieldName = true) (member : c ∈ fieldName.toList) :
    isFieldCharacter c = true := by
  have each := (isFieldName_iff.mp made).2 c member
  change ((c.isUpper || c.isLower || c.isDigit) || decide (c = '_')) = true
  simp only [Bool.or_eq_true] at each ⊢
  tauto

/-- Where a group of letters and a character outside their class stand first, a
greedy group ends there. -/
theorem span_group {P : Char → Bool} {group rest : List Char} {c : Char} (inside : ∀ d ∈ group, P d = true)
    (outside : P c = false) : (group ++ c :: rest).span P = (group, c :: rest) := by
  rw [List.span_eq_takeWhile_dropWhile, List.takeWhile_append_of_pos inside, List.dropWhile_append_of_pos inside,
    List.takeWhile_cons, List.dropWhile_cons, outside]
  simp

theorem COMMAND_TOPIC_START_lower : COMMAND_TOPIC_START.map Char.toLower = COMMAND_TOPIC_START := by
  decide

theorem COMMAND_TOPIC_of_groups (letters : model.toList ≠ []) (alphanumeric : ∀ c ∈ model.toList, c.isAlphanum = true)
    (digits : isDigits serialNumber.toList = true) (made : isFieldName fieldName = true) :
    COMMAND_TOPIC ("bluetti/command/" ++ (model ++ "-" ++ serialNumber) ++ "/" ++ fieldName) =
      some (model, serialNumber, fieldName) := by
  have whole : ("bluetti/command/" ++ (model ++ "-" ++ serialNumber) ++ "/" ++ fieldName).toList =
      COMMAND_TOPIC_START ++ (model.toList ++ '-' :: (serialNumber.toList ++ '/' :: fieldName.toList)) := by
    have start : "bluetti/command/".toList = COMMAND_TOPIC_START := rfl
    simp [String.toList_append, start]
  obtain ⟨numbered, digit⟩ := isDigits_iff.mp digits
  have named := (isFieldName_iff.mp made).1
  have fields : fieldName.toList.all isFieldCharacter = true :=
    List.all_eq_true.mpr fun c member => isFieldCharacter_of_isFieldName made member
  unfold COMMAND_TOPIC
  simp only [whole, List.take_left, List.drop_left, span_group alphanumeric (show Char.isAlphanum '-' = false from rfl),
    List.drop_succ_cons, List.drop_zero, span_group digit (show Char.isDigit '/' = false from rfl),
    List.head?_cons, String.ofList_toList]
  exact if_pos ⟨COMMAND_TOPIC_START_lower, letters, trivial, numbered, trivial, named, fields⟩

/-- A device key is read back as its type and its serial number. -/
theorem deviceKey_inj {device' : BluettiDevice} (alphanumeric : ∀ c ∈ device.type.toList, c.isAlphanum = true)
    (alphanumeric' : ∀ c ∈ device'.type.toList, c.isAlphanum = true) (same : deviceKey device = deviceKey device') :
    device.type = device'.type ∧ device.serialNumber = device'.serialNumber := by
  have key (device : BluettiDevice) :
      (deviceKey device).toList = device.type.toList ++ '-' :: device.serialNumber.toList := by
    simp [deviceKey, String.toList_append]
  have spans := congrArg (List.span Char.isAlphanum) (congrArg String.toList same)
  rw [key, key, span_group alphanumeric rfl, span_group alphanumeric' rfl] at spans
  simp only [Prod.mk.injEq, List.cons.injEq, true_and, String.toList_inj] at spans
  exact spans

theorem Advertises.topic (named : Advertises name device.type device.serialNumber) (made : isFieldName fieldName = true) :
    COMMAND_TOPIC (commandTopic device fieldName) = some (device.type, device.serialNumber, fieldName) := by
  obtain ⟨letters, alphanumeric⟩ := models_alphanumeric _ named.1
  exact COMMAND_TOPIC_of_groups letters alphanumeric named.2.1 made

/-- Every field of every supported device has a name that can stand in a topic. -/
theorem fields_named : ∀ definition ∈ BLUETTI_DEFINITIONS, ∀ field ∈ definition.buildStruct.fields,
    isFieldName field.name = true := by
  decide +kernel

end Topics

/-- A supported name stands for one model and one serial number, every other
name is rejected, and both the device key and the command topics of the device
are read back as exactly that model and that serial number. -/
theorem device_identity :
    (∀ address name model serialNumber, Advertises name model serialNumber →
      isSupportedBluettiName name = true ∧
      (∃ device, createDeviceFromAdvertisement address name = .ok device ∧ device.address = address ∧
        device.type = model ∧ device.serialNumber = serialNumber) ∧
      ∀ model' serialNumber', Advertises name model' serialNumber' → model' = model ∧ serialNumber' = serialNumber) ∧
    (∀ address name, (¬∃ model serialNumber, Advertises name model serialNumber) →
      isSupportedBluettiName name = false ∧
        createDeviceFromAdvertisement address name = .error (.error s!"Unsupported Bluetti device name: {name}")) ∧
    ∀ address name device, createDeviceFromAdvertisement address name = .ok device →
      (∀ field ∈ device.definition.buildStruct.fields, isFieldName field.name = true) ∧
      (∀ fieldName, isFieldName fieldName = true →
        COMMAND_TOPIC (commandTopic device fieldName) = some (device.type, device.serialNumber, fieldName) ∧
          device.type ++ "-" ++ device.serialNumber = deviceKey device) ∧
      ∀ address' name' device', createDeviceFromAdvertisement address' name' = .ok device' →
        (name ≠ name' → deviceKey device ≠ deviceKey device') ∧
        ∀ fieldName fieldName', isFieldName fieldName = true → isFieldName fieldName' = true →
          commandTopic device fieldName = commandTopic device' fieldName' →
            deviceKey device = deviceKey device' ∧ name = name' ∧ fieldName = fieldName' := by
  refine ⟨fun address name model serialNumber named => ?_, fun address name unsupported => ?_,
    fun address name device created => ?_⟩
  · refine ⟨?_, named.create address, fun model' serialNumber' other => other.unique named⟩
    rw [isSupportedBluettiName, named.match_, Option.isSome_some]
  · have unmatched : matchDeviceName name = none := by
      cases matched : matchDeviceName name with
      | none => rfl
      | some groups => exact absurd ⟨groups.1, groups.2, Advertises.of_match matched⟩ unsupported
    rw [isSupportedBluettiName, createDeviceFromAdvertisement, unmatched]
    exact ⟨rfl, rfl⟩
  · obtain ⟨named, known⟩ := Advertises.of_create created
    refine ⟨fields_named _ known, fun fieldName made => ⟨named.topic made, rfl⟩, fun address' name' device' created' => ?_⟩
    have named' := (Advertises.of_create created').1
    have names (types : device.type = device'.type) (serials : device.serialNumber = device'.serialNumber) : name = name' := by
      rw [named.2.2, named'.2.2, types, serials]
    refine ⟨fun apart same => apart ?_, fun fieldName fieldName' made made' same => ?_⟩
    · obtain ⟨types, serials⟩ := deviceKey_inj (models_alphanumeric _ named.1).2 (models_alphanumeric _ named'.1).2 same
      exact names types serials
    · have groups := named.topic made
      rw [same, named'.topic made'] at groups
      simp only [Option.some.injEq, Prod.mk.injEq] at groups
      obtain ⟨types, serials, rfl⟩ := groups
      exact ⟨by rw [deviceKey, deviceKey, types, serials], names types.symm serials.symm, rfl⟩

/-- Two models one of which begins with the other, and a topic of the second. -/
theorem device_identity_stations :
    isSupportedBluettiName "EP500P0012" = true ∧
      ∃ device, createDeviceFromAdvertisement "24:4C:AB:2C:24:8E" "EP5000012" = .ok device ∧
        COMMAND_TOPIC (commandTopic device "ac_output_on") = some (device.type, device.serialNumber, "ac_output_on") := by
  obtain ⟨supported, -, topics⟩ := device_identity
  obtain ⟨device, created, -⟩ := (supported "24:4C:AB:2C:24:8E" "EP5000012" "EP500" "0012" (by
    refine ⟨?_, ?_, ?_⟩ <;> decide)).2.1
  refine ⟨(supported "" "EP500P0012" "EP500P" "0012" (by refine ⟨?_, ?_, ?_⟩ <;> decide)).1, device, created, ?_⟩
  exact ((topics _ _ _ created).2.1 "ac_output_on" (by decide)).1

end BluettiMqtt
