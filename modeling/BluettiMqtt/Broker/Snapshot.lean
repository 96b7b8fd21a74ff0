import BluettiMqtt.Broker.PayloadUtils

namespace BluettiMqtt
open JsonText

/-- `normalizeValue` of the broker. -/
def normalizeValue : ParsedValue → JsonText.Json
  | .bigint value => .string (toString value)
  | .numbers values => .array (values.map fun value => (Number.nearest value).toJson)
  | .enumValue value => .string value.name
  | .boolean value => .boolean value
  | .number value => (Number.nearest value).toJson
  | .string value => .string value

/-- The properties of the normalized object. -/
def normalizeRecord (record : ParsedFieldMap) : List (String × JsonText.Json) :=
  (objectEntries record.entries).map fun (key, value) => (key, normalizeValue value)

def RAW_SNAPSHOT_SUFFIX : String := "_raw"

/-- The payload of the snapshot topic. -/
def rawSnapshot (parsed : ParsedFieldMap) : String :=
  stringify (.object (normalizeRecord parsed))

/-- What a subscriber can tell from a property of the snapshot about the payload of
the field's own topic. -/
def statePayload : JsonText.Json → String
  | .boolean value => if value then BOOLEAN_ON_VALUE else BOOLEAN_OFF_VALUE
  | .number value => String.ofList value.text
  | .string value => value
  | other => stringify other

/-- Whether the numbers of a value are finite. -/
def ParsedValue.isFinite : ParsedValue → Bool
  | .number value => (Number.nearest value).isFinite
  | .numbers values => values.all fun value => (Number.nearest value).isFinite
  | _ => true

section Decoders

theorem except_bind_ok {α β : Type} {first : Except Failure α} {next : α → Except Failure β} {result : β}
    (run : first >>= next = .ok result) : ∃ value, first = .ok value ∧ next value = .ok result := by
  cases first with
  | error failure => cases run
  | ok value => exact ⟨value, rfl, run⟩

theorem mem_of_mapM {α β : Type} {f : α → Except Failure β} {items : List α} {results : List β}
    (run : items.mapM f = .ok results) : ∀ result ∈ results, ∃ item, f item = .ok result := by
  induction items generalizing results with
  | nil =>
    cases run
    exact fun _ member => absurd member List.not_mem_nil
  | cons item rest ih =>
    rw [List.mapM_cons] at run
    obtain ⟨first, here, run⟩ := except_bind_ok run
    obtain ⟨others, later, run⟩ := except_bind_ok run
    cases run
    intro result member
    rcases List.mem_cons.mp member with rfl | member
    · exact ⟨item, here⟩
    · exact ih later result member

theorem readUint16BigEndian_lt {data : List Byte} {offset word : Nat} (read : readUint16BigEndian data offset = .ok word) :
    word < 2 ^ 16 := by
  unfold readUint16BigEndian at read
  split at read
  · cases read
    exact BitVec.isLt _
  · cases read

/-- A quotient of register words is finite. -/
theorem isFinite_quotient {words divisor : Nat} (bound : words < 2 ^ 32) (positive : 1 ≤ divisor) :
    (Number.nearest ((words : ℚ) / divisor)).isFinite = true := by
  have small : |(words : ℚ) / divisor| < 2 ^ 1023 := by
    have divisor_ : (1 : ℚ) ≤ divisor := by exact_mod_cast positive
    have words_ : (words : ℚ) < 2 ^ 32 := by exact_mod_cast bound
    rw [abs_of_nonneg (by positivity)]
    calc (words : ℚ) / divisor ≤ words := div_le_self words.cast_nonneg divisor_
      _ < 2 ^ 32 := words_
      _ ≤ 2 ^ 1023 := pow_le_pow_right₀ one_le_two (by decide)
  obtain ⟨number, read⟩ := Number.nearest_finite small
  rw [read]
  rfl

theorem isFinite_scaled {data : List Byte} {offset word : Nat} (read : readUint16BigEndian data offset = .ok word)
    (scale : Nat) : (Number.nearest ((word : ℚ) / 10 ^ scale)).isFinite = true := by
  have quotient := isFinite_quotient ((readUint16BigEndian_lt read).trans (by decide)) (Nat.one_le_pow scale 10 (by decide))
  rwa [Nat.cast_pow] at quotient

/-- Every decoder gives finite numbers. -/
theorem DeviceField.parse_isFinite {field : DeviceField} {data : List Byte} {value : ParsedValue}
    (run : field.parse data = .ok value) : value.isFinite = true := by
  unfold parse at run
  cases kind : field.kind with
  | uint range =>
    rw [kind] at run
    obtain ⟨word, read, run⟩ := except_bind_ok run
    cases run
    simpa [ParsedValue.isFinite] using isFinite_scaled read 0
  | bool =>
    rw [kind] at run
    obtain ⟨word, _, run⟩ := except_bind_ok run
    cases run
    rfl
  | enum enumDefinition =>
    rw [kind] at run
    obtain ⟨word, _, run⟩ := except_bind_ok run
    cases run
    rfl
  | decimal scale range =>
    rw [kind] at run
    obtain ⟨word, read, run⟩ := except_bind_ok run
    cases run
    exact isFinite_scaled read scale
  | decimalArray scale =>
    rw [kind] at run
    obtain ⟨words, read, run⟩ := except_bind_ok run
    cases run
    simp only [ParsedValue.isFinite, List.all_map, List.all_eq_true]
    intro word member
    obtain ⟨index, here⟩ := mem_of_mapM read word member
    exact isFinite_scaled here scale
  | string =>
    rw [kind] at run
    cases run
    rfl
  | swapString =>
    rw [kind] at run
    cases run
    rfl
  | version =>
    rw [kind] at run
    obtain ⟨low, readLow, run⟩ := except_bind_ok run
    obtain ⟨high, readHigh, run⟩ := except_bind_ok run
    cases run
    have bound := readUint16BigEndian_lt readLow
    have bound' := readUint16BigEndian_lt readHigh
    refine isFinite_quotient ?_ (by decide)
    unfold VERSION_WORD_SHIFT
    omega
  | serialNumber =>
    rw [kind] at run
    obtain ⟨_, _, run⟩ := except_bind_ok run
    obtain ⟨_, _, run⟩ := except_bind_ok run
    obtain ⟨_, _, run⟩ := except_bind_ok run
    obtain ⟨_, _, run⟩ := except_bind_ok run
    cases run
    rfl

/-- The numbers of all properties are finite. -/
def ParsedFieldMap.isFinite (parsed : ParsedFieldMap) : Prop :=
  ∀ name value, (name, value) ∈ parsed.entries → value.isFinite = true

theorem ParsedFieldMap.isFinite_assign {parsed : ParsedFieldMap} (finite : parsed.isFinite) {name : String}
    {value : ParsedValue} (assigned : value.isFinite = true) : (parsed.assign name value).isFinite := by
  intro other found listed
  unfold assign at listed
  split at listed
  · exact finite other found listed
  · have entry := OrderedMap.get?_eq_some.mpr listed
    rw [OrderedMap.get?_set] at entry
    rcases Table.insert_eq_some.mp entry with ⟨_, same⟩ | ⟨_, old⟩
    · exact same ▸ assigned
    · exact finite other found (OrderedMap.get?_eq_some.mp old)

theorem DeviceStruct.parseField_isFinite {startingAddress : Nat} {data : List Byte} {parsed next : ParsedFieldMap}
    {field : DeviceField} (finite : parsed.isFinite) (run : parseField startingAddress data parsed field = .ok next) :
    next.isFinite := by
  unfold parseField at run
  dsimp only at run
  split at run
  · cases run
    exact finite
  · obtain ⟨value, read, run⟩ := except_bind_ok run
    cases run
    split
    · exact ParsedFieldMap.isFinite_assign finite (DeviceField.parse_isFinite read)
    · exact finite

/-- What a struct reads has finite numbers only. -/
theorem DeviceStruct.parse_isFinite {struct : DeviceStruct} {startingAddress : Nat} {data : List Byte}
    {parsed : ParsedFieldMap} (run : struct.parse startingAddress data = .ok parsed) : parsed.isFinite := by
  have fold (fields : List DeviceField) : ∀ before : ParsedFieldMap, before.isFinite →
      fields.foldlM (parseField startingAddress data) before = .ok parsed → parsed.isFinite := by
    induction fields with
    | nil =>
      rintro before finite ⟨⟩
      exact finite
    | cons field rest ih =>
      intro before finite run
      obtain ⟨next, here, run⟩ := except_bind_ok run
      exact ih next (parseField_isFinite finite here) run
  unfold parse at run
  split at run
  · cases run
  · exact fold struct.fields OrderedMap.empty (fun _ _ listed => absurd listed List.not_mem_nil) run

end Decoders

/-- What a property of the snapshot says about a reading. A number is read back as
the binary64 number that the decoder gave. -/
def Tells : ParsedValue → JsonText.Json → Prop
  | .boolean value, .boolean told => told = value
  | .number value, .number text => Number.nearest text.value = Number.nearest value
  | .string value, .string told => told = value
  | .bigint value, .string told => told = toString value
  | .numbers values, .array items => List.Forall₂
      (fun value item => ∃ text, item = .number text ∧ Number.nearest text.value = Number.nearest value) values items
  | .enumValue value, .string told => told = value.name
  | _, _ => False

theorem toJson_tells {value : ℚ} (finite : (Number.nearest value).isFinite = true) :
    ∃ text, (Number.nearest value).toJson = .number text ∧ Number.nearest text.value = Number.nearest value := by
  cases read : Number.nearest value with
  | finite number => exact ⟨_, rfl, nearest_finiteNumeral (Number.nearest_nearest read)⟩
  | infinite => rw [read] at finite; cases finite
  | notANumber => rw [read] at finite; cases finite

theorem tells_normalizeValue {value : ParsedValue} (finite : value.isFinite = true) : Tells value (normalizeValue value) := by
  cases value with
  | number value =>
    obtain ⟨text, written, back⟩ := toJson_tells finite
    simp only [normalizeValue, written]
    exact back
  | numbers values =>
    simp only [normalizeValue, Tells, List.forall₂_map_right_iff, List.forall₂_same]
    exact fun value member => toJson_tells (List.all_eq_true.mp finite value member)
  | _ => rfl

/-- The snapshot says the same as the topics of the fields. -/
theorem statePayload_normalizeValue {value : ParsedValue} (finite : value.isFinite = true) :
    statePayload (normalizeValue value) = serializeValue value := by
  cases value with
  | number value =>
    simp only [ParsedValue.isFinite] at finite
    cases read : Number.nearest value with
    | finite number => simp only [normalizeValue, read, Number.toJson, statePayload, serializeValue, Number.text, finiteNumeral]
    | infinite => rw [read] at finite; cases finite
    | notANumber => rw [read] at finite; cases finite
  | _ => rfl

end BluettiMqtt
