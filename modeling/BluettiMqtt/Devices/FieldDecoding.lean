import BluettiMqtt.Devices.WindowDecoding
import Mathlib.Algebra.Order.Ring.Rat
import Mathlib.Tactic.NormNum
import Mathlib.Tactic.Positivity

namespace BluettiMqtt

/-- The bytes of some registers as they are sent. -/
def wordBytes (words : List (BitVec 16)) : List Byte :=
  words.flatMap writeUint16BigEndian

/-- Registers that hold the given words from an address on. -/
def registersFrom (start : Nat) (words : List (BitVec 16)) : RegisterImage :=
  fun address => words.getD (address - start) 0#16

/-- A text in the bytes of `size` registers, with zero bytes after it. -/
def textBytes (size : Nat) (text : String) : List Byte :=
  text.toList.map (fun c => BitVec.ofNat 8 c.toNat) ++ List.replicate (2 * size - text.toList.length) 0#8

/-- The other byte of the register that byte `i` belongs to. -/
def partner (i : Nat) : Nat :=
  if i % 2 = 0 then i + 1 else i - 1

/-- Bytes of which those of every register have changed places. -/
def pairSwapped (data : List Byte) : List Byte :=
  (List.range data.length).map fun i => data.getD (partner i) 0#8

/-- What a text field can tell of its bytes: the low seven bits of those before
the first zero byte. -/
def textBits (data : List Byte) : List Byte :=
  (data.takeWhile fun byte => byte ≠ 0).map fun byte => byte &&& 0x7f#8

def FieldKind.isText : FieldKind → Bool
  | .string => true
  | .swapString => true
  | _ => false

section Words

variable {words others : List (BitVec 16)} {data : List Byte} {start size : Nat}

theorem registersFrom_add (start index : Nat) (words : List (BitVec 16)) :
    registersFrom start words (start + index) = words.getD index 0#16 := by
  rw [registersFrom, Nat.add_sub_cancel_left]

/-- The bytes of some words are those of the registers that hold them. -/
theorem wordBytes_eq_imageBytes (start : Nat) (words : List (BitVec 16)) :
    wordBytes words = imageBytes (registersFrom start words) start words.length := by
  have cells : (List.range words.length).map (fun index => words.getD index 0#16) = words := by
    refine List.ext_getElem (by simp) fun index _ bound => ?_
    simp [bound]
  simp only [imageBytes, registersFrom_add]
  calc wordBytes words
      = ((List.range words.length).map fun index => words.getD index 0#16).flatMap writeUint16BigEndian := by
        rw [cells, wordBytes]
    _ = _ := by rw [List.flatMap_map]

/-- Bytes in even number are those of some words. -/
theorem exists_wordBytes (length : data.length = 2 * size) :
    ∃ words, words.length = size ∧ data = wordBytes words := by
  induction size generalizing data with
  | zero => exact ⟨[], rfl, List.length_eq_zero_iff.mp length⟩
  | succ size ih =>
    match data, length with
    | high :: low :: rest, length =>
      have shorter : rest.length = 2 * size := by
        simp only [List.length_cons] at length
        omega
      obtain ⟨words, same, rfl⟩ := ih shorter
      let word : BitVec 16 := high.setWidth 16 <<< 8 ||| low.setWidth 16
      have first : writeUint16BigEndian word = [high, low] := by
        have upper : (word >>> 8).setWidth 8 = high := by
          refine BitVec.eq_of_getLsbD_eq fun i bound => ?_
          have inside : 8 + i < 16 := by omega
          simp [word, bound, inside]
        have lower : word.setWidth 8 = low := by
          refine BitVec.eq_of_getLsbD_eq fun i bound => ?_
          simp [word, bound]
        rw [writeUint16BigEndian, upper, lower]
      refine ⟨word :: words, by rw [List.length_cons, same], ?_⟩
      change _ = writeUint16BigEndian word ++ wordBytes words
      rw [first]
      rfl

theorem DeviceField.parse_wordBytes {field : DeviceField} (built : field.Built) (length : words.length = field.size) :
    field.parse (wordBytes words) = .ok (field.reading (registersFrom field.address words)) := by
  rw [wordBytes_eq_imageBytes field.address, length]
  exact DeviceField.parse_imageBytes built _

end Words

section Kinds

variable {words others : List (BitVec 16)} {data other : List Byte} (name : String) (address size scale : Nat)
  (range : Option (ℚ × ℚ)) (w w0 w1 w2 w3 : BitVec 16)

theorem UintField_parse : (UintField name address range).parse (wordBytes [w]) = .ok (.number w.toNat) := by
  rw [DeviceField.parse_wordBytes (.uint _ _ _) rfl]
  simp [DeviceField.reading, UintField, registersFrom]

theorem BoolField_parse : (BoolField name address).parse (wordBytes [w]) = .ok (.boolean (w.toNat == 1)) := by
  rw [DeviceField.parse_wordBytes (.bool _ _) rfl]
  simp [DeviceField.reading, BoolField, registersFrom]

theorem EnumField_parse (enumDefinition : EnumDefinition) :
    (EnumField name address enumDefinition).parse (wordBytes [w]) = .ok (.enumValue (enumValue enumDefinition w.toNat)) := by
  rw [DeviceField.parse_wordBytes (.enum _ _ _) rfl]
  simp [DeviceField.reading, EnumField, registersFrom]

theorem DecimalField_parse :
    (DecimalField name address scale range).parse (wordBytes [w]) = .ok (.number (w.toNat / 10 ^ scale)) := by
  rw [DeviceField.parse_wordBytes (.decimal _ _ _ _) rfl]
  simp [DeviceField.reading, DecimalField, registersFrom]

theorem DecimalArrayField_parse (length : words.length = size) :
    (DecimalArrayField name address size scale).parse (wordBytes words) =
      .ok (.numbers (words.map fun word => (word.toNat : ℚ) / 10 ^ scale)) := by
  rw [DeviceField.parse_wordBytes (.decimalArray _ _ _ _) length]
  simp only [DeviceField.reading, DecimalArrayField, registersFrom_add, Except.ok.injEq, ParsedValue.numbers.injEq]
  refine List.ext_getElem (by simp [length]) fun index _ bound => ?_
  rw [List.length_map] at bound
  simp [bound]

theorem VersionField_parse :
    (VersionField name address).parse (wordBytes [w0, w1]) = .ok (.number ((w0.toNat + 65536 * w1.toNat : Nat) / 100)) := by
  rw [DeviceField.parse_wordBytes (.version _ _) rfl]
  simp [DeviceField.reading, VersionField, registersFrom, Nat.mul_comm]

theorem SerialNumberField_parse :
    (SerialNumberField name address).parse (wordBytes [w0, w1, w2, w3]) =
      .ok (.bigint (w0.toNat + w1.toNat * 2 ^ 16 + w2.toNat * 2 ^ 32 + w3.toNat * 2 ^ 48)) := by
  rw [DeviceField.parse_wordBytes (.serialNumber _ _) rfl]
  simp [DeviceField.reading, SerialNumberField, registersFrom]

theorem enumValue_unknown {enumDefinition : EnumDefinition} {word : Nat}
    (outside : ∀ option ∈ enumDefinition.options, option.2 ≠ word) :
    enumValue enumDefinition word = { name := UNKNOWN_ENUM_PREFIX ++ toString word, value := word } := by
  have missing : enumDefinition.options.find? (fun option => option.2 = word) = none :=
    List.find?_eq_none.mpr fun option member => by simpa using outside option member
  simp only [enumValue, missing]

theorem length_four (length : words.length = 4) : ∃ w0 w1 w2 w3, words = [w0, w1, w2, w3] := by
  match words, length with
  | [w0, w1, w2, w3], _ => exact ⟨w0, w1, w2, w3, rfl⟩

/-- The fields that are neither texts nor booleans tell their words apart. -/
theorem words_of_parse {field : DeviceField} (built : field.Built) (plain : field.kind.isText = false)
    (wide : field.kind ≠ .bool) (length : words.length = field.size) (length' : others.length = field.size)
    (same : field.parse (wordBytes words) = field.parse (wordBytes others)) : words = others := by
  cases built with
  | uint name address range =>
    obtain ⟨w, rfl⟩ := List.length_eq_one_iff.mp length
    obtain ⟨w', rfl⟩ := List.length_eq_one_iff.mp length'
    rw [UintField_parse, UintField_parse] at same
    simp only [Except.ok.injEq, ParsedValue.number.injEq, Nat.cast_inj, BitVec.toNat_inj] at same
    rw [same]
  | bool => exact absurd rfl wide
  | enum name address enumDefinition =>
    obtain ⟨w, rfl⟩ := List.length_eq_one_iff.mp length
    obtain ⟨w', rfl⟩ := List.length_eq_one_iff.mp length'
    rw [EnumField_parse, EnumField_parse] at same
    simp only [Except.ok.injEq, ParsedValue.enumValue.injEq] at same
    have value := congrArg DeviceEnumValue.value same
    rw [enumValue_value, enumValue_value, BitVec.toNat_inj] at value
    rw [value]
  | decimal name address scale range =>
    obtain ⟨w, rfl⟩ := List.length_eq_one_iff.mp length
    obtain ⟨w', rfl⟩ := List.length_eq_one_iff.mp length'
    rw [DecimalField_parse, DecimalField_parse] at same
    have positive : (10 : ℚ) ^ scale ≠ 0 := by positivity
    simp only [Except.ok.injEq, ParsedValue.number.injEq, div_left_inj' positive, Nat.cast_inj, BitVec.toNat_inj] at same
    rw [same]
  | decimalArray name address size scale =>
    rw [DecimalArrayField_parse name address size scale length, DecimalArrayField_parse name address size scale length'] at same
    simp only [Except.ok.injEq, ParsedValue.numbers.injEq] at same
    have positive : (10 : ℚ) ^ scale ≠ 0 := by positivity
    refine List.map_injective_iff.mpr (fun word word' quotient => ?_) same
    exact BitVec.toNat_inj.mp (by exact_mod_cast (div_left_inj' positive).mp quotient)
  | string => cases plain
  | swapString => cases plain
  | version name address =>
    obtain ⟨w0, w1, rfl⟩ := List.length_eq_two.mp length
    obtain ⟨v0, v1, rfl⟩ := List.length_eq_two.mp length'
    rw [VersionField_parse, VersionField_parse] at same
    simp only [Except.ok.injEq, ParsedValue.number.injEq, div_left_inj' (by norm_num : (100 : ℚ) ≠ 0), Nat.cast_inj] at same
    have low : w0 = v0 := BitVec.toNat_inj.mp (by omega)
    have high : w1 = v1 := BitVec.toNat_inj.mp (by omega)
    rw [low, high]
  | serialNumber name address =>
    obtain ⟨w0, w1, w2, w3, rfl⟩ := length_four length
    obtain ⟨v0, v1, v2, v3, rfl⟩ := length_four length'
    rw [SerialNumberField_parse, SerialNumberField_parse] at same
    simp only [Except.ok.injEq, ParsedValue.bigint.injEq] at same
    have first : w0 = v0 := BitVec.toNat_inj.mp (by omega)
    have second : w1 = v1 := BitVec.toNat_inj.mp (by omega)
    have third : w2 = v2 := BitVec.toNat_inj.mp (by omega)
    have fourth : w3 = v3 := BitVec.toNat_inj.mp (by omega)
    rw [first, second, third, fourth]

theorem bytes_of_parse {field : DeviceField} (built : field.Built) (plain : field.kind.isText = false)
    (wide : field.kind ≠ .bool) (length : data.length = 2 * field.size) (length' : other.length = 2 * field.size)
    (same : field.parse data = field.parse other) : data = other := by
  obtain ⟨words, size, rfl⟩ := exists_wordBytes length
  obtain ⟨others, size', rfl⟩ := exists_wordBytes length'
  rw [words_of_parse built plain wide size size' same]

/-- A boolean is true of one word only. -/
theorem BoolField_parse_true_iff (length : data.length = 2) :
    (BoolField name address).parse data = .ok (.boolean true) ↔ data = [0x00#8, 0x01#8] := by
  obtain ⟨words, size, rfl⟩ := exists_wordBytes (show data.length = 2 * 1 from length)
  obtain ⟨w, rfl⟩ := List.length_eq_one_iff.mp size
  have bytes : [0x00#8, 0x01#8] = wordBytes [1#16] := by decide
  rw [BoolField_parse, bytes]
  simp only [Except.ok.injEq, ParsedValue.boolean.injEq, beq_iff_eq]
  constructor
  · intro one
    rw [BitVec.toNat_inj.mp (one.trans (by rfl : 1 = (1#16).toNat))]
  · intro same
    have reading := BoolField_parse name address w
    rw [same, BoolField_parse] at reading
    simpa using reading

end Kinds

section Texts

variable {data other front rest : List Byte} {byte : Byte} {text : String} {size : Nat}

theorem toNat_ofNat_byte : ∀ byte : Byte, (Char.ofNat byte.toNat).toNat = byte.toNat := by decide

/-- Texts are equal when all they can tell of their bytes is. -/
theorem readAscii_inj : readAscii data = readAscii other ↔ textBits data = textBits other := by
  have told (data : List Byte) : readAscii data = String.ofList ((textBits data).map fun byte => Char.ofNat byte.toNat) := by
    rw [readAscii, asciiText, textBits, List.map_map]
    rfl
  rw [told, told, String.ofList_inj]
  constructor
  · refine fun same => List.map_injective_iff.mpr (fun byte other same => ?_) same
    have value := congrArg Char.toNat same
    rw [toNat_ofNat_byte, toNat_ofNat_byte] at value
    exact BitVec.toNat_inj.mp value
  · intro same
    rw [same]

theorem textBits_append (solid : 0#8 ∉ front) (rest : List Byte) :
    textBits (front ++ rest) = front.map (fun byte => byte &&& 0x7f#8) ++ textBits rest := by
  have kept : ∀ byte ∈ front, decide (byte ≠ 0) = true := by
    intro byte member
    rw [decide_eq_true_eq]
    rintro rfl
    exact solid member
  rw [textBits, textBits, List.takeWhile_append_of_pos kept, List.map_append]

/-- The bytes after the first zero byte do not count. -/
theorem readAscii_past (front rest other : List Byte) :
    readAscii (front ++ 0#8 :: rest) = readAscii (front ++ 0#8 :: other) := by
  rw [readAscii_inj]
  induction front with
  | nil => rfl
  | cons byte front ih =>
    unfold textBits at ih ⊢
    simp only [List.cons_append, List.takeWhile_cons]
    split
    · simp only [List.map_cons, ih]
    · rfl

/-- Each byte up to the first zero byte counts. -/
theorem readAscii_each (solid : 0#8 ∉ front) (byte : Byte) (rest : List Byte) :
    ∃ changed, readAscii (front ++ changed :: rest) ≠ readAscii (front ++ byte :: rest) := by
  refine ⟨byte ^^^ 1#8, fun same => ?_⟩
  rw [readAscii_inj, textBits_append solid, textBits_append solid, List.append_cancel_left_eq] at same
  have apart : ∀ byte : Byte, (byte ^^^ 1#8) &&& 0x7f#8 ≠ byte &&& 0x7f#8 := by decide
  unfold textBits at same
  rw [List.takeWhile_cons, List.takeWhile_cons] at same
  split at same
  · split at same
    · exact apart byte (List.cons.inj same).1
    · cases same
  · split at same
    · cases same
    · next zero zero' =>
      simp only [ne_eq, decide_not, Bool.not_eq_true', decide_eq_false_iff_not, not_not] at zero zero'
      rw [zero'] at zero
      exact absurd zero (by decide)

/-- A padded text reads back. -/
theorem readAscii_textBytes (ascii : ∀ c ∈ text.toList, 0 < c.toNat ∧ c.toNat < 128) :
    readAscii (textBytes size text) = text := by
  have byte {c : Char} (member : c ∈ text.toList) : (BitVec.ofNat 8 c.toNat).toNat = c.toNat := by
    have small := ascii c member
    rw [BitVec.toNat_ofNat, Nat.mod_eq_of_lt (by omega)]
  have solid : ∀ byte ∈ text.toList.map (fun c => BitVec.ofNat 8 c.toNat), decide (byte ≠ 0) = true := by
    intro other listed
    obtain ⟨c, member, rfl⟩ := List.mem_map.mp listed
    rw [decide_eq_true_eq]
    intro zero
    have value := congrArg BitVec.toNat zero
    rw [byte member] at value
    exact (ascii c member).1.ne' value
  have padding : (List.replicate (2 * size - text.toList.length) 0#8).takeWhile (fun byte => byte ≠ 0) = [] := by
    cases 2 * size - text.toList.length with
    | zero => rfl
    | succ n => rfl
  have letters : (text.toList.map fun c => BitVec.ofNat 8 c.toNat).map (fun byte => Char.ofNat (byte &&& 0x7f#8).toNat) =
      text.toList := by
    rw [List.map_map]
    refine (List.map_congr_left fun c member => ?_).trans (List.map_id _)
    have small := (ascii c member).2
    have low : (BitVec.ofNat 8 c.toNat &&& 0x7f#8).toNat = c.toNat := by
      rw [BitVec.toNat_and, byte member]
      exact (Nat.and_two_pow_sub_one_eq_mod c.toNat 7).trans (Nat.mod_eq_of_lt small)
    rw [Function.comp_apply, low, Char.ofNat_toNat, id]
  rw [readAscii, textBytes, List.takeWhile_append_of_pos solid, padding, List.append_nil, asciiText, letters,
    String.ofList_toList]

theorem length_textBytes (fits : text.toList.length ≤ 2 * size) : (textBytes size text).length = 2 * size := by
  rw [textBytes, List.length_append, List.length_map, List.length_replicate]
  omega

/-- The loop of the decoder exchanges the two bytes of every register. -/
theorem swapBytePairs_eq (even : data.length = 2 * size) : swapBytePairs data = pairSwapped data := by
  induction size generalizing data with
  | zero =>
    obtain rfl := List.length_eq_zero_iff.mp even
    rfl
  | succ size ih =>
    match data, even with
    | first :: second :: rest, even =>
      have shorter : rest.length = 2 * size := by
        simp only [List.length_cons] at even
        omega
      have later : (List.range rest.length).map (fun i => (first :: second :: rest).getD (partner (i + 2)) 0#8) =
          pairSwapped rest := by
        refine List.map_congr_left fun i _ => ?_
        have moved : partner (i + 2) = partner i + 2 := by
          unfold partner
          split <;> split <;> omega
        rw [moved]
        rfl
      rw [swapBytePairs, ih shorter, ← later, pairSwapped, List.length_cons, List.length_cons, List.range_succ_eq_map,
        List.range_succ_eq_map]
      simp only [List.map_cons, List.map_map]
      rfl

theorem swapBytePairs_swapBytePairs (data : List Byte) : swapBytePairs (swapBytePairs data) = data := by
  fun_induction swapBytePairs data with
  | case1 first second rest ih => rw [swapBytePairs, ih]
  | case2 short single =>
    match short, single with
    | [], _ => rfl
    | [_], _ => rfl
    | first :: second :: rest, single => exact absurd rfl (single first second rest)

theorem swapBytePairs_pairSwapped (even : data.length = 2 * size) : swapBytePairs (pairSwapped data) = data := by
  rw [← swapBytePairs_eq even, swapBytePairs_swapBytePairs]

end Texts

theorem readUint16BigEndian_append {data : List Byte} {offset : Nat} (more : List Byte)
    (inside : offset + 1 < data.length) : readUint16BigEndian (data ++ more) offset = readUint16BigEndian data offset := by
  rw [readUint16BigEndian, readUint16BigEndian, List.getElem?_append_left (by omega), List.getElem?_append_left inside]

theorem mapM_same {α β : Type} {f g : α → Except Failure β} {items : List α} (same : ∀ item ∈ items, f item = g item) :
    items.mapM f = items.mapM g := by
  induction items with
  | nil => rfl
  | cons item rest ih =>
    rw [List.mapM_cons, List.mapM_cons, same item List.mem_cons_self,
      ih fun other member => same other (List.mem_cons_of_mem _ member)]

/-- The decoders of words read no further than the field reaches. -/
theorem DeviceField.parse_append {field : DeviceField} (built : field.Built) (plain : field.kind.isText = false)
    {data : List Byte} (more : List Byte) (length : data.length = 2 * field.size) :
    field.parse (data ++ more) = field.parse data := by
  have word (offset size : Nat) (same : field.size = size) (inside : offset + 1 < 2 * size) :
      readUint16BigEndian (data ++ more) offset = readUint16BigEndian data offset :=
    readUint16BigEndian_append more (length ▸ same ▸ inside)
  cases built with
  | uint => simp only [parse, UintField, word 0 1 rfl (by decide)]
  | bool => simp only [parse, BoolField, word 0 1 rfl (by decide)]
  | enum => simp only [parse, EnumField, word 0 1 rfl (by decide)]
  | decimal => simp only [parse, DecimalField, word 0 1 rfl (by decide)]
  | decimalArray name address size scale =>
    have words : (List.range size).mapM (fun index => readUint16BigEndian (data ++ more) (index * 2)) =
        (List.range size).mapM fun index => readUint16BigEndian data (index * 2) :=
      mapM_same fun index member => word (index * 2) size rfl (by have bound := List.mem_range.mp member; omega)
    simp only [parse, DecimalArrayField, words]
  | string => cases plain
  | swapString => cases plain
  | version => simp only [parse, VersionField, word 0 2 rfl (by decide), word 2 2 rfl (by decide)]
  | serialNumber =>
    simp only [parse, SerialNumberField, word 0 4 rfl (by decide), word 2 4 rfl (by decide), word 4 4 rfl (by decide),
      word 6 4 rfl (by decide)]

/-- The reading of a field rests on all of its own bytes, for a text up to the
first zero byte, and on no others. -/
structure DeviceField.RestsOnOwnBytes (field : DeviceField) : Prop where
  only : field.kind.isText = false → ∀ data more, data.length = 2 * field.size →
    field.parse (data ++ more) = field.parse data
  all : field.kind.isText = false → field.kind ≠ .bool → ∀ data other, data.length = 2 * field.size →
    other.length = 2 * field.size → field.parse data = field.parse other → data = other
  bool : field.kind = .bool → ∀ data, data.length = 2 * field.size →
    (field.parse data = .ok (.boolean true) ↔ data = [0x00#8, 0x01#8])
  text : field.kind = .string → ∀ front rest, 0#8 ∉ front →
    (∀ byte, ∃ changed, field.parse (front ++ changed :: rest) ≠ field.parse (front ++ byte :: rest)) ∧
      ∀ other, field.parse (front ++ 0#8 :: rest) = field.parse (front ++ 0#8 :: other)
  swapped : field.kind = .swapString → ∀ front rest, 0#8 ∉ front → (front ++ 0#8 :: rest).length = 2 * field.size →
    (∀ byte, ∃ changed,
      field.parse (pairSwapped (front ++ changed :: rest)) ≠ field.parse (pairSwapped (front ++ byte :: rest))) ∧
      ∀ other, other.length = rest.length →
        field.parse (pairSwapped (front ++ 0#8 :: rest)) = field.parse (pairSwapped (front ++ 0#8 :: other))

theorem DeviceField.Built.restsOnOwnBytes {field : DeviceField} (built : field.Built) : field.RestsOnOwnBytes where
  only plain _ more length := DeviceField.parse_append built plain more length
  all plain wide _ _ length length' same := bytes_of_parse built plain wide length length' same
  bool kind data length := by
    cases built with
    | bool name address => exact BoolField_parse_true_iff name address length
    | _ => cases kind
  text kind front rest solid := by
    have told (data : List Byte) : field.parse data = .ok (.string (readAscii data)) := by
      simp only [parse, kind]
      rfl
    constructor
    · intro byte
      obtain ⟨changed, apart⟩ := readAscii_each solid byte rest
      exact ⟨changed, by simpa only [told, ne_eq, Except.ok.injEq, ParsedValue.string.injEq] using apart⟩
    · intro other
      rw [told, told, readAscii_past front rest other]
  swapped kind front rest solid length := by
    have told {data : List Byte} (even : data.length = 2 * field.size) :
        field.parse (pairSwapped data) = .ok (.string (readAscii data)) := by
      simp only [parse, kind]
      rw [swapBytePairs_pairSwapped even]
      rfl
    have even (byte : Byte) : (front ++ byte :: rest).length = 2 * field.size := by simpa using length
    constructor
    · intro byte
      obtain ⟨changed, apart⟩ := readAscii_each solid byte rest
      refine ⟨changed, ?_⟩
      rw [told (even changed), told (even byte)]
      simpa only [ne_eq, Except.ok.injEq, ParsedValue.string.injEq] using apart
    · intro other same
      have even' : (front ++ 0#8 :: other).length = 2 * field.size := by simpa [same] using length
      rw [told (even 0#8), told even', readAscii_past front rest other]

/-- Every 64-bit number is that of four words, the least significant one first. -/
theorem SerialNumberField_bijective (name : String) (address : Nat) :
    (∀ words, words.length = 4 → ∃ n < 2 ^ 64, (SerialNumberField name address).parse (wordBytes words) = .ok (.bigint n)) ∧
      ∀ n < 2 ^ 64, ∃! words, words.length = 4 ∧
        (SerialNumberField name address).parse (wordBytes words) = .ok (.bigint n) := by
  constructor
  · intro words length
    obtain ⟨w0, w1, w2, w3, rfl⟩ := length_four length
    refine ⟨_, ?_, SerialNumberField_parse name address w0 w1 w2 w3⟩
    omega
  · intro n bound
    refine ⟨[BitVec.ofNat 16 n, BitVec.ofNat 16 (n / 2 ^ 16), BitVec.ofNat 16 (n / 2 ^ 32), BitVec.ofNat 16 (n / 2 ^ 48)],
      ⟨rfl, ?_⟩, ?_⟩
    · rw [SerialNumberField_parse]
      simp only [BitVec.toNat_ofNat, Except.ok.injEq, ParsedValue.bigint.injEq]
      omega
    · rintro words ⟨length, reads⟩
      obtain ⟨w0, w1, w2, w3, rfl⟩ := length_four length
      rw [SerialNumberField_parse] at reads
      simp only [Except.ok.injEq, ParsedValue.bigint.injEq] at reads
      have first : w0 = BitVec.ofNat 16 n := BitVec.toNat_inj.mp (by rw [BitVec.toNat_ofNat]; omega)
      have second : w1 = BitVec.ofNat 16 (n / 2 ^ 16) := BitVec.toNat_inj.mp (by rw [BitVec.toNat_ofNat]; omega)
      have third : w2 = BitVec.ofNat 16 (n / 2 ^ 32) := BitVec.toNat_inj.mp (by rw [BitVec.toNat_ofNat]; omega)
      have fourth : w3 = BitVec.ofNat 16 (n / 2 ^ 48) := BitVec.toNat_inj.mp (by rw [BitVec.toNat_ofNat]; omega)
      rw [first, second, third, fourth]

/-- A text that fits its registers reads back, in the order of its bytes or with
the bytes of every register exchanged. -/
theorem text_parse {text : String} {size : Nat} (name : String) (address : Nat)
    (ascii : ∀ c ∈ text.toList, 0 < c.toNat ∧ c.toNat < 128) (fits : text.toList.length ≤ 2 * size) :
    (StringField name address size).parse (textBytes size text) = .ok (.string text) ∧
      (SwapStringField name address size).parse (pairSwapped (textBytes size text)) = .ok (.string text) := by
  have reads : readAscii (textBytes size text) = text := readAscii_textBytes ascii
  constructor
  · simp only [DeviceField.parse, StringField, reads]
    rfl
  · simp only [DeviceField.parse, SwapStringField, swapBytePairs_pairSwapped (length_textBytes fits), reads]
    rfl

/-- The decoders invert the encodings of their registers. -/
theorem decoders_invert_encodings :
    (∀ name address range (word : BitVec 16),
      (UintField name address range).parse (wordBytes [word]) = .ok (.number word.toNat)) ∧
    (∀ name address flag,
      (BoolField name address).parse (wordBytes [if flag then 1#16 else 0#16]) = .ok (.boolean flag)) ∧
    (∀ name address (enumDefinition : EnumDefinition), (enumDefinition.options.map Prod.snd).Nodup →
      ∀ word : BitVec 16,
        (∀ option, (option, word.toNat) ∈ enumDefinition.options →
          (EnumField name address enumDefinition).parse (wordBytes [word]) =
            .ok (.enumValue { name := option, value := word.toNat })) ∧
        ((∀ option ∈ enumDefinition.options, option.2 ≠ word.toNat) →
          (EnumField name address enumDefinition).parse (wordBytes [word]) =
            .ok (.enumValue { name := "UNKNOWN_" ++ toString word.toNat, value := word.toNat }))) ∧
    (∀ name address scale range (word : BitVec 16),
      (DecimalField name address scale range).parse (wordBytes [word]) = .ok (.number (word.toNat / 10 ^ scale))) ∧
    (∀ name address scale (words : List (BitVec 16)),
      (DecimalArrayField name address words.length scale).parse (wordBytes words) =
        .ok (.numbers (words.map fun word => (word.toNat : ℚ) / 10 ^ scale))) ∧
    (∀ name address (w0 w1 : BitVec 16),
      (VersionField name address).parse (wordBytes [w0, w1]) = .ok (.number ((w0.toNat + 65536 * w1.toNat : Nat) / 100))) ∧
    (∀ name address,
      (∀ w0 w1 w2 w3 : BitVec 16, (SerialNumberField name address).parse (wordBytes [w0, w1, w2, w3]) =
        .ok (.bigint (w0.toNat + w1.toNat * 2 ^ 16 + w2.toNat * 2 ^ 32 + w3.toNat * 2 ^ 48))) ∧
      (∀ words, words.length = 4 →
        ∃ n < 2 ^ 64, (SerialNumberField name address).parse (wordBytes words) = .ok (.bigint n)) ∧
      ∀ n < 2 ^ 64, ∃! words, words.length = 4 ∧
        (SerialNumberField name address).parse (wordBytes words) = .ok (.bigint n)) ∧
    (∀ name address size (text : String), (∀ c ∈ text.toList, 0 < c.toNat ∧ c.toNat < 128) →
      text.toList.length ≤ 2 * size →
      (StringField name address size).parse (textBytes size text) = .ok (.string text) ∧
        (SwapStringField name address size).parse (pairSwapped (textBytes size text)) = .ok (.string text)) ∧
    ∀ field : DeviceField, field.Built → field.RestsOnOwnBytes := by
  refine ⟨UintField_parse, fun name address flag => ?_, fun name address enumDefinition separate word => ⟨?_, ?_⟩,
    fun name address scale range word => DecimalField_parse name address scale range word,
    fun name address scale words => DecimalArrayField_parse name address words.length scale rfl,
    VersionField_parse, fun name address => ⟨SerialNumberField_parse name address, SerialNumberField_bijective name address⟩,
    fun name address size text ascii fits => text_parse name address ascii fits, fun field built => built.restsOnOwnBytes⟩
  · rw [BoolField_parse]
    cases flag <;> rfl
  · intro option listed
    rw [EnumField_parse, enumValue_of_distinct separate listed]
  · intro outside
    rw [EnumField_parse, enumValue_unknown outside]
    rfl

/-- The serial number of a station, and its type with the bytes of every register
exchanged. -/
theorem decoders_invert_encodings_station :
    (SwapStringField "device_type" 10 6).parse (pairSwapped (textBytes 6 "AC200M")) = .ok (.string "AC200M") ∧
      ∃! words, words.length = 4 ∧
        (SerialNumberField "serial_number" 17).parse (wordBytes words) = .ok (.bigint 2237000003358) := by
  obtain ⟨-, -, -, -, -, -, serial, text, -⟩ := decoders_invert_encodings
  exact ⟨(text "device_type" 10 6 "AC200M" (by simp) (by decide)).2,
    (serial "serial_number" 17).2.2 2237000003358 (by norm_num)⟩

end BluettiMqtt
