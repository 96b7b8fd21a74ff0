import BluettiMqtt.Devices.Struct
import Mathlib.Algebra.Group.Nat.Defs
import Mathlib.Data.List.Find

namespace BluettiMqtt

/-- The registers of a device, by address. -/
abbrev RegisterImage := Nat → BitVec 16

/-- The big-endian bytes of a window of registers. -/
def imageBytes (image : RegisterImage) (start count : Nat) : List Byte :=
  (List.range count).flatMap fun index => writeUint16BigEndian (image (start + index))

/-- A word is read from where its bytes begin. -/
theorem readUint16BigEndian_drop {data : List Byte} {offset word : Nat}
    (read : readUint16BigEndian (data.drop offset) 0 = .ok word) : readUint16BigEndian data offset = .ok word := by
  simp only [readUint16BigEndian, List.getElem?_drop, Nat.add_zero, Nat.zero_add] at read ⊢
  cases first : data[offset]? <;> cases second : data[offset + 1]? <;> simp_all

theorem rotated_high (word : BitVec 16) : (word.rotateLeft 8 >>> 8).setWidth 8 = word.setWidth 8 := by
  apply BitVec.eq_of_getLsbD_eq
  intro bit bound
  have inside : 8 + bit < 16 := by omega
  have upper : ¬8 + bit < 8 := by omega
  simp only [BitVec.getLsbD_setWidth, BitVec.getLsbD_ushiftRight, BitVec.getLsbD_rotateLeft, Nat.reduceMod,
    Nat.reduceSub, bound, inside, upper, decide_true, decide_false, cond_false, Bool.true_and, Nat.add_sub_cancel_left]

theorem rotated_low (word : BitVec 16) : (word.rotateLeft 8).setWidth 8 = (word >>> 8).setWidth 8 := by
  apply BitVec.eq_of_getLsbD_eq
  intro bit bound
  simp [BitVec.getLsbD_rotateLeft, bound]

section Bytes

variable (image : RegisterImage) (start count : Nat)

theorem imageBytes_add (more : Nat) :
    imageBytes image start (count + more) = imageBytes image start count ++ imageBytes image (start + count) more := by
  simp only [imageBytes, List.range_add, List.flatMap_append, List.flatMap_map, Nat.add_assoc]

theorem imageBytes_succ :
    imageBytes image start (count + 1) = writeUint16BigEndian (image start) ++ imageBytes image (start + 1) count := by
  rw [Nat.add_comm, imageBytes_add]
  simp [imageBytes]

@[simp] theorem length_imageBytes : (imageBytes image start count).length = count * 2 := by
  induction count generalizing start with
  | zero => rfl
  | succ count ih =>
    rw [imageBytes_succ, List.length_append, ih]
    simp only [writeUint16BigEndian, List.length_cons, List.length_nil]
    omega

/-- The bytes of a part of a window. -/
theorem slice_imageBytes (offset size : Nat) (inside : offset + size ≤ count) :
    ((imageBytes image start count).drop (offset * 2)).take (size * 2) = imageBytes image (start + offset) size := by
  obtain ⟨rest, rfl⟩ := Nat.exists_eq_add_of_le inside
  rw [imageBytes_add, imageBytes_add, List.append_assoc, List.drop_left' (by simp), List.take_left' (by simp)]

/-- A word of a window is the register it was taken from. -/
theorem readUint16BigEndian_imageBytes {offset : Nat} (inside : offset < count) :
    readUint16BigEndian (imageBytes image start count) (offset * 2) = .ok (image (start + offset)).toNat := by
  obtain ⟨rest, rfl⟩ := Nat.exists_eq_add_of_lt inside
  have front : (imageBytes image start (offset + rest + 1)).drop (offset * 2) =
      writeUint16BigEndian (image (start + offset)) ++ imageBytes image (start + offset + 1) rest := by
    rw [Nat.add_assoc, imageBytes_add, List.drop_left' (by simp), imageBytes_succ]
  apply readUint16BigEndian_drop
  rw [front]
  exact readUint16BigEndian_write (image (start + offset))

/-- Swapping the bytes of each word. -/
theorem swapBytePairs_imageBytes :
    swapBytePairs (imageBytes image start count) =
      imageBytes (fun address => (image address).rotateLeft 8) start count := by
  induction count generalizing start with
  | zero => rfl
  | succ count ih =>
    rw [imageBytes_succ, imageBytes_succ, ← ih]
    simp only [writeUint16BigEndian, rotated_high, rotated_low]
    rfl

/-- Only the registers of the window count. -/
theorem imageBytes_congr {other : RegisterImage}
    (agree : ∀ index < count, image (start + index) = other (start + index)) :
    imageBytes image start count = imageBytes other start count :=
  List.flatMap_congr fun index member => by rw [agree index (List.mem_range.mp member)]

end Bytes

/-- The fields that the add methods make. -/
inductive DeviceField.Built : DeviceField → Prop
  | uint (name : String) (address : Nat) (range : Option (ℚ × ℚ)) : Built (UintField name address range)
  | bool (name : String) (address : Nat) : Built (BoolField name address)
  | enum (name : String) (address : Nat) (enumDefinition : EnumDefinition) :
      Built (EnumField name address enumDefinition)
  | decimal (name : String) (address scale : Nat) (range : Option (ℚ × ℚ)) :
      Built (DecimalField name address scale range)
  | decimalArray (name : String) (address size scale : Nat) : Built (DecimalArrayField name address size scale)
  | string (name : String) (address size : Nat) : Built (StringField name address size)
  | swapString (name : String) (address size : Nat) : Built (SwapStringField name address size)
  | version (name : String) (address : Nat) : Built (VersionField name address)
  | serialNumber (name : String) (address : Nat) : Built (SerialNumberField name address)

/-- The structs that the add methods build; all of them but `addMany` are
`addField` of one field. -/
inductive DeviceStruct.Built : DeviceStruct → Prop
  | new : Built {}
  | addField {struct : DeviceStruct} {field : DeviceField} (before : struct.Built) (added : field.Built) :
      Built (struct.addField field)
  | addMany {struct : DeviceStruct} {fields : List DeviceField} (before : struct.Built)
      (added : ∀ field ∈ fields, field.Built) : Built (struct.addMany fields)

theorem DeviceStruct.Built.fields {struct : DeviceStruct} (built : struct.Built) :
    ∀ field ∈ struct.fields, field.Built := by
  induction built with
  | new => exact fun _ member => nomatch member
  | addField before added ih =>
    intro field member
    rcases List.mem_append.mp member with old | last
    · exact ih field old
    · exact List.mem_singleton.mp last ▸ added
  | addMany before added ih =>
    intro field member
    rcases List.mem_append.mp member with old | new
    · exact ih field old
    · exact added field new

namespace DeviceField

/-- What a field says about the registers it lies on. -/
def reading (field : DeviceField) (image : RegisterImage) : ParsedValue :=
  let word := fun index => (image (field.address + index)).toNat
  match field.kind with
  | .uint _ => .number (word 0)
  | .bool => .boolean (word 0 == 1)
  | .enum enumDefinition => .enumValue (enumValue enumDefinition (word 0))
  | .decimal scale _ => .number (word 0 / 10 ^ scale)
  | .decimalArray scale => .numbers ((List.range field.size).map fun index => (word index : ℚ) / 10 ^ scale)
  | .string => .string (readAscii (imageBytes image field.address field.size))
  | .swapString =>
    .string (readAscii (imageBytes (fun address => (image address).rotateLeft 8) field.address field.size))
  | .version => .number ((word 0 + word 1 * 65536 : Nat) / 100)
  | .serialNumber => .bigint (word 0 + word 1 * 2 ^ 16 + word 2 * 2 ^ 32 + word 3 * 2 ^ 48)

/-- The window of `count` registers from `start` on covers the field. -/
def within (field : DeviceField) (start count : Nat) : Bool :=
  start ≤ field.address && field.address + field.size ≤ start + count

theorem mapM_ok {α β : Type} {f : α → Except Failure β} {g : α → β} {items : List α}
    (each : ∀ item ∈ items, f item = .ok (g item)) : items.mapM f = .ok (items.map g) := by
  induction items with
  | nil => rfl
  | cons item rest ih =>
    rw [List.mapM_cons, each item List.mem_cons_self, ih fun other member => each other (List.mem_cons_of_mem _ member)]
    rfl

/-- The word at a register of the field. -/
theorem readUint16BigEndian_field (field : DeviceField) (image : RegisterImage) (index offset : Nat)
    (inside : index < field.size) (place : offset = index * 2) :
    readUint16BigEndian (imageBytes image field.address field.size) offset =
      .ok (image (field.address + index)).toNat := by
  rw [place]
  exact readUint16BigEndian_imageBytes image field.address field.size inside

/-- The decoders read the registers of the field and nothing else. -/
theorem parse_imageBytes {field : DeviceField} (built : field.Built) (image : RegisterImage) :
    field.parse (imageBytes image field.address field.size) = .ok (field.reading image) := by
  have word := readUint16BigEndian_field field image
  cases built with
  | uint name address range =>
    unfold parse
    rw [word 0 0 Nat.one_pos rfl]
    rfl
  | bool name address =>
    unfold parse
    rw [word 0 0 Nat.one_pos rfl]
    rfl
  | enum name address enumDefinition =>
    unfold parse
    rw [word 0 0 Nat.one_pos rfl]
    rfl
  | decimal name address scale range =>
    unfold parse
    rw [word 0 0 Nat.one_pos rfl]
    rfl
  | decimalArray name address size scale =>
    unfold parse
    have words : (List.range size).mapM (fun index => readUint16BigEndian (imageBytes image address size) (index * 2)) =
        .ok ((List.range size).map fun index => (image (address + index)).toNat) :=
      mapM_ok fun index member => word index (index * 2) (List.mem_range.mp member) rfl
    simp only [DecimalArrayField, reading, words, bind, Except.bind, pure, Except.pure, List.map_map]
    rfl
  | string name address size => rfl
  | swapString name address size =>
    unfold parse
    rw [swapBytePairs_imageBytes]
    rfl
  | version name address =>
    unfold parse
    rw [word 0 0 Nat.two_pos rfl, word 1 2 Nat.one_lt_two rfl]
    rfl
  | serialNumber name address =>
    unfold parse
    have inside : ∀ index < 4, index < (SerialNumberField name address).size := fun _ bound => bound
    rw [word 0 0 (inside 0 (by decide)) rfl, word 1 2 (inside 1 (by decide)) rfl, word 2 4 (inside 2 (by decide)) rfl,
      word 3 6 (inside 3 (by decide)) rfl]
    simp only [reading, SerialNumberField, bind, Except.bind, pure, Except.pure, Nat.shiftLeft_eq]

/-- Registers outside the field do not count. -/
theorem reading_congr {field : DeviceField} (built : field.Built) {image other : RegisterImage}
    (agree : ∀ index < field.size, image (field.address + index) = other (field.address + index)) :
    field.reading image = field.reading other := by
  have decoded := parse_imageBytes built image
  rw [imageBytes_congr image field.address field.size agree, parse_imageBytes built other] at decoded
  exact (Except.ok.inj decoded).symm

end DeviceField

namespace DeviceStruct

variable {struct : DeviceStruct} {fields : List DeviceField}

/-- What a field reports in a window: nothing when the window does not cover it or
its value is out of range. -/
def reported (image : RegisterImage) (start count : Nat) (field : DeviceField) : Bool :=
  field.within start count && field.isInRange (field.reading image)

/-- The value of the last declared field of a name that reports one. -/
def lastReading (struct : DeviceStruct) (image : RegisterImage) (start count : Nat) (name : String) :
    Option ParsedValue :=
  (struct.fields.reverse.find? fun field => field.name = name && reported image start count field).map
    (DeviceField.reading · image)

/-- One round of the loop, on the bytes of a window. -/
theorem parseField_imageBytes {field : DeviceField} (built : field.Built) (image : RegisterImage)
    (start count : Nat) (parsed : ParsedFieldMap) :
    parseField start (imageBytes image start count) parsed field =
      .ok (if reported image start count field then ParsedFieldMap.assign parsed field.name (field.reading image)
        else parsed) := by
  unfold parseField
  simp only [length_imageBytes, Nat.mul_div_cancel count (by decide : 0 < 2), reported, DeviceField.within]
  split
  · next outside =>
    have uncovered : (decide (start ≤ field.address) && decide (field.address + field.size ≤ start + count)) = false := by
      rw [Bool.and_eq_false_iff, decide_eq_false_iff_not, decide_eq_false_iff_not]
      omega
    simp only [uncovered, Bool.false_and, Bool.false_eq_true, if_false]
  · next inside =>
    obtain ⟨first, last⟩ : start ≤ field.address ∧ field.address + field.size ≤ start + count := by omega
    have slice := slice_imageBytes image start count (field.address - start) field.size (by omega)
    rw [Nat.add_sub_cancel' first] at slice
    rw [slice, DeviceField.parse_imageBytes built image]
    simp only [first, last, decide_true, Bool.true_and]
    rfl

/-- The whole loop. -/
theorem foldlM_imageBytes {fields : List DeviceField} (built : ∀ field ∈ fields, field.Built) (image : RegisterImage)
    (start count : Nat) (parsed : ParsedFieldMap) :
    fields.foldlM (parseField start (imageBytes image start count)) parsed =
      .ok (fields.foldl (fun parsed field => if reported image start count field then
        ParsedFieldMap.assign parsed field.name (field.reading image) else parsed) parsed) := by
  induction fields generalizing parsed with
  | nil => rfl
  | cons field rest ih =>
    rw [List.foldlM_cons, parseField_imageBytes (built field List.mem_cons_self), List.foldl_cons]
    exact ih (fun other member => built other (List.mem_cons_of_mem _ member)) _

theorem get?_assign (parsed : ParsedFieldMap) (name other : String) (value : ParsedValue) :
    (ParsedFieldMap.assign parsed name value).get? other =
      if other = name ∧ name ≠ "__proto__" then some value else parsed.get? other := by
  unfold ParsedFieldMap.assign
  split
  · next inherited => simp [inherited]
  · next plain => simp [OrderedMap.get?_set, Table.insert, plain]

/-- The last assignment to a name counts. -/
theorem get?_foldl (image : RegisterImage) (start count : Nat) (name : String) (parsed : ParsedFieldMap)
    (plain : name ≠ "__proto__") :
    (fields.foldl (fun parsed field => if reported image start count field then
        ParsedFieldMap.assign parsed field.name (field.reading image) else parsed) parsed).get? name =
      (({ fields := fields } : DeviceStruct).lastReading image start count name).or (parsed.get? name) := by
  induction fields generalizing parsed with
  | nil => rfl
  | cons field rest ih =>
    rw [List.foldl_cons, ih]
    simp only [lastReading, List.reverse_cons, List.find?_append, List.find?_singleton]
    cases rest.reverse.find? fun field => field.name = name && reported image start count field with
    | some later => rfl
    | none =>
      by_cases covered : reported image start count field = true
      · by_cases same : field.name = name
        · subst same
          simp [covered, get?_assign, plain]
        · simp [covered, get?_assign, same, Ne.symm same]
      · simp [covered]

/-- Nothing is ever assigned to `__proto__`. -/
theorem get?_foldl_proto (image : RegisterImage) (start count : Nat) (parsed : ParsedFieldMap) :
    (fields.foldl (fun parsed field => if reported image start count field then
        ParsedFieldMap.assign parsed field.name (field.reading image) else parsed) parsed).get? "__proto__" =
      parsed.get? "__proto__" := by
  induction fields generalizing parsed with
  | nil => rfl
  | cons field rest ih =>
    rw [List.foldl_cons, ih]
    split
    · rw [get?_assign, if_neg fun here => here.2 here.1.symm]
    · rfl

/-- The entries of a parsed window. -/
theorem parse_imageBytes (built : struct.Built) (image : RegisterImage) (start count : Nat) :
    ∃ parsed, struct.parse start (imageBytes image start count) = .ok parsed ∧
      ∀ name, parsed.get? name = if name = "__proto__" then none else struct.lastReading image start count name := by
  have even : ¬(imageBytes image start count).length % 2 ≠ 0 := by simp
  have run := foldlM_imageBytes built.fields image start count OrderedMap.empty
  refine ⟨_, (if_neg even).trans run, fun name => ?_⟩
  split
  · next inherited =>
    subst inherited
    exact get?_foldl_proto image start count OrderedMap.empty
  · next plain =>
    rw [get?_foldl image start count name OrderedMap.empty plain]
    exact Option.or_none

/-- Windows that cover the same fields of a name, on images that agree on the
registers of these fields, report the same. -/
theorem lastReading_congr (built : struct.Built) {image other : RegisterImage} {start start' count count' : Nat}
    {name : String}
    (covered : ∀ field ∈ struct.fields, field.name = name → field.within start count = field.within start' count')
    (agree : ∀ field ∈ struct.fields, field.name = name → field.within start count = true →
      ∀ index < field.size, image (field.address + index) = other (field.address + index)) :
    struct.lastReading image start count name = struct.lastReading other start' count' name := by
  have same : ∀ field ∈ struct.fields, field.name = name → field.within start count = true →
      field.reading image = field.reading other :=
    fun field member named inside => DeviceField.reading_congr (built.fields field member) (agree field member named inside)
  have asked : ∀ field ∈ struct.fields.reverse,
      (decide (field.name = name) && reported image start count field) =
        (decide (field.name = name) && reported other start' count' field) := by
    intro field member
    have declared := List.mem_reverse.mp member
    by_cases named : field.name = name
    · cases inside : field.within start count with
      | true => simp only [reported, ← covered field declared named, inside, same field declared named inside]
      | false => simp only [reported, ← covered field declared named, inside, Bool.false_and]
    · simp only [named, decide_false, Bool.false_and]
  unfold lastReading
  rw [List.find?_congr asked]
  apply Option.map_congr
  intro field found
  have answers := List.find?_some found
  have declared := List.mem_reverse.mp (List.mem_of_find?_eq_some found)
  simp only [reported, Bool.and_eq_true, decide_eq_true_eq] at answers
  obtain ⟨named, inside, -⟩ := answers
  exact same field declared named ((covered field declared named).trans inside)

/-- Decoding a window is exact and local, but for a field named `__proto__`. -/
theorem window_decoding (built : struct.Built) :
    (∀ image start count, ∃ parsed, struct.parse start (imageBytes image start count) = .ok parsed ∧
      ∀ name, parsed.get? name =
        if name = "__proto__" then none else struct.lastReading image start count name) ∧
    ∀ image other start start' count count' name parsed parsed',
      struct.parse start (imageBytes image start count) = .ok parsed →
      struct.parse start' (imageBytes other start' count') = .ok parsed' →
      (∀ field ∈ struct.fields, field.name = name → field.within start count = field.within start' count') →
      (∀ field ∈ struct.fields, field.name = name → field.within start count = true →
        ∀ index < field.size, image (field.address + index) = other (field.address + index)) →
      parsed.get? name = parsed'.get? name := by
  refine ⟨parse_imageBytes built, ?_⟩
  intro image other start start' count count' name parsed parsed' first second covered agree
  obtain ⟨_, run, entries⟩ := parse_imageBytes built image start count
  obtain ⟨_, run', entries'⟩ := parse_imageBytes built other start' count'
  cases first.symm.trans run
  cases second.symm.trans run'
  rw [entries, entries', lastReading_congr built covered agree]

/-- A struct with a name that is declared twice. -/
theorem window_decoding_twice :
    (∃ parsed, ((({} : DeviceStruct).addUintField "level" 1).addUintField "level" 2 (some (0, 10))).parse 0
        (imageBytes (fun address => BitVec.ofNat 16 (7 * address)) 0 3) = .ok parsed ∧
      parsed.get? "level" = some (.number 7)) := by
  have built : ((({} : DeviceStruct).addUintField "level" 1).addUintField "level" 2 (some (0, 10))).Built :=
    .addField (.addField .new (.uint _ _ _)) (.uint _ _ _)
  obtain ⟨parsed, run, entries⟩ :=
    (window_decoding built).1 (fun address => BitVec.ofNat 16 (7 * address)) 0 3
  refine ⟨parsed, run, (entries "level").trans ?_⟩
  decide +kernel

/-- A field named `__proto__` is decoded and leaves no entry. -/
theorem proto_field_lost :
    ∃ parsed, (({} : DeviceStruct).addUintField "__proto__" 0).parse 0 (imageBytes (fun _ => 5#16) 0 1) = .ok parsed ∧
      (({} : DeviceStruct).addUintField "__proto__" 0).lastReading (fun _ => 5#16) 0 1 "__proto__" = some (.number 5) ∧
      parsed.get? "__proto__" = none :=
  ⟨_, rfl, by decide +kernel, rfl⟩

end DeviceStruct

end BluettiMqtt
