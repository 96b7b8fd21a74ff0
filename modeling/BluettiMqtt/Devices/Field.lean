import BluettiMqtt.Core.Commands
import BluettiMqtt.Core.Types
import BluettiMqtt.Library.Table

namespace BluettiMqtt

def UNKNOWN_ENUM_PREFIX : String := "UNKNOWN_"

def VERSION_DIVISOR : Nat := 100

def VERSION_WORD_SHIFT : Nat := 0x10000

/-- An object literal from option names to register words. Its own keys are
distinct and are enumerated in the order in which they are written. -/
structure EnumDefinition where
  options : List (String × Nat)
  distinct : (options.map Prod.fst).Nodup
  deriving DecidableEq

def enumValue (enumDefinition : EnumDefinition) (rawValue : Nat) : DeviceEnumValue :=
  match enumDefinition.options.find? fun option => option.2 = rawValue with
  | some (name, value) => { name := name, value := value }
  | none => { name := UNKNOWN_ENUM_PREFIX ++ toString rawValue, value := rawValue }

/-- Of options with separate words each is found by its word. -/
theorem enumValue_of_distinct {enumDefinition : EnumDefinition} {name : String} {value : Nat}
    (separate : (enumDefinition.options.map Prod.snd).Nodup) (listed : (name, value) ∈ enumDefinition.options) :
    enumValue enumDefinition value = { name := name, value := value } := by
  have found := Table.find?_of_distinct Prod.snd separate listed
  simp only [enumValue, found]

@[simp] theorem enumValue_value (enumDefinition : EnumDefinition) (rawValue : Nat) :
    (enumValue enumDefinition rawValue).value = rawValue := by
  unfold enumValue
  split
  · next found => simpa using List.find?_some found
  · rfl

def readUint16BigEndian (data : List Byte) (offset : Nat) : Except Failure Nat :=
  match data[offset]?, data[offset + 1]? with
  | some high, some low => .ok (high.setWidth 16 <<< 8 ||| low.setWidth 16).toNat
  | _, _ => .error (.rangeError s!"Missing uint16 bytes at offset {offset}" (.number (.ofInt offset)))

def readAscii (data : List Byte) : String :=
  String.ofList (asciiText (data.takeWhile fun byte => byte ≠ 0))

def swapBytePairs : List Byte → List Byte
  | current :: next :: rest => next :: current :: swapBytePairs rest
  | short => short

inductive FieldKind
  | uint (range : Option (ℚ × ℚ))
  | bool
  | enum (enumDefinition : EnumDefinition)
  | decimal (scale : Nat) (range : Option (ℚ × ℚ))
  | decimalArray (scale : Nat)
  | string
  | swapString
  | version
  | serialNumber
  deriving DecidableEq

/-- The field classes share their data and differ in their kind. -/
structure DeviceField where
  name : String
  address : Nat
  size : Nat
  kind : FieldKind
  deriving DecidableEq

def UintField (name : String) (address : Nat) (range : Option (ℚ × ℚ) := none) : DeviceField :=
  { name := name, address := address, size := 1, kind := .uint range }

def BoolField (name : String) (address : Nat) : DeviceField :=
  { name := name, address := address, size := 1, kind := .bool }

def EnumField (name : String) (address : Nat) (enumDefinition : EnumDefinition) : DeviceField :=
  { name := name, address := address, size := 1, kind := .enum enumDefinition }

def DecimalField (name : String) (address scale : Nat) (range : Option (ℚ × ℚ) := none) : DeviceField :=
  { name := name, address := address, size := 1, kind := .decimal scale range }

def DecimalArrayField (name : String) (address size scale : Nat) : DeviceField :=
  { name := name, address := address, size := size, kind := .decimalArray scale }

def StringField (name : String) (address size : Nat) : DeviceField :=
  { name := name, address := address, size := size, kind := .string }

def SwapStringField (name : String) (address size : Nat) : DeviceField :=
  { name := name, address := address, size := size, kind := .swapString }

def VersionField (name : String) (address : Nat) : DeviceField :=
  { name := name, address := address, size := 2, kind := .version }

def SerialNumberField (name : String) (address : Nat) : DeviceField :=
  { name := name, address := address, size := 4, kind := .serialNumber }

namespace DeviceField

/-- The `parse` methods of the field classes. -/
def parse (field : DeviceField) (data : List Byte) : Except Failure ParsedValue :=
  match field.kind with
  | .uint _ => do
    let word ← readUint16BigEndian data 0
    return .number word
  | .bool => do
    let word ← readUint16BigEndian data 0
    return .boolean (word == 1)
  | .enum enumDefinition => do
    let word ← readUint16BigEndian data 0
    return .enumValue (BluettiMqtt.enumValue enumDefinition word)
  | .decimal scale _ => do
    let word ← readUint16BigEndian data 0
    return .number (word / 10 ^ scale)
  | .decimalArray scale => do
    let words ← (List.range field.size).mapM fun index => readUint16BigEndian data (index * 2)
    return .numbers (words.map fun (word : Nat) => word / 10 ^ scale)
  | .string => return .string (readAscii data)
  | .swapString => return .string (readAscii (swapBytePairs data))
  | .version => do
    let low ← readUint16BigEndian data 0
    let high ← readUint16BigEndian data 2
    return .number ((low + high * VERSION_WORD_SHIFT : Nat) / VERSION_DIVISOR)
  | .serialNumber => do
    let word0 ← readUint16BigEndian data 0
    let word1 ← readUint16BigEndian data 2
    let word2 ← readUint16BigEndian data 4
    let word3 ← readUint16BigEndian data 6
    return .bigint (word0 + word1 <<< 16 + word2 <<< 32 + word3 <<< 48)

/-- `isInRange`; only numeric readings are ever checked. -/
def isInRange (field : DeviceField) (value : ParsedValue) : Bool :=
  match field.kind, value with
  | .uint (some (low, high)), .number reading => low ≤ reading && reading ≤ high
  | .decimal _ (some (low, high)), .number reading => low ≤ reading && reading ≤ high
  | _, _ => true

end DeviceField

/-- Reading a register gives back the word that was put on the wire. -/
theorem readUint16BigEndian_write (word : BitVec 16) :
    readUint16BigEndian (writeUint16BigEndian word) 0 = .ok word.toNat := by
  have bytes : ((word >>> 8).setWidth 8).setWidth 16 <<< 8 ||| (word.setWidth 8).setWidth 16 = word := by
    apply BitVec.eq_of_getLsbD_eq
    intro i bound
    by_cases low : i < 8
    · simp [bound, low]
    · have position : 8 + (i - 8) = i := by omega
      have inside : i - 8 < 8 := by omega
      simp [bound, low, position, inside]
  simp only [readUint16BigEndian, writeUint16BigEndian, List.getElem?_cons_zero, List.getElem?_cons_succ,
    bytes]

section Words

variable (field : DeviceField) (word : BitVec 16)

theorem DeviceField.parse_uint {range : Option (ℚ × ℚ)} (kind : field.kind = .uint range) :
    field.parse (writeUint16BigEndian word) = .ok (.number word.toNat) := by
  simp [parse, kind, readUint16BigEndian_write]

theorem DeviceField.parse_bool (kind : field.kind = .bool) :
    field.parse (writeUint16BigEndian word) = .ok (.boolean (word.toNat == 1)) := by
  simp [parse, kind, readUint16BigEndian_write]

theorem DeviceField.parse_enum {enumDefinition : EnumDefinition} (kind : field.kind = .enum enumDefinition) :
    field.parse (writeUint16BigEndian word) = .ok (.enumValue (enumValue enumDefinition word.toNat)) := by
  simp [parse, kind, readUint16BigEndian_write]

end Words

end BluettiMqtt
