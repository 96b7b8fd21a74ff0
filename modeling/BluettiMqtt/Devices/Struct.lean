import BluettiMqtt.Devices.Field
import BluettiMqtt.Library.OrderedMap

namespace BluettiMqtt

/-- A register schema: its fields in the order in which they were added. -/
structure DeviceStruct where
  fields : List DeviceField := []
  deriving DecidableEq

/-- The object that `parse` fills, field by field. -/
abbrev ParsedFieldMap := OrderedMap String ParsedValue

/-- `parsed[name] = value` on an object literal. Under `__proto__` it reaches the
setter that every object literal inherits, and no property is added. -/
def ParsedFieldMap.assign (parsed : ParsedFieldMap) (name : String) (value : ParsedValue) : ParsedFieldMap :=
  if name = "__proto__" then parsed else parsed.set name value

namespace DeviceStruct

def addMany (struct : DeviceStruct) (fields : List DeviceField) : DeviceStruct :=
  { fields := struct.fields ++ fields }

def addField (struct : DeviceStruct) (field : DeviceField) : DeviceStruct :=
  { fields := struct.fields ++ [field] }

def addUintField (struct : DeviceStruct) (name : String) (address : Nat)
    (range : Option (ℚ × ℚ) := none) : DeviceStruct :=
  struct.addField (UintField name address range)

def addBoolField (struct : DeviceStruct) (name : String) (address : Nat) : DeviceStruct :=
  struct.addField (BoolField name address)

def addEnumField (struct : DeviceStruct) (name : String) (address : Nat)
    (enumDefinition : EnumDefinition) : DeviceStruct :=
  struct.addField (EnumField name address enumDefinition)

def addDecimalField (struct : DeviceStruct) (name : String) (address scale : Nat)
    (range : Option (ℚ × ℚ) := none) : DeviceStruct :=
  struct.addField (DecimalField name address scale range)

def addDecimalArrayField (struct : DeviceStruct) (name : String) (address size scale : Nat) : DeviceStruct :=
  struct.addField (DecimalArrayField name address size scale)

def addStringField (struct : DeviceStruct) (name : String) (address size : Nat) : DeviceStruct :=
  struct.addField (StringField name address size)

def addSwapStringField (struct : DeviceStruct) (name : String) (address size : Nat) : DeviceStruct :=
  struct.addField (SwapStringField name address size)

def addVersionField (struct : DeviceStruct) (name : String) (address : Nat) : DeviceStruct :=
  struct.addField (VersionField name address)

def addSerialNumberField (struct : DeviceStruct) (name : String) (address : Nat) : DeviceStruct :=
  struct.addField (SerialNumberField name address)

/-- One round of the loop over the fields. -/
def parseField (startingAddress : Nat) (data : List Byte) (parsed : ParsedFieldMap) (field : DeviceField) :
    Except Failure ParsedFieldMap :=
  let registerRangeEndExclusive := startingAddress + data.length / 2
  let fieldEndExclusive := field.address + field.size
  if field.address < startingAddress ∨ fieldEndExclusive > registerRangeEndExclusive then
    .ok parsed
  else do
    let byteStart := (field.address - startingAddress) * 2
    let value ← field.parse ((data.drop byteStart).take (field.size * 2))
    return if field.isInRange value then ParsedFieldMap.assign parsed field.name value else parsed

def parse (struct : DeviceStruct) (startingAddress : Nat) (data : List Byte) :
    Except Failure ParsedFieldMap :=
  if data.length % 2 ≠ 0 then
    .error (.rangeError s!"Register data length must be even, got {data.length}"
      (.number (.ofInt data.length)))
  else
    struct.fields.foldlM (parseField startingAddress data) OrderedMap.empty

end DeviceStruct

end BluettiMqtt
