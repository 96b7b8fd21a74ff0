import BluettiMqtt.Devices.Struct

namespace BluettiMqtt

/-- The register layout, polling windows and writable ranges of one product
family; the entries that only the diagnostic logger reads are left out. -/
structure DeviceDefinition where
  type : String
  packNumMax : Nat
  pollingCommands : List ReadHoldingRegisters
  packPollingCommands : Option (List ReadHoldingRegisters) := none
  writableRanges : Option (List WritableRange) := none
  buildStruct : DeviceStruct
  deriving DecidableEq

/-- The fields whose registers may be written. -/
def DeviceDefinition.writableFields (definition : DeviceDefinition) : List DeviceField :=
  definition.buildStruct.fields.filter fun field =>
    isAddressWritable field.address (definition.writableRanges.getD [])

/-- A `BluettiDeviceModel`, the only subclass of `BluettiDevice`. -/
structure BluettiDevice where
  address : String
  serialNumber : String
  definition : DeviceDefinition
  deriving DecidableEq

/-- What `parseCommandValue` produces and the setters accept. -/
inductive CommandValue
  | boolean (value : Bool)
  | number (value : Number)
  | string (value : String)
  deriving DecidableEq

/-- The property names that every object literal inherits. -/
def OBJECT_PROTOTYPE : List String :=
  ["constructor", "__defineGetter__", "__defineSetter__", "hasOwnProperty", "__lookupGetter__",
   "__lookupSetter__", "isPrototypeOf", "propertyIsEnumerable", "toString", "valueOf", "__proto__",
   "toLocaleString"]

/-- Indexing an object literal, `undefined` being `none`. -/
def EnumDefinition.property (enumDefinition : EnumDefinition) (name : String) : Option Operand :=
  match enumDefinition.options.find? fun option => option.1 = name with
  | some (_, value) => some (.number (.ofInt value))
  | none => if name ∈ OBJECT_PROTOTYPE then some (.inherited name) else none

namespace BluettiDevice

def type (device : BluettiDevice) : String :=
  device.definition.type

def struct (device : BluettiDevice) : DeviceStruct :=
  device.definition.buildStruct

/-- Decodes one register window through the model's schema. -/
def parse (device : BluettiDevice) (address : Nat) (data : List Byte) : Except Failure ParsedFieldMap :=
  device.struct.parse address data

def packNumMax (device : BluettiDevice) : Nat :=
  device.definition.packNumMax

def pollingCommands (device : BluettiDevice) : List ReadHoldingRegisters :=
  device.definition.pollingCommands

def fastPollingCommands (device : BluettiDevice) : List ReadHoldingRegisters :=
  device.pollingCommands.take 1

def slowPollingCommands (device : BluettiDevice) : List ReadHoldingRegisters :=
  device.pollingCommands.drop device.fastPollingCommands.length

def packPollingCommands (device : BluettiDevice) : List ReadHoldingRegisters :=
  device.definition.packPollingCommands.getD []

def writableRanges (device : BluettiDevice) : List WritableRange :=
  device.definition.writableRanges.getD []

/-- The test that `hasFieldSetter` and `buildSetterCommand` put to each field. -/
def settable (device : BluettiDevice) (fieldName : String) (field : DeviceField) : Bool :=
  field.name = fieldName && isAddressWritable field.address device.writableRanges

def hasFieldSetter (device : BluettiDevice) (fieldName : String) : Bool :=
  device.struct.fields.any (device.settable fieldName)

/-- The register word for a value, as the branches of `buildSetterCommand`
compute it. -/
def encodedValue (fieldName : String) (field : DeviceField) (value : CommandValue) :
    Except Failure Operand :=
  match field.kind with
  | .enum enumDefinition =>
    match value with
    | .number number => .ok (.number number)
    | .string text =>
      match enumDefinition.property text with
      | some found => .ok found
      | none => .error (.error s!"Field {fieldName} expects a known enum option")
    | .boolean _ => .error (.error s!"Field {fieldName} expects a known enum option")
  | .bool =>
    match value with
    | .boolean flag => .ok (.number (.ofInt (if flag then 1 else 0)))
    | _ => .error (.error s!"Field {fieldName} expects a boolean value")
  | _ =>
    match value with
    | .number number =>
      if number.integer?.isSome then .ok (.number number)
      else .error (.error s!"Field {fieldName} expects an integer value")
    | _ => .error (.error s!"Field {fieldName} expects an integer value")

def buildSetterCommand (device : BluettiDevice) (fieldName : String) (value : CommandValue) :
    Except Failure WriteSingleRegister :=
  match device.struct.fields.find? (device.settable fieldName) with
  | none => .error (.error s!"Field {fieldName} is not writable on {device.type}")
  | some field => do
    let encoded ← encodedValue fieldName field value
    WriteSingleRegister.create (.number (.ofInt field.address)) encoded

def writableFields (device : BluettiDevice) : List DeviceField :=
  device.definition.writableFields

end BluettiDevice

end BluettiMqtt
