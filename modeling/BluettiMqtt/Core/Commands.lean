import BluettiMqtt.Core.Crc
import BluettiMqtt.Core.Failure

namespace BluettiMqtt

def MODBUS_UNIT_ADDRESS : Byte := 1#8

def FC_READ_HOLDING_REGISTERS : Byte := 3#8

def FC_WRITE_SINGLE_REGISTER : Byte := 6#8

def FC_WRITE_MULTIPLE_REGISTERS : Byte := 16#8

def MAX_READ_REGISTER_COUNT : Nat := 125

def MAX_WRITE_REGISTER_COUNT : Nat := 123

def EXCEPTION_FLAG_MASK : Byte := 0x80#8

def EXCEPTION_FRAME_SIZE : Nat := 5

def WRITE_ECHO_SIZE : Nat := 8

/-- The guard of `writeUint16BigEndian`. -/
def expectUint16 (value : Operand) : Except Failure (BitVec 16) :=
  match value with
  | .number number =>
    match number.integer? with
    | some integer =>
      if 0 ≤ integer ∧ integer ≤ 0xffff then
        .ok (BitVec.ofNat 16 integer.toNat)
      else
        .error (.rangeError "Expected uint16 value" value)
    | none => .error (.rangeError "Expected uint16 value" value)
  | .inherited _ => .error (.rangeError "Expected uint16 value" value)

/-- The two bytes `writeUint16BigEndian` stores once its guard has passed. -/
def writeUint16BigEndian (value : BitVec 16) : List Byte :=
  [(value >>> 8).setWidth 8, value.setWidth 8]

theorem expectUint16_ofNat {value : Nat} (bound : value ≤ 0xffff) :
    expectUint16 (.number (.ofInt value)) = .ok (BitVec.ofNat 16 value) := by
  have upper : (value : Int) ≤ 0xffff := by omega
  simp [expectUint16, upper]

structure ReadHoldingRegisters where
  startingAddress : BitVec 16
  quantity : Nat
  quantity_pos : 1 ≤ quantity
  quantity_le : quantity ≤ MAX_READ_REGISTER_COUNT
  deriving DecidableEq

def ReadHoldingRegisters.create (startingAddress quantity : Number) :
    Except Failure ReadHoldingRegisters :=
  match quantity.integer? with
  | some count =>
    if bounds : 1 ≤ count.toNat ∧ count.toNat ≤ MAX_READ_REGISTER_COUNT then do
      let address ← expectUint16 (.number startingAddress)
      return { startingAddress := address, quantity := count.toNat,
               quantity_pos := bounds.1, quantity_le := bounds.2 }
    else
      .error (.rangeError "Read quantity must be an integer from 1 to 125" (.number quantity))
  | none => .error (.rangeError "Read quantity must be an integer from 1 to 125" (.number quantity))

/-- A read request with literal arguments. -/
def ReadHoldingRegisters.of (startingAddress : BitVec 16) (quantity : Nat)
    (bounds : decide (1 ≤ quantity ∧ quantity ≤ MAX_READ_REGISTER_COUNT) = true := by exact Eq.refl true) :
    ReadHoldingRegisters :=
  { startingAddress := startingAddress, quantity := quantity, quantity_pos := (of_decide_eq_true bounds).1,
    quantity_le := (of_decide_eq_true bounds).2 }

structure WriteSingleRegister where
  address : BitVec 16
  value : BitVec 16
  deriving DecidableEq

def WriteSingleRegister.create (address value : Operand) : Except Failure WriteSingleRegister := do
  let target ← expectUint16 address
  let word ← expectUint16 value
  return { address := target, value := word }

structure WriteMultipleRegisters where
  startingAddress : BitVec 16
  data : List Byte
  data_even : data.length % 2 = 0
  count_pos : 1 ≤ data.length / 2
  count_le : data.length / 2 ≤ MAX_WRITE_REGISTER_COUNT
  deriving DecidableEq

def WriteMultipleRegisters.create (startingAddress : Number) (data : List Byte) :
    Except Failure WriteMultipleRegisters :=
  if even : data.length % 2 = 0 then
    if bounds : 1 ≤ data.length / 2 ∧ data.length / 2 ≤ MAX_WRITE_REGISTER_COUNT then do
      let address ← expectUint16 (.number startingAddress)
      return { startingAddress := address, data := data, data_even := even,
               count_pos := bounds.1, count_le := bounds.2 }
    else
      .error (.rangeError "Write quantity must be from 1 to 123 registers"
        (.number (.ofInt (data.length / 2 : Nat))))
  else
    .error (.error "Register payload size must be a multiple of 2")

/-- The three concrete request classes; their shared base class is the set of
functions below. -/
inductive DeviceCommand
  | readHoldingRegisters (request : ReadHoldingRegisters)
  | writeSingleRegister (request : WriteSingleRegister)
  | writeMultipleRegisters (request : WriteMultipleRegisters)
  deriving DecidableEq

namespace DeviceCommand

def functionCode : DeviceCommand → Byte
  | .readHoldingRegisters _ => FC_READ_HOLDING_REGISTERS
  | .writeSingleRegister _ => FC_WRITE_SINGLE_REGISTER
  | .writeMultipleRegisters _ => FC_WRITE_MULTIPLE_REGISTERS

/-- The function-specific payload handed to the base constructor. -/
def data : DeviceCommand → List Byte
  | .readHoldingRegisters request =>
    writeUint16BigEndian request.startingAddress ++
      writeUint16BigEndian (BitVec.ofNat 16 request.quantity)
  | .writeSingleRegister request =>
    writeUint16BigEndian request.address ++ writeUint16BigEndian request.value
  | .writeMultipleRegisters request =>
    writeUint16BigEndian request.startingAddress ++
      writeUint16BigEndian (BitVec.ofNat 16 (request.data.length / 2)) ++
      [BitVec.ofNat 8 request.data.length] ++ request.data

def frame (command : DeviceCommand) : List Byte :=
  appendModbusCrc (MODBUS_UNIT_ADDRESS :: command.functionCode :: command.data)

def toBytes (command : DeviceCommand) : List Byte :=
  command.frame

def responseSize : DeviceCommand → Nat
  | .readHoldingRegisters request => 2 * request.quantity + 5
  | .writeSingleRegister _ => WRITE_ECHO_SIZE
  | .writeMultipleRegisters _ => WRITE_ECHO_SIZE

def isExceptionResponse (command : DeviceCommand) (response : List Byte) : Bool :=
  response.length == EXCEPTION_FRAME_SIZE &&
    response[0]? == some MODBUS_UNIT_ADDRESS &&
    response[1]? == some (command.functionCode + EXCEPTION_FLAG_MASK) &&
    hasValidModbusCrc response

/-- `isValidResponse` of the base class. -/
def hasValidIdentity (command : DeviceCommand) (response : List Byte) : Bool :=
  response.length == command.responseSize &&
    response[0]? == some MODBUS_UNIT_ADDRESS &&
    response[1]? == some command.functionCode &&
    hasValidModbusCrc response

def isValidResponse (command : DeviceCommand) (response : List Byte) : Bool :=
  match command with
  | .readHoldingRegisters request =>
    command.hasValidIdentity response &&
      response[2]?.map BitVec.toNat == some (request.quantity * 2)
  | .writeSingleRegister _ =>
    command.hasValidIdentity response && response.take 6 == command.frame.take 6
  | .writeMultipleRegisters _ =>
    command.hasValidIdentity response && response.take 6 == command.frame.take 6

def parseResponse (command : DeviceCommand) (response : List Byte) : List Byte :=
  match command with
  | .readHoldingRegisters _ => (response.take (response.length - 2)).drop 3
  | .writeSingleRegister _ => (response.take 6).drop 4
  | .writeMultipleRegisters _ => response

theorem isExceptionResponse_iff {command : DeviceCommand} {response : List Byte} :
    command.isExceptionResponse response = true ↔
      response.length = EXCEPTION_FRAME_SIZE ∧ response[0]? = some MODBUS_UNIT_ADDRESS ∧
        response[1]? = some (command.functionCode + EXCEPTION_FLAG_MASK) ∧
        hasValidModbusCrc response = true := by
  simp only [isExceptionResponse, Bool.and_eq_true, beq_iff_eq, and_assoc]

theorem hasValidIdentity_iff {command : DeviceCommand} {response : List Byte} :
    command.hasValidIdentity response = true ↔
      response.length = command.responseSize ∧ response[0]? = some MODBUS_UNIT_ADDRESS ∧
        response[1]? = some command.functionCode ∧ hasValidModbusCrc response = true := by
  simp only [hasValidIdentity, Bool.and_eq_true, beq_iff_eq, and_assoc]

theorem isValidResponse_identity {command : DeviceCommand} {response : List Byte}
    (valid : command.isValidResponse response = true) : command.hasValidIdentity response = true := by
  cases command <;>
    · simp only [isValidResponse, Bool.and_eq_true] at valid
      exact valid.1

/-- Every successful response is longer than an exception frame. -/
theorem exceptionFrame_lt_responseSize (command : DeviceCommand) :
    EXCEPTION_FRAME_SIZE < command.responseSize := by
  cases command with
  | readHoldingRegisters request =>
    have positive := request.quantity_pos
    simp only [responseSize, EXCEPTION_FRAME_SIZE]
    omega
  | writeSingleRegister => exact show 5 < 8 by decide
  | writeMultipleRegisters => exact show 5 < 8 by decide

/-- The exception flag is never part of a request's own function code, so a
byte in second place tells the two kinds of response apart. -/
theorem functionCode_ne_exception (command : DeviceCommand) :
    command.functionCode ≠ command.functionCode + EXCEPTION_FLAG_MASK := by
  have plain (code : Byte) (low : code < EXCEPTION_FLAG_MASK) : code ≠ code + EXCEPTION_FLAG_MASK := by
    unfold EXCEPTION_FLAG_MASK at *
    bv_omega
  cases command with
  | readHoldingRegisters => exact plain FC_READ_HOLDING_REGISTERS (by decide)
  | writeSingleRegister => exact plain FC_WRITE_SINGLE_REGISTER (by decide)
  | writeMultipleRegisters => exact plain FC_WRITE_MULTIPLE_REGISTERS (by decide)

/-- No strict prefix of a valid response, nor the response itself, reads as an
exception: its second byte is the plain function code. -/
theorem isValidResponse_prefix_not_exception {command : DeviceCommand} {response received : List Byte}
    (valid : command.isValidResponse response = true) (initial : received <+: response) :
    command.isExceptionResponse received = false := by
  rw [Bool.eq_false_iff]
  intro exception
  obtain ⟨length, _, flagged, _⟩ := isExceptionResponse_iff.mp exception
  obtain ⟨_, _, plain, _⟩ := hasValidIdentity_iff.mp (isValidResponse_identity valid)
  have within : 1 < received.length := by simp only [length, EXCEPTION_FRAME_SIZE]; omega
  have same : received[1]? = response[1]? := by
    rw [List.getElem?_eq_getElem within, initial.getElem within, ← List.getElem?_eq_getElem]
  rw [flagged, plain] at same
  exact functionCode_ne_exception command (Option.some.inj same).symm

end DeviceCommand

end BluettiMqtt
