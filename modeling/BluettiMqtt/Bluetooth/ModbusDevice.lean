import BluettiMqtt.Bluetooth.SessionFrames
import BluettiMqtt.Core.RequestFrames
import BluettiMqtt.Core.ResponseGrammar
import BluettiMqtt.Devices.WindowDecoding

namespace BluettiMqtt
open Promise

/-- The registers once big-endian words have been stored from an address on. -/
def RegisterImage.store (image : RegisterImage) (start : Nat) (data : List Byte) : RegisterImage :=
  fun address =>
    match data[2 * (address - start)]?, data[2 * (address - start) + 1]? with
    | some high, some low => if start ≤ address then decodeWord high low else image address
    | _, _ => image address

/-- The registers that a request writes, by their first address and their number. -/
def DeviceCommand.written : DeviceCommand → Nat × Nat
  | .readHoldingRegisters _ => (0, 0)
  | .writeSingleRegister request => (request.address.toNat, 1)
  | .writeMultipleRegisters request => (request.startingAddress.toNat, request.data.length / 2)

/-- The request changes the register at an address. -/
def DeviceCommand.Writes (command : DeviceCommand) (address : Nat) : Prop :=
  command.written.1 ≤ address ∧ address < command.written.1 + command.written.2

namespace DeviceCommand

/-- What a device makes of its registers when it executes a request. -/
def execute : DeviceCommand → RegisterImage → RegisterImage
  | .readHoldingRegisters _, image => image
  | .writeSingleRegister request, image =>
    image.store request.address.toNat (writeUint16BigEndian request.value)
  | .writeMultipleRegisters request, image => image.store request.startingAddress.toNat request.data

/-- The response to a request that is executed on the given registers. -/
def success : DeviceCommand → RegisterImage → List Byte
  | .readHoldingRegisters request, image =>
    appendModbusCrc (MODBUS_UNIT_ADDRESS :: [FC_READ_HOLDING_REGISTERS, BitVec.ofNat 8 (2 * request.quantity)] ++
      imageBytes image request.startingAddress.toNat request.quantity)
  | .writeSingleRegister request, _ => (DeviceCommand.writeSingleRegister request).frame
  | .writeMultipleRegisters request, _ => appendModbusCrc ((DeviceCommand.writeMultipleRegisters request).frame.take 6)

/-- The response to a request that is refused with an exception code. -/
def refusal (command : DeviceCommand) (code : Byte) : List Byte :=
  appendModbusCrc (MODBUS_UNIT_ADDRESS :: [command.functionCode + EXCEPTION_FLAG_MASK, code])

theorem success_isValidResponse (command : DeviceCommand) (image : RegisterImage) :
    command.isValidResponse (command.success image) = true := by
  cases command with
  | readHoldingRegisters request => exact read_isValidResponse_iff.mpr ⟨_, by simp [Nat.mul_comm], rfl⟩
  | writeSingleRegister request => exact single_isValidResponse_iff.mpr rfl
  | writeMultipleRegisters request => exact multiple_isValidResponse_iff.mpr rfl

theorem refusal_isExceptionResponse (command : DeviceCommand) (code : Byte) :
    command.isExceptionResponse (command.refusal code) = true :=
  isExceptionResponse_iff_framed.mpr ⟨code, rfl⟩

/-- The data of an executed read are its registers. -/
theorem success_parseResponse (request : ReadHoldingRegisters) (image : RegisterImage) :
    (readHoldingRegisters request).parseResponse ((readHoldingRegisters request).success image) =
      imageBytes image request.startingAddress.toNat request.quantity :=
  read_parseResponse _ _ _ _

end DeviceCommand

section Store

variable (image : RegisterImage) {start address : Nat} {data : List Byte}

theorem RegisterImage.store_outside (outside : ¬(start ≤ address ∧ address < start + data.length / 2)) :
    image.store start data address = image address := by
  unfold RegisterImage.store
  split
  · next high low first second =>
    have inside := (List.getElem?_eq_some_iff.mp second).1
    rw [if_neg fun lower => outside ⟨lower, by omega⟩]
  · rfl

/-- The word of one register after it has been written alone. -/
theorem RegisterImage.store_word (word : BitVec 16) :
    image.store start (writeUint16BigEndian word) start = word := by
  simp [RegisterImage.store, writeUint16BigEndian, decodeWord_write]

/-- A request leaves the registers that it does not write alone. -/
theorem DeviceCommand.execute_outside {command : DeviceCommand} (outside : ¬command.Writes address) :
    command.execute image address = image address := by
  cases command with
  | readHoldingRegisters request => rfl
  | writeSingleRegister request =>
    have width : (writeUint16BigEndian request.value).length = 2 := rfl
    exact image.store_outside (by rw [width]; exact outside)
  | writeMultipleRegisters request => exact image.store_outside outside

end Store

/-- A request that a device has taken, with the exception code it was refused
with or `none` if it was executed. -/
structure Served where
  call : CallId
  command : DeviceCommand
  refused : Option Byte
  deriving DecidableEq

namespace Served

/-- The registers after a request has been served. -/
def apply (image : RegisterImage) (served : Served) : RegisterImage :=
  match served.refused with
  | none => served.command.execute image
  | some _ => image

/-- The bytes with which a request is answered. -/
def answer (image : RegisterImage) (served : Served) : List Byte :=
  match served.refused with
  | none => served.command.success image
  | some code => served.command.refusal code

/-- The registers after a series of requests, first to last. -/
def after (image : RegisterImage) (requests : List Served) : RegisterImage :=
  requests.foldl apply image

theorem after_append (image : RegisterImage) (first second : List Served) :
    after image (first ++ second) = after (after image first) second :=
  List.foldl_append

/-- Requests that were refused or write elsewhere leave a register alone. -/
theorem after_untouched {image : RegisterImage} {requests : List Served} {address : Nat}
    (untouched : ∀ served ∈ requests, served.refused = none → ¬served.command.Writes address) :
    after image requests address = image address := by
  induction requests generalizing image with
  | nil => rfl
  | cons served rest ih =>
    refine (ih fun other member => untouched other (List.mem_cons_of_mem _ member)).trans ?_
    cases refused : served.refused with
    | none =>
      rw [apply, refused]
      exact DeviceCommand.execute_outside image (untouched served List.mem_cons_self refused)
    | some code => rw [apply, refused]

/-- How the response promise of the command is settled by the answer. -/
def outcome (image : RegisterImage) (served : Served) : Settlement Failure (List Byte) :=
  DeviceSession.frameOutcome served.command (served.answer image)

theorem answer_accepts (image : RegisterImage) (served : Served) : served.command.Accepts (served.answer image) := by
  unfold answer
  split
  · exact Or.inl (served.command.success_isValidResponse image)
  · next code _ => exact Or.inr (served.command.refusal_isExceptionResponse code)

theorem answer_ne_nil (image : RegisterImage) (served : Served) : served.answer image ≠ [] := by
  intro none_
  rcases served.answer_accepts image with valid | exception
  · have length := (DeviceCommand.hasValidIdentity_iff.mp (DeviceCommand.isValidResponse_identity valid)).1
    have long := served.command.exceptionFrame_lt_responseSize
    rw [none_, List.length_nil] at length
    omega
  · have length := (DeviceCommand.isExceptionResponse_iff.mp exception).1
    rw [none_] at length
    cases length

/-- An executed request fulfils its command with the response of the device. -/
theorem outcome_executed {image : RegisterImage} {served : Served} (executed : served.refused = none) :
    served.outcome image = .fulfilled (served.command.success image) := by
  have valid := served.command.success_isValidResponse image
  have plain := DeviceCommand.isValidResponse_prefix_not_exception valid (List.prefix_refl _)
  simp [outcome, answer, executed, DeviceSession.frameOutcome, plain]

/-- A refused request rejects its command with the exception code of the device. -/
theorem outcome_refused {image : RegisterImage} {served : Served} {code : Byte} (refused : served.refused = some code) :
    served.outcome image = .rejected
      (if code = 5#8 then .deviceBusyError (DeviceSession.exceptionMessage served.command 5) 5
       else .modbusError (DeviceSession.exceptionMessage served.command code.toNat) code.toNat) := by
  have exception := served.command.refusal_isExceptionResponse code
  have third : (served.command.refusal code)[2]? = some code := appendModbusCrc_getElem? (by simp)
  obtain ⟨found, place, error⟩ := DeviceSession.buildModbusException_code exception
  cases third.symm.trans place
  simp only [outcome, answer, refused, DeviceSession.frameOutcome, exception, if_true, error]

end Served

end BluettiMqtt
