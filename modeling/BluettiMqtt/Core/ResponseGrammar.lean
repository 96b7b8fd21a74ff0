import BluettiMqtt.Core.Commands

namespace BluettiMqtt

theorem appendModbusCrc_getElem? {data : List Byte} {i : Nat} (inside : i < data.length) :
    (appendModbusCrc data)[i]? = data[i]? :=
  List.getElem?_append_left inside

theorem appendModbusCrc_take {data : List Byte} {count : Nat} (inside : count ≤ data.length) :
    (appendModbusCrc data).take count = data.take count := by
  rw [appendModbusCrc, List.take_append_of_le_length inside]

/-- Bytes that carry their checksum behind a given header of two bytes. -/
theorem framed_iff {response : List Byte} {unit code : Byte} {size : Nat} (room : 0 < size) :
    (response.length = size + 4 ∧ response[0]? = some unit ∧ response[1]? = some code ∧
        hasValidModbusCrc response = true) ↔
      ∃ rest, rest.length = size ∧ response = appendModbusCrc (unit :: code :: rest) := by
  constructor
  · rintro ⟨length, first, second, valid⟩
    obtain ⟨data, _, rfl⟩ := hasValidModbusCrc_iff.mp valid
    rw [appendModbusCrc_length] at length
    rw [appendModbusCrc_getElem? (by omega)] at first second
    obtain _ | ⟨_, _ | ⟨_, rest⟩⟩ := data
    · cases first
    · cases second
    · cases first
      cases second
      simp only [List.length_cons] at length
      exact ⟨rest, by omega, rfl⟩
  · rintro ⟨rest, rfl, rfl⟩
    refine ⟨by simp, ?_, ?_, hasValidModbusCrc_appendModbusCrc (List.cons_ne_nil _ _)⟩
    · exact appendModbusCrc_getElem? (by simp)
    · exact appendModbusCrc_getElem? (by simp)

namespace DeviceCommand

variable {command : DeviceCommand} {response received : List Byte}

theorem hasValidIdentity_iff_framed :
    command.hasValidIdentity response = true ↔ ∃ rest, rest.length + 4 = command.responseSize ∧
      response = appendModbusCrc (MODBUS_UNIT_ADDRESS :: command.functionCode :: rest) := by
  have long := command.exceptionFrame_lt_responseSize
  simp only [EXCEPTION_FRAME_SIZE] at long
  obtain ⟨size, sum⟩ := Nat.exists_eq_add_of_le' (show 4 ≤ command.responseSize by omega)
  rw [hasValidIdentity_iff, sum, framed_iff (by omega)]
  simp only [Nat.add_right_cancel_iff]

/-- Every exception frame is one byte between the flagged function code and the
checksum. -/
theorem isExceptionResponse_iff_framed :
    command.isExceptionResponse response = true ↔ ∃ code, response =
      appendModbusCrc (MODBUS_UNIT_ADDRESS :: [command.functionCode + EXCEPTION_FLAG_MASK, code]) := by
  rw [isExceptionResponse_iff, show EXCEPTION_FRAME_SIZE = 1 + 4 from rfl, framed_iff (by decide)]
  constructor
  · rintro ⟨rest, length, rfl⟩
    obtain ⟨code, rfl⟩ := List.length_eq_one_iff.mp length
    exact ⟨code, rfl⟩
  · rintro ⟨code, rfl⟩
    exact ⟨[code], rfl, rfl⟩

theorem read_isValidResponse_iff {request : ReadHoldingRegisters} :
    (readHoldingRegisters request).isValidResponse response = true ↔
      ∃ data : List Byte, data.length = 2 * request.quantity ∧ response = appendModbusCrc
        (MODBUS_UNIT_ADDRESS :: [FC_READ_HOLDING_REGISTERS, BitVec.ofNat 8 (2 * request.quantity)] ++ data) := by
  have small : 2 * request.quantity < 2 ^ 8 := by
    have bound := request.quantity_le
    simp only [MAX_READ_REGISTER_COUNT] at bound
    omega
  have count (byte : Byte) : byte.toNat = request.quantity * 2 ↔ byte = BitVec.ofNat 8 (2 * request.quantity) := by
    rw [Nat.mul_comm, ← BitVec.toNat_inj, BitVec.toNat_ofNat, Nat.mod_eq_of_lt small]
  simp only [isValidResponse, Bool.and_eq_true, hasValidIdentity_iff_framed, beq_iff_eq, Option.map_eq_some_iff, count]
  constructor
  · rintro ⟨⟨rest, length, rfl⟩, byte, third, rfl⟩
    simp only [responseSize] at length
    rw [appendModbusCrc_getElem? (by simp only [List.length_cons]; omega)] at third
    obtain _ | ⟨byte, data⟩ := rest
    · cases third
    · cases third
      simp only [List.length_cons] at length
      exact ⟨data, by omega, rfl⟩
  · rintro ⟨data, length, rfl⟩
    refine ⟨⟨_ :: data, ?_, rfl⟩, _, appendModbusCrc_getElem? (by simp), rfl⟩
    simp only [List.length_cons, responseSize]
    omega

/-- The data of a read are what stands between the byte count and the checksum. -/
theorem read_parseResponse {request : ReadHoldingRegisters} (unit code count : Byte) (data : List Byte) :
    (readHoldingRegisters request).parseResponse (appendModbusCrc ([unit, code, count] ++ data)) = data := by
  have body : (appendModbusCrc ([unit, code, count] ++ data)).take
      ((appendModbusCrc ([unit, code, count] ++ data)).length - 2) = [unit, code, count] ++ data := by
    rw [appendModbusCrc_length, Nat.add_sub_cancel, appendModbusCrc_take le_rfl, List.take_length]
  simp only [parseResponse, body]
  rfl

/-- Both writes are answered by the first six bytes of their request. -/
theorem echo_iff (echoes : command.responseSize = WRITE_ECHO_SIZE) (long : 4 ≤ command.data.length) :
    command.hasValidIdentity response = true ∧ response.take 6 = command.frame.take 6 ↔
      response = appendModbusCrc (command.frame.take 6) := by
  have start : command.frame.take 6 = MODBUS_UNIT_ADDRESS :: command.functionCode :: command.data.take 4 := by
    rw [frame, appendModbusCrc_take (by simp only [List.length_cons]; omega)]
    rfl
  rw [start, hasValidIdentity_iff_framed, echoes]
  constructor
  · rintro ⟨⟨rest, length, rfl⟩, same⟩
    have four : rest.length = 4 := Nat.add_right_cancel (m := 4) length
    rw [appendModbusCrc_take (by simp only [List.length_cons]; omega), List.take_of_length_le (by simp [four])] at same
    rw [same]
  · rintro rfl
    have four : (command.data.take 4).length = 4 := List.length_take_of_le long
    refine ⟨⟨_, congrArg (· + 4) four, rfl⟩, ?_⟩
    rw [appendModbusCrc_take (by simp [four]), List.take_of_length_le (by simp [four])]

theorem single_isValidResponse_iff {request : WriteSingleRegister} :
    (writeSingleRegister request).isValidResponse response = true ↔
      response = (writeSingleRegister request).frame := by
  have whole : (writeSingleRegister request).frame =
      appendModbusCrc ((writeSingleRegister request).frame.take 6) := rfl
  rw [whole, ← echo_iff rfl (by simp [DeviceCommand.data, writeUint16BigEndian])]
  simp only [isValidResponse, Bool.and_eq_true, beq_iff_eq]

theorem multiple_isValidResponse_iff {request : WriteMultipleRegisters} :
    (writeMultipleRegisters request).isValidResponse response = true ↔
      response = appendModbusCrc ((writeMultipleRegisters request).frame.take 6) := by
  rw [← echo_iff rfl (by simp [DeviceCommand.data, writeUint16BigEndian])]
  simp only [isValidResponse, Bool.and_eq_true, beq_iff_eq]

/-- An accepted response is no part of a longer one. -/
theorem accepted_prefix_free (accepted : command.isValidResponse response = true ∨ command.isExceptionResponse response = true)
    (early : command.isValidResponse received = true ∨ command.isExceptionResponse received = true)
    (initial : received <+: response) : received = response := by
  have size {response : List Byte} (valid : command.isValidResponse response = true) :
      response.length = command.responseSize := (hasValidIdentity_iff.mp (isValidResponse_identity valid)).1
  have flagged {response : List Byte} (exception : command.isExceptionResponse response = true) :
      response.length = EXCEPTION_FRAME_SIZE := (isExceptionResponse_iff.mp exception).1
  have long := command.exceptionFrame_lt_responseSize
  have reach := initial.length_le
  rcases accepted with valid | exception
  · rcases early with first | first
    · exact initial.eq_of_length (by rw [size first, size valid])
    · rw [isValidResponse_prefix_not_exception valid initial] at first
      cases first
  · rcases early with first | first
    · rw [size first, flagged exception] at reach
      omega
    · exact initial.eq_of_length (by rw [flagged first, flagged exception])

/-- The responses that a command accepts are those of the grammar, and none of
them is part of another or both a success and an exception. -/
theorem responses_follow_grammar :
    (∀ (request : ReadHoldingRegisters) (response : List Byte),
      ((readHoldingRegisters request).isValidResponse response = true ↔
        ∃ data : List Byte, data.length = 2 * request.quantity ∧ response = appendModbusCrc
          (MODBUS_UNIT_ADDRESS :: [FC_READ_HOLDING_REGISTERS, BitVec.ofNat 8 (2 * request.quantity)] ++ data)) ∧
      ∀ data : List Byte, response = appendModbusCrc
          (MODBUS_UNIT_ADDRESS :: [FC_READ_HOLDING_REGISTERS, BitVec.ofNat 8 (2 * request.quantity)] ++ data) →
        (readHoldingRegisters request).parseResponse response = data) ∧
    (∀ (request : WriteSingleRegister) (response : List Byte),
      (writeSingleRegister request).isValidResponse response = true ↔
        response = (writeSingleRegister request).frame) ∧
    (∀ (request : WriteMultipleRegisters) (response : List Byte),
      (writeMultipleRegisters request).isValidResponse response = true ↔
        response = appendModbusCrc ((writeMultipleRegisters request).frame.take 6)) ∧
    ∀ (command : DeviceCommand) (response : List Byte),
      (command.isExceptionResponse response = true ↔ ∃ code, response =
        appendModbusCrc (MODBUS_UNIT_ADDRESS :: [command.functionCode + EXCEPTION_FLAG_MASK, code])) ∧
      ¬(command.isValidResponse response = true ∧ command.isExceptionResponse response = true) ∧
      ∀ received, command.isValidResponse response = true ∨ command.isExceptionResponse response = true →
        received <+: response → received ≠ response →
        ¬(command.isValidResponse received = true ∨ command.isExceptionResponse received = true) := by
  refine ⟨fun request response => ⟨read_isValidResponse_iff, ?_⟩, fun _ _ => single_isValidResponse_iff,
    fun _ _ => multiple_isValidResponse_iff, fun command response => ⟨isExceptionResponse_iff_framed, ?_, ?_⟩⟩
  · rintro data rfl
    exact read_parseResponse _ _ _ data
  · rintro ⟨valid, exception⟩
    rw [isValidResponse_prefix_not_exception valid (List.prefix_refl response)] at exception
    cases exception
  · intro received accepted initial shorter early
    exact shorter (accepted_prefix_free accepted early initial)

end DeviceCommand

end BluettiMqtt
