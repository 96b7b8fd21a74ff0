import BluettiMqtt.Core.Commands
import Mathlib.Data.Rat.Lemmas

namespace BluettiMqtt

/-- An integer from 0 to 65535. -/
def IsUint16 (value : Operand) : Prop :=
  ∃ integer : Nat, integer ≤ 0xffff ∧ value = .number (.ofInt integer)

theorem Number.integer?_eq_some {number : Number} {integer : Int} :
    number.integer? = some integer ↔ number = .ofInt integer := by
  constructor
  · intro found
    cases number with
    | finite value =>
      obtain ⟨whole, same⟩ := Option.ite_none_right_eq_some.mp found
      cases same
      exact congrArg Number.finite (Rat.coe_int_num_of_den_eq_one whole).symm
    | infinite => cases found
    | notANumber => cases found
  · rintro rfl
    exact Number.integer?_ofInt integer

theorem expectUint16_eq_ok {value : Operand} {word : BitVec 16} :
    expectUint16 value = .ok word ↔ value = .number (.ofInt word.toNat) := by
  constructor
  · intro accepted
    unfold expectUint16 at accepted
    split at accepted
    · split at accepted
      · rename_i number integer found
        split at accepted
        · rename_i bounds
          cases accepted
          obtain ⟨n, rfl⟩ := Int.eq_ofNat_of_zero_le bounds.1
          rw [Number.integer?_eq_some.mp found, BitVec.toNat_ofNat, Nat.mod_eq_of_lt (by omega)]
          rfl
        · cases accepted
      · cases accepted
    · cases accepted
  · rintro rfl
    rw [expectUint16_ofNat (by have := word.isLt; omega), BitVec.ofNat_toNat, BitVec.setWidth_eq]

theorem expectUint16_accepts {value : Operand} : (∃ word, expectUint16 value = .ok word) ↔ IsUint16 value := by
  constructor
  · rintro ⟨word, accepted⟩
    exact ⟨word.toNat, by have := word.isLt; omega, expectUint16_eq_ok.mp accepted⟩
  · rintro ⟨integer, bound, rfl⟩
    exact ⟨_, expectUint16_ofNat bound⟩

theorem throws_iff {α : Type} {result : Except Failure α} : (∃ error, result = .error error) ↔ ¬∃ value, result = .ok value := by
  cases result with
  | ok => simp
  | error => simp

theorem ReadHoldingRegisters.create_eq_ok {startingAddress quantity : Number} {request : ReadHoldingRegisters} :
    create startingAddress quantity = .ok request ↔
      startingAddress = .ofInt request.startingAddress.toNat ∧ quantity = .ofInt request.quantity := by
  constructor
  · intro accepted
    unfold create at accepted
    split at accepted
    · rename_i count found
      split at accepted
      · rename_i bounds
        cases first : expectUint16 (.number startingAddress) with
        | error => rw [first] at accepted; cases accepted
        | ok address =>
          rw [first] at accepted
          cases accepted
          have whole : (count.toNat : Int) = count := Int.toNat_of_nonneg (by omega)
          refine ⟨Operand.number.inj (expectUint16_eq_ok.mp first), ?_⟩
          rw [Number.integer?_eq_some.mp found, whole]
      · cases accepted
    · cases accepted
  · rintro ⟨rfl, rfl⟩
    have bounds : 1 ≤ request.quantity ∧ request.quantity ≤ MAX_READ_REGISTER_COUNT :=
      ⟨request.quantity_pos, request.quantity_le⟩
    have address : expectUint16 (.number (.ofInt request.startingAddress.toNat)) = .ok request.startingAddress :=
      expectUint16_eq_ok.mpr rfl
    simp only [create, Number.integer?_ofInt, Int.toNat_natCast, bounds, and_self, dite_true, address]
    rfl

theorem WriteSingleRegister.create_eq_ok {address value : Operand} {request : WriteSingleRegister} :
    create address value = .ok request ↔
      address = .number (.ofInt request.address.toNat) ∧ value = .number (.ofInt request.value.toNat) := by
  rw [← expectUint16_eq_ok, ← expectUint16_eq_ok]
  constructor
  · intro accepted
    unfold create at accepted
    cases first : expectUint16 address with
    | error => rw [first] at accepted; cases accepted
    | ok target =>
      cases second : expectUint16 value with
      | error => rw [first, second] at accepted; cases accepted
      | ok word =>
        rw [first, second] at accepted
        cases accepted
        exact ⟨rfl, rfl⟩
  · rintro ⟨target, word⟩
    rw [create, target, word]
    rfl

theorem WriteMultipleRegisters.create_eq_ok {startingAddress : Number} {data : List Byte}
    {request : WriteMultipleRegisters} :
    create startingAddress data = .ok request ↔
      startingAddress = .ofInt request.startingAddress.toNat ∧ data = request.data := by
  constructor
  · intro accepted
    unfold create at accepted
    split at accepted
    · split at accepted
      · cases first : expectUint16 (.number startingAddress) with
        | error => rw [first] at accepted; cases accepted
        | ok address =>
          rw [first] at accepted
          cases accepted
          exact ⟨Operand.number.inj (expectUint16_eq_ok.mp first), rfl⟩
      · cases accepted
    · cases accepted
  · rintro ⟨rfl, rfl⟩
    have address : expectUint16 (.number (.ofInt request.startingAddress.toNat)) = .ok request.startingAddress :=
      expectUint16_eq_ok.mpr rfl
    have bounds : 1 ≤ request.data.length / 2 ∧ request.data.length / 2 ≤ MAX_WRITE_REGISTER_COUNT :=
      ⟨request.count_pos, request.count_le⟩
    simp only [create, request.data_even, bounds, and_self, dite_true, address]
    rfl

/-- The arguments of a read that is not refused. -/
theorem ReadHoldingRegisters.create_accepts {startingAddress quantity : Number} :
    (∃ request, create startingAddress quantity = .ok request) ↔ IsUint16 (.number startingAddress) ∧
      ∃ count : Nat, 1 ≤ count ∧ count ≤ MAX_READ_REGISTER_COUNT ∧ quantity = .ofInt count := by
  constructor
  · rintro ⟨request, accepted⟩
    obtain ⟨rfl, rfl⟩ := create_eq_ok.mp accepted
    exact ⟨expectUint16_accepts.mp ⟨_, expectUint16_eq_ok.mpr rfl⟩,
      request.quantity, request.quantity_pos, request.quantity_le, rfl⟩
  · rintro ⟨address, count, positive, bounded, rfl⟩
    obtain ⟨word, same⟩ := expectUint16_accepts.mpr address
    exact ⟨⟨word, count, positive, bounded⟩, create_eq_ok.mpr ⟨Operand.number.inj (expectUint16_eq_ok.mp same), rfl⟩⟩

theorem WriteSingleRegister.create_accepts {address value : Operand} :
    (∃ request, create address value = .ok request) ↔ IsUint16 address ∧ IsUint16 value := by
  rw [← expectUint16_accepts, ← expectUint16_accepts]
  constructor
  · rintro ⟨request, accepted⟩
    obtain ⟨rfl, rfl⟩ := create_eq_ok.mp accepted
    exact ⟨⟨_, expectUint16_eq_ok.mpr rfl⟩, _, expectUint16_eq_ok.mpr rfl⟩
  · rintro ⟨⟨target, first⟩, word, second⟩
    exact ⟨⟨target, word⟩, create_eq_ok.mpr ⟨expectUint16_eq_ok.mp first, expectUint16_eq_ok.mp second⟩⟩

theorem WriteMultipleRegisters.create_accepts {startingAddress : Number} {data : List Byte} :
    (∃ request, create startingAddress data = .ok request) ↔ IsUint16 (.number startingAddress) ∧
      data.length % 2 = 0 ∧ 1 ≤ data.length / 2 ∧ data.length / 2 ≤ MAX_WRITE_REGISTER_COUNT := by
  constructor
  · rintro ⟨request, accepted⟩
    obtain ⟨rfl, rfl⟩ := create_eq_ok.mp accepted
    exact ⟨expectUint16_accepts.mp ⟨_, expectUint16_eq_ok.mpr rfl⟩,
      request.data_even, request.count_pos, request.count_le⟩
  · rintro ⟨address, even, positive, bounded⟩
    obtain ⟨word, same⟩ := expectUint16_accepts.mpr address
    exact ⟨⟨word, data, even, positive, bounded⟩,
      create_eq_ok.mpr ⟨Operand.number.inj (expectUint16_eq_ok.mp same), rfl⟩⟩

/-- Two bytes of a frame as a big-endian word. -/
def decodeWord (high low : Byte) : BitVec 16 :=
  (high ++ low : BitVec (8 + 8))

/-- The reference decoder of requests, from the layouts of the three functions. -/
def decodeBody : List Byte → Option DeviceCommand
  | [unit, code, addressHigh, addressLow, high, low] =>
    if unit ≠ MODBUS_UNIT_ADDRESS then none
    else if code = FC_READ_HOLDING_REGISTERS then
      if bounds : 1 ≤ (decodeWord high low).toNat ∧ (decodeWord high low).toNat ≤ MAX_READ_REGISTER_COUNT then
        some (.readHoldingRegisters ⟨decodeWord addressHigh addressLow, _, bounds.1, bounds.2⟩)
      else none
    else if code = FC_WRITE_SINGLE_REGISTER then
      some (.writeSingleRegister ⟨decodeWord addressHigh addressLow, decodeWord high low⟩)
    else none
  | unit :: code :: addressHigh :: addressLow :: high :: low :: byteCount :: data =>
    if bounds : data.length % 2 = 0 ∧ 1 ≤ data.length / 2 ∧ data.length / 2 ≤ MAX_WRITE_REGISTER_COUNT then
      if unit = MODBUS_UNIT_ADDRESS ∧ code = FC_WRITE_MULTIPLE_REGISTERS ∧
          (decodeWord high low).toNat = data.length / 2 ∧ byteCount.toNat = data.length then
        some (.writeMultipleRegisters
          ⟨decodeWord addressHigh addressLow, data, bounds.1, bounds.2.1, bounds.2.2⟩)
      else none
    else none
  | _ => none

def decodeRequest (frame : List Byte) : Option DeviceCommand :=
  if hasValidModbusCrc frame then decodeBody (frame.take (frame.length - 2)) else none

theorem decodeWord_write (word : BitVec 16) : decodeWord ((word >>> 8).setWidth 8) (word.setWidth 8) = word := by
  refine BitVec.eq_of_getLsbD_eq fun i bound => ?_
  simp only [decodeWord, BitVec.getLsbD_append, BitVec.getLsbD_setWidth, BitVec.getLsbD_ushiftRight]
  by_cases low : i < 8
  · simp [low]
  · have position : 8 + (i - 8) = i := by omega
    have inside : i - 8 < 8 := by omega
    simp [low, position, inside]

namespace DeviceCommand

theorem decodeBody_body (command : DeviceCommand) :
    decodeBody (MODBUS_UNIT_ADDRESS :: command.functionCode :: command.data) = some command := by
  cases command with
  | readHoldingRegisters request =>
    obtain ⟨address, quantity, positive, bounded⟩ := request
    have count : (BitVec.ofNat 16 quantity).toNat = quantity := by
      simp only [MAX_READ_REGISTER_COUNT] at bounded
      rw [BitVec.toNat_ofNat, Nat.mod_eq_of_lt (by omega)]
    simp only [DeviceCommand.data, functionCode, writeUint16BigEndian, List.cons_append, List.nil_append, decodeBody,
      decodeWord_write, count, positive, bounded, ne_eq, not_true_eq_false, and_self, dite_true, if_true, if_false]
  | writeSingleRegister request =>
    have other : FC_WRITE_SINGLE_REGISTER ≠ FC_READ_HOLDING_REGISTERS := by decide
    simp [decodeBody, data, functionCode, writeUint16BigEndian, decodeWord_write, other]
  | writeMultipleRegisters request =>
    obtain ⟨address, data, even, positive, bounded⟩ := request
    have small := bounded
    simp only [MAX_WRITE_REGISTER_COUNT] at small
    have count : (BitVec.ofNat 16 (data.length / 2)).toNat = data.length / 2 := by
      rw [BitVec.toNat_ofNat, Nat.mod_eq_of_lt (by omega)]
    -- the byte count of the largest payload is 246
    have bytes : (BitVec.ofNat 8 data.length).toNat = data.length := by
      rw [BitVec.toNat_ofNat, Nat.mod_eq_of_lt (by omega)]
    have bounds : data.length % 2 = 0 ∧ 1 ≤ data.length / 2 ∧ data.length / 2 ≤ MAX_WRITE_REGISTER_COUNT :=
      ⟨even, positive, bounded⟩
    simp only [DeviceCommand.data, functionCode, writeUint16BigEndian, List.cons_append, List.nil_append, decodeBody,
      bounds, count, bytes, and_self, dite_true, if_true, decodeWord_write]

theorem hasValidModbusCrc_frame (command : DeviceCommand) : hasValidModbusCrc command.frame = true :=
  hasValidModbusCrc_appendModbusCrc (List.cons_ne_nil _ _)

/-- A frame decodes to its request. -/
theorem decodeRequest_frame (command : DeviceCommand) : decodeRequest command.frame = some command := by
  have body : command.frame.take (command.frame.length - 2) =
      MODBUS_UNIT_ADDRESS :: command.functionCode :: command.data := by
    simp [frame, appendModbusCrc]
  rw [decodeRequest, hasValidModbusCrc_frame, if_pos rfl, body, decodeBody_body]

/-- The constructors throw for the arguments out of range and keep all others;
the frame of a request decodes to it. -/
theorem request_frames_decode :
    (∀ startingAddress quantity : Number,
      ((∃ error, ReadHoldingRegisters.create startingAddress quantity = .error error) ↔
        ¬(IsUint16 (.number startingAddress) ∧
          ∃ count : Nat, 1 ≤ count ∧ count ≤ MAX_READ_REGISTER_COUNT ∧ quantity = .ofInt count)) ∧
      ∀ request, ReadHoldingRegisters.create startingAddress quantity = .ok request →
        startingAddress = .ofInt request.startingAddress.toNat ∧ quantity = .ofInt request.quantity) ∧
    (∀ address value : Operand,
      ((∃ error, WriteSingleRegister.create address value = .error error) ↔ ¬(IsUint16 address ∧ IsUint16 value)) ∧
      ∀ request, WriteSingleRegister.create address value = .ok request →
        address = .number (.ofInt request.address.toNat) ∧ value = .number (.ofInt request.value.toNat)) ∧
    (∀ (startingAddress : Number) (data : List Byte),
      ((∃ error, WriteMultipleRegisters.create startingAddress data = .error error) ↔
        ¬(IsUint16 (.number startingAddress) ∧
          data.length % 2 = 0 ∧ 1 ≤ data.length / 2 ∧ data.length / 2 ≤ MAX_WRITE_REGISTER_COUNT)) ∧
      ∀ request, WriteMultipleRegisters.create startingAddress data = .ok request →
        startingAddress = .ofInt request.startingAddress.toNat ∧ data = request.data) ∧
    ∀ command : DeviceCommand, hasValidModbusCrc command.frame = true ∧ decodeRequest command.frame = some command ∧
      ∀ other : DeviceCommand, other.frame = command.frame ↔ other = command := by
  refine ⟨fun startingAddress quantity => ⟨?_, fun _ => ReadHoldingRegisters.create_eq_ok.mp⟩,
    fun address value => ⟨?_, fun _ => WriteSingleRegister.create_eq_ok.mp⟩,
    fun startingAddress data => ⟨?_, fun _ => WriteMultipleRegisters.create_eq_ok.mp⟩,
    fun command => ⟨hasValidModbusCrc_frame command, decodeRequest_frame command, fun other => ⟨fun same => ?_, ?_⟩⟩⟩
  · rw [throws_iff, ReadHoldingRegisters.create_accepts]
  · rw [throws_iff, WriteSingleRegister.create_accepts]
  · rw [throws_iff, WriteMultipleRegisters.create_accepts]
  · have decoded := decodeRequest_frame other
    rw [same, decodeRequest_frame] at decoded
    exact (Option.some.inj decoded).symm
  · rintro rfl
    rfl

end DeviceCommand

end BluettiMqtt
