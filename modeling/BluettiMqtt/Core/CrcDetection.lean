import BluettiMqtt.Core.Crc
import BluettiMqtt.Library.ShiftRegister

namespace BluettiMqtt
open ShiftRegister

variable {frame altered : List Byte}

/-- The bits of a frame on the wire, those of each byte from the least
significant one on. -/
def frameBits (frame : List Byte) : List Bool :=
  frame.flatMap (lowBits 8)

/-- Where two frames of one length differ. -/
def differingBits (frame altered : List Byte) : List Bool :=
  List.zipWith xor (frameBits frame) (frameBits altered)

theorem crcBit_eq_shift (crc : BitVec 16) : crcBit crc = shift CRC_POLYNOMIAL crc := by
  have low : (crc &&& 0x0001#16 ≠ 0) ↔ crc.getLsbD 0 = true := by
    rw [show (0x0001#16) = 1#16 from rfl, BitVec.and_one_eq_setWidth_ofBool_getLsbD]
    cases crc.getLsbD 0 <;> decide
  simp only [crcBit, shift, low]

theorem crcByte_eq_run (crc : BitVec 16) (byte : Byte) :
    crcByte crc byte = run CRC_POLYNOMIAL crc (lowBits 8 byte) := by
  have cells : lowBits 8 byte = lowBits 8 (byte.setWidth 16) := by
    refine List.map_congr_left fun i member => ?_
    have bound : i < 16 := (List.mem_range.mp member).trans (by decide)
    simp [bound]
  have above : ∀ i, 8 ≤ i → (byte.setWidth 16).getLsbD i = false := by
    intro i reached
    simp [BitVec.getLsbD_of_ge byte i reached]
  rw [cells, run_lowBits 8 above, crcByte, funext crcBit_eq_shift]

/-- The checksum is the state of a register that the bits are shifted into. -/
theorem modbusCrc_eq_run (data : List Byte) : modbusCrc data = run CRC_POLYNOMIAL CRC_INITIAL_VALUE (frameBits data) := by
  rw [modbusCrc]
  generalize CRC_INITIAL_VALUE = crc
  induction data generalizing crc with
  | nil => rfl
  | cons byte data ih =>
    rw [List.foldl_cons, ih, crcByte_eq_run, ← run_append]
    rfl

theorem frameBits_length (frame : List Byte) : (frameBits frame).length = 8 * frame.length := by
  induction frame with
  | nil => rfl
  | cons byte frame ih =>
    have head : (lowBits 8 byte).length = 8 := by simp [lowBits]
    simp only [frameBits, List.flatMap_cons, List.length_append, List.length_cons] at ih ⊢
    omega

/-- The checksum of a frame that carries its own is zero. -/
theorem modbusCrc_appendModbusCrc (data : List Byte) : modbusCrc (appendModbusCrc data) = 0#16 := by
  have cells (crc : BitVec 16) : lowBits 8 (crcLow crc) ++ lowBits 8 (crcHigh crc) = lowBits 16 crc := by
    simp [lowBits, crcLow, crcHigh, List.range_succ]
  have last (crc : BitVec 16) : run CRC_POLYNOMIAL crc (frameBits [crcLow crc, crcHigh crc]) = 0#16 := by
    have bits : frameBits [crcLow crc, crcHigh crc] = lowBits 16 crc := by
      simp only [frameBits, List.flatMap_cons, List.flatMap_nil, List.append_nil, cells]
    have quiet (n : Nat) : (shift CRC_POLYNOMIAL)^[n] 0#16 = 0#16 := Function.iterate_fixed (shift_zero _) n
    rw [bits, run_lowBits 16 fun i reached => BitVec.getLsbD_of_ge _ _ reached, BitVec.xor_self, quiet]
  have parts : frameBits (appendModbusCrc data) =
      frameBits data ++ frameBits [crcLow (modbusCrc data), crcHigh (modbusCrc data)] :=
    List.flatMap_append
  rw [modbusCrc_eq_run, parts, run_append, ← modbusCrc_eq_run, last]

/-- The difference of two valid frames of one length leaves no trace in the register. -/
theorem run_differingBits (valid : hasValidModbusCrc frame = true) (changed : hasValidModbusCrc altered = true)
    (length : altered.length = frame.length) : run CRC_POLYNOMIAL 0#16 (differingBits frame altered) = 0#16 := by
  have zero {frame : List Byte} (valid : hasValidModbusCrc frame = true) :
      run CRC_POLYNOMIAL CRC_INITIAL_VALUE (frameBits frame) = 0#16 := by
    obtain ⟨data, _, rfl⟩ := hasValidModbusCrc_iff.mp valid
    rw [← modbusCrc_eq_run, modbusCrc_appendModbusCrc]
  have same : (frameBits frame).length = (frameBits altered).length := by
    rw [frameBits_length, frameBits_length, length]
  have sum : run CRC_POLYNOMIAL (CRC_INITIAL_VALUE ^^^ CRC_INITIAL_VALUE) (differingBits frame altered) =
      run CRC_POLYNOMIAL CRC_INITIAL_VALUE (frameBits frame) ^^^
        run CRC_POLYNOMIAL CRC_INITIAL_VALUE (frameBits altered) := run_xor same
  rwa [zero valid, zero changed, BitVec.xor_self, BitVec.xor_self] at sum

/-- Frames that differ in no bit are the same. -/
theorem eq_of_quiet (length : altered.length = frame.length) (quiet : ∀ bit ∈ differingBits frame altered, bit = false) :
    altered = frame := by
  induction frame generalizing altered with
  | nil => exact List.length_eq_zero_iff.mp length
  | cons byte frame ih =>
    cases altered with
    | nil => cases length
    | cons other altered =>
      have split : differingBits (byte :: frame) (other :: altered) =
          List.zipWith xor (lowBits 8 byte) (lowBits 8 other) ++ differingBits frame altered := by
        simp only [differingBits, frameBits, List.flatMap_cons]
        exact List.zipWith_append (by simp [lowBits])
      rw [split] at quiet
      have rest : altered = frame :=
        ih (Nat.succ.inj length) fun bit member => quiet bit (List.mem_append_right _ member)
      have first : other = byte := by
        refine BitVec.eq_of_getLsbD_eq fun i bound => ?_
        have member : (byte.getLsbD i ^^ other.getLsbD i) ∈ List.zipWith xor (lowBits 8 byte) (lowBits 8 other) := by
          rw [← lowBits_xor, ← BitVec.getLsbD_xor]
          exact List.mem_map_of_mem (List.mem_range.mpr bound)
        have same := quiet _ (List.mem_append_left _ member)
        revert same
        cases byte.getLsbD i <;> cases other.getLsbD i <;> decide
      rw [rest, first]

/-- Every change of an odd number of bits, and every change within sixteen bits
in a row, is detected. -/
theorem altered_frame_detected (valid : hasValidModbusCrc frame = true) (length : altered.length = frame.length)
    (different : altered ≠ frame)
    (error : Odd ((differingBits frame altered).count true) ∨
      ∃ k, ∀ i, (differingBits frame altered)[i]? = some true → k ≤ i ∧ i < k + 16) :
    hasValidModbusCrc altered = false := by
  by_contra accepted
  have clear := run_differingBits valid (Bool.not_eq_false _ ▸ accepted) length
  rcases error with odd | ⟨k, burst⟩
  · have even := oddOnes_of_run_eq_zero (by decide) (by decide) clear
    exact absurd (oddOnes_iff.mpr odd) (by rw [even]; decide)
  · exact different (eq_of_quiet length (quiet_of_run_eq_zero (by decide) burst clear))

/-- The read of forty registers from the tenth on, of which a bit of the address has changed. -/
theorem altered_read_detected :
    hasValidModbusCrc ((appendModbusCrc [0x01#8, 0x03#8, 0x00#8, 0x0a#8, 0x00#8, 0x28#8]).set 3 0x0b#8) = false := by
  have valid : hasValidModbusCrc (appendModbusCrc [0x01#8, 0x03#8, 0x00#8, 0x0a#8, 0x00#8, 0x28#8]) = true :=
    hasValidModbusCrc_appendModbusCrc (by decide)
  exact altered_frame_detected valid (by decide +kernel) (by decide +kernel) (.inl (by decide +kernel))

end BluettiMqtt
