import BluettiMqtt.Core.CrcDetection

namespace BluettiMqtt
open ShiftRegister

variable {data frame : List Byte} {low high : Byte}

/-- The two bytes that clear the register are those of the checksum. -/
theorem checksum_of_run_eq_zero {crc : BitVec 16} (clear : run CRC_POLYNOMIAL crc (frameBits [low, high]) = 0#16) :
    low = crcLow crc ∧ high = crcHigh crc := by
  have cells (i : Nat) : crc.getLsbD i = (frameBits [low, high]).getD i false :=
    getLsbD_of_run_eq_zero (by decide) (by simp [frameBits_length]) clear i
  have bits : frameBits [low, high] = lowBits 8 low ++ lowBits 8 high := by simp [frameBits]
  have size : (lowBits 8 low).length = 8 := by simp [lowBits]
  constructor
  · refine BitVec.eq_of_getLsbD_eq fun i bound => ?_
    rw [crcLow, BitVec.getLsbD_setWidth, cells, bits, List.getD_eq_getElem?_getD,
      List.getElem?_append_left (by omega)]
    simp [lowBits, bound]
  · refine BitVec.eq_of_getLsbD_eq fun i bound => ?_
    rw [crcHigh, BitVec.getLsbD_setWidth, BitVec.getLsbD_ushiftRight, cells, bits, List.getD_eq_getElem?_getD,
      List.getElem?_append_right (by omega)]
    simp [lowBits, bound]

theorem appendModbusCrc_inj : appendModbusCrc data = appendModbusCrc frame ↔ data = frame := by
  constructor
  · intro same
    exact (List.append_inj' same rfl).1
  · rintro rfl
    rfl

/-- Every frame whose checksum is zero ends with the checksum of its body. -/
theorem eq_appendModbusCrc_of_residue (long : 2 ≤ frame.length) (residue : modbusCrc frame = 0#16) :
    frame = appendModbusCrc (frame.take (frame.length - 2)) := by
  obtain ⟨low, high, last⟩ : ∃ low high, frame.drop (frame.length - 2) = [low, high] :=
    List.length_eq_two.mp (by rw [List.length_drop]; omega)
  have whole : frame.take (frame.length - 2) ++ [low, high] = frame := by rw [← last, List.take_append_drop]
  generalize frame.take (frame.length - 2) = body at whole
  have parts : frameBits (body ++ [low, high]) = frameBits body ++ frameBits [low, high] := List.flatMap_append
  rw [← whole, modbusCrc_eq_run, parts, run_append, ← modbusCrc_eq_run] at residue
  obtain ⟨rfl, rfl⟩ := checksum_of_run_eq_zero residue
  exact whole.symm

/-- The residue of the checksum is zero, and zero is the residue of nothing but
bytes with their checksum appended. -/
theorem crc_residue :
    (∀ data, modbusCrc (appendModbusCrc data) = 0#16) ∧
    ∀ frame : List Byte, 3 ≤ frame.length →
      (hasValidModbusCrc frame = true ↔ modbusCrc frame = 0#16) ∧
      (modbusCrc frame = 0#16 ↔ ∃ data, data ≠ [] ∧ frame = appendModbusCrc data) ∧
      ∀ data other, frame = appendModbusCrc data → frame = appendModbusCrc other → data = other := by
  refine ⟨modbusCrc_appendModbusCrc, fun frame long => ?_⟩
  have carried : modbusCrc frame = 0#16 ↔ ∃ data, data ≠ [] ∧ frame = appendModbusCrc data := by
    constructor
    · intro residue
      have split := eq_appendModbusCrc_of_residue (by omega) residue
      refine ⟨_, fun none_ => ?_, split⟩
      rw [none_] at split
      rw [split] at long
      exact absurd long (by decide)
    · rintro ⟨data, -, rfl⟩
      exact modbusCrc_appendModbusCrc data
  exact ⟨hasValidModbusCrc_iff.trans carried.symm, carried,
    fun data other first second => appendModbusCrc_inj.mp (first.symm.trans second)⟩

/-- The read of forty registers from the tenth on. -/
theorem crc_residue_of_read :
    modbusCrc [0x01#8, 0x03#8, 0x00#8, 0x0a#8, 0x00#8, 0x28#8, 0x65#8, 0xd6#8] = 0#16 := by
  have valid : hasValidModbusCrc [0x01#8, 0x03#8, 0x00#8, 0x0a#8, 0x00#8, 0x28#8, 0x65#8, 0xd6#8] = true := by
    decide +kernel
  exact (crc_residue.2 _ (by decide)).1.mp valid

end BluettiMqtt
