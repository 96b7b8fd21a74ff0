import Mathlib.Logic.Function.Iterate

namespace BluettiMqtt

abbrev Byte := BitVec 8

def CRC_INITIAL_VALUE : BitVec 16 := 0xffff#16

def CRC_POLYNOMIAL : BitVec 16 := 0xa001#16

/-- One turn of the inner loop: shift out the low bit, and fold the
polynomial back in when that bit was set. -/
def crcBit (crc : BitVec 16) : BitVec 16 :=
  let lsb := crc &&& 0x0001#16
  let shifted := crc >>> 1
  if lsb ≠ 0 then shifted ^^^ CRC_POLYNOMIAL else shifted

def crcByte (crc : BitVec 16) (byte : Byte) : BitVec 16 :=
  crcBit^[8] (crc ^^^ byte.setWidth 16)

/-- The sixteen-bit register never overflows, so the closing mask of the
source is the identity here. -/
def modbusCrc (data : List Byte) : BitVec 16 :=
  data.foldl crcByte CRC_INITIAL_VALUE

def crcLow (crc : BitVec 16) : Byte :=
  crc.setWidth 8

def crcHigh (crc : BitVec 16) : Byte :=
  (crc >>> 8).setWidth 8

def appendModbusCrc (data : List Byte) : List Byte :=
  data ++ [crcLow (modbusCrc data), crcHigh (modbusCrc data)]

def hasValidModbusCrc (frame : List Byte) : Bool :=
  if frame.length < 3 then
    false
  else
    let expected := modbusCrc (frame.take (frame.length - 2))
    frame[frame.length - 2]? == some (crcLow expected) &&
      frame[frame.length - 1]? == some (crcHigh expected)

@[simp] theorem appendModbusCrc_length (data : List Byte) :
    (appendModbusCrc data).length = data.length + 2 := by
  simp [appendModbusCrc]

theorem hasValidModbusCrc_appendModbusCrc {data : List Byte} (nonempty : data ≠ []) :
    hasValidModbusCrc (appendModbusCrc data) = true := by
  have positive : 0 < data.length := List.length_pos_iff.mpr nonempty
  have body : (appendModbusCrc data).take data.length = data := by simp [appendModbusCrc]
  have low : (appendModbusCrc data)[data.length]? = some (crcLow (modbusCrc data)) := by
    simp [appendModbusCrc]
  have high : (appendModbusCrc data)[data.length + 1]? = some (crcHigh (modbusCrc data)) := by
    simp [appendModbusCrc]
  simp only [hasValidModbusCrc, appendModbusCrc_length]
  rw [if_neg (by omega), show data.length + 2 - 2 = data.length by omega,
    show data.length + 2 - 1 = data.length + 1 by omega, body, low, high]
  simp

/-- A frame is valid when it is some bytes with their checksum appended. -/
theorem hasValidModbusCrc_iff {frame : List Byte} :
    hasValidModbusCrc frame = true ↔ ∃ data, data ≠ [] ∧ frame = appendModbusCrc data := by
  constructor
  · intro valid
    unfold hasValidModbusCrc at valid
    split at valid
    · cases valid
    · rename_i long
      obtain ⟨low, high⟩ := Bool.and_eq_true_iff.mp valid
      have last : frame.drop (frame.length - 2) =
          [crcLow (modbusCrc (frame.take (frame.length - 2))), crcHigh (modbusCrc (frame.take (frame.length - 2)))] := by
        obtain ⟨_, low⟩ := List.getElem?_eq_some_iff.mp (beq_iff_eq.mp low)
        obtain ⟨_, high⟩ := List.getElem?_eq_some_iff.mp (beq_iff_eq.mp high)
        have next : frame.length - 2 + 1 = frame.length - 1 := by omega
        rw [List.drop_eq_getElem_cons (by omega), low]
        simp only [next]
        rw [List.drop_eq_getElem_cons (by omega), high, List.drop_eq_nil_of_le (by omega)]
      refine ⟨frame.take (frame.length - 2), fun none_ => ?_, ?_⟩
      · have zero := congrArg List.length none_
        rw [List.length_take, List.length_nil] at zero
        omega
      · rw [appendModbusCrc, ← last, List.take_append_drop]
  · rintro ⟨data, nonempty, rfl⟩
    exact hasValidModbusCrc_appendModbusCrc nonempty

end BluettiMqtt
