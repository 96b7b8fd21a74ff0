import Mathlib.Data.List.DropRight

namespace BluettiMqtt

/-- The white space and line terminators that `trim` removes and `Number` passes by. -/
def isWhiteSpace (c : Char) : Bool :=
  c.toNat ∈ [0x0009, 0x000a, 0x000b, 0x000c, 0x000d, 0x0020, 0x00a0, 0x1680, 0x2028, 0x2029, 0x202f,
    0x205f, 0x3000, 0xfeff] || (0x2000 ≤ c.toNat && c.toNat ≤ 0x200a)

def trim (text : String) : String :=
  String.ofList ((text.toList.dropWhile isWhiteSpace).rdropWhile isWhiteSpace)

/-- What a sequence of UTF-8 bytes still needs: the bits read so far, the number
of continuation bytes and the range of the next one. -/
structure Utf8Sequence where
  bits : Nat
  needed : Nat
  lower : Nat
  upper : Nat

def REPLACEMENT_CHARACTER : Char := Char.ofNat 0xfffd

/-- A first byte, as the character it is, the sequence it opens or an error. -/
def utf8Start (byte : Nat) : Option Char × Option Utf8Sequence :=
  if byte < 0x80 then (some (Char.ofNat byte), none)
  else if 0xc2 ≤ byte ∧ byte < 0xe0 then (none, some ⟨byte - 0xc0, 1, 0x80, 0xbf⟩)
  else if byte = 0xe0 then (none, some ⟨0, 2, 0xa0, 0xbf⟩)
  else if byte = 0xed then (none, some ⟨0xd, 2, 0x80, 0x9f⟩)
  else if 0xe1 ≤ byte ∧ byte < 0xf0 then (none, some ⟨byte - 0xe0, 2, 0x80, 0xbf⟩)
  else if byte = 0xf0 then (none, some ⟨0, 3, 0x90, 0xbf⟩)
  else if byte = 0xf4 then (none, some ⟨4, 3, 0x80, 0x8f⟩)
  else if 0xf1 ≤ byte ∧ byte < 0xf4 then (none, some ⟨byte - 0xf0, 3, 0x80, 0xbf⟩)
  else (some REPLACEMENT_CHARACTER, none)

/-- `Buffer.toString("utf8")`. A sequence that breaks off becomes one
replacement character, and the byte that breaks it is read as a first byte. -/
def utf8Text (pending : Option Utf8Sequence) : List Nat → List Char
  | [] => if pending.isSome then [REPLACEMENT_CHARACTER] else []
  | byte :: rest =>
    match pending with
    | none => (utf8Start byte).1.toList ++ utf8Text (utf8Start byte).2 rest
    | some sequence =>
      let bits := sequence.bits * 64 + byte % 64
      if sequence.lower ≤ byte ∧ byte ≤ sequence.upper then
        if sequence.needed = 1 then Char.ofNat bits :: utf8Text none rest
        else utf8Text (some ⟨bits, sequence.needed - 1, 0x80, 0xbf⟩) rest
      else
        REPLACEMENT_CHARACTER :: ((utf8Start byte).1.toList ++ utf8Text (utf8Start byte).2 rest)

theorem trim_of_solid {text : String} (solid : ∀ c ∈ text.toList, isWhiteSpace c = false) :
    trim text = text := by
  have front : text.toList.dropWhile isWhiteSpace = text.toList := by
    cases split : text.toList with
    | nil => rfl
    | cons c rest =>
      have first := solid c (by simp [split])
      simp [first]
  have back : text.toList.rdropWhile isWhiteSpace = text.toList := by
    rw [List.rdropWhile_eq_self_iff]
    intro nonempty
    simp [solid _ (List.getLast_mem nonempty)]
  rw [trim, front, back, String.ofList_toList]

theorem isWhiteSpace_of_isDigit {c : Char} (digit : c.isDigit = true) : isWhiteSpace c = false := by
  simp only [Char.isDigit, Bool.and_eq_true, decide_eq_true_eq, UInt32.le_iff_toNat_le] at digit
  have lower : 48 ≤ c.toNat := digit.1
  have upper : c.toNat ≤ 57 := digit.2
  simp [isWhiteSpace]
  omega

end BluettiMqtt
