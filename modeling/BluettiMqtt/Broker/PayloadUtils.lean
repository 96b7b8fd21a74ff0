import BluettiMqtt.Core.NumberText
import BluettiMqtt.Devices.Device
import Mathlib.Algebra.Group.Nat.Defs

namespace BluettiMqtt

def BOOLEAN_ON_VALUE : String := "ON"

def BOOLEAN_OFF_VALUE : String := "OFF"

/-- A reading is the binary64 number next to its exact quotient. -/
def serializeValue : ParsedValue → String
  | .boolean value => if value then BOOLEAN_ON_VALUE else BOOLEAN_OFF_VALUE
  | .bigint value => toString value
  | .numbers values => stringify (.array (values.map fun value => (Number.nearest value).toJson))
  | .enumValue value => value.name
  | .number value => (Number.nearest value).text
  | .string value => value

/-- `/^-?\d+$/`. -/
def INTEGER_PAYLOAD_PATTERN : List Char → Bool
  | '-' :: digits => isDigits digits
  | digits => isDigits digits

/-- `Number(payload)` of a text that matches the pattern. -/
def integerValue : List Char → Int
  | '-' :: digits => -(Nat.ofDigitChars 10 digits 0 : Int)
  | digits => Nat.ofDigitChars 10 digits 0

def parseCommandValue (payload : String) : CommandValue :=
  if payload = BOOLEAN_ON_VALUE then
    .boolean true
  else if payload = BOOLEAN_OFF_VALUE then
    .boolean false
  else if INTEGER_PAYLOAD_PATTERN payload.toList then
    .number (.ofInt (integerValue payload.toList))
  else
    .string payload

/-- What `handleIncomingCommand` puts on the bus for a known device, once the
topic has been taken apart. -/
def incomingCommand (device : BluettiDevice) (fieldName payload : String) :
    Except Failure (Option WriteSingleRegister) :=
  if device.hasFieldSetter fieldName then do
    let command ← device.buildSetterCommand fieldName (parseCommandValue (trim payload))
    return some command
  else
    .ok none

/-- The text of a natural number reads back as that number. -/
theorem parseCommandValue_toString (n : Nat) : parseCommandValue (toString n) = .number (.ofInt n) := by
  have digits : ∀ c ∈ Nat.toDigits 10 n, c.isDigit = true := fun c member =>
    Nat.isDigit_of_mem_toDigits (by decide) (by decide) member
  have text : (toString n).toList = Nat.toDigits 10 n := Nat.toList_repr
  have unsigned : ∀ rest, Nat.toDigits 10 n ≠ '-' :: rest := by
    intro rest signed
    exact absurd (digits '-' (by simp [signed])) (by decide)
  have word (other : String) (odd : ∃ c ∈ other.toList, c.isDigit = false) : toString n ≠ other := by
    rintro rfl
    obtain ⟨c, member, letter⟩ := odd
    rw [text] at member
    rw [digits c member] at letter
    cases letter
  have on := word BOOLEAN_ON_VALUE ⟨'O', by decide, by decide⟩
  have off := word BOOLEAN_OFF_VALUE ⟨'O', by decide, by decide⟩
  have matched : INTEGER_PAYLOAD_PATTERN (Nat.toDigits 10 n) = true := by
    unfold INTEGER_PAYLOAD_PATTERN
    split
    · exact absurd ‹_› (unsigned _)
    · simpa [isDigits, Nat.toDigits_ne_nil] using digits
  have value : integerValue (Nat.toDigits 10 n) = n := by
    unfold integerValue
    split
    · exact absurd ‹_› (unsigned _)
    · simp
  rw [parseCommandValue, if_neg on, if_neg off, text, if_pos matched, value]

theorem trim_toString (n : Nat) : trim (toString n) = toString n := by
  apply trim_of_solid
  intro c member
  have text : (toString n).toList = Nat.toDigits 10 n := Nat.toList_repr
  rw [text] at member
  exact isWhiteSpace_of_isDigit (Nat.isDigit_of_mem_toDigits (by decide) (by decide) member)

theorem serializeValue_word {n : Nat} (word : n < 2 ^ 16) : serializeValue (.number n) = toString n :=
  Number.text_natCast (word.trans (by decide))

end BluettiMqtt
