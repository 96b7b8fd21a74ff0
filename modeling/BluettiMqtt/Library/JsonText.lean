import Mathlib.Algebra.Ring.Rat
import Mathlib.Data.List.TakeWhile

namespace JsonText

/-- `\d+`. -/
def isDigits (text : List Char) : Bool :=
  text ≠ [] && text.all Char.isDigit

/-- What may stand after the digits of a numeral. -/
def isExponent : List Char → Bool
  | [] => true
  | [_] => false
  | mark :: sign :: digits =>
    (mark = 'e' || mark = 'E') && (isDigits (sign :: digits) || (sign = '+' || sign = '-') && isDigits digits)

def isFraction : List Char → Bool
  | '.' :: rest => (rest.takeWhile Char.isDigit ≠ []) && isExponent (rest.dropWhile Char.isDigit)
  | rest => isExponent rest

def isUnsigned (text : List Char) : Bool :=
  let digits := text.takeWhile Char.isDigit
  digits ≠ [] && (digits = ['0'] || digits.head? ≠ some '0') && isFraction (text.dropWhile Char.isDigit)

/-- `-?(0|[1-9]\d*)(\.\d+)?([eE][+-]?\d+)?`. -/
def isNumeral : List Char → Bool
  | '-' :: rest => isUnsigned rest
  | text => isUnsigned text

/-- A number as it is written. -/
structure Numeral where
  text : List Char
  wellFormed : isNumeral text = true
  deriving DecidableEq

/-- The power of ten that an exponent stands for. -/
def exponentFactor : List Char → ℚ
  | _ :: '-' :: digits => 1 / 10 ^ Nat.ofDigitChars 10 digits 0
  | _ :: '+' :: digits => 10 ^ Nat.ofDigitChars 10 digits 0
  | _ :: digits => 10 ^ Nat.ofDigitChars 10 digits 0
  | [] => 1

def decimalValue (text : List Char) : ℚ :=
  let whole := text.takeWhile Char.isDigit
  match text.dropWhile Char.isDigit with
  | '.' :: rest =>
    let fraction := rest.takeWhile Char.isDigit
    Nat.ofDigitChars 10 (whole ++ fraction) 0 / 10 ^ fraction.length * exponentFactor (rest.dropWhile Char.isDigit)
  | rest => Nat.ofDigitChars 10 whole 0 * exponentFactor rest

def signedValue : List Char → ℚ
  | '-' :: rest => -decimalValue rest
  | text => decimalValue text

def Numeral.value (numeral : Numeral) : ℚ :=
  signedValue numeral.text

inductive Json
  | null
  | boolean (value : Bool)
  | number (value : Numeral)
  | string (value : String)
  | array (items : List Json)
  | object (members : List (String × Json))

def isSpace (c : Char) : Bool :=
  c = ' ' || c = '\t' || c = '\n' || c = '\r'

def skip (text : List Char) : List Char :=
  text.dropWhile isSpace

def hexValue? (c : Char) : Option Nat :=
  if '0' ≤ c ∧ c ≤ '9' then some (c.toNat - '0'.toNat)
  else if 'a' ≤ c ∧ c ≤ 'f' then some (c.toNat - 'a'.toNat + 10)
  else if 'A' ≤ c ∧ c ≤ 'F' then some (c.toNat - 'A'.toNat + 10)
  else none

/-- The code unit of four hexadecimal digits. -/
def readUnit : List Char → Option (Nat × List Char)
  | a :: b :: c :: d :: rest => do
    let a ← hexValue? a
    let b ← hexValue? b
    let c ← hexValue? c
    let d ← hexValue? d
    return (((a * 16 + b) * 16 + c) * 16 + d, rest)
  | _ => none

/-- The character after `\u`. A lone surrogate is no character. -/
def readEscaped (text : List Char) : Option (Char × List Char) := do
  let (unit, rest) ← readUnit text
  if 0xd800 ≤ unit ∧ unit < 0xdc00 then
    match rest with
    | '\\' :: 'u' :: rest => do
      let (low, rest) ← readUnit rest
      if 0xdc00 ≤ low ∧ low < 0xe000 then
        return (Char.ofNat (0x10000 + (unit - 0xd800) * 0x400 + (low - 0xdc00)), rest)
      else none
    | _ => none
  else if 0xdc00 ≤ unit ∧ unit < 0xe000 then none
  else return (Char.ofNat unit, rest)

/-- One character of a string. -/
def readCharacter : List Char → Option (Char × List Char)
  | '\\' :: 'u' :: rest => readEscaped rest
  | '\\' :: '"' :: rest => some ('"', rest)
  | '\\' :: '\\' :: rest => some ('\\', rest)
  | '\\' :: '/' :: rest => some ('/', rest)
  | '\\' :: 'b' :: rest => some (Char.ofNat 8, rest)
  | '\\' :: 'f' :: rest => some (Char.ofNat 12, rest)
  | '\\' :: 'n' :: rest => some ('\n', rest)
  | '\\' :: 'r' :: rest => some ('\r', rest)
  | '\\' :: 't' :: rest => some ('\t', rest)
  | c :: rest => if c = '\\' ∨ c = '"' ∨ c.toNat < 0x20 then none else some (c, rest)
  | [] => none

/-- The characters up to the closing quotation mark. -/
def readCharacters : Nat → List Char → Option (List Char × List Char)
  | 0, _ => none
  | fuel + 1, text =>
    match text with
    | '"' :: rest => some ([], rest)
    | _ => do
      let (c, rest) ← readCharacter text
      let (cs, rest) ← readCharacters fuel rest
      return (c :: cs, rest)

/-- The text after a character, which white space may precede. -/
def after (c : Char) (text : List Char) : Option (List Char) :=
  match skip text with
  | d :: rest => if d = c then some rest else none
  | [] => none

def readString (fuel : Nat) (text : List Char) : Option (String × List Char) := do
  let rest ← after '"' text
  let (cs, rest) ← readCharacters fuel rest
  return (String.ofList cs, rest)

def isWord (c : Char) : Bool :=
  c.isDigit || (0x41 ≤ c.toNat && c.toNat ≤ 0x5a) || (0x61 ≤ c.toNat && c.toNat ≤ 0x7a) || c = '+' || c = '-' || c = '.'

/-- A literal or a number: after either no further letter or digit may stand. -/
def readWord (text : List Char) : Option (Json × List Char) :=
  let word := text.takeWhile isWord
  let rest := text.dropWhile isWord
  if word = "null".toList then some (.null, rest)
  else if word = "true".toList then some (.boolean true, rest)
  else if word = "false".toList then some (.boolean false, rest)
  else if wellFormed : isNumeral word = true then some (.number ⟨word, wellFormed⟩, rest)
  else none

mutual

/-- A value and the text after it. Each nested call takes from `fuel`. -/
def readValue : Nat → List Char → Option (Json × List Char)
  | 0, _ => none
  | fuel + 1, text =>
    match skip text with
    | [] => none
    | c :: rest =>
      if c = '"' then (readString fuel (c :: rest)).map fun (value, rest) => (.string value, rest)
      else if c = '[' then
        match after ']' rest with
        | some rest => some (.array [], rest)
        | none => (readItems fuel rest).map fun (items, rest) => (.array items, rest)
      else if c = '{' then
        match after '}' rest with
        | some rest => some (.object [], rest)
        | none => (readMembers fuel rest).map fun (members, rest) => (.object members, rest)
      else readWord (c :: rest)

/-- The items up to the closing bracket. -/
def readItems : Nat → List Char → Option (List Json × List Char)
  | 0, _ => none
  | fuel + 1, text => do
    let (item, rest) ← readValue fuel text
    match after ',' rest with
    | some rest => do
      let (items, rest) ← readItems fuel rest
      return (item :: items, rest)
    | none => do
      let rest ← after ']' rest
      return ([item], rest)

def readMembers : Nat → List Char → Option (List (String × Json) × List Char)
  | 0, _ => none
  | fuel + 1, text => do
    let (name, rest) ← readString fuel text
    let rest ← after ':' rest
    let (value, rest) ← readValue fuel rest
    match after ',' rest with
    | some rest => do
      let (members, rest) ← readMembers fuel rest
      return ((name, value) :: members, rest)
    | none => do
      let rest ← after '}' rest
      return ([(name, value)], rest)

end

def parse (text : List Char) : Option Json := do
  let (value, rest) ← readValue (text.length + 1) text
  if skip rest = [] then return value else none

/-- How a writer spells the characters of a string: without control characters,
and such that they are read back. -/
structure Quoting where
  escape : Char → List Char
  reads : ∀ c rest, readCharacter (escape c ++ rest) = some (c, rest)
  printable : ∀ c, ∀ d ∈ escape c, 0x20 ≤ d.toNat

section Print

variable (quoting : Quoting)

def printString (value : String) : List Char :=
  '"' :: (value.toList.flatMap quoting.escape ++ ['"'])

mutual

def print : Json → List Char
  | .null => "null".toList
  | .boolean true => "true".toList
  | .boolean false => "false".toList
  | .number value => value.text
  | .string value => printString quoting value
  | .array [] => ['[', ']']
  | .array (item :: items) => '[' :: (print item ++ printItems items)
  | .object [] => ['{', '}']
  | .object ((name, value) :: members) =>
    '{' :: (printString quoting name ++ ':' :: (print value ++ printMembers members))

/-- The further items and the closing bracket. -/
def printItems : List Json → List Char
  | [] => [']']
  | item :: items => ',' :: (print item ++ printItems items)

def printMembers : List (String × Json) → List Char
  | [] => ['}']
  | (name, value) :: members =>
    ',' :: (printString quoting name ++ ':' :: (print value ++ printMembers members))

end

section Numerals

variable {text : List Char}

theorem isWord_of_isDigit {c : Char} (digit : c.isDigit = true) : isWord c = true := by
  simp [isWord, digit]

theorem isWord_of_isDigits (digits : isDigits text = true) : ∀ c ∈ text, isWord c = true := by
  obtain ⟨_, all⟩ := Bool.and_eq_true_iff.mp digits
  exact fun c member => isWord_of_isDigit (List.all_eq_true.mp all c member)

/-- A text is of word characters when its leading digits and the rest are. -/
theorem isWord_of_split (rest : ∀ c ∈ text.dropWhile Char.isDigit, isWord c = true) :
    ∀ c ∈ text, isWord c = true := by
  intro c member
  rw [← List.takeWhile_append_dropWhile (p := Char.isDigit) (l := text)] at member
  rcases List.mem_append.mp member with digit | later
  · exact isWord_of_isDigit (List.mem_takeWhile_imp digit)
  · exact rest c later

theorem isWord_of_isExponent (exponent : isExponent text = true) : ∀ c ∈ text, isWord c = true := by
  match text, exponent with
  | [], _ => exact fun c member => absurd member List.not_mem_nil
  | mark :: sign :: digits, exponent =>
    simp only [isExponent, Bool.and_eq_true, Bool.or_eq_true, decide_eq_true_eq] at exponent
    obtain ⟨marked, signed⟩ := exponent
    intro c member
    rcases List.mem_cons.mp member with rfl | later
    · rcases marked with rfl | rfl <;> rfl
    · rcases signed with plain | ⟨one, digits⟩
      · exact isWord_of_isDigits plain c later
      · rcases List.mem_cons.mp later with rfl | later
        · rcases one with rfl | rfl <;> rfl
        · exact isWord_of_isDigits digits c later

theorem isWord_of_isFraction (fraction : isFraction text = true) : ∀ c ∈ text, isWord c = true := by
  unfold isFraction at fraction
  split at fraction
  · next rest =>
    obtain ⟨_, exponent⟩ := Bool.and_eq_true_iff.mp fraction
    intro c member
    rcases List.mem_cons.mp member with rfl | later
    · rfl
    · exact isWord_of_split (isWord_of_isExponent exponent) c later
  · exact isWord_of_isExponent fraction

theorem isWord_of_isUnsigned (unsigned : isUnsigned text = true) : ∀ c ∈ text, isWord c = true := by
  obtain ⟨_, fraction⟩ := Bool.and_eq_true_iff.mp unsigned
  exact isWord_of_split (isWord_of_isFraction fraction)

theorem Numeral.isWord (numeral : Numeral) : ∀ c ∈ numeral.text, isWord c = true := by
  obtain ⟨text, wellFormed⟩ := numeral
  unfold isNumeral at wellFormed
  split at wellFormed
  · next rest =>
    intro c member
    rcases List.mem_cons.mp member with rfl | later
    · rfl
    · exact isWord_of_isUnsigned wellFormed c later
  · exact isWord_of_isUnsigned wellFormed

theorem isNumeral_of_isUnsigned (unsigned : isUnsigned text = true) : isNumeral text = true := by
  unfold isNumeral
  split
  · cases unsigned
  · exact unsigned

theorem signedValue_of_isUnsigned (unsigned : isUnsigned text = true) : signedValue text = decimalValue text := by
  unfold signedValue
  split
  · cases unsigned
  · rfl

theorem Numeral.ne_nil (numeral : Numeral) : numeral.text ≠ [] := by
  intro empty
  have wellFormed := numeral.wellFormed
  rw [empty] at wellFormed
  cases wellFormed

/-- The digits of a numeral end where something else begins. -/
theorem span_digits {digits rest : List Char} (all : ∀ c ∈ digits, c.isDigit = true)
    (stop : ∀ c ∈ rest.head?, c.isDigit = false) :
    (digits ++ rest).takeWhile Char.isDigit = digits ∧ (digits ++ rest).dropWhile Char.isDigit = rest := by
  rw [List.takeWhile_append_of_pos all, List.dropWhile_append_of_pos all]
  cases rest with
  | nil => simp
  | cons c more => simp [stop c rfl]

theorem isUnsigned_digits {digits rest : List Char} (all : ∀ c ∈ digits, c.isDigit = true) (some_ : digits ≠ [])
    (lead : digits = ['0'] ∨ digits.head? ≠ some '0') (stop : ∀ c ∈ rest.head?, c.isDigit = false)
    (fraction : isFraction rest = true) : isUnsigned (digits ++ rest) = true := by
  obtain ⟨whole, later⟩ := span_digits all stop
  simp only [isUnsigned, whole, later, fraction, Bool.and_true, Bool.and_eq_true, Bool.or_eq_true, decide_eq_true_eq]
  exact ⟨some_, lead⟩

theorem isFraction_digits {digits rest : List Char} (all : ∀ c ∈ digits, c.isDigit = true) (some_ : digits ≠ [])
    (stop : ∀ c ∈ rest.head?, c.isDigit = false) (exponent : isExponent rest = true) :
    isFraction ('.' :: (digits ++ rest)) = true := by
  obtain ⟨whole, later⟩ := span_digits all stop
  simp only [isFraction, whole, later, exponent, Bool.and_true, decide_eq_true_eq]
  exact some_

/-- Digits, then what an exponent says or nothing. -/
theorem decimalValue_whole {digits rest : List Char} (all : ∀ c ∈ digits, c.isDigit = true)
    (stop : ∀ c ∈ rest.head?, c.isDigit = false) (plain : rest.head? ≠ some '.') :
    decimalValue (digits ++ rest) = Nat.ofDigitChars 10 digits 0 * exponentFactor rest := by
  obtain ⟨whole, later⟩ := span_digits all stop
  simp only [decimalValue, whole, later]
  split
  · exact absurd rfl plain
  · rfl

theorem decimalValue_fraction {digits fraction rest : List Char} (all : ∀ c ∈ digits, c.isDigit = true)
    (all' : ∀ c ∈ fraction, c.isDigit = true) (stop : ∀ c ∈ rest.head?, c.isDigit = false) :
    decimalValue (digits ++ '.' :: (fraction ++ rest)) =
      Nat.ofDigitChars 10 (digits ++ fraction) 0 / 10 ^ fraction.length * exponentFactor rest := by
  have point : ∀ c ∈ ('.' :: (fraction ++ rest)).head?, c.isDigit = false := by
    rintro _ ⟨⟩
    rfl
  obtain ⟨whole, later⟩ := span_digits all point
  obtain ⟨fine, last⟩ := span_digits all' stop
  simp only [decimalValue, whole, later, fine, last]

end Numerals

/-- What may follow a value in the text: no further letter or digit. -/
def Ends (rest : List Char) : Prop :=
  ∀ c ∈ rest.head?, isWord c = false

theorem skip_cons {c : Char} (solid : isSpace c = false) (rest : List Char) : skip (c :: rest) = c :: rest := by
  rw [skip, List.dropWhile_cons, solid]
  rfl

theorem after_self {c : Char} (solid : isSpace c = false) (rest : List Char) : after c (c :: rest) = some rest := by
  rw [after, skip_cons solid]
  exact if_pos rfl

theorem after_other {c d : Char} (solid : isSpace d = false) (other : d ≠ c) (rest : List Char) :
    after c (d :: rest) = none := by
  rw [after, skip_cons solid]
  exact if_neg other

/-- The first character of a value tells what kind of value it is. -/
theorem print_head (value : Json) : ∃ c rest, print quoting value = c :: rest ∧ isSpace c = false ∧
    c ≠ ']' ∧ c ≠ '}' := by
  match value with
  | .null => exact ⟨'n', "ull".toList, rfl, rfl, by decide, by decide⟩
  | .boolean true => exact ⟨'t', "rue".toList, rfl, rfl, by decide, by decide⟩
  | .boolean false => exact ⟨'f', "alse".toList, rfl, rfl, by decide, by decide⟩
  | .string text => exact ⟨'"', _, rfl, rfl, by decide, by decide⟩
  | .array [] => exact ⟨'[', _, rfl, rfl, by decide, by decide⟩
  | .array (_ :: _) => exact ⟨'[', _, rfl, rfl, by decide, by decide⟩
  | .object [] => exact ⟨'{', _, rfl, rfl, by decide, by decide⟩
  | .object ((_, _) :: _) => exact ⟨'{', _, rfl, rfl, by decide, by decide⟩
  | .number numeral =>
    cases shape : numeral.text with
    | nil => exact absurd shape numeral.ne_nil
    | cons c rest =>
      have word := numeral.isWord c (by rw [shape]; exact List.mem_cons_self)
      have other : ∀ d, isWord d = false → c ≠ d := fun d out same => by rw [same, out] at word; cases word
      have solid : isSpace c = false := by
        simp only [isSpace, other ' ' rfl, other '\t' rfl, other '\n' rfl, other '\r' rfl, decide_false, Bool.or_false]
      exact ⟨c, rest, shape, solid, other ']' rfl, other '}' rfl⟩

theorem readWord_append {word rest : List Char} (letters : ∀ c ∈ word, isWord c = true) (ends : Ends rest) :
    (word ++ rest).takeWhile isWord = word ∧ (word ++ rest).dropWhile isWord = rest := by
  rw [List.takeWhile_append_of_pos letters, List.dropWhile_append_of_pos letters]
  cases rest with
  | nil => exact ⟨List.append_nil _, rfl⟩
  | cons c more =>
    have stop : isWord c = false := ends c rfl
    simp [stop]

theorem escape_ne_nil (c : Char) : quoting.escape c ≠ [] := by
  intro empty
  have read := quoting.reads c []
  rw [empty] at read
  cases read

/-- No spelling of a character begins with the quotation mark. -/
theorem escape_head (c : Char) (rest : List Char) : (quoting.escape c ++ rest).head? ≠ some '"' := by
  intro closes
  have read := quoting.reads c rest
  cases shape : quoting.escape c ++ rest with
  | nil =>
    rw [shape] at closes
    cases closes
  | cons d more =>
    rw [shape] at closes read
    cases Option.some.inj closes
    cases read

theorem readCharacters_flatMap (text : List Char) : ∀ (fuel : Nat) (rest : List Char), text.length < fuel →
    readCharacters fuel (text.flatMap quoting.escape ++ '"' :: rest) = some (text, rest) := by
  induction text with
  | nil =>
    intro fuel rest enough
    cases fuel with
    | zero => omega
    | succ fuel => rfl
  | cons c text ih =>
    intro fuel rest enough
    cases fuel with
    | zero => omega
    | succ fuel =>
      have first := escape_head quoting c (text.flatMap quoting.escape ++ '"' :: rest)
      rw [List.flatMap_cons, List.append_assoc,
        readCharacters.eq_3 _ _ fun more shape => absurd (congrArg List.head? shape) first, quoting.reads,
        Option.bind_eq_bind, Option.bind_some]
      simp only [ih fuel rest (Nat.lt_of_succ_lt_succ enough)]
      rfl

theorem length_le_flatMap (text : List Char) : text.length ≤ (text.flatMap quoting.escape).length := by
  induction text with
  | nil => exact Nat.le_refl 0
  | cons c text ih =>
    have solid := List.length_pos_iff.mpr (escape_ne_nil quoting c)
    simp only [List.flatMap_cons, List.length_append, List.length_cons]
    omega

theorem readString_print (name : String) (fuel : Nat) (rest : List Char)
    (enough : (printString quoting name).length ≤ fuel + 1) :
    readString fuel (printString quoting name ++ rest) = some (name, rest) := by
  have long := length_le_flatMap quoting name.toList
  simp only [printString, List.length_cons, List.length_append, List.length_nil] at enough
  have read := readCharacters_flatMap quoting name.toList fuel rest (by omega)
  rw [printString, List.cons_append, List.append_assoc, List.singleton_append, readString, after_self rfl,
    Option.bind_eq_bind, Option.bind_some, read]
  simp [String.ofList_toList]

theorem ends_of_head {c : Char} {rest : List Char} (stop : isWord c = false) : Ends (c :: rest) := by
  intro d first
  cases Option.some.inj first
  exact stop

theorem readWord_null {rest : List Char} (ends : Ends rest) : readWord ("null".toList ++ rest) = some (.null, rest) := by
  have letters := List.all_eq_true.mp (by decide : "null".toList.all isWord = true)
  obtain ⟨word, more⟩ := readWord_append letters ends
  simp only [readWord, word, more, if_true]

theorem readWord_boolean (value : Bool) {rest : List Char} (ends : Ends rest) :
    readWord (print quoting (.boolean value) ++ rest) = some (.boolean value, rest) := by
  cases value with
  | true =>
    have letters := List.all_eq_true.mp (by decide : "true".toList.all isWord = true)
    obtain ⟨word, more⟩ := readWord_append letters ends
    have other : "true".toList ≠ "null".toList := by decide
    simp only [print, readWord, word, more, if_neg other, if_true]
  | false =>
    have letters := List.all_eq_true.mp (by decide : "false".toList.all isWord = true)
    obtain ⟨word, more⟩ := readWord_append letters ends
    have other : "false".toList ≠ "null".toList ∧ "false".toList ≠ "true".toList := by decide
    simp only [print, readWord, word, more, if_neg other.1, if_neg other.2, if_true]

theorem readWord_number (numeral : Numeral) {rest : List Char} (ends : Ends rest) :
    readWord (numeral.text ++ rest) = some (.number numeral, rest) := by
  obtain ⟨word, more⟩ := readWord_append numeral.isWord ends
  have other (literal : List Char) (odd : isNumeral literal = false) : numeral.text ≠ literal := by
    intro same
    rw [← same, numeral.wellFormed] at odd
    cases odd
  simp only [readWord, word, more, if_neg (other _ (by decide : isNumeral "null".toList = false)),
    if_neg (other _ (by decide : isNumeral "true".toList = false)),
    if_neg (other _ (by decide : isNumeral "false".toList = false)), dif_pos numeral.wellFormed]

/-- A text that begins with a word character is read as a word. -/
theorem readValue_word {text : List Char} (fuel : Nat) {c : Char} {more : List Char} (shape : text = c :: more)
    (word : isWord c = true) : readValue (fuel + 1) text = readWord text := by
  have other : ∀ d, isWord d = false → c ≠ d := fun d out same => by rw [same, out] at word; cases word
  have solid : isSpace c = false := by
    simp only [isSpace, other ' ' rfl, other '\t' rfl, other '\n' rfl, other '\r' rfl, decide_false, Bool.or_false]
  rw [shape, readValue, skip_cons solid]
  simp only [if_neg (other '"' rfl), if_neg (other '[' rfl), if_neg (other '{' rfl)]

theorem after_print (item : Json) {c : Char} (closing : c = ']' ∨ c = '}') (rest : List Char) :
    after c (print quoting item ++ rest) = none := by
  obtain ⟨d, more, shape, solid, bracket, brace⟩ := print_head quoting item
  rw [shape]
  rcases closing with rfl | rfl
  · exact after_other solid bracket _
  · exact after_other solid brace _

mutual

theorem readValue_print (value : Json) : ∀ (fuel : Nat) (rest : List Char), Ends rest →
    (print quoting value).length ≤ fuel → readValue fuel (print quoting value ++ rest) = some (value, rest) := by
  intro fuel rest ends enough
  have long : 0 < (print quoting value).length := by
    obtain ⟨c, more, shape, _⟩ := print_head quoting value
    rw [shape]
    exact Nat.succ_pos _
  obtain ⟨fuel, rfl⟩ : ∃ less, fuel = less + 1 := ⟨fuel - 1, by omega⟩
  match value with
  | .null =>
    have whole : print quoting .null ++ rest = 'n' :: ("ull".toList ++ rest) := rfl
    rw [readValue_word fuel whole rfl]
    exact readWord_null ends
  | .boolean flag =>
    have first : ∃ c more, print quoting (.boolean flag) ++ rest = c :: more ∧ isWord c = true := by
      cases flag
      · exact ⟨'f', _, rfl, rfl⟩
      · exact ⟨'t', _, rfl, rfl⟩
    obtain ⟨c, more, shape, word⟩ := first
    rw [readValue_word fuel shape word]
    exact readWord_boolean quoting flag ends
  | .number numeral =>
    obtain ⟨c, more, shape⟩ := List.exists_cons_of_ne_nil numeral.ne_nil
    have word := numeral.isWord c (by rw [shape]; exact List.mem_cons_self)
    have whole : print quoting (.number numeral) ++ rest = c :: (more ++ rest) := by
      rw [print, shape]
      rfl
    rw [readValue_word fuel whole word]
    exact readWord_number numeral ends
  | .string text =>
    have read := readString_print quoting text fuel rest enough
    have shape : print quoting (.string text) ++ rest =
        '"' :: ((text.toList.flatMap quoting.escape ++ ['"']) ++ rest) := rfl
    rw [readValue, shape, skip_cons rfl]
    simp only [if_true]
    rw [show '"' :: ((text.toList.flatMap quoting.escape ++ ['"']) ++ rest) = printString quoting text ++ rest from rfl,
      read]
    rfl
  | .array [] =>
    rw [readValue, show print quoting (.array []) ++ rest = '[' :: ']' :: rest from rfl, skip_cons rfl]
    simp [after_self (c := ']') rfl rest]
  | .array (item :: items) =>
    rw [print, List.length_cons] at enough
    have read := readItems_print items item (readValue_print item) fuel rest ends (by omega)
    rw [print, List.cons_append, readValue, skip_cons rfl]
    simp only [if_neg (by decide : '[' ≠ '"'), if_true, after_print quoting item (Or.inl rfl), List.append_assoc, read]
    rfl
  | .object [] =>
    rw [readValue, show print quoting (.object []) ++ rest = '{' :: '}' :: rest from rfl, skip_cons rfl]
    simp [after_self (c := '}') rfl rest]
  | .object ((name, value) :: members) =>
    rw [print, List.length_cons] at enough
    have read := readMembers_print members name value (readValue_print value) fuel rest ends (by omega)
    have opened : after '}' (printString quoting name ++ ':' :: (print quoting value ++
        printMembers quoting members) ++ rest) = none := after_other rfl (by decide) _
    rw [print, List.cons_append, readValue, skip_cons rfl]
    simp only [if_neg (by decide : '{' ≠ '"'), if_neg (by decide : '{' ≠ '['), if_true, opened, read]
    rfl

theorem readItems_print (items : List Json) (item : Json)
    (reads : ∀ (fuel : Nat) (rest : List Char), Ends rest → (print quoting item).length ≤ fuel →
      readValue fuel (print quoting item ++ rest) = some (item, rest)) :
    ∀ (fuel : Nat) (rest : List Char), Ends rest →
      (print quoting item ++ printItems quoting items).length ≤ fuel →
      readItems fuel (print quoting item ++ (printItems quoting items ++ rest)) = some (item :: items, rest) := by
  intro fuel rest ends enough
  rw [List.length_append] at enough
  match items with
  | [] =>
    rw [printItems, List.length_singleton] at enough
    obtain ⟨fuel, rfl⟩ : ∃ less, fuel = less + 1 := ⟨fuel - 1, by omega⟩
    have first := reads fuel (']' :: rest) (ends_of_head rfl) (by omega)
    rw [printItems, List.singleton_append, readItems, first]
    simp [after_other (c := ',') (d := ']') rfl (by decide), after_self (c := ']') rfl]
  | next :: more =>
    have long : 0 < (print quoting item).length := by
      obtain ⟨c, tail, shape, _⟩ := print_head quoting item
      rw [shape]
      exact Nat.succ_pos _
    rw [printItems, List.length_cons] at enough
    obtain ⟨fuel, rfl⟩ : ∃ less, fuel = less + 1 := ⟨fuel - 1, by omega⟩
    have first := reads fuel (',' :: (print quoting next ++ printItems quoting more ++ rest))
      (ends_of_head rfl) (by omega)
    have others := readItems_print more next (readValue_print next) fuel rest ends (by omega)
    rw [printItems, List.cons_append, readItems, first]
    simp [after_self (c := ',') rfl, others]

theorem readMembers_print (members : List (String × Json)) (name : String) (value : Json)
    (reads : ∀ (fuel : Nat) (rest : List Char), Ends rest → (print quoting value).length ≤ fuel →
      readValue fuel (print quoting value ++ rest) = some (value, rest)) :
    ∀ (fuel : Nat) (rest : List Char), Ends rest →
      (printString quoting name ++ ':' :: (print quoting value ++ printMembers quoting members)).length ≤ fuel →
      readMembers fuel (printString quoting name ++ ':' :: (print quoting value ++ printMembers quoting members) ++ rest) =
        some ((name, value) :: members, rest) := by
  intro fuel rest ends enough
  rw [List.length_append, List.length_cons, List.length_append] at enough
  obtain ⟨fuel, rfl⟩ : ∃ less, fuel = less + 1 := ⟨fuel - 1, by omega⟩
  match members with
  | [] =>
    rw [printMembers, List.length_singleton] at enough
    have key := readString_print quoting name fuel
      (':' :: (print quoting value ++ ('}' :: rest))) (by omega)
    have first := reads fuel ('}' :: rest) (ends_of_head rfl) (by omega)
    rw [printMembers, List.append_assoc, List.cons_append, List.append_assoc, List.singleton_append, readMembers, key]
    simp [after_other (c := ',') (d := '}') rfl (by decide), after_self (c := '}') rfl, after_self (c := ':') rfl, first]
  | (other, next) :: more =>
    rw [printMembers, List.length_cons] at enough
    have key := readString_print quoting name fuel
      (':' :: (print quoting value ++ (printMembers quoting ((other, next) :: more) ++ rest))) (by omega)
    have first := reads fuel (printMembers quoting ((other, next) :: more) ++ rest)
      (ends_of_head rfl) (by omega)
    have others := readMembers_print more other next (readValue_print next) fuel rest ends (by omega)
    rw [List.append_assoc, List.cons_append, List.append_assoc, readMembers, key]
    simp only [Option.bind_eq_bind, Option.bind_some, after_self (c := ':') rfl, first]
    rw [printMembers, List.cons_append]
    simp only [after_self (c := ',') rfl, others, Option.bind_some]
    rfl

end

/-- What is printed is read back. -/
theorem parse_print (value : Json) : parse (print quoting value) = some value := by
  have read := readValue_print quoting value ((print quoting value).length + 1) [] (by rintro _ ⟨⟩) (Nat.le_succ _)
  rw [List.append_nil] at read
  rw [parse, read]
  rfl

theorem pair_all {P : Char → Prop} {c d e : Char} (first : P d) (second : P e) (member : c ∈ [d, e]) : P c := by
  rcases List.mem_cons.mp member with rfl | last
  · exact first
  · rw [List.mem_singleton.mp last]
    exact second

/-- A property of word characters, of the marks and of all spellings. -/
structure Quoting.Covers (quoting : Quoting) (P : Char → Prop) : Prop where
  words : ∀ c, isWord c = true → P c
  marks : ∀ c ∈ "\"[]{},:".toList, P c
  escapes : ∀ c, ∀ d ∈ quoting.escape c, P d

section Characters

variable {quoting} {P : Char → Prop} (covers : quoting.Covers P)
include covers

theorem Quoting.Covers.literal {text : List Char} (letters : text.all isWord = true) : ∀ c ∈ text, P c :=
  fun c member => covers.words c (List.all_eq_true.mp letters c member)

theorem printString_all (name : String) : ∀ c ∈ printString quoting name, P c := by
  intro c member
  rcases List.mem_cons.mp member with rfl | later
  · exact covers.marks _ (by decide)
  · rcases List.mem_append.mp later with inside | last
    · obtain ⟨d, _, spelled⟩ := List.mem_flatMap.mp inside
      exact covers.escapes d c spelled
    · rw [List.mem_singleton.mp last]
      exact covers.marks _ (by decide)

mutual

/-- Such a property holds of every character that is printed. -/
theorem print_all (value : Json) : ∀ c ∈ print quoting value, P c := by
  intro c member
  match value with
  | .null => exact covers.literal (by decide : "null".toList.all isWord = true) c member
  | .boolean true => exact covers.literal (by decide : "true".toList.all isWord = true) c member
  | .boolean false => exact covers.literal (by decide : "false".toList.all isWord = true) c member
  | .number numeral => exact covers.words c (numeral.isWord c member)
  | .string text => exact printString_all covers text c member
  | .array [] => exact pair_all (covers.marks _ (by decide)) (covers.marks _ (by decide)) member
  | .array (item :: items) =>
    rw [print, List.mem_cons, List.mem_append] at member
    rcases member with rfl | first | later
    · exact covers.marks _ (by decide)
    · exact print_all item c first
    · exact printItems_all items c later
  | .object [] => exact pair_all (covers.marks _ (by decide)) (covers.marks _ (by decide)) member
  | .object ((name, value) :: members) =>
    rw [print, List.mem_cons, List.mem_append, List.mem_cons, List.mem_append] at member
    rcases member with rfl | key | rfl | first | later
    · exact covers.marks _ (by decide)
    · exact printString_all covers name c key
    · exact covers.marks _ (by decide)
    · exact print_all value c first
    · exact printMembers_all members c later

theorem printItems_all (items : List Json) : ∀ c ∈ printItems quoting items, P c := by
  intro c member
  match items with
  | [] =>
    rw [List.mem_singleton.mp member]
    exact covers.marks _ (by decide)
  | item :: items =>
    rw [printItems, List.mem_cons, List.mem_append] at member
    rcases member with rfl | first | later
    · exact covers.marks _ (by decide)
    · exact print_all item c first
    · exact printItems_all items c later

theorem printMembers_all (members : List (String × Json)) : ∀ c ∈ printMembers quoting members, P c := by
  intro c member
  match members with
  | [] =>
    rw [List.mem_singleton.mp member]
    exact covers.marks _ (by decide)
  | (name, value) :: members =>
    rw [printMembers, List.mem_cons, List.mem_append, List.mem_cons, List.mem_append] at member
    rcases member with rfl | key | rfl | first | later
    · exact covers.marks _ (by decide)
    · exact printString_all covers name c key
    · exact covers.marks _ (by decide)
    · exact print_all value c first
    · exact printMembers_all members c later

end

end Characters

/-- No control character is printed, so that a value fills one line. -/
theorem print_printable (value : Json) : ∀ c ∈ print quoting value, 0x20 ≤ c.toNat := by
  have words (c : Char) (word : isWord c = true) : 0x20 ≤ c.toNat := by
    by_contra control
    have small : ∀ code < 0x20, isWord (Char.ofNat code) = false := by decide
    have out := small c.toNat (by omega)
    rw [Char.ofNat_toNat, word] at out
    cases out
  have marks : "\"[]{},:".toList.all (fun c => decide (0x20 ≤ c.toNat)) = true := by decide
  exact print_all ⟨words, fun c member => of_decide_eq_true (List.all_eq_true.mp marks c member), quoting.printable⟩ value

end Print

/-- The UTF-16 code units of a character. -/
def codeUnits (c : Char) : List Nat :=
  if c.toNat < 0x10000 then [c.toNat]
  else [0xd800 + (c.toNat - 0x10000) / 0x400, 0xdc00 + (c.toNat - 0x10000) % 0x400]

/-- A writer that has short escapes for some characters, writes others as they are
and spells the rest by their code units. -/
structure Speller where
  shorts : List (Char × Char)
  plain : Char → Bool
  digit : Nat → Char
  shorts_read : ∀ entry ∈ shorts, 0x20 ≤ entry.2.toNat ∧
    ∀ rest, readCharacter ('\\' :: entry.2 :: rest) = some (entry.1, rest)
  plain_solid : ∀ c, plain c = true → ¬(c = '\\' ∨ c = '"' ∨ c.toNat < 0x20)
  digit_value : ∀ n < 16, hexValue? (digit n) = some n

namespace Speller

variable (speller : Speller)

def unitText (unit : Nat) : List Char :=
  [speller.digit (unit / 4096 % 16), speller.digit (unit / 256 % 16), speller.digit (unit / 16 % 16),
    speller.digit (unit % 16)]

def escape (c : Char) : List Char :=
  match speller.shorts.find? fun entry => entry.1 = c with
  | some (_, letter) => ['\\', letter]
  | none =>
    if speller.plain c then [c] else (codeUnits c).flatMap fun unit => '\\' :: 'u' :: speller.unitText unit

theorem readUnit_unitText {unit : Nat} (narrow : unit < 65536) (rest : List Char) :
    readUnit (speller.unitText unit ++ rest) = some (unit, rest) := by
  have value (n : Nat) : hexValue? (speller.digit (n % 16)) = some (n % 16) :=
    speller.digit_value _ (Nat.mod_lt _ (by decide))
  simp only [unitText, List.cons_append, List.nil_append, readUnit, value, Option.bind_eq_bind, Option.bind_some]
  have whole : ((unit / 4096 % 16 * 16 + unit / 256 % 16) * 16 + unit / 16 % 16) * 16 + unit % 16 = unit := by omega
  rw [whole]
  rfl

/-- Character codes leave out the surrogates. -/
theorem toNat_cases (c : Char) : c.toNat < 0xd800 ∨ 0xe000 ≤ c.toNat ∧ c.toNat < 0x110000 := by
  rcases c.valid with low | ⟨above, below⟩
  · exact Or.inl low
  · exact Or.inr ⟨above, below⟩

theorem readCharacter_unit {unit : Nat} (narrow : unit < 0x10000) (plain : unit < 0xd800 ∨ 0xe000 ≤ unit)
    (rest : List Char) :
    readCharacter ('\\' :: 'u' :: (speller.unitText unit ++ rest)) = some (Char.ofNat unit, rest) := by
  have solid : ¬(0xd800 ≤ unit ∧ unit < 0xdc00) ∧ ¬(0xdc00 ≤ unit ∧ unit < 0xe000) := by omega
  simp only [readCharacter, readEscaped, speller.readUnit_unitText narrow, Option.bind_eq_bind, Option.bind_some,
    if_neg solid.1, if_neg solid.2]
  rfl

theorem readCharacter_pair {high low : Nat} (leads : 0xd800 ≤ high ∧ high < 0xdc00)
    (trails : 0xdc00 ≤ low ∧ low < 0xe000) (rest : List Char) :
    readCharacter ('\\' :: 'u' :: (speller.unitText high ++ '\\' :: 'u' :: (speller.unitText low ++ rest))) =
      some (Char.ofNat (0x10000 + (high - 0xd800) * 0x400 + (low - 0xdc00)), rest) := by
  have narrow : high < 0x10000 ∧ low < 0x10000 := by omega
  simp only [readCharacter, readEscaped, speller.readUnit_unitText narrow.1, Option.bind_eq_bind, Option.bind_some,
    if_pos leads, speller.readUnit_unitText narrow.2, if_pos trails]
  rfl

theorem readCharacter_codeUnits (c : Char) (rest : List Char) :
    readCharacter (((codeUnits c).flatMap fun unit => '\\' :: 'u' :: speller.unitText unit) ++ rest) = some (c, rest) := by
  have codes := toNat_cases c
  unfold codeUnits
  split
  · next narrow =>
    rw [List.flatMap_singleton, List.cons_append, List.cons_append, speller.readCharacter_unit narrow (by omega) rest,
      Char.ofNat_toNat]
  · next wide =>
    generalize leading : 0xd800 + (c.toNat - 0x10000) / 0x400 = high
    generalize trailing : 0xdc00 + (c.toNat - 0x10000) % 0x400 = low
    have whole : 0x10000 + (high - 0xd800) * 0x400 + (low - 0xdc00) = c.toNat := by omega
    have read := speller.readCharacter_pair (by omega : 0xd800 ≤ high ∧ high < 0xdc00)
      (by omega : 0xdc00 ≤ low ∧ low < 0xe000) rest
    rw [whole, Char.ofNat_toNat] at read
    rw [← read]
    simp only [List.flatMap_cons, List.flatMap_nil, List.append_nil, List.cons_append, List.append_assoc]

theorem readCharacter_escape (c : Char) (rest : List Char) :
    readCharacter (speller.escape c ++ rest) = some (c, rest) := by
  unfold escape
  split
  · next known letter found =>
    have same : known = c := by simpa using List.find?_some found
    exact same ▸ (speller.shorts_read _ (List.mem_of_find?_eq_some found)).2 rest
  · split
    · next plain =>
      have solid := speller.plain_solid c plain
      rw [List.singleton_append, readCharacter.eq_10, if_neg solid]
      all_goals
        rintro _ rfl
        exact absurd (Or.inl rfl) solid
    · exact speller.readCharacter_codeUnits c rest

/-- Only hexadecimal digits have a value. -/
theorem printable_of_hexValue {c : Char} {n : Nat} (value : hexValue? c = some n) : 0x20 ≤ c.toNat := by
  by_contra control
  have small : ∀ code < 0x20, hexValue? (Char.ofNat code) = none := by decide
  have out := small c.toNat (by omega)
  rw [Char.ofNat_toNat, value] at out
  cases out

/-- The characters of an escape: the character itself, or a short escape or
hexadecimal digits. -/
theorem mem_escape {c d : Char} (member : d ∈ speller.escape c) :
    d = '\\' ∨ d = 'u' ∨ (∃ entry ∈ speller.shorts, d = entry.2) ∨ speller.plain d = true ∨
      ∃ n < 16, d = speller.digit n := by
  unfold escape at member
  split at member
  · next known letter found =>
    rcases List.mem_cons.mp member with rfl | last
    · exact Or.inl rfl
    · rw [List.mem_singleton.mp last]
      exact Or.inr (Or.inr (Or.inl ⟨_, List.mem_of_find?_eq_some found, rfl⟩))
  · split at member
    · next plain =>
      rw [List.mem_singleton.mp member]
      exact Or.inr (Or.inr (Or.inr (Or.inl plain)))
    · obtain ⟨unit, _, spelled⟩ := List.mem_flatMap.mp member
      rcases List.mem_cons.mp spelled with rfl | spelled
      · exact Or.inl rfl
      · rcases List.mem_cons.mp spelled with rfl | spelled
        · exact Or.inr (Or.inl rfl)
        · refine Or.inr (Or.inr (Or.inr (Or.inr ?_)))
          simp only [unitText, List.mem_cons, List.not_mem_nil, or_false] at spelled
          rcases spelled with rfl | rfl | rfl | rfl <;> exact ⟨_, Nat.mod_lt _ (by decide), rfl⟩

def quoting : Quoting where
  escape := speller.escape
  reads := speller.readCharacter_escape
  printable := by
    intro c d member
    rcases speller.mem_escape member with rfl | rfl | ⟨entry, listed, rfl⟩ | plain | ⟨n, small, rfl⟩
    · decide
    · decide
    · exact (speller.shorts_read entry listed).1
    · have solid := speller.plain_solid d plain
      omega
    · exact printable_of_hexValue (speller.digit_value n small)

end Speller

end JsonText
