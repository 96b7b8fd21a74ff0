import BluettiMqtt.Core.Types
import BluettiMqtt.Library.JsonText
import BluettiMqtt.Library.OrderedMap
import Mathlib.Data.List.Sort

namespace BluettiMqtt
open JsonText

def hexDigit (digits : String) (n : Nat) : Char :=
  digits.toList.getD n '0'

/-- How `JSON.stringify` spells strings. -/
def JSON_STRINGIFY : Speller where
  shorts := [('"', '"'), ('\\', '\\'), (Char.ofNat 8, 'b'), (Char.ofNat 12, 'f'), ('\n', 'n'), ('\r', 'r'), ('\t', 't')]
  plain := fun c => c ≠ '\\' && c ≠ '"' && 0x20 ≤ c.toNat
  digit := hexDigit "0123456789abcdef"
  shorts_read := by
    simp only [List.mem_cons, List.not_mem_nil, or_false, forall_eq_or_imp, forall_eq]
    exact ⟨⟨by decide, fun _ => rfl⟩, ⟨by decide, fun _ => rfl⟩, ⟨by decide, fun _ => rfl⟩, ⟨by decide, fun _ => rfl⟩,
      ⟨by decide, fun _ => rfl⟩, ⟨by decide, fun _ => rfl⟩, ⟨by decide, fun _ => rfl⟩⟩
  plain_solid := by
    intro c plain
    simp only [Bool.and_eq_true, decide_eq_true_eq] at plain
    rintro (slash | quote | control)
    · exact plain.1.1 slash
    · exact plain.1.2 quote
    · omega
  digit_value := by decide

/-- The characters that the default encoder of `System.Text.Json` leaves as they are. -/
def isBasicLatin (c : Char) : Bool :=
  0x20 ≤ c.toNat && c.toNat < 0x7f && c ∉ "\\\"&'+<>`".toList

/-- How `JsonSerializer.Serialize` spells strings. -/
def JSON_SERIALIZER : Speller where
  shorts := [('\\', '\\'), (Char.ofNat 8, 'b'), ('\t', 't'), ('\n', 'n'), (Char.ofNat 12, 'f'), ('\r', 'r')]
  plain := isBasicLatin
  digit := hexDigit "0123456789ABCDEF"
  shorts_read := by
    simp only [List.mem_cons, List.not_mem_nil, or_false, forall_eq_or_imp, forall_eq]
    exact ⟨⟨by decide, fun _ => rfl⟩, ⟨by decide, fun _ => rfl⟩, ⟨by decide, fun _ => rfl⟩, ⟨by decide, fun _ => rfl⟩,
      ⟨by decide, fun _ => rfl⟩, ⟨by decide, fun _ => rfl⟩⟩
  plain_solid := by
    intro c plain
    simp only [isBasicLatin, Bool.and_eq_true, decide_eq_true_eq] at plain
    rintro (rfl | rfl | control)
    · exact plain.2 (by decide)
    · exact plain.2 (by decide)
    · omega
  digit_value := by decide

/-- What the helper writes is ASCII, whatever the strings are. -/
theorem serialized_ascii (value : JsonText.Json) :
    ∀ c ∈ print JSON_SERIALIZER.quoting value, 0x20 ≤ c.toNat ∧ c.toNat < 0x7f := by
  have listed (text : List Char) (ascii : text.all (fun c => decide (0x20 ≤ c.toNat ∧ c.toNat < 0x7f)) = true) :
      ∀ c ∈ text, 0x20 ≤ c.toNat ∧ c.toNat < 0x7f :=
    fun c member => of_decide_eq_true (List.all_eq_true.mp ascii c member)
  refine print_all ⟨fun c word => ?_, listed _ (by decide), fun c d member => ?_⟩ value
  · simp only [isWord, Char.isDigit, Bool.or_eq_true, Bool.and_eq_true, decide_eq_true_eq, UInt32.le_iff_toNat_le,
      ge_iff_le] at word
    have code : c.toNat = c.val.toNat := rfl
    rcases word with ((((digit | upper) | lower) | rfl) | rfl) | rfl
    · have first : 48 ≤ c.val.toNat := digit.1
      have last : c.val.toNat ≤ 57 := digit.2
      omega
    · omega
    · omega
    all_goals decide
  · rcases JSON_SERIALIZER.mem_escape member with rfl | rfl | ⟨entry, known, rfl⟩ | plain | ⟨n, small, rfl⟩
    · decide
    · decide
    · exact listed (JSON_SERIALIZER.shorts.map Prod.snd) (by decide) _ (List.mem_map.mpr ⟨entry, known, rfl⟩)
    · simp only [JSON_SERIALIZER, isBasicLatin, Bool.and_eq_true, decide_eq_true_eq] at plain
      exact plain.1
    · have digits : ∀ n < 16, 0x20 ≤ (JSON_SERIALIZER.digit n).toNat ∧ (JSON_SERIALIZER.digit n).toNat < 0x7f := by decide
      exact digits n small

/-- `JSON.stringify` of a value without `undefined` in it. -/
def stringify (value : JsonText.Json) : String :=
  String.ofList (print JSON_STRINGIFY.quoting value)

theorem parse_stringify (value : JsonText.Json) : parse (stringify value).toList = some value := by
  rw [stringify, String.toList_ofList, parse_print]

section Entries

variable {α β : Type}

/-- A property name that is an array index. -/
def isArrayIndex (name : String) : Bool :=
  BluettiMqtt.isDigits name.toList && (name = "0" || name.toList.head? ≠ some '0') &&
    Nat.ofDigitChars 10 name.toList 0 < 4294967295

/-- `Object.entries` of an object to which the properties were added in this order:
the array indices come first, and in their own order. -/
def objectEntries (properties : List (String × α)) : List (String × α) :=
  let index := fun property : String × α => Nat.ofDigitChars 10 property.1.toList 0
  (properties.filter fun property => isArrayIndex property.1).insertionSort (fun first second =>
    index first ≤ index second) ++ properties.filter fun property => !isArrayIndex property.1

theorem objectEntries_perm (properties : List (String × α)) : (objectEntries properties).Perm properties :=
  (List.Perm.append_right _ (List.perm_insertionSort _ _)).trans (List.filter_append_perm _ _)

theorem mem_objectEntries {properties : List (String × α)} {property : String × α} :
    property ∈ objectEntries properties ↔ property ∈ properties :=
  (objectEntries_perm properties).mem_iff

end Entries

section Digits

theorem isDigit_of_mem_repr {n : Nat} : ∀ c ∈ (toString n).toList, c.isDigit = true := by
  have text : (toString n).toList = Nat.toDigits 10 n := Nat.toList_repr
  rw [text]
  exact fun c member => Nat.isDigit_of_mem_toDigits (by decide) (by decide) member

theorem repr_ne_nil (n : Nat) : (toString n).toList ≠ [] := by
  have text : (toString n).toList = Nat.toDigits 10 n := Nat.toList_repr
  rw [text]
  exact Nat.toDigits_ne_nil

/-- A number is written without a leading zero. -/
theorem head_toDigits {n : Nat} (positive : 0 < n) : (Nat.toDigits 10 n).head? ≠ some '0' := by
  induction n using Nat.strongRecOn with
  | ind n ih =>
    by_cases small : n < 10
    · have digits : ∀ n < 10, 0 < n → (Nat.toDigits 10 n).head? ≠ some '0' := by decide
      exact digits n small positive
    · rw [Nat.toDigits_of_base_le (by decide) (Nat.le_of_not_lt small), List.head?_append_of_ne_nil _ Nat.toDigits_ne_nil]
      exact ih (n / 10) (by omega) (by omega)

theorem lead_repr (n : Nat) : (toString n).toList = ['0'] ∨ (toString n).toList.head? ≠ some '0' := by
  have text : (toString n).toList = Nat.toDigits 10 n := Nat.toList_repr
  rw [text]
  rcases Nat.eq_zero_or_pos n with rfl | positive
  · exact Or.inl rfl
  · exact Or.inr (head_toDigits positive)

theorem isUnsigned_toString (n : Nat) : isUnsigned (toString n).toList = true := by
  have unsigned : isUnsigned ((toString n).toList ++ []) = true :=
    isUnsigned_digits isDigit_of_mem_repr (repr_ne_nil n) (lead_repr n) (by rintro _ ⟨⟩) rfl
  rwa [List.append_nil] at unsigned

/-- `String(integer)` as a number in the text. -/
def intNumeral (value : Int) : Numeral where
  text := (toString value).toList
  wellFormed := by
    cases value with
    | ofNat n => exact isNumeral_of_isUnsigned (isUnsigned_toString n)
    | negSucc n =>
      have text : (toString (Int.negSucc n)).toList = '-' :: (toString (n + 1)).toList := String.toList_append
      rw [text]
      exact isUnsigned_toString (n + 1)

/-- The value of the numeral of an integer. -/
theorem intNumeral_value (n : Int) : (intNumeral n).value = n := by
  have natural (n : Nat) : JsonText.decimalValue (toString n).toList = n := by
    have text : (toString n).toList = Nat.toDigits 10 n := Nat.toList_repr
    have whole := @decimalValue_whole _ [] (isDigit_of_mem_repr (n := n)) (by rintro _ ⟨⟩) nofun
    rw [List.append_nil, text, Nat.ofDigitChars_ten_toDigits] at whole
    rw [text, whole, JsonText.exponentFactor, mul_one]
  cases n with
  | ofNat n =>
    obtain ⟨c, digits, text⟩ : ∃ c digits, (toString n).toList = c :: digits :=
      List.exists_cons_of_ne_nil (repr_ne_nil n)
    have digit : c.isDigit = true := isDigit_of_mem_repr (n := n) c (by rw [text]; exact List.mem_cons_self)
    have sign : c ≠ '-' := by
      rintro rfl
      cases digit
    have value := natural n
    rw [text] at value
    change JsonText.signedValue (toString n).toList = _
    rw [text, JsonText.signedValue.eq_2 _ fun rest heading => sign (List.cons.inj heading).1, value]
    rfl
  | negSucc n =>
    have text : (intNumeral (Int.negSucc n)).text = '-' :: (toString (n + 1)).toList := String.toList_append
    rw [JsonText.Numeral.value, text, JsonText.signedValue, natural, Int.negSucc_eq]
    push_cast
    rfl

end Digits

end BluettiMqtt
