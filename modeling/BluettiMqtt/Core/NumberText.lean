import BluettiMqtt.Core.JsonWriter
import BluettiMqtt.Core.Numbers
import Mathlib.Data.List.DropRight

namespace BluettiMqtt
open JsonText

/-- The number `digits × 10 ^ exponent`. -/
structure Decimal where
  digits : Nat
  exponent : Int
  deriving DecidableEq

namespace Decimal

def value (d : Decimal) : ℚ :=
  d.digits * 10 ^ d.exponent

/-- The decimal with so many digits that is next to a positive number. -/
def near (number : ℚ) (places : Nat) : Decimal :=
  let exponent := Int.log 10 number + 1 - places
  { digits := (roundTiesToEven (number / 10 ^ exponent)).toNat, exponent := exponent }

/-- The number of digits after which the expansion of a binary64 number ends. -/
def expansion (number : ℚ) : Nat :=
  (Int.log 10 number + 1 + Nat.log 2 number.den).toNat

/-- The decimal that `Number::toString` chooses for a positive number: no other
that is read as the number has fewer digits, and none with as many is nearer. -/
def shortest (number : ℚ) : Decimal :=
  near number (((List.range' 1 (expansion number)).find? fun places =>
    Number.nearest (near number places).value = .finite number).getD (expansion number))

/-- The digits without the zeros at their end. -/
def significand (d : Decimal) : List Char :=
  (toString d.digits).toList.rdropWhile (· = '0')

/-- How many digits stand before the decimal point. -/
def point (d : Decimal) : Int :=
  (toString d.digits).toList.length + d.exponent

def exponentPart (power : Int) : List Char :=
  'e' :: (if power < 0 then '-' else '+') :: (toString power.natAbs).toList

def scientific (digits : List Char) (power : Int) : List Char :=
  match digits with
  | lead :: next :: rest => lead :: '.' :: (next :: rest ++ exponentPart power)
  | digits => digits ++ exponentPart power

/-- `Number::toString` of a positive number, from its digits on. -/
def text (d : Decimal) : List Char :=
  if d.significand.length ≤ d.point ∧ d.point ≤ 21 then
    d.significand ++ List.replicate (d.point - d.significand.length).toNat '0'
  else if 0 < d.point ∧ d.point ≤ 21 then
    d.significand.take d.point.toNat ++ '.' :: d.significand.drop d.point.toNat
  else if -6 < d.point ∧ d.point ≤ 0 then
    '0' :: '.' :: (List.replicate (-d.point).toNat '0' ++ d.significand)
  else
    scientific d.significand (d.point - 1)

end Decimal

/-- `String(value)` of a finite number. -/
def finiteText (value : ℚ) : List Char :=
  if value = 0 then ['0'] else (if value < 0 then ['-'] else []) ++ (Decimal.shortest |value|).text

/-- `String(value)`. -/
def Number.text : Number → String
  | .finite value => String.ofList (finiteText value)
  | .infinite negative => if negative then "-Infinity" else "Infinity"
  | .notANumber => "NaN"

namespace Decimal

section Shortest

variable {number : ℚ}

/-- A positive number is not below one part of its denominator. -/
theorem log_den (positive : 0 < number) : 0 ≤ Int.log 10 number + Nat.log 2 number.den := by
  have top : (1 : ℚ) ≤ number.num := by exact_mod_cast Rat.num_pos.mpr positive
  have den : (0 : ℚ) < number.den := by exact_mod_cast number.den_pos
  have power : number.den ≤ 10 ^ Nat.log 2 number.den := by
    have above : number.den < 2 ^ (Nat.log 2 number.den + 1) := Nat.lt_pow_succ_log_self (by decide) _
    cases log : Nat.log 2 number.den with
    | zero =>
      rw [log] at above
      exact Nat.le_of_lt_succ above
    | succ k =>
      rw [log] at above
      have less : 2 ^ (k + 1 + 1) ≤ 4 ^ (k + 1) := by
        rw [show 4 = 2 ^ 2 from rfl, ← pow_mul]
        exact Nat.pow_le_pow_right (by decide) (by omega)
      exact (above.le.trans less).trans (Nat.pow_le_pow_left (by decide) _)
  suffices least : -(Nat.log 2 number.den : Int) ≤ Int.log 10 number by omega
  refine (Int.zpow_le_iff_le_log (by decide) positive).mp ?_
  have quotient : number * number.den = number.num := Rat.mul_den_eq_num number
  rw [zpow_neg, zpow_natCast, inv_le_iff_one_le_mul₀ (by positivity)]
  refine top.trans (quotient ▸ mul_le_mul_of_nonneg_left ?_ positive.le)
  exact_mod_cast power

/-- The expansion of a binary64 number is exact. -/
theorem near_expansion (positive : 0 < number) {k : Nat} (binary : number.den = 2 ^ k) :
    (near number (expansion number)).value = number := by
  have quotient : number * 2 ^ k = number.num := by
    have whole := Rat.mul_den_eq_num number
    rw [binary] at whole
    exact_mod_cast whole
  have exponent : Int.log 10 number + 1 - (expansion number : Int) = -(k : Int) := by
    have least := log_den positive
    rw [binary, Nat.log_pow (by decide)] at least
    rw [expansion, binary, Nat.log_pow (by decide)]
    omega
  have scaled : number / 10 ^ (-(k : Int)) = ((number.num * 5 ^ k : Int) : ℚ) := by
    rw [zpow_neg, div_inv_eq_mul, zpow_natCast, show (10 : ℚ) = 2 * 5 by norm_num, mul_pow, ← mul_assoc, quotient]
    push_cast
    rfl
  have top : 0 < number.num := Rat.num_pos.mpr positive
  have whole : 0 ≤ number.num * 5 ^ k := by positivity
  simp only [value, near, exponent, scaled, roundTiesToEven_intCast]
  rw [← Int.cast_natCast, Int.toNat_of_nonneg whole, ← scaled, div_mul_cancel₀]
  exact zpow_ne_zero _ (by norm_num)

theorem near_digits_pos (positive : 0 < number) {places : Nat} (some_ : 0 < places) : 0 < (near number places).digits := by
  have unit : (0 : ℚ) < 10 ^ (Int.log 10 number + 1 - places) := zpow_pos (by norm_num) _
  have one : 1 ≤ number / 10 ^ (Int.log 10 number + 1 - places) := by
    rw [le_div_iff₀ unit, one_mul]
    refine le_trans ?_ (Int.zpow_log_le_self (b := 10) (by decide) positive)
    exact zpow_le_zpow_right₀ (by norm_num) (by omega)
  have half := (abs_le.mp (abs_roundTiesToEven_sub_le (number / 10 ^ (Int.log 10 number + 1 - places)))).1
  have above : (0 : ℚ) < roundTiesToEven (number / 10 ^ (Int.log 10 number + 1 - places)) := by linarith
  have whole : 0 < roundTiesToEven (number / 10 ^ (Int.log 10 number + 1 - places)) := by exact_mod_cast above
  simp only [near]
  omega

theorem shortest_digits_pos (positive : 0 < number) : 0 < (shortest number).digits := by
  refine near_digits_pos positive ?_
  cases found : (List.range' 1 (expansion number)).find? fun places =>
      Number.nearest (near number places).value = .finite number with
  | none =>
    have least := log_den positive
    rw [Option.getD_none, expansion]
    omega
  | some places =>
    have listed := List.mem_of_find?_eq_some found
    exact (List.mem_range'_1.mp listed).1

/-- The text that is chosen is read as the number. -/
theorem nearest_shortest (positive : 0 < number) (finite : Number.nearest number = .finite number) :
    Number.nearest (shortest number).value = .finite number := by
  unfold shortest
  cases found : (List.range' 1 (expansion number)).find? fun places =>
      Number.nearest (near number places).value = .finite number with
  | none =>
    obtain ⟨k, binary⟩ := Number.den_of_nearest finite
    rw [Option.getD_none, near_expansion positive binary, finite]
  | some places =>
    have chosen := List.find?_some found
    exact of_decide_eq_true chosen

end Shortest

theorem isExponent_exponentPart (power : Int) : isExponent (exponentPart power) = true := by
  have digits : JsonText.isDigits (toString power.natAbs).toList = true := by
    simp only [JsonText.isDigits, Bool.and_eq_true, decide_eq_true_eq, List.all_eq_true]
    exact ⟨repr_ne_nil _, isDigit_of_mem_repr⟩
  simp only [exponentPart, isExponent, digits, Bool.and_true, decide_true, Bool.true_or, Bool.true_and, Bool.or_eq_true]
  right
  split <;> simp

theorem exponentFactor_exponentPart (power : Int) : exponentFactor (exponentPart power) = 10 ^ power := by
  have text (n : Nat) : (toString n).toList = Nat.toDigits 10 n := Nat.toList_repr
  have digits : Nat.ofDigitChars 10 (toString power.natAbs).toList 0 = power.natAbs := by
    rw [text, Nat.ofDigitChars_ten_toDigits]
  unfold exponentPart
  by_cases negative : power < 0
  · rw [if_pos negative, exponentFactor, digits, one_div, ← zpow_natCast, ← zpow_neg]
    congr 1
    omega
  · rw [if_neg negative, exponentFactor, digits, ← zpow_natCast]
    congr 1
    omega

theorem exponentPart_head (power : Int) : ∀ c ∈ (exponentPart power).head?, c.isDigit = false := by
  rintro _ ⟨⟩
  rfl

section Text

variable {d : Decimal}

theorem significand_zeros (d : Decimal) : ∃ zeros, (toString d.digits).toList = d.significand ++ List.replicate zeros '0' := by
  refine ⟨((toString d.digits).toList.rtakeWhile (· = '0')).length, ?_⟩
  have zeros : ∀ c ∈ (toString d.digits).toList.rtakeWhile (· = '0'), c = '0' := fun c member => by
    simpa using List.mem_rtakeWhile_imp member
  rw [← List.eq_replicate_of_mem zeros]
  exact List.rdropWhile_append_rtakeWhile.symm

theorem isDigit_significand (d : Decimal) : ∀ c ∈ d.significand, c.isDigit = true := by
  obtain ⟨zeros, text⟩ := d.significand_zeros
  exact fun c member => isDigit_of_mem_repr (n := d.digits) c (text ▸ List.mem_append_left _ member)

/-- The digits of a positive number do not begin with a zero. -/
theorem significand_head (positive : 0 < d.digits) : d.significand ≠ [] ∧ d.significand.head? ≠ some '0' := by
  obtain ⟨zeros, split⟩ := d.significand_zeros
  have text : (toString d.digits).toList = Nat.toDigits 10 d.digits := Nat.toList_repr
  have lead := head_toDigits positive
  rw [← text, split] at lead
  have some_ : d.significand ≠ [] := by
    intro none_
    rw [none_, List.nil_append] at split lead
    cases zeros with
    | zero => exact repr_ne_nil _ split
    | succ zeros => exact lead rfl
  exact ⟨some_, by rwa [List.head?_append_of_ne_nil _ some_] at lead⟩

/-- The value is told by the digits and the decimal point. -/
theorem value_eq (d : Decimal) :
    d.value = Nat.ofDigitChars 10 d.significand 0 * 10 ^ (d.point - d.significand.length) := by
  obtain ⟨zeros, split⟩ := d.significand_zeros
  have text : (toString d.digits).toList = Nat.toDigits 10 d.digits := Nat.toList_repr
  have digits : d.digits = 10 ^ zeros * Nat.ofDigitChars 10 d.significand 0 := by
    rw [← Nat.ofDigitChars_replicate_zero, ← Nat.ofDigitChars_append, ← split, text, Nat.ofDigitChars_ten_toDigits]
  have length : (d.point - d.significand.length : Int) = zeros + d.exponent := by
    rw [point, split, List.length_append, List.length_replicate]
    push_cast
    ring
  rw [value, length, zpow_add₀ (by norm_num), zpow_natCast]
  nth_rewrite 1 [digits]
  push_cast
  ring

end Text

section Layouts

variable {digits : List Char} (all : ∀ c ∈ digits, c.isDigit = true) (some_ : digits ≠ [])
  (lead : digits.head? ≠ some '0')
include all some_

include lead in
theorem layout_whole (zeros : Nat) : isUnsigned (digits ++ List.replicate zeros '0') = true ∧
    decimalValue (digits ++ List.replicate zeros '0') = Nat.ofDigitChars 10 digits 0 * 10 ^ zeros := by
  have all_ : ∀ c ∈ digits ++ List.replicate zeros '0', c.isDigit = true := fun c member =>
    (List.mem_append.mp member).elim (all c) fun zero => by rw [List.eq_of_mem_replicate zero]; rfl
  have unsigned := @isUnsigned_digits _ [] all_ (fun none_ => some_ (List.append_eq_nil_iff.mp none_).1)
    (Or.inr (by rwa [List.head?_append_of_ne_nil _ some_])) (by rintro _ ⟨⟩) rfl
  have value := @decimalValue_whole _ [] all_ (by rintro _ ⟨⟩) nofun
  rw [List.append_nil] at unsigned value
  refine ⟨unsigned, ?_⟩
  rw [value, exponentFactor, mul_one, Nat.ofDigitChars_append, Nat.ofDigitChars_replicate_zero]
  push_cast
  ring

omit some_ in
include lead in
theorem layout_fraction {places : Nat} (positive : 0 < places) (short : places < digits.length) :
    isUnsigned (digits.take places ++ '.' :: digits.drop places) = true ∧
      decimalValue (digits.take places ++ '.' :: digits.drop places) =
        Nat.ofDigitChars 10 digits 0 / 10 ^ (digits.length - places) := by
  have some_ : digits ≠ [] := List.ne_nil_of_length_pos (Nat.zero_lt_of_lt short)
  have whole : ∀ c ∈ digits.take places, c.isDigit = true := fun c member => all c (List.mem_of_mem_take member)
  have fine : ∀ c ∈ digits.drop places, c.isDigit = true := fun c member => all c (List.mem_of_mem_drop member)
  have first : digits.take places ≠ [] := by simp [some_, positive.ne']
  have head : (digits.take places).head? = digits.head? := by
    rw [List.head?_take, if_neg positive.ne']
  have later : digits.drop places ≠ [] := by simpa using short
  have fraction := @isFraction_digits _ [] fine later (by rintro _ ⟨⟩) rfl
  have value := @decimalValue_fraction _ _ [] whole fine (by rintro _ ⟨⟩)
  rw [List.append_nil] at fraction value
  refine ⟨isUnsigned_digits whole first (Or.inr (head ▸ lead)) (by rintro _ ⟨⟩; rfl) fraction, ?_⟩
  rw [value, List.take_append_drop, List.length_drop, exponentFactor, mul_one]

theorem layout_small (zeros : Nat) : isUnsigned ('0' :: '.' :: (List.replicate zeros '0' ++ digits)) = true ∧
    decimalValue ('0' :: '.' :: (List.replicate zeros '0' ++ digits)) =
      Nat.ofDigitChars 10 digits 0 / 10 ^ (zeros + digits.length) := by
  have zero : ∀ c ∈ ['0'], c.isDigit = true := List.forall_mem_singleton.mpr rfl
  have fine : ∀ c ∈ List.replicate zeros '0' ++ digits, c.isDigit = true := fun c member =>
    (List.mem_append.mp member).elim (fun zero => by rw [List.eq_of_mem_replicate zero]; rfl) (all c)
  have later : List.replicate zeros '0' ++ digits ≠ [] := fun none_ => some_ (List.append_eq_nil_iff.mp none_).2
  have fraction := @isFraction_digits _ [] fine later (by rintro _ ⟨⟩) rfl
  have value := @decimalValue_fraction _ _ [] zero fine (by rintro _ ⟨⟩)
  rw [List.append_nil] at fraction value
  refine ⟨isUnsigned_digits zero (by simp) (Or.inl rfl) (by rintro _ ⟨⟩; rfl) fraction, ?_⟩
  refine value.trans ?_
  have digits_ : Nat.ofDigitChars 10 (['0'] ++ (List.replicate zeros '0' ++ digits)) 0 = Nat.ofDigitChars 10 digits 0 := by
    rw [Nat.ofDigitChars_append, Nat.ofDigitChars_append, Nat.ofDigitChars_replicate_zero]
    rfl
  rw [digits_, exponentFactor, mul_one, List.length_append, List.length_replicate]

include lead in
theorem layout_scientific (power : Int) : isUnsigned (scientific digits power) = true ∧
    decimalValue (scientific digits power) =
      Nat.ofDigitChars 10 digits 0 * 10 ^ (power - (digits.length - 1 : Nat)) := by
  have stop := exponentPart_head power
  have exponent := isExponent_exponentPart power
  obtain _ | ⟨c, _ | ⟨next, rest⟩⟩ := digits
  · exact absurd rfl some_
  · refine ⟨isUnsigned_digits all some_ (Or.inr lead) stop exponent, ?_⟩
    refine (decimalValue_whole all stop nofun).trans ?_
    rw [exponentFactor_exponentPart]
    simp
  · have first : ∀ d ∈ [c], d.isDigit = true := fun d member => all d (List.mem_singleton.mp member ▸ List.mem_cons_self)
    have fine : ∀ d ∈ next :: rest, d.isDigit = true := fun d member => all d (List.mem_cons_of_mem _ member)
    refine ⟨isUnsigned_digits first (by simp) (Or.inr (by simpa using lead)) (by rintro _ ⟨⟩; rfl)
      (isFraction_digits fine (by simp) stop exponent), ?_⟩
    refine (decimalValue_fraction first fine stop).trans ?_
    rw [exponentFactor_exponentPart, zpow_sub₀ (by norm_num), zpow_natCast]
    simp only [List.cons_append, List.nil_append, List.length_cons, Nat.add_sub_cancel]
    ring

end Layouts

/-- The text is a number of JSON and has the value of the decimal. -/
theorem text_spec {d : Decimal} (positive : 0 < d.digits) :
    isUnsigned d.text = true ∧ decimalValue d.text = d.value := by
  have all := d.isDigit_significand
  obtain ⟨some_, lead⟩ := significand_head positive
  have length : 0 < d.significand.length := List.length_pos_iff.mpr some_
  have ten : (10 : ℚ) ≠ 0 := by norm_num
  rw [d.value_eq]
  unfold text
  split_ifs with whole fraction
  · obtain ⟨unsigned, value⟩ := layout_whole all some_ lead (d.point - d.significand.length).toNat
    refine ⟨unsigned, value.trans ?_⟩
    rw [← zpow_natCast, Int.toNat_of_nonneg (by omega)]
  · obtain ⟨unsigned, value⟩ := @layout_fraction _ all lead d.point.toNat (by omega) (by omega)
    refine ⟨unsigned, value.trans ?_⟩
    rw [div_eq_mul_inv, ← zpow_natCast, ← zpow_neg]
    congr 2
    omega
  · obtain ⟨unsigned, value⟩ := layout_small all some_ (-d.point).toNat
    refine ⟨unsigned, value.trans ?_⟩
    rw [div_eq_mul_inv, ← zpow_natCast, ← zpow_neg]
    congr 2
    omega
  · obtain ⟨unsigned, value⟩ := layout_scientific all some_ lead (d.point - 1)
    refine ⟨unsigned, value.trans ?_⟩
    congr 2
    omega

end Decimal

theorem isNumeral_finiteText (value : ℚ) : isNumeral (finiteText value) = true := by
  unfold finiteText
  split_ifs with zero negative
  · rfl
  · exact (Decimal.text_spec (Decimal.shortest_digits_pos (abs_pos.mpr zero))).1
  · exact isNumeral_of_isUnsigned (Decimal.text_spec (Decimal.shortest_digits_pos (abs_pos.mpr zero))).1

/-- A finite number as it is written. -/
def finiteNumeral (value : ℚ) : Numeral :=
  ⟨finiteText value, isNumeral_finiteText value⟩

/-- `JSON.stringify` of a number. -/
def Number.toJson : Number → JsonText.Json
  | .finite value => .number (finiteNumeral value)
  | _ => .null

/-- The text of a finite number is read as that number. -/
theorem nearest_finiteNumeral {value : ℚ} (finite : Number.nearest value = .finite value) :
    Number.nearest (finiteNumeral value).value = .finite value := by
  have chosen (positive : 0 < |value|) (finite : Number.nearest |value| = .finite |value|) :
      Number.nearest (decimalValue (Decimal.shortest |value|).text) = .finite |value| ∧
        isUnsigned (Decimal.shortest |value|).text = true := by
    obtain ⟨unsigned, same⟩ := Decimal.text_spec (Decimal.shortest_digits_pos positive)
    exact ⟨same ▸ Decimal.nearest_shortest positive finite, unsigned⟩
  change Number.nearest (signedValue (finiteText value)) = _
  unfold finiteText
  split_ifs with zero negative
  · have value_ : signedValue ['0'] = 0 := by
      simp [signedValue, decimalValue, exponentFactor]
      rfl
    rw [value_, zero, Number.nearest_zero]
  · have size : |value| = -value := abs_of_neg negative
    obtain ⟨read, _⟩ := chosen (abs_pos.mpr zero) (size ▸ Number.nearest_neg finite)
    have back := Number.nearest_neg read
    rw [size, neg_neg] at back
    rw [size]
    exact back
  · have size : |value| = value := abs_of_nonneg (not_lt.mp negative)
    obtain ⟨read, unsigned⟩ := chosen (abs_pos.mpr zero) (by rwa [size])
    rw [size] at read unsigned ⊢
    rw [List.nil_append, signedValue_of_isUnsigned unsigned, read]

section Naturals

theorem repr_mul_pow {n : Nat} (positive : 0 < n) (zeros : Nat) :
    (toString (n * 10 ^ zeros)).toList = (toString n).toList ++ List.replicate zeros '0' := by
  have text (n : Nat) : (toString n).toList = Nat.toDigits 10 n := Nat.toList_repr
  rw [text, text]
  induction zeros with
  | zero => simp
  | succ zeros ih =>
    have large : 10 ≤ n * 10 ^ (zeros + 1) := by
      rw [pow_succ, ← mul_assoc]
      exact Nat.le_mul_of_pos_left 10 (by positivity)
    rw [Nat.toDigits_of_base_le (by decide) large, List.replicate_succ', ← List.append_assoc, ← ih]
    congr 2
    · rw [pow_succ, ← mul_assoc, Nat.mul_div_cancel _ (by decide)]
    · rw [pow_succ, ← mul_assoc, Nat.mul_mod_left]
      rfl

/-- A whole number is written with its own digits. -/
theorem Decimal.text_natCast {d : Decimal} (positive : 0 < d.digits) {zeros n : Nat} (exponent : d.exponent = zeros)
    (whole : d.digits * 10 ^ zeros = n) (short : (toString n).toList.length ≤ 21) : d.text = (toString n).toList := by
  obtain ⟨more, split⟩ := d.significand_zeros
  have all := repr_mul_pow positive zeros
  rw [whole, split, List.append_assoc, List.replicate_append_replicate] at all
  have point : d.point = (toString n).toList.length := by
    rw [all, Decimal.point, split, exponent]
    simp only [List.length_append, List.length_replicate]
    push_cast
    ring
  have length : (toString n).toList.length = d.significand.length + (more + zeros) := by
    rw [all, List.length_append, List.length_replicate]
  rw [Decimal.text, if_pos (by omega), all]
  congr 2
  omega

/-- What is chosen for a whole number is the number itself. -/
theorem Decimal.shortest_natCast {n : Nat} (positive : 0 < n) (small : n < 10 ^ 15) :
    ∃ zeros : Nat, (shortest n).exponent = zeros ∧ (shortest n).digits * 10 ^ zeros = n := by
  have cast_ : (0 : ℚ) < n := by exact_mod_cast positive
  have log : Int.log 10 (n : ℚ) = (Nat.log 10 n : Int) := Int.log_natCast 10 n
  have places_ : expansion n = Nat.log 10 n + 1 := by
    rw [expansion, log, Rat.den_natCast, Nat.log_one_right]
    omega
  have whole {places zeros : Nat} (split : places + zeros = Nat.log 10 n + 1)
      (same : (near n places).value = n) : (near n places).exponent = zeros ∧ (near n places).digits * 10 ^ zeros = n := by
    have exponent : (near n places).exponent = zeros := by
      simp only [near, log]
      omega
    refine ⟨exponent, ?_⟩
    rw [value, exponent, zpow_natCast] at same
    exact_mod_cast same
  unfold shortest
  cases found : (List.range' 1 (expansion n)).find? fun places =>
      Number.nearest (near n places).value = .finite n with
  | none =>
    rw [Option.getD_none, places_]
    exact ⟨0, whole rfl (places_ ▸ near_expansion cast_ (k := 0) (Rat.den_natCast n))⟩
  | some places =>
    rw [Option.getD_some]
    have read : Number.nearest (near n places).value = .finite n := by
      have chosen := List.find?_some found
      exact of_decide_eq_true chosen
    obtain ⟨_, within⟩ := List.mem_range'_1.mp (List.mem_of_find?_eq_some found)
    obtain ⟨zeros, split⟩ : ∃ zeros, places + zeros = Nat.log 10 n + 1 := ⟨Nat.log 10 n + 1 - places, by omega⟩
    refine ⟨zeros, whole split ?_⟩
    -- the decimal is a whole number that is small enough to be its own nearest one
    have exponent : Int.log 10 (n : ℚ) + 1 - (places : Int) = zeros := by omega
    have unit : (0 : ℚ) < 10 ^ zeros := by positivity
    have below : (n : ℚ) / 10 ^ zeros ≤ 10 ^ places := by
      rw [div_le_iff₀ unit, ← pow_add, split]
      exact_mod_cast (Nat.lt_pow_succ_log_self (by decide) n).le
    have bounded : |roundTiesToEven ((n : ℚ) / 10 ^ zeros)| ≤ 10 ^ places := by
      refine abs_roundTiesToEven_le ?_
      rw [abs_of_nonneg (by positivity)]
      exact_mod_cast below
    have digits : (near n places).digits ≤ 10 ^ places := by
      simp only [near, exponent, zpow_natCast]
      exact Int.toNat_le.mpr (by exact_mod_cast (abs_le.mp bounded).2)
    have decimal : (near n places).value = (((near n places).digits * 10 ^ zeros : Nat) : ℚ) := by
      rw [value, show (near n places).exponent = zeros from exponent, zpow_natCast]
      push_cast
      rfl
    have size : (near n places).digits * 10 ^ zeros ≤ 10 ^ 15 := by
      have log_le : Nat.log 10 n < 15 := (Nat.log_lt_iff_lt_pow (by decide) positive.ne').mpr small
      calc (near n places).digits * 10 ^ zeros
          ≤ 10 ^ places * 10 ^ zeros := Nat.mul_le_mul_right _ digits
        _ = 10 ^ (Nat.log 10 n + 1) := by rw [← pow_add, split]
        _ ≤ 10 ^ 15 := Nat.pow_le_pow_right (by decide) log_le
    have own : Number.nearest (near n places).value = .finite (near n places).value := by
      rw [decimal]
      have bound : |(((near n places).digits * 10 ^ zeros : Nat) : Int)| < 2 ^ 53 := by
        rw [abs_of_nonneg (Int.natCast_nonneg _)]
        exact_mod_cast size.trans_lt (by decide)
      exact_mod_cast nearest_intCast bound
    exact Number.finite.inj (own.symm.trans read)

theorem Number.text_natCast {n : Nat} (small : n < 10 ^ 15) : (Number.nearest n).text = toString n := by
  have finite : Number.nearest (n : ℚ) = .finite n := by
    have bound : |(n : Int)| < 2 ^ 53 := by
      rw [abs_of_nonneg (Int.natCast_nonneg n)]
      exact_mod_cast small.trans (by decide)
    exact_mod_cast nearest_intCast bound
  rw [finite, Number.text]
  apply String.toList_inj.mp
  rw [String.toList_ofList, finiteText]
  rcases Nat.eq_zero_or_pos n with rfl | positive
  · rfl
  · have text : (toString n).toList = Nat.toDigits 10 n := Nat.toList_repr
    have some_ : (n : ℚ) ≠ 0 := by exact_mod_cast positive.ne'
    have above : ¬(n : ℚ) < 0 := not_lt.mpr (Nat.cast_nonneg n)
    obtain ⟨zeros, exponent, whole⟩ := Decimal.shortest_natCast positive small
    rw [if_neg some_, if_neg above, List.nil_append, abs_of_nonneg (Nat.cast_nonneg n)]
    refine Decimal.text_natCast (Decimal.shortest_digits_pos (by exact_mod_cast positive)) exponent whole ?_
    rw [text]
    exact ((Nat.length_toDigits_le_iff (by decide) (by decide)).mpr small).trans (by decide)

end Naturals

end BluettiMqtt
