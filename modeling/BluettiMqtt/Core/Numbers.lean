import BluettiMqtt.Core.Failure
import BluettiMqtt.Core.Text
import Mathlib.Data.Int.Log
import Mathlib.Data.Nat.Prime.Basic
import Mathlib.Data.Rat.Floor
import Mathlib.Tactic.Linarith
import Mathlib.Tactic.NormNum
import Mathlib.Tactic.Positivity

namespace BluettiMqtt

/-- The integer next to a rational, the even one of two. -/
def roundTiesToEven (value : ℚ) : Int :=
  let below := ⌊value⌋
  if value - below < 1 / 2 then below
  else if 1 / 2 < value - below then below + 1
  else if below % 2 = 0 then below
  else below + 1

namespace Number

/-- The binary64 number next to a rational. Below the smallest normal number
the unit is fixed, and from `2 ^ 1024` on the result is infinite. -/
def nearest (value : ℚ) : Number :=
  let unit : ℚ := 2 ^ max (Int.log 2 |value| - 52) (-1074)
  let rounded := roundTiesToEven (value / unit) * unit
  if 2 ^ 1024 ≤ |rounded| then .infinite (decide (value < 0)) else .finite rounded

def isFinite : Number → Bool
  | .finite _ => true
  | _ => false

def isPositive : Number → Bool
  | .finite value => 0 < value
  | .infinite negative => !negative
  | .notANumber => false

/-- The product with a positive factor. -/
def scale (factor : ℚ) : Number → Number
  | .finite value => nearest (value * factor)
  | .infinite negative => .infinite negative
  | .notANumber => .notANumber

def negate : Number → Number
  | .finite value => .finite (-value)
  | .infinite negative => .infinite !negative
  | .notANumber => .notANumber

/-- `Number.isSafeInteger`. -/
def isSafeInteger (number : Number) : Bool :=
  number.integer?.any fun integer => |integer| < 2 ^ 53

end Number

/-- The value of a digit of the given radix. -/
def digitValue (radix : Nat) (c : Char) : Option Nat :=
  let value :=
    if c.isDigit then c.toNat - '0'.toNat
    else if c.isLower then c.toNat - 'a'.toNat + 10
    else c.toNat - 'A'.toNat + 10
  if c.isAlphanum && value < radix then some value else none

/-- One or more digits of the given radix, from end to end. -/
def digitsValue (radix : Nat) (digits : List Char) : Option Nat :=
  if digits = [] then none
  else digits.foldlM (fun value c => (digitValue radix c).map (radix * value + ·)) 0

/-- What may follow the digits of a decimal literal. -/
def exponentValue : List Char → Option Int
  | [] => some 0
  | c :: rest =>
    if c = 'e' || c = 'E' then
      match rest with
      | '-' :: digits => (digitsValue 10 digits).map fun value => -value
      | '+' :: digits => (digitsValue 10 digits).map Nat.cast
      | digits => (digitsValue 10 digits).map Nat.cast
    else none

/-- A decimal literal without sign. -/
def unsignedValue (text : List Char) : Option Number :=
  if text = "Infinity".toList then some (.infinite false)
  else
    let (whole, rest) := text.span Char.isDigit
    let (fraction, rest) :=
      match rest with
      | '.' :: rest => rest.span Char.isDigit
      | rest => ([], rest)
    match digitsValue 10 (whole ++ fraction), exponentValue rest with
    | some digits, some exponent => some (.nearest (digits * 10 ^ (exponent - fraction.length)))
    | _, _ => none

/-- `Number(text)`. -/
def Number.ofText (text : String) : Number :=
  match (trim text).toList with
  | [] => .finite 0
  | '0' :: 'x' :: digits => radixValue 16 digits
  | '0' :: 'X' :: digits => radixValue 16 digits
  | '0' :: 'o' :: digits => radixValue 8 digits
  | '0' :: 'O' :: digits => radixValue 8 digits
  | '0' :: 'b' :: digits => radixValue 2 digits
  | '0' :: 'B' :: digits => radixValue 2 digits
  | '-' :: rest => ((unsignedValue rest).map negate).getD .notANumber
  | '+' :: rest => (unsignedValue rest).getD .notANumber
  | rest => (unsignedValue rest).getD .notANumber
where
  radixValue (radix : Nat) (digits : List Char) : Number :=
    ((digitsValue radix digits).map fun value => .nearest value).getD .notANumber

@[simp] theorem roundTiesToEven_intCast (n : Int) : roundTiesToEven (n : ℚ) = n := by
  rw [roundTiesToEven, Int.floor_intCast, sub_self]
  norm_num

theorem abs_roundTiesToEven_sub_le (value : ℚ) : |(roundTiesToEven value : ℚ) - value| ≤ 1 / 2 := by
  have below := Int.floor_le value
  have above := Int.lt_floor_add_one value
  rw [abs_le]
  unfold roundTiesToEven
  simp only
  split_ifs <;> push_cast <;> constructor <;> linarith

theorem roundTiesToEven_neg (value : ℚ) : roundTiesToEven (-value) = -roundTiesToEven value := by
  by_cases whole : (⌊value⌋ : ℚ) = value
  · rw [← whole, ← Int.cast_neg, roundTiesToEven_intCast, roundTiesToEven_intCast]
  · have below := lt_of_le_of_ne (Int.floor_le value) whole
    have above := Int.lt_floor_add_one value
    have floor : ⌊-value⌋ = -⌊value⌋ - 1 := by
      refine Int.floor_eq_iff.mpr ⟨?_, ?_⟩ <;> push_cast <;> linarith
    unfold roundTiesToEven
    simp only [floor]
    push_cast
    split_ifs <;> first | omega | (exfalso; linarith)

/-- Rounding does not pass an integer. -/
theorem abs_roundTiesToEven_le {value : ℚ} {bound : Int} (within : |value| ≤ bound) : |roundTiesToEven value| ≤ bound := by
  obtain ⟨low, high⟩ := abs_le.mp within
  obtain ⟨least, most⟩ := abs_le.mp (abs_roundTiesToEven_sub_le value)
  rw [abs_le]
  constructor
  · have : (-bound : ℚ) - 1 < (roundTiesToEven value : ℚ) := by linarith
    have : (-bound - 1 : Int) < roundTiesToEven value := by exact_mod_cast this
    omega
  · have : (roundTiesToEven value : ℚ) < bound + 1 := by linarith
    have : roundTiesToEven value < bound + 1 := by exact_mod_cast this
    omega

theorem roundTiesToEven_nonneg {value : ℚ} (nonneg : 0 ≤ value) : 0 ≤ roundTiesToEven value := by
  have below : 0 ≤ ⌊value⌋ := Int.floor_nonneg.mpr nonneg
  unfold roundTiesToEven
  simp only
  split_ifs <;> omega

theorem nearest_nonneg {value ms : ℚ} (nonneg : 0 ≤ value) (finite : Number.nearest value = .finite ms) :
    0 ≤ ms := by
  unfold Number.nearest at finite
  simp only at finite
  split at finite
  · cases finite
  · cases finite
    have unit : (0 : ℚ) < 2 ^ max (Int.log 2 |value| - 52) (-1074) := zpow_pos two_pos _
    have rounded := roundTiesToEven_nonneg (div_nonneg nonneg unit.le)
    exact mul_nonneg (by exact_mod_cast rounded) unit.le

namespace Number

/-- The exponent of the unit in the last place. -/
def unitExponent (value : ℚ) : Int :=
  max (Int.log 2 |value| - 52) (-1074)

theorem nearest_eq (value : ℚ) : nearest value =
    if 2 ^ 1024 ≤ |(roundTiesToEven (value / 2 ^ unitExponent value) : ℚ) * 2 ^ unitExponent value| then
      .infinite (decide (value < 0))
    else .finite (roundTiesToEven (value / 2 ^ unitExponent value) * 2 ^ unitExponent value) := rfl

/-- A multiple of its unit is a number of its own. -/
theorem nearest_of_multiple {value : ℚ} {n : Int} (exponent : Int) (multiple : value = n * 2 ^ exponent)
    (coarse : unitExponent value ≤ exponent) (small : |value| < 2 ^ 1024) : nearest value = .finite value := by
  obtain ⟨k, rfl⟩ : ∃ k : Nat, exponent = unitExponent value + k := ⟨(exponent - unitExponent value).toNat, by omega⟩
  have unit : (2 : ℚ) ^ unitExponent value ≠ 0 := zpow_ne_zero _ two_ne_zero
  have whole : value / 2 ^ unitExponent value = ((n * 2 ^ k : Int) : ℚ) := by
    rw [div_eq_iff unit]
    refine multiple.trans ?_
    rw [zpow_add₀ two_ne_zero, zpow_natCast]
    push_cast
    ring
  have same : (roundTiesToEven (value / 2 ^ unitExponent value) : ℚ) * 2 ^ unitExponent value = value := by
    rw [whole, roundTiesToEven_intCast, ← whole, div_mul_cancel₀ _ unit]
  rw [nearest_eq, same, if_neg (not_le.mpr small)]

theorem nearest_zero : nearest 0 = .finite 0 :=
  nearest_of_multiple (n := 0) (unitExponent 0) (by simp) le_rfl (by simp)

theorem abs_div_unit_le (value : ℚ) : |value / 2 ^ unitExponent value| ≤ 2 ^ 53 := by
  have unit : (0 : ℚ) < 2 ^ unitExponent value := zpow_pos two_pos _
  rw [abs_div, abs_of_pos unit, div_le_iff₀ unit]
  have above := Int.lt_zpow_succ_log_self (b := 2) (by decide) |value|
  have coarse : Int.log 2 |value| + 1 ≤ 53 + unitExponent value := by
    have := le_max_left (Int.log 2 |value| - 52) (-1074)
    unfold unitExponent
    omega
  have power : (2 : ℚ) ^ (Int.log 2 |value| + 1) ≤ 2 ^ (53 + unitExponent value) :=
    zpow_le_zpow_right₀ one_le_two coarse
  have same : (2 : ℚ) ^ (53 + unitExponent value) = 2 ^ 53 * 2 ^ unitExponent value := zpow_add₀ two_ne_zero 53 _
  rw [← same]
  exact (Nat.cast_two (R := ℚ) ▸ above).le.trans power

/-- The rounded value is a whole number of units. -/
theorem nearest_finite_iff {value number : ℚ} : nearest value = .finite number ↔
    number = roundTiesToEven (value / 2 ^ unitExponent value) * 2 ^ unitExponent value ∧ |number| < 2 ^ 1024 := by
  rw [nearest_eq]
  split
  · next large =>
    refine ⟨nofun, ?_⟩
    rintro ⟨rfl, small⟩
    exact absurd large (not_le.mpr small)
  · next small =>
    refine ⟨?_, fun ⟨same, _⟩ => by rw [same]⟩
    rintro ⟨⟩
    exact ⟨rfl, not_le.mp small⟩

theorem nearest_neg {value number : ℚ} (finite : nearest value = .finite number) : nearest (-value) = .finite (-number) := by
  obtain ⟨same, small⟩ := nearest_finite_iff.mp finite
  refine nearest_finite_iff.mpr ⟨?_, by rwa [abs_neg]⟩
  rw [unitExponent, abs_neg, neg_div, roundTiesToEven_neg, same]
  push_cast
  exact (neg_mul _ _).symm

theorem unitExponent_le_of_lt {value : ℚ} {exponent : Int} (low : -1074 ≤ exponent) (zero : value ≠ 0)
    (small : |value| < 2 ^ (exponent + 53)) : unitExponent value ≤ exponent := by
  have below : Int.log 2 |value| < exponent + 53 :=
    (Int.lt_zpow_iff_log_lt (by decide) (abs_pos.mpr zero)).mp (by exact_mod_cast small)
  unfold unitExponent
  omega

/-- A binary64 number is the number next to itself. -/
theorem nearest_nearest {value number : ℚ} (finite : nearest value = .finite number) : nearest number = .finite number := by
  obtain ⟨same, small⟩ := nearest_finite_iff.mp finite
  have bounded : |roundTiesToEven (value / 2 ^ unitExponent value)| ≤ 2 ^ 53 :=
    abs_roundTiesToEven_le (by exact_mod_cast abs_div_unit_le value)
  generalize roundTiesToEven (value / 2 ^ unitExponent value) = n at same bounded
  have low : -1074 ≤ unitExponent value := le_max_right _ _
  have unit : (0 : ℚ) < 2 ^ unitExponent value := zpow_pos two_pos _
  have size : |number| = |(n : ℚ)| * 2 ^ unitExponent value := by rw [same, abs_mul, abs_of_pos unit]
  by_cases zero : n = 0
  · rw [zero, Int.cast_zero, zero_mul] at same
    subst same
    exact nearest_zero
  · have some_ : number ≠ 0 := by
      rw [same]
      exact mul_ne_zero (by exact_mod_cast zero) unit.ne'
    rcases lt_or_eq_of_le bounded with less | full
    · refine nearest_of_multiple (unitExponent value) same (unitExponent_le_of_lt low some_ ?_) small
      rw [size, add_comm, zpow_add₀ two_ne_zero]
      refine mul_lt_mul_of_pos_right ?_ unit
      exact_mod_cast less
    · obtain ⟨m, rfl⟩ : ∃ m, n = m * 2 := by
        rcases abs_eq (by decide) |>.mp full with rfl | rfl
        · exact ⟨2 ^ 52, by norm_num⟩
        · exact ⟨-2 ^ 52, by norm_num⟩
      refine nearest_of_multiple (n := m) (unitExponent value + 1) ?_
        (unitExponent_le_of_lt (by omega) some_ ?_) small
      · rw [same, zpow_add_one₀ two_ne_zero]
        push_cast
        ring
      · have exact_ : |((m * 2 : Int) : ℚ)| = 2 ^ 53 := by exact_mod_cast full
        rw [size, exact_, add_right_comm, zpow_add_one₀ two_ne_zero, add_comm, zpow_add₀ two_ne_zero]
        have : (0 : ℚ) < 2 ^ (53 : Int) := zpow_pos two_pos _
        have same : ((2 : ℚ) ^ (53 : Int)) = 2 ^ 53 := by norm_cast
        rw [same]
        have positive : (0 : ℚ) < 2 ^ 53 * 2 ^ unitExponent value := by positivity
        linarith

/-- Its denominator is a power of two. -/
theorem den_of_nearest {value number : ℚ} (finite : nearest value = .finite number) : ∃ k : Nat, number.den = 2 ^ k := by
  obtain ⟨same, _⟩ := nearest_finite_iff.mp finite
  generalize roundTiesToEven (value / 2 ^ unitExponent value) = n at same
  obtain ⟨k, negative⟩ | ⟨k, positive⟩ : (∃ k : Nat, unitExponent value = -k) ∨ ∃ k : Nat, unitExponent value = k := by
    rcases le_total (unitExponent value) 0 with low | high
    · exact Or.inl ⟨(-unitExponent value).toNat, by omega⟩
    · exact Or.inr ⟨(unitExponent value).toNat, by omega⟩
  · have quotient : number = Rat.divInt n (2 ^ k : Nat) := by
      rw [same, negative, zpow_neg, zpow_natCast, Rat.divInt_eq_div]
      push_cast
      rfl
    have divides := Rat.den_dvd n (2 ^ k : Nat)
    rw [← quotient] at divides
    obtain ⟨j, _, power⟩ := (Nat.dvd_prime_pow Nat.prime_two).mp (by exact_mod_cast divides)
    exact ⟨j, power⟩
  · refine ⟨0, ?_⟩
    have whole : number = ((n * 2 ^ k : Int) : ℚ) := by
      rw [same, positive, zpow_natCast]
      push_cast
      rfl
    rw [whole]
    rfl

/-- Numbers below `2 ^ 1023` do not overflow. -/
theorem nearest_finite {value : ℚ} (small : |value| < 2 ^ 1023) : ∃ number, nearest value = .finite number := by
  refine ⟨_, nearest_finite_iff.mpr ⟨rfl, ?_⟩⟩
  by_cases zero : value = 0
  · subst zero
    rw [zero_div, show (0 : ℚ) = ((0 : Int) : ℚ) from rfl, roundTiesToEven_intCast]
    norm_num
  · have fine : unitExponent value ≤ 970 :=
      unitExponent_le_of_lt (by decide) zero (by rwa [show (970 : Int) + 53 = (1023 : Nat) from rfl, zpow_natCast])
    have bounded : |roundTiesToEven (value / 2 ^ unitExponent value)| ≤ 2 ^ 53 :=
      abs_roundTiesToEven_le (by exact_mod_cast abs_div_unit_le value)
    have unit : (0 : ℚ) < 2 ^ unitExponent value := zpow_pos two_pos _
    have cast_ : |(roundTiesToEven (value / 2 ^ unitExponent value) : ℚ)| ≤ 2 ^ 53 := by exact_mod_cast bounded
    calc |(roundTiesToEven (value / 2 ^ unitExponent value) : ℚ) * 2 ^ unitExponent value|
        = |(roundTiesToEven (value / 2 ^ unitExponent value) : ℚ)| * 2 ^ unitExponent value := by
          rw [abs_mul, abs_of_pos unit]
      _ ≤ 2 ^ 53 * 2 ^ (970 : Int) :=
          mul_le_mul cast_ (zpow_le_zpow_right₀ one_le_two fine) unit.le (by positivity)
      _ = 2 ^ (53 + 970) := by
          rw [show (970 : Int) = (970 : Nat) from rfl, zpow_natCast, ← pow_add]
      _ < 2 ^ 1024 := pow_lt_pow_right₀ one_lt_two (by decide)

end Number

/-- Integers below the 53 bits of a binary64 number are numbers of their own. -/
theorem nearest_intCast {n : Int} (small : |n| < 2 ^ 53) : Number.nearest n = .ofInt n := by
  have cast_ : |(n : ℚ)| < 2 ^ 53 := by exact_mod_cast small
  refine Number.nearest_of_multiple (n := n) 0 (by simp) ?_ (cast_.trans (pow_lt_pow_right₀ one_lt_two (by decide)))
  by_cases zero : n = 0
  · subst zero
    simp [Number.unitExponent]
  · exact Number.unitExponent_le_of_lt (by decide) (by exact_mod_cast zero) (by exact_mod_cast cast_)

end BluettiMqtt
