import Mathlib.Algebra.Order.Field.Basic
import Mathlib.Data.List.Induction
import Mathlib.Tactic.Linarith
import Mathlib.Algebra.Order.Floor.Ring
import Mathlib.Algebra.Order.BigOperators.Group.List

namespace Samples

variable {K : Type*} [Field K] [LinearOrder K] {samples : List K} {sample : K} {count : ℕ}

/-- The greatest of the samples, kept from zero on. -/
def peak (samples : List K) : K :=
  samples.foldl max 0

theorem peak_append (samples : List K) (sample : K) : peak (samples ++ [sample]) = max (peak samples) sample := by
  simp [peak]

theorem peak_nonneg (samples : List K) : 0 ≤ peak samples := by
  induction samples using List.reverseRecOn with
  | nil => exact le_refl 0
  | append_singleton earlier last ih =>
    rw [peak_append]
    exact ih.trans (le_max_left _ _)

theorem le_peak (member : sample ∈ samples) : sample ≤ peak samples := by
  induction samples using List.reverseRecOn with
  | nil => cases member
  | append_singleton earlier last ih =>
    rw [peak_append]
    rcases List.mem_append.mp member with before | final
    · exact (ih before).trans (le_max_left _ _)
    · rw [List.mem_singleton.mp final]
      exact le_max_right _ _

theorem peak_eq_zero_or_mem (samples : List K) : peak samples = 0 ∨ peak samples ∈ samples := by
  induction samples using List.reverseRecOn with
  | nil => exact Or.inl rfl
  | append_singleton earlier last ih =>
    rw [peak_append]
    rcases max_choice (peak earlier) last with kept | grown
    · rw [kept]
      exact ih.imp_right (List.mem_append_left _)
    · rw [grown]
      exact Or.inr (by simp)

theorem peak_le_peak {more : List K} (within : ∀ sample ∈ samples, sample ∈ more) : peak samples ≤ peak more := by
  rcases peak_eq_zero_or_mem samples with zero | member
  · exact zero ▸ peak_nonneg more
  · exact le_peak (within _ member)

variable [IsStrictOrderedRing K]

theorem sum_le_length_mul_peak (samples : List K) : samples.sum ≤ samples.length * peak samples := by
  have bound : samples.sum ≤ samples.length • peak samples :=
    List.sum_le_card_nsmul samples (peak samples) fun _ member => le_peak member
  rwa [nsmul_eq_mul] at bound

/-- The mean over at least as many events as there are samples. -/
theorem mean_le_peak (enough : samples.length ≤ count) : samples.sum / count ≤ peak samples := by
  have few : (samples.length : K) ≤ count := Nat.cast_le.mpr enough
  refine div_le_of_le_mul₀ (Nat.cast_nonneg count) (peak_nonneg samples) ?_
  calc samples.sum ≤ samples.length * peak samples := sum_le_length_mul_peak samples
    _ ≤ count * peak samples := mul_le_mul_of_nonneg_right few (peak_nonneg samples)
    _ = peak samples * count := mul_comm _ _

/-- Rounding the mean of whole samples does not bring it above the greatest of them. -/
theorem rounded_mean_le_peak [FloorRing K] (whole : ∀ sample ∈ samples, ∃ n : ℤ, sample = n)
    (enough : samples.length ≤ count) : (⌊samples.sum / count + 1 / 2⌋ : K) ≤ peak samples := by
  obtain ⟨n, same⟩ : ∃ n : ℤ, peak samples = n := by
    rcases peak_eq_zero_or_mem samples with zero | member
    · exact ⟨0, by rw [zero, Int.cast_zero]⟩
    · exact whole _ member
  have mean : samples.sum / count ≤ n := same ▸ mean_le_peak enough
  rw [same, Int.cast_le, ← Int.lt_add_one_iff, Int.floor_lt, Int.cast_add, Int.cast_one]
  linarith

end Samples
