import Mathlib.Algebra.Group.Subgroup.Defs
import Mathlib.Algebra.Order.Group.Defs
import Mathlib.Data.List.Basic

universe u

variable {α : Type u} [AddCommGroup α] {intervals : α → Prop} {readings : List α} {next reading interval : α}

/-- A deadline that is set one interval after each reading of a clock, and is
zero before the first. -/
structure Deadline (intervals : α → Prop) (readings : List α) (next : α) : Prop where
  unset : readings = [] → next = 0
  set : ∀ reading, readings.getLast? = some reading → ∃ interval, intervals interval ∧ next = reading + interval

namespace Deadline

theorem start : Deadline intervals [] 0 :=
  ⟨fun _ => rfl, nofun⟩

theorem append (readings : List α) (reading : α) (possible : intervals interval) :
    Deadline intervals (readings ++ [reading]) (reading + interval) := by
  refine ⟨by simp, fun last found => ⟨interval, possible, ?_⟩⟩
  rw [List.getLast?_concat] at found
  rw [Option.some.inj found]

theorem eq_zero_or_mem (deadline : Deadline intervals readings next) :
    next = 0 ∨ ∃ reading ∈ readings, ∃ interval, intervals interval ∧ next = reading + interval := by
  cases found : readings.getLast? with
  | none => exact Or.inl (deadline.unset (List.getLast?_eq_none_iff.mp found))
  | some last => exact Or.inr ⟨last, List.mem_of_getLast? found, deadline.set last found⟩

theorem mem (deadline : Deadline intervals readings next) {S : AddSubgroup α} (read : ∀ reading ∈ readings, reading ∈ S)
    (possible : ∀ interval, intervals interval → interval ∈ S) : next ∈ S := by
  rcases deadline.eq_zero_or_mem with zero | ⟨last, member, interval, own, same⟩
  · exact zero ▸ S.zero_mem
  · exact same ▸ S.add_mem (read last member) (possible interval own)

variable [LinearOrder α] [IsOrderedAddMonoid α]

/-- With a clock that does not go back, the least interval has passed since every
reading when the deadline is reached. -/
theorem least_le (deadline : Deadline intervals readings next) (forward : readings.Pairwise (· ≤ ·)) {least : α}
    (possible : ∀ interval, intervals interval → least ≤ interval) (member : reading ∈ readings) :
    reading + least ≤ next := by
  obtain ⟨earlier, last, same⟩ : ∃ earlier last, readings = earlier ++ [last] :=
    ⟨_, _, (List.dropLast_append_getLast (List.ne_nil_of_mem member)).symm⟩
  subst same
  obtain ⟨interval, own, same⟩ := deadline.set last List.getLast?_concat
  have before : reading ≤ last := by
    rcases List.mem_append.mp member with old | final
    · exact (List.pairwise_append.mp forward).2.2 reading old last (List.mem_singleton_self last)
    · exact (List.mem_singleton.mp final).le
  exact same ▸ add_le_add before (possible interval own)

/-- At a later reading of the clock a deadline that is still ahead is no further
than the greatest interval. -/
theorem sub_le (deadline : Deadline intervals readings next) {now greatest : α} (begun : 0 ≤ now)
    (past : ∀ reading ∈ readings, reading ≤ now) (possible : ∀ interval, intervals interval → interval ≤ greatest)
    (ahead : now < next) : next - now ≤ greatest := by
  rcases deadline.eq_zero_or_mem with zero | ⟨last, member, interval, own, same⟩
  · exact absurd (zero ▸ ahead) begun.not_gt
  · rw [same, sub_le_iff_le_add, add_comm]
    exact add_le_add (possible interval own) (past last member)

end Deadline
