import Mathlib.Algebra.Group.Subgroup.Defs
import Mathlib.Algebra.Order.Group.Defs
import Mathlib.Algebra.Order.Group.Unbundled.Basic

namespace ClampedWalk

variable {α : Type*} [AddCommGroup α] [LinearOrder α] [IsOrderedAddMonoid α]
  {low high up down start x : α}

/-- A step up that stops at `high`. -/
def raise (up high x : α) : α :=
  min (x + up) high

/-- A step down that stops at `low`. -/
def lower (down low x : α) : α :=
  max low (x - down)

/-- The values that steps up and down lead to. -/
inductive Walk (up down low high start : α) : α → Prop
  | start : Walk up down low high start start
  | raise {value} : Walk up down low high start value → Walk up down low high start (raise up high value)
  | lower {value} : Walk up down low high start value → Walk up down low high start (lower down low value)

theorem le_raise (forward : 0 ≤ up) (below : x ≤ high) : x ≤ raise up high x :=
  le_min (le_add_of_nonneg_right forward) below

theorem lower_le (forward : 0 ≤ down) (above : low ≤ x) : lower down low x ≤ x :=
  max_le above (sub_le_self x forward)

omit [IsOrderedAddMonoid α] in
theorem raise_lt (above : high < x) : raise up high x < x :=
  (min_le_right _ _).trans_lt above

/-- A walk that starts between the bounds stays between them. -/
theorem Walk.bounds (walk : Walk up down low high start x) (forward : 0 ≤ up) (backward : 0 ≤ down)
    (above : low ≤ start) (below : start ≤ high) : low ≤ x ∧ x ≤ high := by
  induction walk with
  | start => exact ⟨above, below⟩
  | raise _ ih => exact ⟨ih.1.trans (le_raise forward ih.2), min_le_right _ _⟩
  | lower _ ih => exact ⟨le_max_left _ _, (lower_le backward ih.1).trans ih.2⟩

/-- A walk that starts above the lower bound leaves it only for an upper bound
below it. -/
theorem Walk.within (walk : Walk up down low high start x) (forward : 0 ≤ up) (backward : 0 ≤ down)
    (above : low ≤ start) : min low high ≤ x ∧ x ≤ max start high := by
  induction walk with
  | start => exact ⟨(min_le_left _ _).trans above, le_max_left _ _⟩
  | raise _ ih => exact ⟨le_min (ih.1.trans (le_add_of_nonneg_right forward)) (min_le_right _ _),
      (min_le_right _ _).trans (le_max_right _ _)⟩
  | lower _ ih => exact ⟨(min_le_left _ _).trans (le_max_left _ _),
      max_le (above.trans (le_max_left _ _)) ((sub_le_self _ backward).trans ih.2)⟩

omit [IsOrderedAddMonoid α] in
/-- A walk stays in a subgroup that its steps and bounds are in. -/
theorem Walk.mem (walk : Walk up down low high start x) {S : AddSubgroup α} (base : start ∈ S) (rises : up ∈ S)
    (falls : down ∈ S) (least : low ∈ S) (greatest : high ∈ S) : x ∈ S := by
  induction walk with
  | start => exact base
  | @raise value _ ih =>
    rcases min_choice (value + up) high with same | same <;> rw [ClampedWalk.raise, same]
    · exact S.add_mem ih rises
    · exact greatest
  | @lower value _ ih =>
    rcases max_choice low (value - down) with same | same <;> rw [ClampedWalk.lower, same]
    · exact least
    · exact S.sub_mem ih falls

/-- Steps up are never backward, steps down never forward, and no value is below
the lower bound. -/
def Monotone (up down low high start : α) : Prop :=
  ∀ x, Walk up down low high start x → x ≤ raise up high x ∧ lower down low x ≤ x ∧ low ≤ x

/-- A walk from above the lower bound is monotone exactly when it starts below
the upper one. -/
theorem monotone_iff (forward : 0 ≤ up) (backward : 0 ≤ down) (above : low ≤ start) :
    Monotone up down low high start ↔ start ≤ high := by
  constructor
  · intro monotone
    by_contra beyond
    have first := (monotone start .start).1
    exact absurd (raise_lt (not_le.mp beyond)) first.not_gt
  · intro below x walk
    obtain ⟨lower, upper⟩ := walk.bounds forward backward above below
    exact ⟨le_raise forward upper, lower_le backward lower, lower⟩

end ClampedWalk
