import Mathlib.Algebra.Group.Nat.Even
import Mathlib.Data.BitVec
import Mathlib.Logic.Function.Iterate

namespace ShiftRegister

variable {w : Nat}

/-- One shift of a linear feedback register of `w` cells. The bit that leaves it
at the low end flips the cells in `taps`. -/
def shift (taps s : BitVec w) : BitVec w :=
  if s.getLsbD 0 then s >>> 1 ^^^ taps else s >>> 1

/-- A bit as the low cell of a register. -/
def lowCell (bit : Bool) : BitVec w :=
  (BitVec.ofBool bit).setWidth w

def feed (taps s : BitVec w) (bit : Bool) : BitVec w :=
  shift taps (s ^^^ lowCell bit)

def run (taps s : BitVec w) (bits : List Bool) : BitVec w :=
  bits.foldl (feed taps) s

/-- The `n` low cells of a register, from the low end. -/
def lowBits (n : Nat) (s : BitVec w) : List Bool :=
  (List.range n).map s.getLsbD

/-- Whether an odd number of the bits is set. -/
def oddOnes (bits : List Bool) : Bool :=
  bits.foldr xor false

variable {taps s t : BitVec w} {bits others : List Bool}

@[simp] theorem getLsbD_lowCell (bit : Bool) (i : Nat) :
    (lowCell bit : BitVec w).getLsbD i = (decide (i < w ∧ i = 0) && bit) := by
  cases bit
  · simp [lowCell]
  · by_cases first : i = 0
    · subst first
      simp [lowCell]
    · simp [lowCell, first]

theorem lowBits_succ (n : Nat) (s : BitVec w) : lowBits (n + 1) s = s.getLsbD 0 :: lowBits n (s >>> 1) := by
  simp only [lowBits, List.range_succ_eq_map, List.map_cons, List.map_map, List.cons.injEq, true_and]
  refine List.map_congr_left fun i _ => ?_
  simp [Nat.add_comm]

theorem shift_xor (taps s t : BitVec w) : shift taps (s ^^^ t) = shift taps s ^^^ shift taps t := by
  refine BitVec.eq_of_getLsbD_eq fun i _ => ?_
  simp only [shift, BitVec.getLsbD_xor, BitVec.ushiftRight_xor_distrib]
  cases s.getLsbD 0 <;> cases t.getLsbD 0 <;>
    simp only [Bool.xor_false, Bool.xor_true, Bool.not_false, Bool.not_true, Bool.false_eq_true, if_true, if_false,
      BitVec.getLsbD_xor] <;>
    cases (s >>> 1).getLsbD i <;> cases (t >>> 1).getLsbD i <;> cases taps.getLsbD i <;> rfl

@[simp] theorem shift_zero (taps : BitVec w) : shift taps 0#w = 0#w := by
  simp [shift]

theorem lowCell_xor (left right : Bool) : (lowCell (left ^^ right) : BitVec w) = lowCell left ^^^ lowCell right := by
  refine BitVec.eq_of_getLsbD_eq fun i _ => ?_
  simp only [getLsbD_lowCell, BitVec.getLsbD_xor]
  cases decide (i < w ∧ i = 0) <;> cases left <;> cases right <;> rfl

theorem feed_xor (left right : Bool) : feed taps (s ^^^ t) (left ^^ right) = feed taps s left ^^^ feed taps t right := by
  unfold feed
  rw [← shift_xor, lowCell_xor]
  congr 1
  ac_rfl

/-- The difference of two registers depends on the difference of their inputs only. -/
theorem run_xor (same : bits.length = others.length) :
    run taps (s ^^^ t) (List.zipWith xor bits others) = run taps s bits ^^^ run taps t others := by
  induction bits generalizing s t others with
  | nil =>
    cases others with
    | nil => rfl
    | cons => cases same
  | cons bit bits ih =>
    cases others with
    | nil => cases same
    | cons other others =>
      simp only [run, List.zipWith_cons_cons, List.foldl_cons, feed_xor]
      exact ih (Nat.succ.inj same)

theorem run_append : run taps s (bits ++ others) = run taps (run taps s bits) others :=
  List.foldl_append

theorem feed_false : feed taps s false = shift taps s := by
  have empty : (lowCell false : BitVec w) = 0#w := BitVec.eq_of_getLsbD_eq fun i _ => by simp
  rw [feed, empty, BitVec.xor_zero]

/-- Bits below the width can be put into the register all at once. -/
theorem run_lowBits (n : Nat) (high : ∀ i, n ≤ i → t.getLsbD i = false) :
    run taps s (lowBits n t) = (shift taps)^[n] (s ^^^ t) := by
  induction n generalizing s t with
  | zero =>
    have none_ : t = 0#w := BitVec.eq_of_getLsbD_eq fun i _ => by simpa using high i (Nat.zero_le i)
    simp [lowBits, run, none_]
  | succ n ih =>
    have above : ∀ i, n ≤ i → (t >>> 1).getLsbD i = false := by
      intro i reached
      rw [BitVec.getLsbD_ushiftRight]
      exact high _ (by omega)
    have lower : shift taps (lowCell (t.getLsbD 0) ^^^ t) = t >>> 1 := by
      have clear : (lowCell (t.getLsbD 0) ^^^ t).getLsbD 0 = false := by
        rw [BitVec.getLsbD_xor, getLsbD_lowCell]
        by_cases wide : 0 < w
        · simp only [wide, and_self, decide_true, Bool.true_and, Bool.xor_self]
        · simp only [wide, false_and, decide_false, Bool.false_and, Bool.false_xor]
          exact BitVec.getLsbD_of_ge _ 0 (Nat.le_of_not_lt wide)
      simp only [shift, clear, Bool.false_eq_true, if_false]
      refine BitVec.eq_of_getLsbD_eq fun i _ => ?_
      simp
    rw [lowBits_succ, Function.iterate_succ_apply]
    change run taps (feed taps s (t.getLsbD 0)) (lowBits n (t >>> 1)) = _
    rw [ih above, feed, ← lower, ← shift_xor]
    congr 2
    rw [← BitVec.xor_assoc, BitVec.xor_assoc s, BitVec.xor_self, BitVec.xor_zero]

section Parity

theorem oddOnes_xor (same : bits.length = others.length) :
    oddOnes (List.zipWith xor bits others) = (oddOnes bits ^^ oddOnes others) := by
  induction bits generalizing others with
  | nil =>
    cases others with
    | nil => rfl
    | cons => cases same
  | cons bit bits ih =>
    cases others with
    | nil => cases same
    | cons other others =>
      have rest := ih (Nat.succ.inj same)
      simp only [oddOnes, List.zipWith_cons_cons, List.foldr_cons] at rest ⊢
      rw [rest, Bool.xor_assoc, Bool.xor_assoc, Bool.xor_left_comm other]

theorem oddOnes_iff : oddOnes bits = true ↔ Odd (bits.count true) := by
  induction bits with
  | nil => simp [oddOnes]
  | cons bit bits ih =>
    cases bit
    · simpa [oddOnes] using ih
    · rw [List.count_cons_self, Nat.odd_add_one, ← ih]
      simp [oddOnes]

theorem lowBits_xor (n : Nat) : lowBits n (s ^^^ t) = List.zipWith xor (lowBits n s) (lowBits n t) := by
  simp [lowBits, List.zipWith_map]

def parity (s : BitVec w) : Bool :=
  oddOnes (lowBits w s)

theorem parity_xor : parity (s ^^^ t) = (parity s ^^ parity t) := by
  rw [parity, lowBits_xor, oddOnes_xor (by simp [lowBits])]
  rfl

theorem parity_lowCell (wide : 0 < w) (bit : Bool) : parity (lowCell bit : BitVec w) = bit := by
  obtain ⟨n, rfl⟩ := Nat.exists_eq_succ_of_ne_zero wide.ne'
  have rest : lowBits n (lowCell bit >>> 1 : BitVec (n + 1)) = List.replicate n false := by
    refine List.eq_replicate_iff.mpr ⟨by simp [lowBits], fun b member => ?_⟩
    obtain ⟨i, -, rfl⟩ := List.mem_map.mp member
    simp
  have clear (n : Nat) : oddOnes (List.replicate n false) = false := by
    induction n with
    | zero => rfl
    | succ n ih => simpa [oddOnes, List.replicate_succ] using ih
  rw [parity, lowBits_succ, rest]
  change (_ ^^ oddOnes (List.replicate n false)) = bit
  rw [clear, Bool.xor_false, getLsbD_lowCell]
  simp

/-- A bit that leaves the register is made up for by the taps. -/
theorem parity_shift (odd : parity taps = true) : parity (shift taps s) = parity s := by
  have ends : lowBits (w + 1) s = lowBits w s ++ [false] := by
    simp [lowBits, List.range_succ]
  have sum : parity s = (s.getLsbD 0 ^^ parity (s >>> 1)) := by
    have split := lowBits_succ w s
    rw [ends] at split
    have total : oddOnes (lowBits w s ++ [false]) = parity s := by
      simp [parity, oddOnes]
    rw [← total, split]
    rfl
  rw [shift, sum]
  cases s.getLsbD 0
  · simp
  · simp [parity_xor, odd]

theorem parity_run (wide : 0 < w) (odd : parity taps = true) :
    parity (run taps s bits) = (parity s ^^ oddOnes bits) := by
  induction bits generalizing s with
  | nil => simp [run, oddOnes]
  | cons bit bits ih =>
    have rest : parity (run taps (feed taps s bit) bits) = (parity (feed taps s bit) ^^ oddOnes bits) := ih
    rw [feed, parity_shift odd, parity_xor, parity_lowCell wide, Bool.xor_assoc] at rest
    exact rest

/-- Bits of which an odd number is set leave a trace in the register. -/
theorem oddOnes_of_run_eq_zero (wide : 0 < w) (odd : parity taps = true) (clear : run taps 0#w bits = 0#w) :
    oddOnes bits = false := by
  have zero : parity (0#w) = false := by
    have same := parity_xor (s := 0#w) (t := 0#w)
    rwa [BitVec.xor_self, Bool.xor_self] at same
  have sum : parity (run taps 0#w bits) = (parity (0#w) ^^ oddOnes bits) := parity_run wide odd
  rwa [clear, zero, Bool.false_xor, eq_comm] at sum

end Parity

section Burst

/-- Taps at the high end tell whether a set bit has left the register. -/
theorem shift_cell (top : taps.getLsbD (w - 1) = true) : (shift taps s).getLsbD (w - 1) = s.getLsbD 0 := by
  have wide : w - 1 < w := (BitVec.lt_of_getLsbD top)
  have above : (s >>> 1).getLsbD (w - 1) = false := by
    rw [BitVec.getLsbD_ushiftRight]
    exact BitVec.getLsbD_of_ge _ _ (by omega)
  rw [shift]
  cases s.getLsbD 0
  · simpa using above
  · simp [above, top]

/-- A register that the given bits clear holds exactly these bits. -/
theorem getLsbD_of_run_eq_zero (top : taps.getLsbD (w - 1) = true) (short : bits.length ≤ w)
    (clear : run taps s bits = 0#w) (i : Nat) : s.getLsbD i = bits.getD i false := by
  induction bits generalizing s i with
  | nil =>
    have empty : s = 0#w := clear
    simp [empty]
  | cons bit bits ih =>
    have rest := ih (s := feed taps s bit) (Nat.le_of_succ_le short) clear
    have wide : 0 < w := Nat.lt_of_lt_of_le (Nat.succ_pos _) short
    have kept : (s ^^^ lowCell bit).getLsbD 0 = false := by
      rw [← shift_cell top]
      change (feed taps s bit).getLsbD (w - 1) = false
      have past : bits.length ≤ w - 1 := Nat.le_sub_one_of_lt short
      rw [rest, List.getD_eq_getElem?_getD, List.getElem?_eq_none past, Option.getD_none]
    have moved : feed taps s bit = (s ^^^ lowCell bit) >>> 1 := by
      rw [feed, shift, kept]
      rfl
    cases i with
    | zero =>
      rw [BitVec.getLsbD_xor, getLsbD_lowCell] at kept
      cases bit <;> simpa [wide] using kept
    | succ i =>
      have cell := rest i
      rw [moved, BitVec.getLsbD_ushiftRight, BitVec.getLsbD_xor, getLsbD_lowCell] at cell
      simpa [Nat.add_comm] using cell

/-- Clear bits do not clear a register. -/
theorem eq_zero_of_run_quiet (top : taps.getLsbD (w - 1) = true) (quiet : ∀ bit ∈ bits, bit = false)
    (clear : run taps s bits = 0#w) : s = 0#w := by
  induction bits generalizing s with
  | nil => exact clear
  | cons bit bits ih =>
    obtain rfl := quiet bit List.mem_cons_self
    have shifted : feed taps s false = 0#w := ih (fun other member => quiet other (List.mem_cons_of_mem _ member)) clear
    rw [feed_false] at shifted
    have low : s.getLsbD 0 = false := by rw [← shift_cell top, shifted, BitVec.getLsbD_zero]
    rw [shift, low] at shifted
    refine BitVec.eq_of_getLsbD_eq fun i _ => ?_
    cases i with
    | zero => rw [low, BitVec.getLsbD_zero]
    | succ i =>
      have cell := congrArg (·.getLsbD i) shifted
      simpa [Nat.add_comm] using cell

theorem run_quiet (quiet : ∀ bit ∈ bits, bit = false) : run taps 0#w bits = 0#w := by
  induction bits with
  | nil => rfl
  | cons bit bits ih =>
    obtain rfl := quiet bit List.mem_cons_self
    change run taps (feed taps 0#w false) bits = 0#w
    rw [feed_false, shift_zero]
    exact ih fun other member => quiet other (List.mem_cons_of_mem _ member)

/-- Set bits that lie within `w` places leave a trace in the register. -/
theorem quiet_of_run_eq_zero (top : taps.getLsbD (w - 1) = true) {k : Nat}
    (burst : ∀ i, bits[i]? = some true → k ≤ i ∧ i < k + w) (clear : run taps 0#w bits = 0#w) :
    ∀ bit ∈ bits, bit = false := by
  have before : ∀ bit ∈ bits.take k, bit = false := by
    intro bit member
    obtain ⟨i, bound, rfl⟩ := List.mem_iff_getElem.mp member
    rw [List.length_take] at bound
    rw [List.getElem_take]
    by_contra set
    have near := burst i (by rw [List.getElem?_eq_getElem (by omega)]; simpa using set)
    omega
  have after : ∀ bit ∈ bits.drop (k + w), bit = false := by
    intro bit member
    obtain ⟨i, bound, rfl⟩ := List.mem_iff_getElem.mp member
    rw [List.length_drop] at bound
    rw [List.getElem_drop]
    by_contra set
    have near := burst (k + w + i) (by rw [List.getElem?_eq_getElem (by omega)]; simpa using set)
    omega
  have parts : bits = bits.take k ++ ((bits.drop k).take w ++ bits.drop (k + w)) := by
    rw [← List.drop_drop, List.take_append_drop, List.take_append_drop]
  rw [parts, run_append, run_append, run_quiet before] at clear
  have inside := eq_zero_of_run_quiet top after clear
  have cells := getLsbD_of_run_eq_zero top (List.length_take_le _ _) inside
  have within : ∀ bit ∈ (bits.drop k).take w, bit = false := by
    intro bit member
    obtain ⟨i, bound, rfl⟩ := List.mem_iff_getElem.mp member
    have cell := cells i
    rw [BitVec.getLsbD_zero, List.getD_eq_getElem?_getD, List.getElem?_eq_getElem bound, Option.getD_some] at cell
    exact cell.symm
  intro bit member
  rw [parts, List.mem_append, List.mem_append] at member
  rcases member with early | middle | late
  · exact before bit early
  · exact within bit middle
  · exact after bit late

end Burst

end ShiftRegister
