namespace Promise

universe u v w

/-- How a promise ends. -/
inductive Settlement (ε : Type u) (α : Type v)
  | fulfilled (value : α)
  | rejected (reason : ε)
  deriving DecidableEq

/-- Promises chained with `previous.then(() => current)`, where `current`
stands for a promise somebody else fulfils. -/
inductive Chain (ι : Type w)
  | resolved
  | next (previous : Chain ι) (current : ι)
  deriving DecidableEq

/-- The chain is fulfilled, up to microtasks, once all its parts are. -/
def Chain.fulfilled {ι : Type w} (released : ι → Bool) : Chain ι → Bool
  | .resolved => true
  | .next previous current => previous.fulfilled released && released current

theorem Chain.fulfilled_mono {ι : Type w} {released later : ι → Bool}
    (grows : ∀ i, released i = true → later i = true) {chain : Chain ι}
    (fulfilled : chain.fulfilled released = true) : chain.fulfilled later = true := by
  induction chain with
  | resolved => rfl
  | next previous current ih =>
    obtain ⟨before, here⟩ := Bool.and_eq_true_iff.mp fulfilled
    exact Bool.and_eq_true_iff.mpr ⟨ih before, grows current here⟩

end Promise
