import Mathlib.Data.List.Basic

namespace Transition

universe u v
variable {σ : Type u} {ε : Type v}

/-- Finite runs of a labelled transition system. The guard is asked at the
state in which the label is taken; the trace lists the labels in order. -/
inductive Reach (step : σ → ε → Option σ) (guard : σ → ε → Prop) (initial : σ) : List ε → σ → Prop
  | start : Reach step guard initial [] initial
  | next {trace s e t} : Reach step guard initial trace s → guard s e → step s e = some t →
      Reach step guard initial (trace ++ [e]) t

variable {step : σ → ε → Option σ} {guard narrow : σ → ε → Prop} {initial : σ}

theorem Reach.invariant {P : σ → Prop} {trace : List ε} {s : σ}
    (reach : Reach step guard initial trace s) (base : P initial)
    (preserved : ∀ s e t, P s → guard s e → step s e = some t → P t) : P s := by
  induction reach with
  | start => exact base
  | next _ allowed run ih => exact preserved _ _ _ ih allowed run

theorem Reach.mono {trace : List ε} {s : σ} (reach : Reach step narrow initial trace s)
    (weaker : ∀ s e, narrow s e → guard s e) : Reach step guard initial trace s := by
  induction reach with
  | start => exact .start
  | next _ allowed run ih => exact .next ih (weaker _ _ allowed) run

theorem Reach.trans {middle s : σ} {first second : List ε}
    (before : Reach step guard initial first middle) (after : Reach step guard middle second s) :
    Reach step guard initial (first ++ second) s := by
  induction after with
  | start => simpa only [List.append_nil] using before
  | next _ allowed run ih =>
    rw [← List.append_assoc]
    exact .next ih allowed run

/-- A run by its first step, for runs whose labels are listed. -/
theorem Reach.cons {s t u : σ} {e : ε} {trace : List ε} (allowed : guard s e) (run : step s e = some t)
    (rest : Reach step guard t trace u) : Reach step guard s (e :: trace) u :=
  Reach.trans (.next .start allowed run) rest

/-- Labels that can be taken one after the other, each after a test that implies its
guard, form a run, whose last state can be tested. -/
theorem Reach.of_checked {sure : σ → ε → Bool} {s : σ} {trace : List ε} {test : σ → Bool}
    (allowed : ∀ e ∈ trace, ∀ s, sure s e = true → guard s e)
    (run : (trace.foldlM (fun s e => if sure s e then step s e else none) s).any test = true) :
    ∃ t, Reach step guard s trace t ∧ test t = true := by
  induction trace generalizing s with
  | nil => exact ⟨s, .start, run⟩
  | cons e rest ih =>
    by_cases checked : sure s e = true
    · cases first : step s e with
      | none => simp [List.foldlM_cons, checked, first] at run
      | some middle =>
        obtain ⟨t, later, passed⟩ := ih (s := middle) (fun e member => allowed e (List.mem_cons_of_mem _ member))
          (by simpa [List.foldlM_cons, checked, first] using run)
        exact ⟨t, .cons (allowed e List.mem_cons_self s checked) first later, passed⟩
    · simp [List.foldlM_cons, checked] at run

theorem Reach.of_foldlM {s : σ} {trace : List ε} {test : σ → Bool} (allowed : ∀ e ∈ trace, ∀ s, guard s e)
    (run : (trace.foldlM step s).any test = true) : ∃ t, Reach step guard s trace t ∧ test t = true :=
  Reach.of_checked (fun e member s (_ : (fun _ _ => true) s e = true) => allowed e member s) run

/-- What an observer writes down while the labels are taken one after the other. -/
def observed {ω : Type*} (step : σ → ε → Option σ) (note : σ → ε → List ω) : σ → List ε → List ω
  | _, [] => []
  | s, e :: rest =>
    note s e ++ match step s e with
      | some t => observed step note t rest
      | none => []

theorem Reach.observed_append {ω : Type*} {note : σ → ε → List ω} {trace : List ε} {s : σ}
    (reach : Reach step guard initial trace s) (later : List ε) :
    observed step note initial (trace ++ later) = observed step note initial trace ++ observed step note s later := by
  induction reach generalizing later with
  | start => rfl
  | @next trace s e t _ _ run ih =>
    have first := ih [e]
    have whole := ih (e :: later)
    simp only [observed, run, List.append_nil] at first whole
    rw [List.append_assoc, List.singleton_append, whole, first, List.append_assoc]

/-- What the observer writes down of one more step. -/
theorem Reach.observed_next {ω : Type*} {note : σ → ε → List ω} {trace : List ε} {s : σ}
    (reach : Reach step guard initial trace s) (e : ε) :
    observed step note initial (trace ++ [e]) = observed step note initial trace ++ note s e := by
  rw [reach.observed_append]
  simp only [observed]
  cases step s e <;> simp

/-- Runs of one system as runs of another, label by label. -/
theorem Reach.simulate {τ : Type*} {δ : Type*} {step' : τ → δ → Option τ} {initial' : τ} {label : ε → δ} {S : σ → τ → Prop}
    {trace : List ε} {s : σ} (reach : Reach step guard initial trace s) (base : S initial initial')
    (matched : ∀ s s' e t, S s s' → guard s e → step s e = some t → ∃ t', step' s' (label e) = some t' ∧ S t t') :
    ∃ s', Reach step' (fun _ _ => True) initial' (trace.map label) s' ∧ S s s' := by
  induction reach with
  | start => exact ⟨initial', .start, base⟩
  | next _ allowed run ih =>
    obtain ⟨s', reach, related⟩ := ih
    obtain ⟨t', run', related'⟩ := matched _ _ _ _ related allowed run
    rw [List.map_append]
    exact ⟨t', .next reach trivial run', related'⟩

/-- A run together with the labels that remain when those taken under `drop`
are left out. -/
inductive Erasure (step : σ → ε → Option σ) (guard drop : σ → ε → Prop) (initial : σ) :
    List ε → σ → List ε → Prop
  | start : Erasure step guard drop initial [] initial []
  | kept {trace s rest e t} : Erasure step guard drop initial trace s rest → guard s e → ¬drop s e →
      step s e = some t → Erasure step guard drop initial (trace ++ [e]) t (rest ++ [e])
  | dropped {trace s rest e t} : Erasure step guard drop initial trace s rest → guard s e → drop s e →
      step s e = some t → Erasure step guard drop initial (trace ++ [e]) t rest

/-- A run in which nothing is left out. -/
theorem Reach.erasure {drop : σ → ε → Prop} {trace : List ε} {s : σ} (reach : Reach step narrow initial trace s)
    (kept : ∀ s e, narrow s e → guard s e ∧ ¬drop s e) : Erasure step guard drop initial trace s trace := by
  induction reach with
  | start => exact .start
  | next _ allowed run ih => exact .kept ih (kept _ _ allowed).1 (kept _ _ allowed).2 run

/-- The remaining labels form a run of their own when the dropped steps leave
the simulated state alone and the others are matched one for one. -/
theorem Erasure.simulate {drop : σ → ε → Prop} {S : σ → σ → Prop} {trace rest : List ε} {s : σ}
    (erasure : Erasure step guard drop initial trace s rest) (base : S initial initial)
    (matched : ∀ s s' e t, S s s' → guard s e → ¬drop s e → step s e = some t →
      ∃ t', narrow s' e ∧ step s' e = some t' ∧ S t t')
    (stuttered : ∀ s s' e t, S s s' → guard s e → drop s e → step s e = some t → S t s') :
    ∃ s', Reach step narrow initial rest s' ∧ S s s' := by
  induction erasure with
  | start => exact ⟨initial, .start, base⟩
  | kept _ allowed stays run ih =>
    obtain ⟨s', reach, related⟩ := ih
    obtain ⟨t', narrowed, run', related'⟩ := matched _ _ _ _ related allowed stays run
    exact ⟨t', .next reach narrowed run', related'⟩
  | dropped _ allowed gone run ih =>
    obtain ⟨s', reach, related⟩ := ih
    exact ⟨s', reach, stuttered _ _ _ _ related allowed gone run⟩

end Transition
