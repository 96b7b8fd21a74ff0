import Mathlib.Data.List.Basic

/-- A first-come, first-served lock as its users see it: who has released it,
who holds it and who waits for it, each in the order of the calls. -/
structure FairMutex (ι : Type*) where
  done : List ι
  holder : Option ι
  waiting : List ι

namespace FairMutex

variable {ι : Type*}

def free : FairMutex ι := ⟨[], none, []⟩

/-- The calls made so far. -/
def calls (m : FairMutex ι) : List ι :=
  m.done ++ m.holder.toList ++ m.waiting

/-- The calls that have been granted the lock. -/
def grants (m : FairMutex ι) : List ι :=
  m.done ++ m.holder.toList

def enqueue (m : FairMutex ι) (i : ι) : FairMutex ι :=
  { m with waiting := m.waiting ++ [i] }

/-- The lock passes to the call that has waited longest. -/
def acquire (m : FairMutex ι) : Option (FairMutex ι) :=
  match m.holder, m.waiting with
  | none, i :: rest => some { m with holder := some i, waiting := rest }
  | _, _ => none

def release (m : FairMutex ι) : FairMutex ι :=
  { m with done := m.done ++ m.holder.toList, holder := none }

@[simp] theorem calls_enqueue (m : FairMutex ι) (i : ι) : (m.enqueue i).calls = m.calls ++ [i] := by
  simp [calls, enqueue]

@[simp] theorem calls_release (m : FairMutex ι) : m.release.calls = m.calls := by
  simp [calls, release]

@[simp] theorem grants_release (m : FairMutex ι) : m.release.grants = m.grants := by
  simp [grants, release]

theorem acquire_eq_some {m n : FairMutex ι} :
    m.acquire = some n ↔ ∃ i rest, m.holder = none ∧ m.waiting = i :: rest ∧
      n = { m with holder := some i, waiting := rest } := by
  rcases m with ⟨done, _ | holder, _ | ⟨i, rest⟩⟩
  · simp [acquire]
  · simp [acquire, eq_comm]
  · simp [acquire]
  · simp [acquire]

theorem calls_acquire {m n : FairMutex ι} (run : m.acquire = some n) : n.calls = m.calls := by
  obtain ⟨i, rest, idle, waiting, rfl⟩ := acquire_eq_some.mp run
  simp [calls, idle, waiting]

/-- The call that gets the lock is granted it after all others so far. -/
theorem grants_acquire {m n : FairMutex ι} (run : m.acquire = some n) {i : ι} (holds : n.holder = some i) :
    n.grants = m.grants ++ [i] := by
  obtain ⟨first, rest, idle, waiting, rfl⟩ := acquire_eq_some.mp run
  cases holds
  simp [grants, idle]

/-- The lock is granted in the order of the calls. -/
theorem grants_prefix_calls (m : FairMutex ι) : m.grants <+: m.calls :=
  List.prefix_append _ _

/-- Whoever holds the lock called before all who wait for it. -/
theorem holder_before {m : FairMutex ι} {i j : ι} (holds : m.holder = some i) (waits : j ∈ m.waiting) :
    [i, j].Sublist m.calls := by
  obtain ⟨before, after, split⟩ := List.append_of_mem waits
  rw [calls, holds, split]
  simp only [Option.toList_some, List.append_assoc]
  refine List.Sublist.trans ?_ (List.sublist_append_right _ _)
  exact List.Sublist.cons_cons i (List.Sublist.trans (List.Sublist.cons_cons j (List.nil_sublist after))
    (List.sublist_append_right before _))

/-- The first in line called before the rest of the line. -/
theorem head_before {m : FairMutex ι} {i j : ι} {rest : List ι} (line : m.waiting = i :: rest)
    (waits : j ∈ rest) : [i, j].Sublist m.calls := by
  rw [calls, line]
  exact List.Sublist.trans (List.Sublist.cons_cons i (List.singleton_sublist.mpr waits))
    (List.sublist_append_right _ _)

/-- Two calls come in one order only. -/
theorem not_both_orders {calls : List ι} (distinct : calls.Nodup) {i j : ι} (first : [i, j].Sublist calls)
    (second : [j, i].Sublist calls) : False := by
  induction calls with
  | nil => cases first
  | cons head rest ih =>
    obtain ⟨fresh, distinct⟩ := List.nodup_cons.mp distinct
    rcases List.cons_sublist_cons'.mp first with earlier | ⟨rfl, behind⟩
    · rcases List.cons_sublist_cons'.mp second with later | ⟨rfl, _⟩
      · exact ih distinct earlier later
      · exact fresh (earlier.subset (List.mem_cons_of_mem _ List.mem_cons_self))
    · rcases List.cons_sublist_cons'.mp second with later | ⟨rfl, _⟩
      · exact fresh (later.subset (List.mem_cons_of_mem _ List.mem_cons_self))
      · exact fresh (behind.subset List.mem_cons_self)

end FairMutex
