import BluettiMqtt.Library.Table
import Mathlib.Data.List.Nodup

/-- Maps that keep their entries in the order in which the keys were entered.
An entry that is overwritten keeps its place. -/
structure OrderedMap (κ : Type*) (α : Type*) where
  entries : List (κ × α)
  distinct : (entries.map Prod.fst).Nodup
  deriving DecidableEq

namespace OrderedMap

variable {κ α : Type*} [DecidableEq κ]

def empty : OrderedMap κ α := ⟨[], List.nodup_nil⟩

def get? (m : OrderedMap κ α) : Table κ α :=
  fun key => (m.entries.find? fun entry => entry.1 = key).map Prod.snd

def has (m : OrderedMap κ α) (key : κ) : Bool :=
  (m.get? key).isSome

/-- The entries with the value under `key` replaced. -/
def replaced (entries : List (κ × α)) (key : κ) (value : α) : List (κ × α) :=
  entries.map fun entry => if entry.1 = key then (key, value) else entry

theorem keys_replaced (entries : List (κ × α)) (key : κ) (value : α) :
    (replaced entries key value).map Prod.fst = entries.map Prod.fst := by
  rw [replaced, List.map_map]
  apply List.map_congr_left
  intro entry _
  by_cases here : entry.1 = key
  · simp [here]
  · simp [here]

theorem has_iff {m : OrderedMap κ α} {key : κ} : m.has key = true ↔ key ∈ m.entries.map Prod.fst := by
  simp [has, get?, List.find?_isSome]

theorem distinct_append {m : OrderedMap κ α} {key : κ} (value : α) (fresh : ¬m.has key = true) :
    ((m.entries ++ [(key, value)]).map Prod.fst).Nodup := by
  rw [List.map_append, List.nodup_append]
  refine ⟨m.distinct, List.nodup_singleton _, ?_⟩
  rintro old member _ last rfl
  rw [List.mem_singleton.mp last] at member
  exact fresh (has_iff.mpr member)

def set (m : OrderedMap κ α) (key : κ) (value : α) : OrderedMap κ α :=
  if known : m.has key = true then
    ⟨replaced m.entries key value, by rw [keys_replaced]; exact m.distinct⟩
  else
    ⟨m.entries ++ [(key, value)], distinct_append value known⟩

def delete (m : OrderedMap κ α) (key : κ) : OrderedMap κ α :=
  ⟨m.entries.filter fun entry => entry.1 ≠ key, List.Nodup.sublist (List.filter_sublist.map _) m.distinct⟩

@[simp] theorem get?_empty : (empty : OrderedMap κ α).get? = fun _ => none := rfl

theorem get?_eq_some {m : OrderedMap κ α} {key : κ} {value : α} :
    m.get? key = some value ↔ (key, value) ∈ m.entries := by
  constructor
  · intro found
    obtain ⟨⟨other, found⟩, search, rfl⟩ := Option.map_eq_some_iff.mp found
    have here : other = key := by simpa using List.find?_some search
    rw [← here]
    exact List.mem_of_find?_eq_some search
  · intro listed
    have found := Table.find?_of_distinct Prod.fst m.distinct listed
    rw [get?, found]
    rfl

theorem mem_replaced {m : OrderedMap κ α} {key other : κ} {value found : α} (known : m.has key = true) :
    (other, found) ∈ replaced m.entries key value ↔
      other = key ∧ found = value ∨ other ≠ key ∧ (other, found) ∈ m.entries := by
  obtain ⟨current, listed, place⟩ := List.mem_map.mp (has_iff.mp known)
  simp only [replaced, List.mem_map]
  constructor
  · rintro ⟨entry, member, image⟩
    by_cases here : entry.1 = key
    · rw [if_pos here] at image
      cases image
      exact Or.inl ⟨rfl, rfl⟩
    · rw [if_neg here] at image
      cases image
      exact Or.inr ⟨here, member⟩
  · rintro (⟨rfl, rfl⟩ | ⟨elsewhere, member⟩)
    · exact ⟨current, listed, if_pos place⟩
    · exact ⟨_, member, if_neg elsewhere⟩

theorem get?_set (m : OrderedMap κ α) (key : κ) (value : α) :
    (m.set key value).get? = m.get?.insert key value := by
  funext other
  apply Option.ext
  intro found
  rw [Table.insert_eq_some, get?_eq_some, get?_eq_some, set]
  split
  · exact mem_replaced ‹_›
  · rename_i fresh
    rw [List.mem_append, List.mem_singleton, Prod.mk.injEq]
    constructor
    · rintro (member | here)
      · refine Or.inr ⟨?_, member⟩
        rintro rfl
        exact fresh (has_iff.mpr (List.mem_map.mpr ⟨_, member, rfl⟩))
      · exact Or.inl here
    · rintro (here | ⟨_, member⟩)
      · exact Or.inr here
      · exact Or.inl member

theorem get?_delete (m : OrderedMap κ α) (key : κ) : (m.delete key).get? = m.get?.erase key := by
  funext other
  apply Option.ext
  intro found
  rw [Table.erase_eq_some, get?_eq_some, get?_eq_some]
  simp [delete, and_comm]

theorem entries_delete_head {m : OrderedMap κ α} {key : κ} {value : α} {rest : List (κ × α)}
    (entries : m.entries = (key, value) :: rest) : (m.delete key).entries = rest := by
  have keys := m.distinct
  rw [entries, List.map_cons, List.nodup_cons] at keys
  have absent : ∀ entry ∈ rest, entry.1 ≠ key := by
    rintro entry member rfl
    exact keys.1 (List.mem_map.mpr ⟨entry, member, rfl⟩)
  simp only [delete, entries, List.filter_cons]
  simpa using absent

end OrderedMap
