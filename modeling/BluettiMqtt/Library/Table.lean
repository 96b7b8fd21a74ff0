import Mathlib.Data.List.Basic

/-- Finite maps as the program's `Map` objects and call records use them. -/
abbrev Table (κ : Type*) (α : Type*) := κ → Option α

namespace Table

variable {κ α : Type*} [DecidableEq κ]

def insert (table : Table κ α) (key : κ) (value : α) : Table κ α :=
  fun other => if other = key then some value else table other

def erase (table : Table κ α) (key : κ) : Table κ α :=
  fun other => if other = key then none else table other

/-- Change the entry under `key`, when there is a key and an entry. -/
def adjust (table : Table κ α) (key : Option κ) (f : α → α) : Table κ α :=
  fun other => if key = some other then (table other).map f else table other

@[simp] theorem insert_self (table : Table κ α) (key : κ) (value : α) :
    table.insert key value key = some value := by
  simp [insert]

theorem insert_of_ne (table : Table κ α) {key other : κ} (value : α) (different : other ≠ key) :
    table.insert key value other = table other := by
  simp [insert, different]

theorem insert_insert (table : Table κ α) (key : κ) (value later : α) :
    (table.insert key value).insert key later = table.insert key later := by
  funext other
  by_cases same : other = key <;> simp [insert, same]

theorem insert_eq_some {table : Table κ α} {key other : κ} {value found : α} :
    table.insert key value other = some found ↔
      other = key ∧ found = value ∨ other ≠ key ∧ table other = some found := by
  by_cases same : other = key
  · simp [insert, same, eq_comm]
  · simp [insert, same]

theorem insert_eq_none {table : Table κ α} {key other : κ} {value : α} :
    table.insert key value other = none ↔ other ≠ key ∧ table other = none := by
  by_cases same : other = key
  · simp [insert, same]
  · simp [insert, same]

theorem erase_eq_some {table : Table κ α} {key other : κ} {found : α} :
    table.erase key other = some found ↔ other ≠ key ∧ table other = some found := by
  by_cases same : other = key <;> simp [erase, same]

theorem adjust_of_ne (table : Table κ α) {key : Option κ} {other : κ} (f : α → α)
    (different : key ≠ some other) : table.adjust key f other = table other := by
  simp [adjust, different]

theorem adjust_self {table : Table κ α} {key : κ} {found : α} (f : α → α)
    (entry : table key = some found) : table.adjust (some key) f key = some (f found) := by
  simp [adjust, entry]

theorem adjust_adjust (table : Table κ α) (key : Option κ) (f g : α → α) :
    (table.adjust key f).adjust key g = table.adjust key (g ∘ f) := by
  funext other
  by_cases same : key = some other <;> simp [adjust, same]

theorem adjust_eq_insert {table : Table κ α} {key : κ} {found : α} (f : α → α)
    (entry : table key = some found) : table.adjust (some key) f = table.insert key (f found) := by
  funext other
  by_cases same : other = key
  · rw [same, adjust_self f entry, insert_self]
  · rw [adjust_of_ne _ _ (by simpa using Ne.symm same), insert_of_ne _ _ same]

theorem adjust_eq_some {table : Table κ α} {key : Option κ} {other : κ} {f : α → α} {found : α} :
    table.adjust key f other = some found ↔
      ∃ old, table other = some old ∧ found = if key = some other then f old else old := by
  by_cases same : key = some other
  · simp [adjust, same, eq_comm]
  · simp [adjust, same]

theorem adjust_eq_none {table : Table κ α} {key : Option κ} {other : κ} {f : α → α} :
    table.adjust key f other = none ↔ table other = none := by
  by_cases same : key = some other <;> simp [adjust, same]

/-- Change the entries of several distinct keys, one after the other. -/
theorem foldl_adjust (f : α → α) {keys : List κ} (distinct : keys.Nodup) (table : Table κ α) (key : κ) :
    (keys.foldl (fun table key => table.adjust (some key) f) table) key =
      if key ∈ keys then (table key).map f else table key := by
  induction keys generalizing table with
  | nil => simp
  | cons first rest ih =>
    obtain ⟨absent, distinct⟩ := List.nodup_cons.mp distinct
    rw [List.foldl_cons, ih distinct]
    by_cases here : key = first
    · simp [here, absent, adjust]
    · simp [here, adjust, Ne.symm here]

/-- A list whose entries have distinct keys is searched by key. -/
theorem find?_of_distinct {entries : List α} {entry : α} (key : α → κ) (distinct : (entries.map key).Nodup)
    (listed : entry ∈ entries) : entries.find? (fun other => key other = key entry) = some entry := by
  induction entries with
  | nil => cases listed
  | cons first rest ih =>
    obtain ⟨fresh, distinct⟩ := List.nodup_cons.mp distinct
    rcases List.mem_cons.mp listed with rfl | later
    · simp
    · have different : key first ≠ key entry := fun same =>
        fresh (List.mem_map.mpr ⟨entry, later, same.symm⟩)
      rw [List.find?_cons_of_neg (by simpa using different)]
      exact ih distinct later

end Table
