import BluettiMqtt.Library.Table
import BluettiMqtt.Library.Transition
import Mathlib.Data.List.Nodup

namespace Rollback
open Transition

universe u v
variable {κ : Type u} {α : Type v}

/-- What the calls report: that an attempt has begun, that it is kept, or that
it is undone. `other` is anything else, with the call that it makes if it makes
one. -/
inductive Act (κ : Type u) (α : Type v)
  | begun (call : Nat) (key : κ) (value : α)
  | kept (call : Nat)
  | undone (call : Nat)
  | other (call : Option Nat)

/-- Where a call stands: it is an open attempt, an attempt that has been kept or
undone, or a call of another kind. -/
inductive Entry (κ : Type u) (α : Type v)
  | open_ (key : κ) (previous : Option α)
  | closed
  | foreign
  deriving DecidableEq

/-- Cells that several attempts change at the same time. An attempt writes its
cell at once and remembers what it found there; when it is undone it writes that
back. -/
structure Ledger (κ : Type u) (α : Type v) where
  cells : Table κ α
  calls : Table Nat (Entry κ α)

section Acts

variable [DecidableEq κ] {key : κ} {acts before after : List (Act κ α)} {call : Nat}

def restore (cells : Table κ α) (key : κ) : Option α → Table κ α
  | none => cells.erase key
  | some previous => cells.insert key previous

theorem restore_apply (cells : Table κ α) (key other : κ) (previous : Option α) :
    restore cells key previous other = if other = key then previous else cells other := by
  cases previous with
  | none => rfl
  | some previous => rfl

def Ledger.step (l : Ledger κ α) : Act κ α → Option (Ledger κ α)
  | .begun call key value =>
    if l.calls call = none then
      some { cells := l.cells.insert key value, calls := l.calls.insert call (.open_ key (l.cells key)) }
    else none
  | .kept call =>
    match l.calls call with
    | some (.open_ _ _) => some { l with calls := l.calls.insert call .closed }
    | some .foreign => some l
    | _ => none
  | .undone call =>
    match l.calls call with
    | some (.open_ key previous) =>
      some { cells := restore l.cells key previous, calls := l.calls.insert call .closed }
    | some .foreign => some l
    | _ => none
  | .other none => some l
  | .other (some call) =>
    if l.calls call = none then some { l with calls := l.calls.insert call .foreign } else none

/-- The attempts at one cell, in call order, with what they wrote. -/
def begunAt (key : κ) (acts : List (Act κ α)) : List (Nat × α) :=
  acts.filterMap fun
    | .begun call other value => if other = key then some (call, value) else none
    | _ => none

def undone (acts : List (Act κ α)) (call : Nat) : Bool :=
  acts.any fun
    | .undone other => other = call
    | _ => false

def kept (acts : List (Act κ α)) (call : Nat) : Bool :=
  acts.any fun
    | .kept other => other = call
    | _ => false

/-- The attempts at one cell that have not been undone. -/
def standing (key : κ) (acts : List (Act κ α)) : List (Nat × α) :=
  (begunAt key acts).filter fun attempt => !undone acts attempt.1

def lastStanding (key : κ) (acts : List (Act κ α)) : Option α :=
  (standing key acts).getLast?.map Prod.snd

/-- What the last attempt that has been kept wrote. -/
def lastKept (key : κ) (acts : List (Act κ α)) : Option α :=
  ((begunAt key acts).filter fun attempt => kept acts attempt.1).getLast?.map Prod.snd

/-- Whenever an attempt is undone, all later ones at its cell have been undone. -/
def LastOut (key : κ) (acts : List (Act κ α)) : Prop :=
  ∀ before call after earlier value later, acts = before ++ .undone call :: after →
    begunAt key before = earlier ++ (call, value) :: later → ∀ attempt ∈ later, undone before attempt.1 = true

@[simp] theorem begunAt_append : begunAt key (before ++ after) = begunAt key before ++ begunAt key after :=
  List.filterMap_append

omit [DecidableEq κ] in
@[simp] theorem undone_append : undone (before ++ after) call = (undone before call || undone after call) :=
  List.any_append

omit [DecidableEq κ] in
@[simp] theorem kept_append : kept (before ++ after) call = (kept before call || kept after call) :=
  List.any_append

theorem standing_append_begun {value : α} (fresh : undone acts call = false) :
    standing key (acts ++ [.begun call key value]) = standing key acts ++ [(call, value)] := by
  have alone : begunAt key [Act.begun call key value] = [(call, value)] := by simp [begunAt]
  have same : ∀ other, undone (acts ++ [.begun call key value]) other = undone acts other := fun other => by
    rw [undone_append]
    exact Bool.or_false _
  simp [standing, alone, same, fresh]

theorem LastOut.start (lastOut : LastOut key (before ++ after)) : LastOut key before := by
  rintro first call second earlier value later rfl begun
  exact lastOut first call (second ++ after) earlier value later (by rw [List.append_assoc]; rfl) begun

theorem LastOut.last (lastOut : LastOut key (acts ++ [.undone call])) {earlier later : List (Nat × α)} {value : α}
    (begun : begunAt key acts = earlier ++ (call, value) :: later) :
    ∀ attempt ∈ later, undone acts attempt.1 = true :=
  lastOut acts call [] earlier value later rfl begun

end Acts

section Chains

/-- An attempt that stands, with the value it found. -/
structure Attempt (α : Type v) where
  call : Nat
  value : α
  previous : Option α

def Attempt.entry (attempt : Attempt α) : Nat × α :=
  (attempt.call, attempt.value)

/-- The cell holds what the newest attempt wrote, and each attempt found what
the one below it wrote. -/
def Chained (base : Option α) : Option α → List (Attempt α) → Prop
  | cell, [] => cell = base
  | cell, attempt :: rest => cell = some attempt.value ∧ Chained base attempt.previous rest

theorem Chained.cell {base cell : Option α} {stack : List (Attempt α)} (chained : Chained base cell stack) :
    cell = (stack.head?.map Attempt.value).or base := by
  cases stack with
  | nil => exact chained
  | cons attempt rest => exact chained.1

end Chains

section Ledgers

variable [DecidableEq κ] {key : κ} {base : Option α} {acts : List (Act κ α)} {act : Act κ α} {l l' : Ledger κ α}

/-- The ledger agrees with what has been reported about one cell, and the
attempts that stand are chained in call order. -/
structure Books (key : κ) (base : Option α) (acts : List (Act κ α)) (l : Ledger κ α) : Prop where
  distinct : ((begunAt key acts).map Prod.fst).Nodup
  unknown : ∀ call, l.calls call = none → undone acts call = false ∧ kept acts call = false
  status : ∀ call value, (call, value) ∈ begunAt key acts →
    (∃ previous, l.calls call = some (.open_ key previous) ∧ undone acts call = false ∧ kept acts call = false) ∨
      l.calls call = some .closed ∧ undone acts call = !kept acts call
  listed : ∀ call previous, l.calls call = some (.open_ key previous) → ∃ value, (call, value) ∈ begunAt key acts
  chain : ∃ stack, Chained base (l.cells key) stack ∧ stack.map Attempt.entry = (standing key acts).reverse ∧
    ∀ attempt ∈ stack, ∀ previous, l.calls attempt.call = some (.open_ key previous) → previous = attempt.previous

theorem Books.start (idle : ∀ call previous, l.calls call ≠ some (.open_ key previous)) : Books key (l.cells key) [] l where
  distinct := List.nodup_nil
  unknown _ _ := ⟨rfl, rfl⟩
  status _ _ member := absurd member List.not_mem_nil
  listed call previous entry := absurd entry (idle call previous)
  chain := ⟨[], rfl, rfl, fun _ member => absurd member List.not_mem_nil⟩

theorem Books.known (books : Books key base acts l) {call : Nat} {value : α} (begun : (call, value) ∈ begunAt key acts) :
    (∃ previous, l.calls call = some (.open_ key previous)) ∨ l.calls call = some .closed := by
  rcases books.status call value begun with ⟨previous, entry, _⟩ | ⟨entry, _⟩
  · exact Or.inl ⟨previous, entry⟩
  · exact Or.inr entry

/-- A report that is not about the cell, nor about an attempt at it. -/
theorem Books.frame (books : Books key base acts l) (silent : begunAt key [act] = [])
    (apart : ∀ call value, (call, value) ∈ begunAt key acts →
      l'.calls call = l.calls call ∧ undone [act] call = false ∧ kept [act] call = false)
    (unknown : ∀ call, l'.calls call = none → l.calls call = none ∧ undone [act] call = false ∧ kept [act] call = false)
    (opened : ∀ call previous, l'.calls call = some (.open_ key previous) → l.calls call = some (.open_ key previous))
    (cell : l'.cells key = l.cells key) : Books key base (acts ++ [act]) l' := by
  have begun : begunAt key (acts ++ [act]) = begunAt key acts := by rw [begunAt_append, silent, List.append_nil]
  have stands : standing key (acts ++ [act]) = standing key acts := by
    unfold standing
    rw [begun]
    refine List.filter_congr fun attempt member => ?_
    rw [undone_append, (apart attempt.1 attempt.2 member).2.1, Bool.or_false]
  refine ⟨by rw [begun]; exact books.distinct, fun call missing => ?_, fun call value member => ?_,
    fun call previous entry => ?_, ?_⟩
  · obtain ⟨before, same, same'⟩ := unknown call missing
    rw [undone_append, kept_append, same, same', Bool.or_false, Bool.or_false]
    exact books.unknown call before
  · rw [begun] at member
    obtain ⟨entry, same, same'⟩ := apart call value member
    rw [undone_append, kept_append, same, same', Bool.or_false, Bool.or_false, entry]
    exact books.status call value member
  · rw [begun]
    exact books.listed call previous (opened call previous entry)
  · rw [stands, cell]
    obtain ⟨stack, chained, entries, found⟩ := books.chain
    exact ⟨stack, chained, entries, fun attempt member previous entry =>
      found attempt member previous (opened attempt.call previous entry)⟩

theorem Books.begun (books : Books key base acts l) {call : Nat} (fresh : l.calls call = none) (value : α) :
    Books key base (acts ++ [.begun call key value])
      { cells := l.cells.insert key value, calls := l.calls.insert call (.open_ key (l.cells key)) } := by
  have begun : begunAt key (acts ++ [.begun call key value]) = begunAt key acts ++ [(call, value)] := by
    rw [begunAt_append]
    simp [begunAt]
  have reports (other : Nat) : undone (acts ++ [.begun call key value]) other = undone acts other ∧
      kept (acts ++ [.begun call key value]) other = kept acts other := by
    rw [undone_append, kept_append]
    exact ⟨Bool.or_false _, Bool.or_false _⟩
  have apart {other : Nat} {value : α} (member : (other, value) ∈ begunAt key acts) : other ≠ call := by
    rintro rfl
    rcases books.known member with ⟨previous, entry⟩ | entry
    · exact absurd (fresh.symm.trans entry) nofun
    · exact absurd (fresh.symm.trans entry) nofun
  refine ⟨?_, fun other missing => ?_, fun other value' member => ?_, fun other previous entry => ?_, ?_⟩
  · rw [begun, List.map_append]
    refine books.distinct.append (List.nodup_singleton call) fun other inside here => ?_
    obtain ⟨attempt, member, rfl⟩ := List.mem_map.mp inside
    exact apart member (List.mem_singleton.mp here)
  · rw [(reports other).1, (reports other).2]
    exact books.unknown other (Table.insert_eq_none.mp missing).2
  · rw [(reports other).1, (reports other).2]
    rw [begun] at member
    rcases List.mem_append.mp member with before | here
    · simp only [Table.insert_of_ne _ _ (apart before)]
      exact books.status other value' before
    · cases List.mem_singleton.mp here
      exact Or.inl ⟨_, Table.insert_self _ _ _, books.unknown call fresh⟩
  · rw [begun]
    rcases Table.insert_eq_some.mp entry with ⟨rfl, -⟩ | ⟨_, entry⟩
    · exact ⟨value, List.mem_append_right _ List.mem_cons_self⟩
    · obtain ⟨found, member⟩ := books.listed other previous entry
      exact ⟨found, List.mem_append_left _ member⟩
  · obtain ⟨stack, chained, entries, found⟩ := books.chain
    refine ⟨{ call, value, previous := l.cells key } :: stack, ⟨Table.insert_self _ _ _, chained⟩, ?_, ?_⟩
    · rw [standing_append_begun (books.unknown call fresh).1, List.reverse_append, ← entries]
      rfl
    · intro attempt member previous entry
      rcases List.mem_cons.mp member with rfl | older
      · cases (Table.insert_self _ _ _).symm.trans entry
        rfl
      · rcases Table.insert_eq_some.mp entry with ⟨same, -⟩ | ⟨_, entry⟩
        · have stands : attempt.entry ∈ standing key acts :=
            List.mem_reverse.mp (entries ▸ List.mem_map_of_mem older)
          exact absurd same (apart (List.mem_filter.mp stands).1)
        · exact found attempt older previous entry

/-- Which calls a report is about. -/
def Act.about : Act κ α → Option Nat
  | .begun call _ _ => some call
  | .kept call => some call
  | .undone call => some call
  | .other call => call

omit [DecidableEq κ] in
theorem silent_of_about {call : Nat} (apart : act.about ≠ some call) :
    Rollback.undone [act] call = false ∧ Rollback.kept [act] call = false := by
  cases act with
  | begun other key value => exact ⟨rfl, rfl⟩
  | kept other => exact ⟨rfl, by simpa [Rollback.kept, Act.about] using apart⟩
  | undone other => exact ⟨by simpa [Rollback.undone, Act.about] using apart, rfl⟩
  | other call => exact ⟨rfl, rfl⟩

theorem Books.pending (books : Books key base acts l) {call : Nat} {previous : Option α}
    (entry : l.calls call = some (.open_ key previous)) :
    ∃ value, (call, value) ∈ begunAt key acts ∧ Rollback.undone acts call = false ∧ Rollback.kept acts call = false := by
  obtain ⟨value, member⟩ := books.listed call previous entry
  rcases books.status call value member with ⟨_, _, reports⟩ | ⟨closed, _⟩
  · exact ⟨value, member, reports⟩
  · exact absurd (closed.symm.trans entry) nofun

/-- An open attempt ends, kept or undone. What is left to show is that the
attempts that still stand are chained. -/
theorem Books.ended (books : Books key base acts l) {call : Nat} {previous : Option α}
    (entry : l.calls call = some (.open_ key previous)) (about : act.about = some call) (silent : begunAt key [act] = [])
    (ends : Rollback.undone [act] call = !Rollback.kept [act] call) {cells : Table κ α}
    (chain : ∃ stack, Chained base (cells key) stack ∧ stack.map Attempt.entry = (standing key (acts ++ [act])).reverse ∧
      ∀ attempt ∈ stack, ∀ previous, l.calls attempt.call = some (.open_ key previous) → previous = attempt.previous) :
    Books key base (acts ++ [act]) { cells, calls := l.calls.insert call .closed } := by
  have begun : begunAt key (acts ++ [act]) = begunAt key acts := by rw [begunAt_append, silent, List.append_nil]
  have reports {other : Nat} (different : other ≠ call) : Rollback.undone (acts ++ [act]) other = Rollback.undone acts other ∧
      Rollback.kept (acts ++ [act]) other = Rollback.kept acts other := by
    obtain ⟨unsaid, unsaid'⟩ := silent_of_about fun same => different (Option.some.inj (same.symm.trans about))
    rw [undone_append, kept_append, unsaid, unsaid', Bool.or_false, Bool.or_false]
    exact ⟨rfl, rfl⟩
  have opened {other : Nat} {found : Option α}
      (held : (l.calls.insert call .closed) other = some (.open_ key found)) : l.calls other = some (.open_ key found) := by
    rcases Table.insert_eq_some.mp held with ⟨_, same⟩ | ⟨_, held⟩
    · cases same
    · exact held
  refine ⟨by rw [begun]; exact books.distinct, fun other missing => ?_, fun other value member => ?_,
    fun other found held => ?_, ?_⟩
  · obtain ⟨different, missing⟩ := Table.insert_eq_none.mp missing
    rw [(reports different).1, (reports different).2]
    exact books.unknown other missing
  · rw [begun] at member
    by_cases same : other = call
    · subst same
      obtain ⟨_, _, pending, unkept⟩ := books.pending entry
      refine Or.inr ⟨Table.insert_self _ _ _, ?_⟩
      rw [undone_append, kept_append, pending, unkept, Bool.false_or, Bool.false_or]
      exact ends
    · simp only [Table.insert_of_ne _ _ same, (reports same).1, (reports same).2]
      exact books.status other value member
  · rw [begun]
    exact books.listed other found (opened held)
  · obtain ⟨stack, chained, entries, found⟩ := chain
    exact ⟨stack, chained, entries, fun attempt member previous held => found attempt member previous (opened held)⟩

/-- An open attempt is kept. -/
theorem Books.kept (books : Books key base acts l) {call : Nat} {previous : Option α}
    (entry : l.calls call = some (.open_ key previous)) :
    Books key base (acts ++ [.kept call]) { l with calls := l.calls.insert call .closed } := by
  have begun : begunAt key (acts ++ [.kept call]) = begunAt key acts := by
    rw [begunAt_append]
    exact List.append_nil _
  have undone_ (other : Nat) : undone (acts ++ [.kept call]) other = undone acts other := by
    rw [undone_append]
    exact Bool.or_false _
  have stands : standing key (acts ++ [.kept call]) = standing key acts := by
    simp only [standing, begun, undone_]
  refine books.ended entry rfl rfl (by simp [Rollback.undone, Rollback.kept]) ?_
  rw [stands]
  exact books.chain

/-- An open attempt is undone when all later ones have been: it is the one on
top, so it writes back what the next one wrote. -/
theorem Books.undone (books : Books key base acts l) {call : Nat} {previous : Option α}
    (entry : l.calls call = some (.open_ key previous)) (lastOut : LastOut key (acts ++ [.undone call])) :
    Books key base (acts ++ [.undone call])
      { cells := restore l.cells key previous, calls := l.calls.insert call .closed } := by
  have begun : begunAt key (acts ++ [.undone call]) = begunAt key acts := by
    rw [begunAt_append]
    exact List.append_nil _
  have undone_ (other : Nat) : Rollback.undone (acts ++ [.undone call]) other = (Rollback.undone acts other || decide (call = other)) := by
    rw [undone_append]
    simp [Rollback.undone]
  obtain ⟨value, member, pending, _⟩ := books.pending entry
  -- the attempts before it and after it, the latter all undone
  obtain ⟨earlier, later, split⟩ := List.append_of_mem member
  have gone := lastOut.last split
  have absent : ∀ attempt ∈ earlier, attempt.1 ≠ call := by
    have distinct := books.distinct
    rw [split, List.map_append, List.map_cons] at distinct
    rintro attempt inside rfl
    exact List.disjoint_of_nodup_append distinct (List.mem_map_of_mem inside) List.mem_cons_self
  have none_ : later.filter (fun attempt => !Rollback.undone acts attempt.1) = [] :=
    List.filter_eq_nil_iff.mpr fun attempt inside => by simp [gone attempt inside]
  have before : standing key acts = earlier.filter (fun attempt => !Rollback.undone acts attempt.1) ++ [(call, value)] := by
    rw [standing, split, List.filter_append, List.filter_cons_of_pos (by simp [pending]), none_]
  have after : standing key (acts ++ [.undone call]) = earlier.filter fun attempt => !Rollback.undone acts attempt.1 := by
    have none_' : later.filter (fun attempt => !Rollback.undone (acts ++ [.undone call]) attempt.1) = [] :=
      List.filter_eq_nil_iff.mpr fun attempt inside => by simp [undone_, gone attempt inside]
    rw [standing, begun, split, List.filter_append, List.filter_cons_of_neg (by simp [undone_]), none_', List.append_nil]
    exact List.filter_congr fun attempt inside => by
      rw [undone_, decide_eq_false (Ne.symm (absent attempt inside)), Bool.or_false]
  refine books.ended entry rfl rfl (by simp [Rollback.undone, Rollback.kept]) ?_
  obtain ⟨stack, chained, entries, found⟩ := books.chain
  rw [before, List.reverse_append] at entries
  obtain ⟨top, rest, rfl, same, below⟩ := List.map_eq_cons_iff.mp entries
  have called : top.call = call := congrArg Prod.fst same
  have remembered : previous = top.previous := found top List.mem_cons_self previous (called ▸ entry)
  refine ⟨rest, ?_, by rw [after]; exact below, fun attempt inside => found attempt (List.mem_cons_of_mem _ inside)⟩
  simp only [restore_apply, if_true, remembered]
  exact chained.2

/-- A report that is about one call, which is no attempt at the cell and stays
none. -/
theorem Books.elsewhere (books : Books key base acts l) {call : Nat} (about : act.about = some call)
    (silent : begunAt key [act] = []) (strange : ∀ value, (call, value) ∉ begunAt key acts)
    (same : ∀ other ≠ call, l'.calls other = l.calls other) (known : l'.calls call ≠ none)
    (shut : ∀ previous, l'.calls call ≠ some (.open_ key previous)) (cell : l'.cells key = l.cells key) :
    Books key base (acts ++ [act]) l' := by
  have apart {other : Nat} (different : other ≠ call) : act.about ≠ some other := by
    rw [about]
    exact fun here => different (Option.some.inj here).symm
  refine books.frame silent (fun other value member => ?_) (fun other missing => ?_) (fun other previous opened => ?_) cell
  · have different : other ≠ call := by
      rintro rfl
      exact strange value member
    exact ⟨same other different, silent_of_about (apart different)⟩
  · have different : other ≠ call := by
      rintro rfl
      exact known missing
    exact ⟨(same other different).symm.trans missing, silent_of_about (apart different)⟩
  · have different : other ≠ call := by
      rintro rfl
      exact shut previous opened
    exact (same other different).symm.trans opened

/-- A call that is not an attempt at the cell has no place in its books. -/
theorem Books.strange (books : Books key base acts l) {call : Nat} (opened : ∀ previous, l.calls call ≠ some (.open_ key previous))
    (unclosed : l.calls call ≠ some .closed) (value : α) : (call, value) ∉ begunAt key acts := by
  intro member
  rcases books.known member with ⟨previous, entry⟩ | entry
  · exact opened previous entry
  · exact unclosed entry

/-- A call that is no attempt at the cell, and does not become one, moves on. -/
theorem Books.moved (books : Books key base acts l) {call : Nat} (about : act.about = some call) (silent : begunAt key [act] = [])
    (opened : ∀ previous, l.calls call ≠ some (.open_ key previous)) (unclosed : l.calls call ≠ some .closed)
    {place : Entry κ α} (shut : ∀ previous, place ≠ .open_ key previous) {cells : Table κ α} (cell : cells key = l.cells key) :
    Books key base (acts ++ [act]) { cells, calls := l.calls.insert call place } := by
  refine books.elsewhere about silent (books.strange opened unclosed) (fun _ different => Table.insert_of_ne _ _ different)
    (fun missing => ?_) (fun previous held => ?_) cell
  · exact (Table.insert_eq_none.mp missing).1 rfl
  · exact shut previous (Option.some.inj ((Table.insert_self _ _ _).symm.trans held))

/-- A call of another kind says nothing about the cell. -/
theorem Books.foreign (books : Books key base acts l) {call : Nat} (about : act.about = some call) (silent : begunAt key [act] = [])
    (entry : l.calls call = some .foreign) : Books key base (acts ++ [act]) l := by
  have opened (previous : Option α) : l.calls call ≠ some (.open_ key previous) := by
    rw [entry]
    rintro ⟨⟩
  refine books.elsewhere about silent (books.strange opened ?_) (fun _ _ => rfl) ?_ opened rfl
  · rw [entry]
    rintro ⟨⟩
  · rw [entry]
    rintro ⟨⟩

theorem Books.step (books : Books key base acts l) (run : l.step act = some l') (lastOut : LastOut key (acts ++ [act])) :
    Books key base (acts ++ [act]) l' := by
  have elsewhere {call : Nat} {other : κ} {previous : Option α} (here : other ≠ key)
      (entry : l.calls call = some (.open_ other previous)) :
      (∀ found, l.calls call ≠ some (.open_ key found)) ∧ l.calls call ≠ some .closed := by
    rw [entry]
    refine ⟨?_, by rintro ⟨⟩⟩
    rintro _ ⟨⟩
    exact here rfl
  have unknown {call : Nat} (fresh : l.calls call = none) :
      (∀ found, l.calls call ≠ some (.open_ key found)) ∧ l.calls call ≠ some .closed := by
    rw [fresh]
    exact ⟨by rintro _ ⟨⟩, by rintro ⟨⟩⟩
  cases act with
  | begun call other value =>
    obtain ⟨fresh, same⟩ := Option.ite_none_right_eq_some.mp run
    cases same
    by_cases here : other = key
    · subst here
      exact books.begun fresh value
    · obtain ⟨opened, unclosed⟩ := unknown fresh
      refine books.moved rfl (by simp [begunAt, here]) opened unclosed ?_ (Table.insert_of_ne _ _ (Ne.symm here))
      rintro _ ⟨⟩
      exact here rfl
  | kept call =>
    simp only [Ledger.step] at run
    split at run
    · next other previous entry =>
      cases run
      by_cases here : other = key
      · subst here
        exact books.kept entry
      · obtain ⟨opened, unclosed⟩ := elsewhere here entry
        exact books.moved rfl rfl opened unclosed (by rintro _ ⟨⟩) rfl
    · next entry =>
      cases run
      exact books.foreign rfl rfl entry
    · cases run
  | undone call =>
    simp only [Ledger.step] at run
    split at run
    · next other previous entry =>
      cases run
      by_cases here : other = key
      · subst here
        exact books.undone entry lastOut
      · obtain ⟨opened, unclosed⟩ := elsewhere here entry
        exact books.moved rfl rfl opened unclosed (by rintro _ ⟨⟩) ((restore_apply _ _ _ _).trans (if_neg (Ne.symm here)))
    · next entry =>
      cases run
      exact books.foreign rfl rfl entry
    · cases run
  | other call =>
    cases call with
    | none =>
      cases run
      exact books.frame rfl (fun _ _ _ => ⟨rfl, rfl, rfl⟩) (fun _ missing => ⟨missing, rfl, rfl⟩) (fun _ _ opened => opened) rfl
    | some call =>
      obtain ⟨fresh, same⟩ := Option.ite_none_right_eq_some.mp run
      cases same
      obtain ⟨opened, unclosed⟩ := unknown fresh
      exact books.moved rfl rfl opened unclosed (by rintro _ ⟨⟩) rfl

theorem Books.reach (idle : ∀ call previous, l.calls call ≠ some (.open_ key previous))
    (reach : Reach Ledger.step (fun _ _ => True) l acts l') (lastOut : LastOut key acts) :
    Books key (l.cells key) acts l' := by
  induction reach with
  | start => exact Books.start idle
  | next _ _ run ih => exact (ih lastOut.start).step run lastOut

/-- What has been kept stands. -/
theorem Books.standing_of_kept (books : Books key base acts l) {attempt : Nat × α} (member : attempt ∈ begunAt key acts)
    (stays : Rollback.kept acts attempt.1 = true) : attempt ∈ standing key acts := by
  refine List.mem_filter.mpr ⟨member, ?_⟩
  rcases books.status attempt.1 attempt.2 member with ⟨_, _, _, unkept⟩ | ⟨_, reports⟩
  · exact absurd (stays.symm.trans unkept) nofun
  · rw [reports, stays]
    rfl

/-- The cell holds what the last attempt that stands wrote. -/
theorem Books.lastStanding (books : Books key base acts l) : l.cells key = (lastStanding key acts).or base := by
  obtain ⟨stack, chained, entries, _⟩ := books.chain
  rw [chained.cell, Rollback.lastStanding, ← List.head?_reverse, ← entries, List.head?_map, Option.map_map]
  rfl

/-- When no attempt at the cell is open, those that stand have been kept. -/
theorem Books.lastKept (books : Books key base acts l) (settled : ∀ call previous, l.calls call ≠ some (.open_ key previous)) :
    l.cells key = (lastKept key acts).or base := by
  have same : standing key acts = (begunAt key acts).filter fun attempt => Rollback.kept acts attempt.1 := by
    refine List.filter_congr fun attempt member => ?_
    rcases books.status attempt.1 attempt.2 member with ⟨previous, entry, _⟩ | ⟨_, reports⟩
    · exact absurd entry (settled attempt.1 previous)
    · rw [reports, Bool.not_not]
  rw [books.lastStanding, Rollback.lastStanding, Rollback.lastKept, same]

end Ledgers

section Tracks

variable [DecidableEq κ] {ρ : Type*} {entry : ρ → Entry κ α} {settled : ρ → Prop} {cells : Table κ α}
  {calls : Table Nat ρ} {l : Ledger κ α} {call : Nat} {key : κ} {previous : Option α} {record later : ρ}

/-- A program's own records of its calls, told in a ledger. A record that has
settled may have been an attempt. -/
structure Tracks (entry : ρ → Entry κ α) (settled : ρ → Prop) (cells : Table κ α) (calls : Table Nat ρ)
    (l : Ledger κ α) : Prop where
  cells : l.cells = cells
  calls : ∀ call, l.calls call = (calls call).map entry ∨
    l.calls call = some .closed ∧ ∃ record, calls call = some record ∧ settled record

omit [DecidableEq κ] in
theorem Tracks.start (entry : ρ → Entry κ α) (settled : ρ → Prop) (cells : Table κ α) (calls : Table Nat ρ) :
    Tracks entry settled cells calls { cells, calls := fun call => (calls call).map entry } :=
  ⟨rfl, fun _ => Or.inl rfl⟩

omit [DecidableEq κ] in
theorem Tracks.fresh (tracks : Tracks entry settled cells calls l) (unknown : calls call = none) : l.calls call = none := by
  rcases tracks.calls call with same | ⟨_, record, known, _⟩
  · rw [same, unknown]
    rfl
  · exact absurd (unknown.symm.trans known) nofun

omit [DecidableEq κ] in
theorem Tracks.underway (tracks : Tracks entry settled cells calls l) (known : calls call = some record)
    (unsettled : ¬settled record) : l.calls call = some (entry record) := by
  rcases tracks.calls call with same | ⟨_, found, known', done⟩
  · rw [same, known]
    rfl
  · cases known.symm.trans known'
    exact absurd done unsettled

omit [DecidableEq κ] in
theorem Tracks.opened (tracks : Tracks entry settled cells calls l) (opened : l.calls call = some (.open_ key previous)) :
    ∃ record, calls call = some record ∧ entry record = .open_ key previous := by
  rcases tracks.calls call with same | ⟨closed, _⟩
  · exact Option.map_eq_some_iff.mp (same.symm.trans opened)
  · exact absurd (opened.symm.trans closed) nofun

omit [DecidableEq κ] in
/-- One call moves on, in the program and in the ledger. -/
theorem Tracks.move (tracks : Tracks entry settled cells calls l) (cells' : Table κ α) {place : Entry κ α}
    (same : place = entry later ∨ place = .closed ∧ settled later) :
    Tracks entry settled cells' (calls.insert call later) { cells := cells', calls := l.calls.insert call place } := by
  refine ⟨rfl, fun other => ?_⟩
  by_cases here : other = call
  · subst here
    simp only [Table.insert_self, Option.map_some, Option.some.injEq, exists_eq_left']
    exact same
  · simp only [Table.insert_of_ne _ _ here]
    exact tracks.calls other

theorem Tracks.begun (tracks : Tracks entry settled cells calls l) (unknown : calls call = none) (value : α)
    (shape : entry later = .open_ key (cells key)) :
    ∃ l', l.step (.begun call key value) = some l' ∧
      Tracks entry settled (cells.insert key value) (calls.insert call later) l' := by
  refine ⟨_, if_pos (tracks.fresh unknown), ?_⟩
  rw [tracks.cells]
  exact tracks.move _ (Or.inl shape.symm)

theorem Tracks.other (tracks : Tracks entry settled cells calls l) (unknown : calls call = none)
    (shape : entry later = .foreign) :
    ∃ l', l.step (.other (some call)) = some l' ∧ Tracks entry settled cells (calls.insert call later) l' := by
  refine ⟨_, if_pos (tracks.fresh unknown), ?_⟩
  rw [tracks.cells]
  exact tracks.move _ (Or.inl shape.symm)

theorem Tracks.kept (tracks : Tracks entry settled cells calls l) (known : calls call = some record)
    (unsettled : ¬settled record) (shape : entry record = .open_ key previous) (done : settled later) :
    ∃ l', l.step (.kept call) = some l' ∧ Tracks entry settled cells (calls.insert call later) l' := by
  have opened := tracks.underway known unsettled
  rw [shape] at opened
  refine ⟨{ l with calls := l.calls.insert call .closed }, by simp only [Ledger.step, opened], ?_⟩
  rw [tracks.cells]
  exact tracks.move _ (Or.inr ⟨rfl, done⟩)

theorem Tracks.undone (tracks : Tracks entry settled cells calls l) (known : calls call = some record)
    (unsettled : ¬settled record) (shape : entry record = .open_ key previous) (done : settled later) :
    ∃ l', l.step (.undone call) = some l' ∧
      Tracks entry settled (restore cells key previous) (calls.insert call later) l' := by
  have opened := tracks.underway known unsettled
  rw [shape] at opened
  refine ⟨{ cells := restore l.cells key previous, calls := l.calls.insert call .closed }, by simp only [Ledger.step, opened], ?_⟩
  rw [tracks.cells]
  exact tracks.move _ (Or.inr ⟨rfl, done⟩)

omit [DecidableEq κ] in
/-- A call of another kind moves on. -/
theorem Tracks.foreign (tracks : Tracks entry settled cells calls l) (known : calls call = some record)
    (unsettled : ¬settled record) (shape : entry record = .foreign) (stays : entry later = .foreign) :
    l.calls call = some .foreign ∧ Tracks entry settled cells (calls.insert call later) l := by
  have foreign := tracks.underway known unsettled
  rw [shape] at foreign
  refine ⟨foreign, tracks.cells, fun other => ?_⟩
  by_cases here : other = call
  · subst here
    rw [Table.insert_self, foreign, Option.map_some, stays]
    exact Or.inl rfl
  · rw [Table.insert_of_ne _ _ here]
    exact tracks.calls other

/-- A program whose steps are steps of a ledger keeps the books of the ledger. -/
theorem Tracks.books {σ ε : Type*} {step : σ → ε → Option σ} {guard : σ → ε → Prop} {label : ε → Act κ α}
    (cellsOf : σ → Table κ α) (callsOf : σ → Table Nat ρ) {first last : σ} {trace : List ε}
    (matched : ∀ s e t l, Tracks entry settled (cellsOf s) (callsOf s) l → guard s e → step s e = some t →
      ∃ l', l.step (label e) = some l' ∧ Tracks entry settled (cellsOf t) (callsOf t) l')
    (reach : Reach step guard first trace last)
    (idle : ∀ call record previous, callsOf first call = some record → entry record ≠ .open_ key previous)
    (lastOut : LastOut key (trace.map label)) :
    (∀ attempt ∈ begunAt key (trace.map label), Rollback.kept (trace.map label) attempt.1 = true →
      attempt ∈ standing key (trace.map label)) ∧
    cellsOf last key = (lastStanding key (trace.map label)).or (cellsOf first key) ∧
      ((∀ call record previous, callsOf last call = some record → entry record ≠ .open_ key previous) →
        cellsOf last key = (lastKept key (trace.map label)).or (cellsOf first key)) := by
  obtain ⟨l, run, tracks⟩ := reach.simulate (S := fun s l => Tracks entry settled (cellsOf s) (callsOf s) l)
    (Tracks.start entry settled (cellsOf first) (callsOf first)) fun s l e t tracks allowed run =>
      matched s e t l tracks allowed run
  have books : Books key (cellsOf first key) (trace.map label) l := by
    refine Books.reach (fun call previous opened => ?_) run lastOut
    obtain ⟨record, known, shape⟩ := Option.map_eq_some_iff.mp opened
    exact idle call record previous known shape
  rw [← tracks.cells]
  refine ⟨fun _ => books.standing_of_kept, books.lastStanding, fun ended => books.lastKept fun call previous opened => ?_⟩
  obtain ⟨record, known, shape⟩ := tracks.opened opened
  exact ended call record previous known shape

end Tracks

end Rollback
