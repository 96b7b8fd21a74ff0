import Mathlib.Data.List.Basic
import Mathlib.Data.List.Infix

/-- Writers that share one output and take turns by a lock, which passes to any of those
that wait. The holder comes with what it has still to write. `broken` says that a write has
failed, and `passed` (oldest first) is a history variable: who has had the lock before the
holder and has written something. -/
structure LockedWriter (μ : Type*) (α : Type*) where
  waiting : List μ
  holder : Option (μ × List α)
  passed : List μ
  output : List α
  broken : Bool

namespace LockedWriter

variable {μ α : Type*} (text : μ → List α)

def free : LockedWriter μ α where
  waiting := []
  holder := none
  passed := []
  output := []
  broken := false

/-- Who has had the lock, the holder last; but for those who have written nothing. -/
def granted (w : LockedWriter μ α) : List μ :=
  w.passed ++ w.holder.toList.map Prod.fst

def call (w : LockedWriter μ α) (message : μ) : LockedWriter μ α :=
  { w with waiting := w.waiting ++ [message] }

/-- The waiter at a place no longer waits. -/
def withdraw (w : LockedWriter μ α) (place : Nat) : LockedWriter μ α :=
  { w with waiting := w.waiting.eraseIdx place }

/-- The waiter at a place gets the lock. -/
def acquire (w : LockedWriter μ α) (place : Nat) : Option (LockedWriter μ α) :=
  match w.holder, w.waiting[place]? with
  | none, some message => some { w.withdraw place with holder := some (message, text message) }
  | _, _ => none

/-- The holder writes some more. -/
def put (w : LockedWriter μ α) (size : Nat) : Option (LockedWriter μ α) :=
  if w.broken then none
  else w.holder.map fun (message, rest) =>
    { w with
      holder := some (message, rest.drop size)
      output := w.output ++ rest.take size }

/-- The holder has written everything. -/
def release (w : LockedWriter μ α) : Option (LockedWriter μ α) :=
  match w.holder with
  | some (message, []) => some { w with holder := none, passed := w.passed ++ [message] }
  | _ => none

/-- The holder gives the lock back, and has written nothing. -/
def giveBack (w : LockedWriter μ α) : Option (LockedWriter μ α) :=
  match w.holder with
  | some (message, rest) => if rest.length = (text message).length then some { w with holder := none } else none
  | none => none

/-- The holder's write fails, of which nothing more comes out, and nothing of later ones. -/
def fail (w : LockedWriter μ α) : Option (LockedWriter μ α) :=
  match w.holder with
  | some (message, rest) => some { w with
      holder := none
      passed := if rest.length = (text message).length then w.passed else w.passed ++ [message]
      broken := true }
  | none => none

/-- What the holder has still to write. -/
def unwritten (w : LockedWriter μ α) : List α :=
  w.holder.elim [] Prod.snd

/-- The output is of whole texts, in the order in which the lock was granted, up to the
write that has failed. -/
structure Intact (w : LockedWriter μ α) : Prop where
  whole : w.broken = false → w.output ++ w.unwritten = w.granted.flatMap text
  kept : w.broken = true → w.output <+: w.passed.flatMap text

variable {text} {w x : LockedWriter μ α} {place size : Nat}

theorem acquire_eq_some : w.acquire text place = some x ↔ ∃ message, w.holder = none ∧
    w.waiting[place]? = some message ∧ x = { w.withdraw place with holder := some (message, text message) } := by
  unfold acquire
  split
  · next free found => simp [free, found, eq_comm]
  · next other =>
    refine iff_of_false (by simp) ?_
    rintro ⟨message, free, found, _⟩
    exact other message free found

theorem put_eq_some : w.put size = some x ↔ ∃ message rest, w.broken = false ∧ w.holder = some (message, rest) ∧
    x = { w with holder := some (message, rest.drop size), output := w.output ++ rest.take size } := by
  unfold put
  cases sound : w.broken with
  | true => simp
  | false =>
    rcases held : w.holder with _ | ⟨message, rest⟩
    · simp
    · simp [eq_comm]

theorem release_eq_some : w.release = some x ↔
    ∃ message, w.holder = some (message, []) ∧ x = { w with holder := none, passed := w.passed ++ [message] } := by
  unfold release
  split
  · next message held => simp [held, eq_comm]
  · next other =>
    refine iff_of_false (by simp) ?_
    rintro ⟨message, held, _⟩
    exact other message held

theorem giveBack_eq_some : w.giveBack text = some x ↔ ∃ message rest, w.holder = some (message, rest) ∧
    rest.length = (text message).length ∧ x = { w with holder := none } := by
  unfold giveBack
  rcases held : w.holder with _ | ⟨message, rest⟩
  · simp
  · simp [eq_comm]

theorem fail_eq_some : w.fail text = some x ↔ ∃ message rest, w.holder = some (message, rest) ∧ x = { w with
    holder := none
    passed := if rest.length = (text message).length then w.passed else w.passed ++ [message]
    broken := true } := by
  unfold fail
  rcases held : w.holder with _ | ⟨message, rest⟩
  · simp
  · simp [eq_comm]

section Granted

theorem granted_free (free : w.holder = none) : w.granted = w.passed := by
  rw [granted, free]
  exact List.append_nil _

theorem granted_held {message : μ} {rest : List α} (held : w.holder = some (message, rest)) :
    w.granted = w.passed ++ [message] := by
  rw [granted, held]
  rfl

theorem granted_release (run : w.release = some x) : x.granted = w.granted := by
  obtain ⟨message, held, rfl⟩ := release_eq_some.mp run
  rw [granted_held held]
  exact List.append_nil _

end Granted

/-- One waiter among the others. -/
theorem split_waiting {message : μ} (found : w.waiting[place]? = some message) :
    ∃ before after, w.waiting = before ++ message :: after ∧ (w.withdraw place).waiting = before ++ after := by
  obtain ⟨inside, rfl⟩ := List.getElem?_eq_some_iff.mp found
  refine ⟨w.waiting.take place, w.waiting.drop (place + 1), ?_, List.eraseIdx_eq_take_drop_succ _ _⟩
  rw [← List.drop_eq_getElem_cons inside, List.take_append_drop]

theorem Intact.call (intact : w.Intact text) (message : μ) : (w.call message).Intact text :=
  ⟨intact.whole, intact.kept⟩

theorem Intact.withdraw (intact : w.Intact text) (place : Nat) : (w.withdraw place).Intact text :=
  ⟨intact.whole, intact.kept⟩

/-- Before the holder has written, all of the others has come out. -/
theorem Intact.output_free (intact : w.Intact text) (free : w.holder = none) (sound : w.broken = false) :
    w.output = w.passed.flatMap text := by
  have whole := intact.whole sound
  rwa [unwritten, free, Option.elim_none, List.append_nil, granted_free free] at whole

theorem Intact.output_held (intact : w.Intact text) {message : μ} {rest : List α} (held : w.holder = some (message, rest))
    (sound : w.broken = false) : w.output ++ rest = w.passed.flatMap text ++ text message := by
  have whole := intact.whole sound
  rwa [unwritten, held, Option.elim_some, granted_held held, List.flatMap_append, List.flatMap_singleton] at whole

theorem Intact.acquire (intact : w.Intact text) (run : w.acquire text place = some x) : x.Intact text := by
  obtain ⟨message, free, _, rfl⟩ := acquire_eq_some.mp run
  refine ⟨fun sound => ?_, intact.kept⟩
  change w.output ++ text message = (w.passed ++ [message]).flatMap text
  rw [List.flatMap_append, List.flatMap_singleton, intact.output_free free sound]

theorem Intact.put (intact : w.Intact text) (run : w.put size = some x) : x.Intact text := by
  obtain ⟨message, rest, sound, held, rfl⟩ := put_eq_some.mp run
  refine ⟨fun _ => ?_, fun broken => ?_⟩
  · change (w.output ++ rest.take size) ++ rest.drop size = (w.passed ++ [message]).flatMap text
    rw [List.append_assoc, List.take_append_drop, List.flatMap_append, List.flatMap_singleton, intact.output_held held sound]
  · cases sound.symm.trans broken

theorem Intact.release (intact : w.Intact text) (run : w.release = some x) : x.Intact text := by
  obtain ⟨message, held, rfl⟩ := release_eq_some.mp run
  refine ⟨fun sound => ?_, fun broken => ?_⟩
  · change w.output ++ [] = ((w.passed ++ [message]) ++ []).flatMap text
    rw [intact.output_held held sound, List.append_nil, List.flatMap_append, List.flatMap_singleton]
  · change w.output <+: (w.passed ++ [message]).flatMap text
    rw [List.flatMap_append]
    exact (intact.kept broken).trans (List.prefix_append _ _)

theorem Intact.giveBack (intact : w.Intact text) (run : w.giveBack text = some x) : x.Intact text := by
  obtain ⟨message, rest, held, untouched, rfl⟩ := giveBack_eq_some.mp run
  refine ⟨fun sound => ?_, intact.kept⟩
  change w.output ++ [] = (w.passed ++ []).flatMap text
  rw [List.append_nil, List.append_nil]
  exact (List.append_inj' (intact.output_held held sound) untouched).1

theorem Intact.fail (intact : w.Intact text) (run : w.fail text = some x) : x.Intact text := by
  obtain ⟨message, rest, held, rfl⟩ := fail_eq_some.mp run
  refine ⟨nofun, fun _ => ?_⟩
  cases sound : w.broken with
  | true =>
    refine (intact.kept sound).trans ?_
    dsimp only
    split
    · exact List.prefix_refl _
    · rw [List.flatMap_append]
      exact List.prefix_append _ _
  | false =>
    have whole := intact.output_held held sound
    dsimp only
    split
    · next untouched => rw [(List.append_inj' whole untouched).1]
    · rw [List.flatMap_append, List.flatMap_singleton, ← whole]
      exact List.prefix_append _ _

theorem Intact.output_prefix (intact : w.Intact text) : w.output <+: w.granted.flatMap text := by
  cases sound : w.broken with
  | false => exact ⟨_, intact.whole sound⟩
  | true =>
    rw [granted, List.flatMap_append]
    exact (intact.kept sound).trans (List.prefix_append _ _)

end LockedWriter
