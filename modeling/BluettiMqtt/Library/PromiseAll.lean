import BluettiMqtt.Library.Promise
import Mathlib.Data.List.Nodup

namespace Promise

universe u w
variable {κ : Type w} {ε : Type u}

/-- `Promise.all` of several parts: the parts it has not heard of, how many it
counts as missing, and how it has settled. -/
structure All (κ : Type w) (ε : Type u) where
  reactions : List κ
  remaining : Nat
  result : Option (Settlement ε Unit)
  deriving DecidableEq

namespace All

/-- `Promise.all` of no part is fulfilled at once. -/
def start (parts : List κ) : All κ ε where
  reactions := parts
  remaining := parts.length
  result := if parts = [] then some (.fulfilled ()) else none

/-- The reaction to a part that has settled. The first rejection decides. -/
def hear [DecidableEq κ] (all : All κ ε) (part : κ) : Settlement ε Unit → All κ ε
  | .fulfilled _ =>
    { reactions := all.reactions.erase part
      remaining := all.remaining - 1
      result := if all.remaining = 1 then all.result.or (some (.fulfilled ())) else all.result }
  | .rejected reason =>
    { all with
      reactions := all.reactions.erase part
      result := all.result.or (some (.rejected reason)) }

/-- What the state says about the outcomes of the parts. -/
structure Sound (parts : List κ) (outcome : κ → Option (Settlement ε Unit)) (all : All κ ε) : Prop where
  distinct : all.reactions.Nodup
  open_ : all.result = none → all.remaining = all.reactions.length ∧ all.reactions ≠ [] ∧
    ∀ part ∈ parts, part ∉ all.reactions → outcome part = some (.fulfilled ())
  fulfilled : all.result = some (.fulfilled ()) → all.reactions = [] ∧ ∀ part ∈ parts, outcome part = some (.fulfilled ())
  rejected : ∀ reason, all.result = some (.rejected reason) → ∃ part ∈ parts, outcome part = some (.rejected reason)
  known : ∀ part ∈ all.reactions, part ∈ parts

/-- It does not settle while a part is pending. -/
def Waits (parts : List κ) (outcome : κ → Option (Settlement ε Unit)) (all : All κ ε) : Prop :=
  ∀ result, all.result = some result → ∀ part ∈ parts, (outcome part).isSome = true

variable {parts : List κ} {outcome later : κ → Option (Settlement ε Unit)} {all : All κ ε} {part : κ}

theorem Sound.start (distinct : parts.Nodup) (outcome : κ → Option (Settlement ε Unit)) :
    Sound parts outcome (.start parts) := by
  by_cases empty : parts = []
  · subst empty
    exact ⟨List.nodup_nil, nofun, fun _ => ⟨rfl, fun part member => absurd member List.not_mem_nil⟩, nofun,
      fun part member => member⟩
  · refine ⟨distinct, fun _ => ⟨rfl, empty, fun part member absent => absurd member absent⟩, ?_, ?_, fun part member => member⟩
    · simp [All.start, empty]
    · simp [All.start, empty]

/-- Parts settle once: what is known of them stays true. -/
theorem Sound.mono (sound : Sound parts outcome all)
    (grows : ∀ part result, outcome part = some result → later part = some result) : Sound parts later all where
  distinct := sound.distinct
  open_ none_ := by
    obtain ⟨counted, some_, heard⟩ := sound.open_ none_
    exact ⟨counted, some_, fun part member absent => grows part _ (heard part member absent)⟩
  fulfilled done := by
    obtain ⟨empty, all_⟩ := sound.fulfilled done
    exact ⟨empty, fun part member => grows part _ (all_ part member)⟩
  rejected reason done := by
    obtain ⟨part, member, failed⟩ := sound.rejected reason done
    exact ⟨part, member, grows part _ failed⟩
  known := sound.known

theorem Waits.mono (waits : Waits parts outcome all)
    (grows : ∀ part result, outcome part = some result → later part = some result) : Waits parts later all := by
  intro result done part member
  obtain ⟨settled, here⟩ := Option.isSome_iff_exists.mp (waits result done part member)
  rw [grows part settled here]
  rfl

variable [DecidableEq κ]

theorem mem_erase (sound : Sound parts outcome all) {other : κ} :
    other ∈ all.reactions.erase part ↔ other ≠ part ∧ other ∈ all.reactions :=
  sound.distinct.mem_erase_iff

/-- Once it has settled, no reaction changes the result. -/
theorem hear_settled {settlement : Settlement ε Unit} (result : all.result = some settlement) (part : κ)
    (outcome : Settlement ε Unit) : (all.hear part outcome).result = some settlement := by
  cases outcome with
  | fulfilled value => simp [hear, result]
  | rejected reason => simp [hear, result]

theorem Sound.hear_fulfilled (sound : Sound parts outcome all) (unheard : part ∈ all.reactions)
    (settled : outcome part = some (.fulfilled ())) : Sound parts outcome (all.hear part (.fulfilled ())) := by
  have heard (none_ : all.result = none) (other : κ) (member : other ∈ parts)
      (absent : other ∉ all.reactions.erase part) : outcome other = some (.fulfilled ()) := by
    by_cases same : other = part
    · rw [same, settled]
    · exact (sound.open_ none_).2.2 other member fun inside => absent ((mem_erase sound).mpr ⟨same, inside⟩)
  have length := List.length_erase_of_mem unheard
  cases result : all.result with
  | some settlement =>
    have kept := hear_settled result part (.fulfilled ())
    refine ⟨sound.distinct.erase part, ?_, ?_, ?_, fun other member => sound.known other (List.mem_of_mem_erase member)⟩
    · rw [kept]
      nofun
    · rw [kept]
      intro done
      obtain ⟨empty, all_⟩ := sound.fulfilled (result.trans done)
      exact ⟨by rw [hear, empty, List.erase_nil], all_⟩
    · rw [kept]
      exact fun reason done => sound.rejected reason (result.trans done)
  | none =>
    obtain ⟨counted, some_, -⟩ := sound.open_ result
    have positive := List.length_pos_iff.mpr some_
    by_cases last : all.remaining = 1
    · have empty : all.reactions.erase part = [] := List.length_eq_zero_iff.mp (by omega)
      have done : (all.hear part (.fulfilled ())).result = some (.fulfilled ()) := by
        simp [hear, last, result]
      refine ⟨sound.distinct.erase part, ?_, fun _ => ⟨empty, fun other member => heard result other member ?_⟩, ?_,
        fun other member => sound.known other (List.mem_of_mem_erase member)⟩
      · rw [done]
        nofun
      · rw [empty]
        exact List.not_mem_nil
      · rw [done]
        nofun
    · have undecided : (all.hear part (.fulfilled ())).result = none := by
        simp [hear, last, result]
      refine ⟨sound.distinct.erase part, fun _ => ⟨?_, ?_, heard result⟩, ?_, ?_,
        fun other member => sound.known other (List.mem_of_mem_erase member)⟩
      · change all.remaining - 1 = (all.reactions.erase part).length
        omega
      · exact List.length_pos_iff.mp (show 0 < (all.reactions.erase part).length by omega)
      · rw [undecided]
        nofun
      · rw [undecided]
        nofun

theorem Sound.hear_rejected (sound : Sound parts outcome all) (unheard : part ∈ all.reactions) {reason : ε}
    (settled : outcome part = some (.rejected reason)) : Sound parts outcome (all.hear part (.rejected reason)) where
  distinct := sound.distinct.erase part
  open_ none_ := by simp [hear] at none_
  fulfilled done := by
    have before : all.result = some (.fulfilled ()) := by
      cases result : all.result with
      | none => simp [hear, result] at done
      | some settlement => simpa [hear, result] using done
    rw [(sound.fulfilled before).1] at unheard
    cases unheard
  rejected reason' done := by
    cases result : all.result with
    | none =>
      have same : reason = reason' := by simpa [hear, result] using done
      exact ⟨part, sound.known part unheard, same ▸ settled⟩
    | some settlement =>
      have before : settlement = .rejected reason' := by simpa [hear, result] using done
      exact sound.rejected reason' (before ▸ result)
  known other member := sound.known other (List.mem_of_mem_erase member)

theorem Sound.hear (sound : Sound parts outcome all) (unheard : part ∈ all.reactions) {settlement : Settlement ε Unit}
    (settled : outcome part = some settlement) : Sound parts outcome (all.hear part settlement) := by
  cases settlement with
  | fulfilled value => exact sound.hear_fulfilled unheard settled
  | rejected reason => exact sound.hear_rejected unheard settled

/-- Only a rejection can be heard too early. -/
theorem Waits.hear (waits : Waits parts outcome all) (sound : Sound parts outcome all) (unheard : part ∈ all.reactions)
    {settlement : Settlement ε Unit} (settled : outcome part = some settlement)
    (last : ∀ reason, settlement = .rejected reason → ∀ other ∈ parts, (outcome other).isSome = true) :
    Waits parts outcome (all.hear part settlement) := by
  intro result done
  cases settlement with
  | rejected reason => exact last reason rfl
  | fulfilled value =>
    cases before : all.result with
    | some settlement => exact waits settlement before
    | none =>
      have decided := (sound.hear unheard settled).fulfilled
      have fulfilled : (all.hear part (.fulfilled ())).result = some (.fulfilled ()) := by
        simp only [All.hear, before, Option.none_or] at done ⊢
        split at done
        · next one => rw [if_pos one]
        · cases done
      intro other member
      rw [(decided fulfilled).2 other member]
      rfl

/-- A rejection that is heard settles the whole. -/
theorem hear_rejected_result (all : All κ ε) (part : κ) (reason : ε) :
    ∃ result, (all.hear part (.rejected reason)).result = some result := by
  cases before : all.result with
  | none => exact ⟨.rejected reason, by simp [hear, before]⟩
  | some settlement => exact ⟨settlement, by simp [hear, before]⟩

end All

end Promise
