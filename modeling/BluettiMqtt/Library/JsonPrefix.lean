import BluettiMqtt.Library.JsonText

namespace JsonText

section Prefixes

variable {text rest : List Char}

theorem readUnit_longer {unit : Nat} (read : readUnit text = some (unit, rest)) (more : List Char) :
    readUnit (text ++ more) = some (unit, rest ++ more) := by
  match text, read with
  | a :: b :: c :: d :: tail, read =>
    simp only [readUnit, Option.bind_eq_bind, Option.bind_eq_some_iff] at read
    obtain ⟨w, first, x, second, y, third, z, fourth, same⟩ := read
    cases same
    simp only [List.cons_append, readUnit, first, second, third, fourth, Option.bind_eq_bind, Option.bind_some]
    rfl

theorem readEscaped_longer {c : Char} (read : readEscaped text = some (c, rest)) (more : List Char) :
    readEscaped (text ++ more) = some (c, rest ++ more) := by
  simp only [readEscaped, Option.bind_eq_bind, Option.bind_eq_some_iff] at read ⊢
  obtain ⟨⟨unit, tail⟩, first, read⟩ := read
  refine ⟨(unit, tail ++ more), readUnit_longer first more, ?_⟩
  by_cases leads : 0xd800 ≤ unit ∧ unit < 0xdc00
  · simp only [leads, and_self, if_true] at read ⊢
    split at read
    · obtain ⟨⟨low, last⟩, second, read⟩ := Option.bind_eq_some_iff.mp read
      refine Option.bind_eq_some_iff.mpr ⟨(low, last ++ more), readUnit_longer second more, ?_⟩
      dsimp only at read ⊢
      split at read
      · next trails =>
        rw [if_pos trails]
        obtain ⟨rfl, rfl⟩ := Prod.mk.inj (Option.some.inj read)
        rfl
      · cases read
    · cases read
  · simp only [leads, if_false] at read ⊢
    split at read
    · cases read
    · next plain =>
      cases read
      rw [if_neg plain]
      rfl

theorem readCharacter_plain {c : Char} (other : c ≠ '\\') (rest : List Char) :
    readCharacter (c :: rest) = if c = '\\' ∨ c = '"' ∨ c.toNat < 0x20 then none else some (c, rest) := by
  unfold readCharacter
  split <;> first | rfl | simp_all

theorem readCharacter_longer {c : Char} (read : readCharacter text = some (c, rest)) (more : List Char) :
    readCharacter (text ++ more) = some (c, rest ++ more) := by
  cases text with
  | nil => cases read
  | cons d tail =>
    by_cases mark : d = '\\'
    · subst mark
      unfold readCharacter at read
      split at read
      · next same =>
        cases same
        exact readEscaped_longer read more
      all_goals next same => cases same <;> cases read <;> rfl
    · rw [readCharacter_plain mark] at read
      rw [List.cons_append, readCharacter_plain mark]
      split at read
      · cases read
      · next plain =>
        cases read
        rw [if_neg plain]

/-- What is read of a text is read of every longer one, with more fuel as well. -/
theorem readCharacters_longer (more : List Char) {fuel : Nat} : ∀ {fuel' : Nat} {text cs rest : List Char},
    readCharacters fuel text = some (cs, rest) → fuel ≤ fuel' →
      readCharacters fuel' (text ++ more) = some (cs, rest ++ more) := by
  induction fuel with
  | zero => rintro fuel' text cs rest ⟨⟩
  | succ fuel ih =>
    intro fuel' text cs rest read enough
    obtain ⟨larger, rfl⟩ : ∃ larger, fuel' = larger + 1 := ⟨fuel' - 1, by omega⟩
    unfold readCharacters at read
    split at read
    · cases read
      rfl
    · next open_ =>
      simp only [Option.bind_eq_bind, Option.bind_eq_some_iff] at read
      obtain ⟨⟨c, tail⟩, first, ⟨others, last⟩, later, same⟩ := read
      cases same
      have head : ∀ tail, text ++ more ≠ '"' :: tail := by
        intro tail same
        cases text with
        | nil => cases first
        | cons d text =>
          obtain ⟨rfl, _⟩ := List.cons.inj same
          exact open_ text rfl
      unfold readCharacters
      split
      · next tail same => exact absurd same (head tail)
      · simp only [Option.bind_eq_bind, readCharacter_longer first more, Option.bind_some,
          ih later (Nat.le_of_succ_le_succ enough)]
        rfl

theorem skip_longer (solid : skip text ≠ []) (more : List Char) : skip (text ++ more) = skip text ++ more := by
  rw [skip, List.dropWhile_append, if_neg (by simpa [skip] using solid), skip]

theorem after_longer {c : Char} (read : after c text = some rest) (more : List Char) :
    after c (text ++ more) = some (rest ++ more) := by
  unfold after at read
  split at read
  · next d tail shape =>
    obtain ⟨here, same⟩ := Option.ite_none_right_eq_some.mp read
    cases same
    rw [after, skip_longer (by simp [shape]), shape, List.cons_append]
    exact if_pos here
  · cases read

theorem after_solid {c : Char} (read : after c text = some rest) : text ≠ [] := by
  rintro rfl
  cases read

/-- Another character than the one that is asked for. -/
theorem after_longer_none {c d : Char} (read : after d text = some rest) (other : d ≠ c) (more : List Char) :
    after c (text ++ more) = none := by
  unfold after at read
  split at read
  · next e tail shape =>
    obtain ⟨rfl, _⟩ := Option.ite_none_right_eq_some.mp read
    rw [after, skip_longer (by simp [shape]), shape, List.cons_append]
    exact if_neg other
  · cases read

theorem readString_longer {fuel fuel' : Nat} {value : String} (read : readString fuel text = some (value, rest))
    (enough : fuel ≤ fuel') (more : List Char) : readString fuel' (text ++ more) = some (value, rest ++ more) := by
  simp only [readString, Option.bind_eq_bind, Option.bind_eq_some_iff] at read
  obtain ⟨tail, opened, ⟨cs, last⟩, characters, same⟩ := read
  cases same
  simp only [readString, after_longer opened more, readCharacters_longer more characters enough, Option.bind_eq_bind,
    Option.bind_some]
  rfl

theorem readWord_longer {value : Json} (read : readWord text = some (value, rest)) (some_ : rest ≠ [])
    (more : List Char) : readWord (text ++ more) = some (value, rest ++ more) := by
  have left : text.dropWhile isWord = rest := by
    unfold readWord at read
    dsimp only at read
    split_ifs at read <;> cases read <;> rfl
  have ends : Ends (rest ++ more) := by
    obtain ⟨d, tail, shape⟩ := List.exists_cons_of_ne_nil some_
    have stops := List.head?_dropWhile_not isWord text
    rw [left, shape] at stops
    rintro c head
    rw [shape] at head
    cases head
    simpa using stops
  have letters : ∀ c ∈ text.takeWhile isWord, isWord c = true := fun c member => List.mem_takeWhile_imp member
  obtain ⟨word, tail⟩ := readWord_append letters ends
  have split : text ++ more = text.takeWhile isWord ++ (rest ++ more) := by
    rw [← left, ← List.append_assoc, List.takeWhile_append_dropWhile]
  unfold readWord at read ⊢
  dsimp only at read ⊢
  rw [split, word, tail]
  split_ifs at read ⊢ <;> cases read <;> rfl

/-- A value that shows its own end. -/
def Json.isClosed : Json → Bool
  | .string _ => true
  | .array _ => true
  | .object _ => true
  | _ => false

theorem isClosed_of_readWord {value : Json} (read : readWord text = some (value, rest)) : value.isClosed = false := by
  unfold readWord at read
  dsimp only at read
  split_ifs at read <;> cases read <;> rfl

/-- The readers of values, given a longer text and no less fuel. -/
structure Longer (fuel : Nat) : Prop where
  value : ∀ {fuel' : Nat} {text rest : List Char} {value : Json}, readValue fuel text = some (value, rest) →
    rest ≠ [] ∨ value.isClosed = true → fuel ≤ fuel' → ∀ more, readValue fuel' (text ++ more) = some (value, rest ++ more)
  items : ∀ {fuel' : Nat} {text rest : List Char} {items : List Json}, readItems fuel text = some (items, rest) →
    fuel ≤ fuel' → ∀ more, readItems fuel' (text ++ more) = some (items, rest ++ more)
  members : ∀ {fuel' : Nat} {text rest : List Char} {members : List (String × Json)},
    readMembers fuel text = some (members, rest) → fuel ≤ fuel' →
      ∀ more, readMembers fuel' (text ++ more) = some (members, rest ++ more)

/-- The first item or member is not the closing bracket. -/
theorem after_none_longer {c : Char} (other : after c text = none) (solid : skip text ≠ []) (more : List Char) :
    after c (text ++ more) = none := by
  obtain ⟨d, tail, shape⟩ := List.exists_cons_of_ne_nil solid
  rw [after, shape] at other
  rw [after, skip_longer solid, shape]
  by_cases here : d = c
  · cases (if_pos here).symm.trans other
  · exact if_neg here

theorem skip_of_readValue {fuel : Nat} {value : Json} (read : readValue fuel text = some (value, rest)) : skip text ≠ [] := by
  cases fuel with
  | zero => cases read
  | succ fuel =>
    unfold readValue at read
    split at read
    · cases read
    · next shape => simp [shape]

theorem skip_of_readItems {fuel : Nat} {items : List Json} (read : readItems fuel text = some (items, rest)) :
    skip text ≠ [] := by
  cases fuel with
  | zero => cases read
  | succ fuel =>
    simp only [readItems, Option.bind_eq_bind, Option.bind_eq_some_iff] at read
    obtain ⟨_, first, _⟩ := read
    exact skip_of_readValue first

theorem skip_of_readMembers {fuel : Nat} {members : List (String × Json)}
    (read : readMembers fuel text = some (members, rest)) : skip text ≠ [] := by
  cases fuel with
  | zero => cases read
  | succ fuel =>
    simp only [readMembers, readString, Option.bind_eq_bind, Option.bind_eq_some_iff] at read
    obtain ⟨_, ⟨_, opened, _⟩, _⟩ := read
    intro empty
    rw [after, empty] at opened
    cases opened

theorem longer (fuel : Nat) : Longer fuel := by
  induction fuel with
  | zero => exact ⟨by rintro _ _ _ _ ⟨⟩, by rintro _ _ _ _ ⟨⟩, by rintro _ _ _ _ ⟨⟩⟩
  | succ fuel ih =>
    refine ⟨fun {fuel' text rest value} read ends enough more => ?_, fun {fuel' text rest items} read enough more => ?_,
      fun {fuel' text rest members} read enough more => ?_⟩
    all_goals
      obtain ⟨larger, rfl⟩ : ∃ larger, fuel' = larger + 1 := ⟨fuel' - 1, by omega⟩
      have enough : fuel ≤ larger := Nat.le_of_succ_le_succ enough
    · have solid := skip_of_readValue read
      unfold readValue at read
      split at read
      · cases read
      · next c tail shape =>
        rw [readValue, skip_longer solid, shape, List.cons_append]
        dsimp only
        split at read
        · next quote =>
          obtain ⟨⟨text, last⟩, inside, same⟩ := Option.map_eq_some_iff.mp read
          cases same
          rw [if_pos quote, ← List.cons_append, readString_longer inside enough]
          rfl
        · next plain =>
          rw [if_neg plain]
          split at read
          · next bracket =>
            rw [if_pos bracket]
            split at read
            · next last closed =>
              cases read
              rw [after_longer closed]
            · next open_ =>
              obtain ⟨⟨items, last⟩, inside, same⟩ := Option.map_eq_some_iff.mp read
              cases same
              rw [after_none_longer open_ (skip_of_readItems inside), ih.items inside enough]
              rfl
          · next other =>
            rw [if_neg other]
            split at read
            · next brace =>
              rw [if_pos brace]
              split at read
              · next last closed =>
                cases read
                rw [after_longer closed]
              · next open_ =>
                obtain ⟨⟨members, last⟩, inside, same⟩ := Option.map_eq_some_iff.mp read
                cases same
                rw [after_none_longer open_ (skip_of_readMembers inside), ih.members inside enough]
                rfl
            · next word =>
              rw [if_neg word, ← List.cons_append]
              exact readWord_longer read (ends.resolve_right (by simp [isClosed_of_readWord read])) more
    · simp only [readItems, Option.bind_eq_bind, Option.bind_eq_some_iff] at read
      obtain ⟨⟨item, tail⟩, first, read⟩ := read
      dsimp only at read
      split at read
      · next last comma =>
        obtain ⟨⟨others, last⟩, later, same⟩ := Option.bind_eq_some_iff.mp read
        cases same
        simp only [readItems, ih.value first (Or.inl (after_solid comma)) enough, after_longer comma,
          ih.items later enough, Option.bind_eq_bind, Option.bind_some]
        rfl
      · obtain ⟨last, closed, same⟩ := Option.bind_eq_some_iff.mp read
        cases same
        simp only [readItems, ih.value first (Or.inl (after_solid closed)) enough, after_longer closed,
          after_longer_none closed (by decide : ']' ≠ ','), Option.bind_eq_bind, Option.bind_some]
        rfl
    · simp only [readMembers, Option.bind_eq_bind, Option.bind_eq_some_iff] at read
      obtain ⟨⟨name, tail⟩, key, after_, colon, ⟨value, tail'⟩, first, read⟩ := read
      dsimp only at read colon first
      split at read
      · next last comma =>
        obtain ⟨⟨others, last⟩, later, same⟩ := Option.bind_eq_some_iff.mp read
        cases same
        simp only [readMembers, readString_longer key enough, after_longer colon,
          ih.value first (Or.inl (after_solid comma)) enough, after_longer comma, ih.members later enough,
          Option.bind_eq_bind, Option.bind_some]
        rfl
      · obtain ⟨last, closed, same⟩ := Option.bind_eq_some_iff.mp read
        cases same
        simp only [readMembers, readString_longer key enough, after_longer colon,
          ih.value first (Or.inl (after_solid closed)) enough, after_longer closed,
          after_longer_none closed (by decide : '}' ≠ ','), Option.bind_eq_bind, Option.bind_some]
        rfl

/-- An object that is cut off is no value. -/
theorem parse_cut {quoting : Quoting} {members : List (String × Json)} {more : List Char}
    (whole : text ++ more = print quoting (.object members)) (begun : text ≠ []) (cut : more ≠ []) : parse text = none := by
  have read := readValue_print quoting (.object members) (text.length + 1 + (print quoting (.object members)).length) []
    (by rintro _ ⟨⟩) (Nat.le_add_left _ _)
  rw [List.append_nil] at read
  unfold parse
  cases sooner : readValue (text.length + 1) text with
  | none => rfl
  | some result =>
    obtain ⟨value, rest⟩ := result
    have closed : value.isClosed = true := by
      obtain ⟨c, tail, rfl⟩ := List.exists_cons_of_ne_nil begun
      have brace : c = '{' := by
        have shape : ∃ inside, print quoting (.object members) = '{' :: inside := by
          cases members <;> exact ⟨_, rfl⟩
        obtain ⟨inside, shape⟩ := shape
        rw [shape, List.cons_append] at whole
        exact (List.cons.inj whole).1
      subst brace
      rw [readValue, skip_cons rfl] at sooner
      simp only [if_neg (by decide : '{' ≠ '"'), if_neg (by decide : '{' ≠ '['), if_true] at sooner
      split at sooner
      · cases sooner
        rfl
      · obtain ⟨_, _, same⟩ := Option.map_eq_some_iff.mp sooner
        cases same
        rfl
    have later := (longer _).value sooner (Or.inr closed) (Nat.le_add_right _ (print quoting (.object members)).length) more
    rw [whole, read] at later
    exact absurd (List.append_eq_nil_iff.mp (Prod.mk.inj (Option.some.inj later)).2.symm).2 cut

end Prefixes

end JsonText
