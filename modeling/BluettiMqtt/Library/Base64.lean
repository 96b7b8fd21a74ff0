import Mathlib.Data.Fintype.Basic
import Mathlib.Data.List.Basic

namespace Base64

abbrev Byte := BitVec 8

/-- The sixty-four symbols in the order of their values. -/
def ALPHABET : List Char :=
  "ABCDEFGHIJKLMNOPQRSTUVWXYZabcdefghijklmnopqrstuvwxyz0123456789+/".toList

def symbol (value : Nat) : Char :=
  ALPHABET.getD value '='

/-- The value of a symbol; `-` and `_` stand for the last two values in the
alphabet for URLs. -/
def value? (c : Char) : Option Nat :=
  if c ∈ ALPHABET then some (ALPHABET.idxOf c)
  else if c = '-' then some 62
  else if c = '_' then some 63
  else none

def encode : List Byte → List Char
  | a :: b :: c :: rest =>
    [symbol (a.toNat / 4), symbol (a.toNat % 4 * 16 + b.toNat / 16), symbol (b.toNat % 16 * 4 + c.toNat / 64),
      symbol (c.toNat % 64)] ++ encode rest
  | [a, b] => [symbol (a.toNat / 4), symbol (a.toNat % 4 * 16 + b.toNat / 16), symbol (b.toNat % 16 * 4), '=']
  | [a] => [symbol (a.toNat / 4), symbol (a.toNat % 4 * 16), '=', '=']
  | [] => []

/-- The bytes of which these are the six-bit groups; bits that fill no byte are dropped. -/
def ofSextets : List Nat → List Byte
  | s :: t :: u :: v :: rest =>
    [BitVec.ofNat 8 (s * 4 + t / 16), BitVec.ofNat 8 (t % 16 * 16 + u / 4), BitVec.ofNat 8 (u % 4 * 64 + v)] ++
      ofSextets rest
  | [s, t, u] => [BitVec.ofNat 8 (s * 4 + t / 16), BitVec.ofNat 8 (t % 16 * 16 + u / 4)]
  | [s, t] => [BitVec.ofNat 8 (s * 4 + t / 16)]
  | [_] => []
  | [] => []

/-- A decoder that passes over what is no symbol and ends at the padding. -/
def decodeLenient (text : List Char) : List Byte :=
  ofSextets ((text.takeWhile fun c => c ≠ '=').filterMap value?)

def isSpace (c : Char) : Bool :=
  c = ' ' || c = '\t' || c = '\n' || c = '\r'

/-- The symbols before at most two padding characters, if these complete a group
of four. -/
def unpadded (text : List Char) : Option (List Char) :=
  let symbols := text.takeWhile fun c => c ≠ '='
  if text.length % 4 = 0 ∧ (text.drop symbols.length = [] ∨ text.drop symbols.length = ['='] ∨
      text.drop symbols.length = ['=', '=']) then some symbols
  else none

/-- A decoder that refuses what is no symbol and wrong padding. White space may
stand between the symbols. -/
def decodeStrict (text : List Char) : Option (List Byte) := do
  let symbols ← unpadded (text.filter fun c => !isSpace c)
  let sextets ← symbols.mapM fun c => if c ∈ ALPHABET then value? c else none
  return ofSextets sextets

theorem symbol_spec : ∀ value < 64, symbol value ∈ ALPHABET ∧ value? (symbol value) = some value := by
  decide +kernel

theorem mem_alphabet {c : Char} (member : c ∈ ALPHABET) : c ≠ '=' ∧ isSpace c = false := by
  have all : ALPHABET.all (fun c => decide (c ≠ '=') && !isSpace c) = true := by decide +kernel
  simpa using List.all_eq_true.mp all c member

/-- The values of the symbols of some bytes. -/
def sextets : List Byte → List Nat
  | a :: b :: c :: rest =>
    [a.toNat / 4, a.toNat % 4 * 16 + b.toNat / 16, b.toNat % 16 * 4 + c.toNat / 64, c.toNat % 64] ++ sextets rest
  | [a, b] => [a.toNat / 4, a.toNat % 4 * 16 + b.toNat / 16, b.toNat % 16 * 4]
  | [a] => [a.toNat / 4, a.toNat % 4 * 16]
  | [] => []

/-- The padding of some bytes. -/
def padding : List Byte → List Char
  | _ :: _ :: _ :: rest => padding rest
  | [_, _] => ['=']
  | [_] => ['=', '=']
  | [] => []

variable (data : List Byte)

theorem encode_eq : encode data = (sextets data).map symbol ++ padding data := by
  fun_induction encode data with
  | case1 a b c rest ih => simp [sextets, padding, ih]
  | case2 a b => rfl
  | case3 a => rfl
  | case4 => rfl

theorem sextets_lt : ∀ value ∈ sextets data, value < 64 := by
  fun_induction sextets data with
  | case1 a b c rest ih =>
    have := a.isLt
    have := b.isLt
    have := c.isLt
    intro value member
    rcases List.mem_append.mp member with first | later
    · simp only [List.mem_cons, List.not_mem_nil, or_false] at first
      omega
    · exact ih value later
  | case2 a b =>
    have := a.isLt
    have := b.isLt
    simp only [List.mem_cons, List.not_mem_nil, or_false]
    omega
  | case3 a =>
    have := a.isLt
    simp only [List.mem_cons, List.not_mem_nil, or_false]
    omega
  | case4 => simp

theorem ofSextets_sextets : ofSextets (sextets data) = data := by
  have byte (a : Byte) {value : Nat} (same : value = a.toNat) : BitVec.ofNat 8 value = a := by
    rw [same, BitVec.ofNat_toNat, BitVec.setWidth_eq]
  fun_induction sextets data with
  | case1 a b c rest ih =>
    simp only [ofSextets, List.cons_append, List.nil_append, ih]
    rw [byte a (by omega), byte b (by omega), byte c (by omega)]
  | case2 a b =>
    simp only [ofSextets]
    rw [byte a (by omega), byte b (by omega)]
  | case3 a =>
    simp only [ofSextets]
    rw [byte a (by omega)]
  | case4 => rfl

theorem padding_cases : padding data = [] ∨ padding data = ['='] ∨ padding data = ['=', '='] := by
  fun_induction padding data with
  | case1 a b c rest ih => exact ih
  | case2 => exact Or.inr (Or.inl rfl)
  | case3 => exact Or.inr (Or.inr rfl)
  | case4 => exact Or.inl rfl

theorem symbols_mem : ∀ c ∈ (sextets data).map symbol, c ∈ ALPHABET := by
  intro c member
  obtain ⟨value, place, rfl⟩ := List.mem_map.mp member
  exact (symbol_spec value (sextets_lt data value place)).1

/-- The symbols end where the padding begins. -/
theorem takeWhile_encode : (encode data).takeWhile (fun c => c ≠ '=') = (sextets data).map symbol := by
  have solid : ∀ c ∈ (sextets data).map symbol, decide (c ≠ '=') = true := fun c member =>
    decide_eq_true (mem_alphabet (symbols_mem data c member)).1
  rw [encode_eq, List.takeWhile_append_of_pos solid]
  rcases padding_cases data with none_ | one | two
  · rw [none_, List.takeWhile_nil, List.append_nil]
  · rw [one]
    exact List.append_nil _
  · rw [two]
    exact List.append_nil _

theorem length_encode : (encode data).length % 4 = 0 := by
  fun_induction encode data with
  | case1 a b c rest ih => simp [ih, Nat.add_mod]
  | case2 => simp
  | case3 => simp
  | case4 => rfl

/-- Only symbols and padding are printed. -/
theorem mem_encode {c : Char} (member : c ∈ encode data) : c ∈ ALPHABET ∨ c = '=' := by
  rw [encode_eq] at member
  rcases List.mem_append.mp member with symbols | pad
  · exact Or.inl (symbols_mem data c symbols)
  · rcases padding_cases data with none_ | one | two
    · rw [none_] at pad
      cases pad
    · rw [one] at pad
      exact Or.inr (by simpa using pad)
    · rw [two] at pad
      exact Or.inr (by simpa using pad)

theorem decodeLenient_encode : decodeLenient (encode data) = data := by
  have values : ((sextets data).map symbol).filterMap value? = sextets data := by
    rw [List.filterMap_map]
    refine (List.filterMap_congr fun value member => ?_).trans List.filterMap_some
    exact (symbol_spec value (sextets_lt data value member)).2
  rw [decodeLenient, takeWhile_encode, values, ofSextets_sextets]

theorem decodeStrict_encode : decodeStrict (encode data) = some data := by
  have solid : (encode data).filter (fun c => !isSpace c) = encode data := by
    refine List.filter_eq_self.mpr fun c member => ?_
    rcases mem_encode data member with symbol | rfl
    · rw [(mem_alphabet symbol).2]
      rfl
    · rfl
  have values : ((sextets data).map symbol).mapM (fun c => if c ∈ ALPHABET then value? c else none) =
      some (sextets data) := by
    have lt := sextets_lt data
    generalize sextets data = values at lt
    induction values with
    | nil => rfl
    | cons value rest ih =>
      obtain ⟨member, read⟩ := symbol_spec value (lt value List.mem_cons_self)
      rw [List.map_cons, List.mapM_cons, if_pos member, read, ih fun other place => lt other (List.mem_cons_of_mem _ place)]
      rfl
  have rest : (encode data).drop ((sextets data).map symbol).length = padding data := by
    rw [encode_eq, List.drop_left]
  have split : unpadded (encode data) = some ((sextets data).map symbol) := by
    simp only [unpadded, takeWhile_encode, rest]
    exact if_pos ⟨length_encode data, padding_cases data⟩
  rw [decodeStrict, solid, split]
  refine (congrArg (Option.bind · fun values => some (ofSextets values)) values).trans ?_
  rw [Option.bind_some, ofSextets_sextets]

end Base64
