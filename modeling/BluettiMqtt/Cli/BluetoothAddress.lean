import BluettiMqtt.Bluetooth.HelperAddress
import BluettiMqtt.Cli.Args

namespace BluettiMqtt

/-- Pairs of hexadecimal digits, in either case, as bytes. -/
def byteValues : List Char → Option (List Nat)
  | [] => some []
  | [_] => none
  | first :: second :: rest => do
    let high ← digitValue 16 first
    let low ← digitValue 16 second
    let bytes ← byteValues rest
    return (16 * high + low) :: bytes

/-- The bytes that an address spells, whatever its notation, its case and the
white space around it. -/
def denotedBytes (text : String) : Option (List Nat) :=
  byteValues ((trim text).toList.filter fun c => c ≠ ':' && c ≠ '-')

def isAscii (text : String) : Prop :=
  ∀ c ∈ text.toList, c.toNat < 128

/-- Bytes with a character between two of them. -/
def separated (separator : Char) (bytes : List Byte) : List Char :=
  [separator].intercalate (bytes.map toX2)

section Digits

theorem ascii_induction {P : Char → Prop} (each : ∀ n < 128, P (Char.ofNat n)) (c : Char) (ascii : c.toNat < 128) : P c := by
  have here := each c.toNat ascii
  rwa [Char.ofNat_toNat] at here

theorem isHexDigit_ascii {c : Char} (hex : isHexDigit c = true) : c.toNat < 128 := by
  rcases Bool.or_eq_true_iff.mp hex with digit | letter
  · simp only [Char.isDigit, Bool.and_eq_true, decide_eq_true_eq, UInt32.le_iff_toNat_le] at digit
    have upper : c.toNat ≤ 57 := digit.2
    omega
  · simp only [Bool.and_eq_true, decide_eq_true_eq, Char.le_def, UInt32.le_iff_toNat_le] at letter
    have upper : c.toNat ≤ 70 := letter.2
    omega

/-- The upper-case digits are those of the numbers below sixteen. -/
theorem upperHexDigit_of_isHexDigit {c : Char} (hex : isHexDigit c = true) :
    ∃ digit < 16, c = upperHexDigit digit := by
  have table : ∀ n < 128, isHexDigit (Char.ofNat n) = true → ∃ digit < 16, Char.ofNat n = upperHexDigit digit := by
    decide +kernel
  exact ascii_induction (P := fun c => isHexDigit c = true → ∃ digit < 16, c = upperHexDigit digit) table c
    (isHexDigit_ascii hex) hex

/-- An upper-case hexadecimal digit, with what the two programs ask of it. -/
structure IsDigitOf (c : Char) (digit : Nat) : Prop where
  hex : isHexDigit c = true
  value : digitValue 16 c = some digit
  upper : c.toUpper = c
  visible : isWhiteSpace c = false
  colon : c ≠ ':'
  hyphen : c ≠ '-'
  plus : c ≠ '+'
  prefix_ : c ≠ 'x' ∧ c ≠ 'X'
  ligature : c ≠ '\uFB00'
  narrow : c.toNat < 0x10000

theorem upperHexDigit_digit {digit : Nat} (small : digit < 16) : IsDigitOf (upperHexDigit digit) digit where
  hex := (by decide +kernel : ∀ digit < 16, isHexDigit (upperHexDigit digit) = true) digit small
  value := (by decide +kernel : ∀ digit < 16, digitValue 16 (upperHexDigit digit) = some digit) digit small
  upper := (by decide +kernel : ∀ digit < 16, (upperHexDigit digit).toUpper = upperHexDigit digit) digit small
  visible := (by decide +kernel : ∀ digit < 16, isWhiteSpace (upperHexDigit digit) = false) digit small
  colon := (by decide +kernel : ∀ digit < 16, upperHexDigit digit ≠ ':') digit small
  hyphen := (by decide +kernel : ∀ digit < 16, upperHexDigit digit ≠ '-') digit small
  plus := (by decide +kernel : ∀ digit < 16, upperHexDigit digit ≠ '+') digit small
  prefix_ := (by decide +kernel : ∀ digit < 16, upperHexDigit digit ≠ 'x' ∧ upperHexDigit digit ≠ 'X') digit small
  ligature := (by decide +kernel : ∀ digit < 16, upperHexDigit digit ≠ '\uFB00') digit small
  narrow := (by decide +kernel : ∀ digit < 16, (upperHexDigit digit).toNat < 0x10000) digit small

variable {c : Char} {value : Byte}

theorem mem_toX2 (member : c ∈ toX2 value) : ∃ digit < 16, c = upperHexDigit digit := by
  have bound := value.isLt
  simp only [toX2, List.mem_cons, List.not_mem_nil, or_false] at member
  rcases member with rfl | rfl
  · exact ⟨_, by omega, rfl⟩
  · exact ⟨_, by omega, rfl⟩

/-- Two digits are those of a byte. -/
theorem toX2_of_isHexDigit {first second : Char} (high : isHexDigit first = true) (low : isHexDigit second = true) :
    ∃ value, [first, second] = toX2 value := by
  obtain ⟨upper, bound, rfl⟩ := upperHexDigit_of_isHexDigit high
  obtain ⟨lower, bound', rfl⟩ := upperHexDigit_of_isHexDigit low
  refine ⟨BitVec.ofNat 8 (16 * upper + lower), ?_⟩
  have size : (BitVec.ofNat 8 (16 * upper + lower)).toNat = 16 * upper + lower := by
    rw [BitVec.toNat_ofNat, Nat.mod_eq_of_lt (by omega)]
  rw [toX2, size, show (16 * upper + lower) / 16 = upper by omega, show (16 * upper + lower) % 16 = lower by omega]

theorem isHexDigit_toX2 (value : Byte) :
    isHexDigit (upperHexDigit (value.toNat / 16)) = true ∧ isHexDigit (upperHexDigit (value.toNat % 16)) = true := by
  have bound := value.isLt
  exact ⟨(upperHexDigit_digit (by omega)).hex, (upperHexDigit_digit (by omega)).hex⟩

theorem byteValues_toX2 (bytes : List Byte) : byteValues (bytes.flatMap toX2) = some (bytes.map BitVec.toNat) := by
  induction bytes with
  | nil => rfl
  | cons value rest ih =>
    have bound := value.isLt
    have high := (upperHexDigit_digit (show value.toNat / 16 < 16 by omega)).value
    have low := (upperHexDigit_digit (show value.toNat % 16 < 16 by omega)).value
    simp only [List.flatMap_cons, toX2, List.cons_append, List.nil_append, byteValues, high, low, ih, List.map_cons]
    change some ((16 * (value.toNat / 16) + value.toNat % 16) :: _) = _
    rw [Nat.div_add_mod]

end Digits

section Patterns

variable {bytes others : List Byte} {text : List Char} {separator : Char}

theorem separated_singleton (separator : Char) (value : Byte) : separated separator [value] = toX2 value :=
  List.intercalate_singleton

theorem separated_cons (separator : Char) (value next : Byte) (more : List Byte) :
    separated separator (value :: next :: more) = toX2 value ++ separator :: separated separator (next :: more) := by
  simp only [separated, List.map_cons, List.intercalate_cons_cons, List.append_assoc, List.singleton_append]

/-- Separated pairs of digits are bytes with the separator between them. -/
theorem bytes_of_isSeparatedHex (matched : isSeparatedHex separator text = true) :
    ∃ bytes, bytes ≠ [] ∧ text = separated separator bytes := by
  fun_induction isSeparatedHex separator text with
  | case1 first second =>
    obtain ⟨high, low⟩ := Bool.and_eq_true_iff.mp matched
    obtain ⟨value, same⟩ := toX2_of_isHexDigit high low
    exact ⟨[value], List.cons_ne_nil _ _, same.trans (separated_singleton _ _).symm⟩
  | case2 first second between rest ih =>
    simp only [Bool.and_eq_true, decide_eq_true_eq] at matched
    obtain ⟨⟨⟨high, low⟩, rfl⟩, later⟩ := matched
    obtain ⟨value, same⟩ := toX2_of_isHexDigit high low
    obtain ⟨bytes, some_, rfl⟩ := ih later
    obtain ⟨next, more, rfl⟩ := List.exists_cons_of_ne_nil some_
    exact ⟨value :: next :: more, List.cons_ne_nil _ _, by rw [separated_cons, ← same]; rfl⟩
  | case3 => cases matched

theorem isSeparatedHex_separated (separator : Char) (some_ : bytes ≠ []) :
    isSeparatedHex separator (separated separator bytes) = true := by
  induction bytes with
  | nil => exact absurd rfl some_
  | cons value rest ih =>
    obtain ⟨high, low⟩ := isHexDigit_toX2 value
    cases rest with
    | nil =>
      rw [separated_singleton, toX2, isSeparatedHex, high, low]
      rfl
    | cons next more =>
      have later := ih (List.cons_ne_nil _ _)
      rw [separated_cons, toX2]
      change isSeparatedHex separator (_ :: _ :: separator :: separated separator (next :: more)) = true
      rw [isSeparatedHex, high, low, later]
      simp

/-- Digits in even number are those of bytes. -/
theorem bytes_of_isHexDigit {size : Nat} (length : text.length = 2 * size) (hex : text.all isHexDigit = true) :
    ∃ bytes : List Byte, bytes.length = size ∧ text = bytes.flatMap toX2 := by
  induction size generalizing text with
  | zero => exact ⟨[], rfl, List.length_eq_zero_iff.mp length⟩
  | succ size ih =>
    match text, length, hex with
    | first :: second :: rest, length, hex =>
      simp only [List.all_cons, Bool.and_eq_true] at hex
      obtain ⟨value, same⟩ := toX2_of_isHexDigit hex.1 hex.2.1
      obtain ⟨bytes, count, rfl⟩ := ih (by simp only [List.length_cons] at length; omega) hex.2.2
      refine ⟨value :: bytes, by rw [List.length_cons, count], ?_⟩
      rw [List.flatMap_cons, ← same]
      rfl

theorem length_separated (separator : Char) (some_ : bytes ≠ []) :
    (separated separator bytes).length + 1 = 3 * bytes.length := by
  induction bytes with
  | nil => exact absurd rfl some_
  | cons value rest ih =>
    cases rest with
    | nil => rfl
    | cons next more =>
      have later := ih (List.cons_ne_nil _ _)
      rw [separated_cons, List.length_append, List.length_cons, List.length_cons, toX2]
      simp only [List.length_cons, List.length_nil] at later ⊢
      omega

theorem filter_toX2 {keep : Char → Bool} (kept : ∀ digit < 16, keep (upperHexDigit digit) = true) (value : Byte) :
    (toX2 value).filter keep = toX2 value := by
  refine List.filter_eq_self.mpr fun c member => ?_
  obtain ⟨digit, small, rfl⟩ := mem_toX2 member
  exact kept digit small

theorem filter_digits {keep : Char → Bool} (kept : ∀ digit < 16, keep (upperHexDigit digit) = true)
    (bytes : List Byte) : (bytes.flatMap toX2).filter keep = bytes.flatMap toX2 := by
  rw [List.filter_flatMap]
  exact List.flatMap_congr fun value _ => filter_toX2 kept value

/-- Without the separators the digits are left. -/
theorem filter_separated {keep : Char → Bool} (dropped : keep separator = false)
    (kept : ∀ digit < 16, keep (upperHexDigit digit) = true) (bytes : List Byte) :
    (separated separator bytes).filter keep = bytes.flatMap toX2 := by
  induction bytes with
  | nil => rfl
  | cons value rest ih =>
    cases rest with
    | nil => rw [separated_singleton, filter_toX2 kept, List.flatMap_singleton]
    | cons next more =>
      rw [separated_cons, List.filter_append, List.filter_cons_of_neg (by simp [dropped]), ih, filter_toX2 kept,
        ← List.flatMap_cons]

theorem joinPairs_digits (bytes : List Byte) : joinPairs (bytes.flatMap toX2) = separated ':' bytes := by
  induction bytes with
  | nil => rfl
  | cons value rest ih =>
    cases rest with
    | nil => rfl
    | cons next more =>
      rw [separated_cons, ← ih]
      rfl

/-- The characters of separated bytes are digits and the separator. -/
theorem mem_separated {c : Char} (member : c ∈ separated separator bytes) :
    c = separator ∨ ∃ digit < 16, c = upperHexDigit digit := by
  induction bytes with
  | nil => cases member
  | cons value rest ih =>
    cases rest with
    | nil => exact Or.inr (mem_toX2 (separated_singleton separator value ▸ member))
    | cons next more =>
      rw [separated_cons, List.mem_append, List.mem_cons] at member
      rcases member with first | rfl | later
      · exact Or.inr (mem_toX2 first)
      · exact Or.inl rfl
      · exact ih later

end Patterns

section Validation

variable {bytes others : List Byte} {address other result result' : String}

/-- The characters that stand between the digits of some notation. -/
def isSeparator (c : Char) : Bool :=
  c = ':' || c = '-'

theorem isSeparator_digit {digit : Nat} (small : digit < 16) : (!isSeparator (upperHexDigit digit)) = true := by
  have facts := upperHexDigit_digit small
  simp [isSeparator, facts.colon, facts.hyphen]

/-- What an accepted address amounts to: six bytes, which the result spells in
the notation with colons. -/
structure Accepted (address result : String) (bytes : List Byte) : Prop where
  six : bytes.length = 6
  spelled : result = String.ofList (separated ':' bytes)
  digits : (upperCase (trim address)).toList.filter (fun c => !isSeparator c) = bytes.flatMap toX2

theorem colon_mem_separated (six : bytes.length = 6) : ':' ∈ separated ':' bytes := by
  match bytes, six with
  | value :: next :: more, _ =>
    rw [separated_cons]
    simp

theorem six_of_length (some_ : bytes ≠ []) {separator : Char} (length : (separated separator bytes).length = 17) :
    bytes.length = 6 := by
  have size := length_separated separator some_
  omega

theorem colon_not_digit {digit : Nat} (small : digit < 16) : ':' ≠ upperHexDigit digit :=
  (upperHexDigit_digit small).colon.symm

theorem accepted_of_validate (valid : validateBluetoothAddress address = .ok result) :
    ∃ bytes, Accepted address result bytes := by
  unfold validateBluetoothAddress at valid
  generalize normal : (upperCase (trim address)).toList = normalized at valid
  have digit : ∀ digit < 16, (!isSeparator (upperHexDigit digit)) = true := fun _ small => isSeparator_digit small
  have hyphenless : ∀ digit < 16, decide (upperHexDigit digit ≠ '-') = true := fun _ small =>
    decide_eq_true (upperHexDigit_digit small).hyphen
  dsimp only at valid
  split at valid
  · cases valid
  · next matched =>
    rw [Bool.not_eq_true', Bool.not_eq_false, Bool.or_eq_true, Bool.or_eq_true] at matched
    rcases matched with (colon | hyphen) | compact
    · obtain ⟨length, pairs⟩ := Bool.and_eq_true_iff.mp colon
      obtain ⟨bytes, some_, rfl⟩ := bytes_of_isSeparatedHex pairs
      have six := six_of_length some_ (of_decide_eq_true length)
      rw [if_pos (colon_mem_separated six)] at valid
      cases valid
      exact ⟨bytes, six, rfl, by rw [normal]; exact filter_separated rfl digit bytes⟩
    · obtain ⟨length, pairs⟩ := Bool.and_eq_true_iff.mp hyphen
      obtain ⟨bytes, some_, rfl⟩ := bytes_of_isSeparatedHex pairs
      have six := six_of_length some_ (of_decide_eq_true length)
      have absent : ':' ∉ separated '-' bytes := by
        intro member
        rcases mem_separated member with same | ⟨digit, small, same⟩
        · exact absurd same (by decide)
        · exact colon_not_digit small same
      rw [if_neg absent, filter_separated (by decide) hyphenless, joinPairs_digits] at valid
      cases valid
      exact ⟨bytes, six, rfl, by rw [normal]; exact filter_separated rfl digit bytes⟩
    · obtain ⟨length, hex⟩ := Bool.and_eq_true_iff.mp compact
      obtain ⟨bytes, six, rfl⟩ := bytes_of_isHexDigit (show _ = 2 * 6 from of_decide_eq_true length) hex
      have absent : ':' ∉ bytes.flatMap toX2 := by
        intro member
        obtain ⟨value, -, here⟩ := List.mem_flatMap.mp member
        obtain ⟨digit, small, same⟩ := mem_toX2 here
        exact colon_not_digit small same
      rw [if_neg absent, filter_digits hyphenless, joinPairs_digits] at valid
      cases valid
      exact ⟨bytes, six, rfl, by rw [normal]; exact filter_digits digit bytes⟩

theorem mem_trim {c : Char} (member : c ∈ (trim address).toList) : c ∈ address.toList := by
  rw [trim, String.toList_ofList] at member
  exact (List.dropWhile_suffix _).subset ((List.rdropWhile_prefix _ _).subset member)

theorem toUpper_ascii {c : Char} (ascii : c.toNat < 128) :
    digitValue 16 c.toUpper = digitValue 16 c ∧ isSeparator c.toUpper = isSeparator c ∧ c ≠ '\uFB00' := by
  have table : ∀ n < 128, digitValue 16 (Char.ofNat n).toUpper = digitValue 16 (Char.ofNat n) ∧
      isSeparator (Char.ofNat n).toUpper = isSeparator (Char.ofNat n) ∧ Char.ofNat n ≠ '\uFB00' := by
    decide +kernel
  exact ascii_induction (P := fun c => digitValue 16 c.toUpper = digitValue 16 c ∧
    isSeparator c.toUpper = isSeparator c ∧ c ≠ '\uFB00') table c ascii

theorem upperCase_ascii (ascii : isAscii address) : (upperCase address).toList = address.toList.map Char.toUpper := by
  rw [upperCase, String.toList_ofList, ← List.flatMap_singleton' (address.toList.map Char.toUpper), List.flatMap_map]
  exact List.flatMap_congr fun c member => if_neg (toUpper_ascii (ascii c member)).2.2

theorem byteValues_toUpper (text : List Char) (ascii : ∀ c ∈ text, c.toNat < 128) :
    byteValues (text.map Char.toUpper) = byteValues text := by
  fun_induction byteValues text with
  | case1 => rfl
  | case2 => rfl
  | case3 first second rest ih =>
    obtain ⟨high, low, later⟩ : first.toNat < 128 ∧ second.toNat < 128 ∧ ∀ c ∈ rest, c.toNat < 128 := by
      simpa using ascii
    simp only [List.map_cons, byteValues, (toUpper_ascii high).1, (toUpper_ascii low).1, ih later]

/-- The bytes that an accepted address denotes are those of the result. -/
theorem Accepted.denoted (accepted : Accepted address result bytes) (ascii : isAscii address) :
    denotedBytes address = some (bytes.map BitVec.toNat) := by
  have trimmed : isAscii (trim address) := fun c member => ascii c (mem_trim member)
  have dropped : (trim address).toList.filter (fun c => c ≠ ':' && c ≠ '-') =
      (trim address).toList.filter fun c => !isSeparator c := by
    refine List.filter_congr fun c _ => ?_
    simp [isSeparator]
  have upper : (upperCase (trim address)).toList.filter (fun c => !isSeparator c) =
      ((trim address).toList.filter fun c => !isSeparator c).map Char.toUpper := by
    rw [upperCase_ascii trimmed, List.filter_map]
    refine congrArg _ (List.filter_congr fun c member => ?_)
    simp only [Function.comp_apply, (toUpper_ascii (trimmed c member)).2.1]
  rw [denotedBytes, dropped, ← byteValues_toUpper _ fun c member => trimmed c (List.mem_of_mem_filter member), ← upper,
    accepted.digits, byteValues_toX2]

theorem separated_inj : separated ':' bytes = separated ':' others ↔ bytes = others := by
  constructor
  · intro same
    have digits := congrArg (List.filter fun c => !isSeparator c) same
    rw [filter_separated (by decide) fun _ small => isSeparator_digit small,
      filter_separated (by decide) fun _ small => isSeparator_digit small] at digits
    have values := congrArg byteValues digits
    rw [byteValues_toX2, byteValues_toX2, Option.some_inj] at values
    exact List.map_injective_iff.mpr (fun _ _ => BitVec.toNat_inj.mp) values
  · rintro rfl
    rfl

/-- Results are the same when the addresses denote the same bytes. -/
theorem Accepted.same_iff (accepted : Accepted address result bytes) (accepted' : Accepted other result' others)
    (ascii : isAscii address) (ascii' : isAscii other) : result = result' ↔ denotedBytes address = denotedBytes other := by
  rw [accepted.spelled, accepted'.spelled, accepted.denoted ascii, accepted'.denoted ascii', String.ofList_inj,
    separated_inj, Option.some_inj]
  exact (List.map_injective_iff.mpr fun _ _ => BitVec.toNat_inj.mp).eq_iff.symm

/-- The notation with colons is the canonical one. -/
theorem canonical_separated (six : bytes.length = 6) :
    MAC_COLON_PATTERN (separated ':' bytes) = true ∧
      validateBluetoothAddress (String.ofList (separated ':' bytes)) = .ok (String.ofList (separated ':' bytes)) := by
  have some_ : bytes ≠ [] := by
    rintro rfl
    cases six
  have length : (separated ':' bytes).length = 17 := by
    have size := length_separated ':' some_
    omega
  have pattern : MAC_COLON_PATTERN (separated ':' bytes) = true := by
    rw [MAC_COLON_PATTERN, length, isSeparatedHex_separated ':' some_]
    rfl
  have solid : ∀ c ∈ separated ':' bytes, isWhiteSpace c = false ∧ c.toUpper = c ∧ c ≠ '\uFB00' := by
    intro c member
    rcases mem_separated member with rfl | ⟨digit, small, rfl⟩
    · decide
    · have facts := upperHexDigit_digit small
      exact ⟨facts.visible, facts.upper, facts.ligature⟩
  have trimmed : trim (String.ofList (separated ':' bytes)) = String.ofList (separated ':' bytes) :=
    trim_of_solid fun c member => (solid c (by simpa using member)).1
  have upper : (upperCase (String.ofList (separated ':' bytes))).toList = separated ':' bytes := by
    rw [upperCase, String.toList_ofList, String.toList_ofList]
    refine (List.flatMap_congr fun c member => ?_).trans (List.flatMap_singleton' _)
    rw [if_neg (solid c member).2.2, (solid c member).2.1]
  refine ⟨pattern, ?_⟩
  unfold validateBluetoothAddress
  simp only [trimmed, upper, pattern, Bool.true_or, Bool.not_true, Bool.false_eq_true, if_false]
  rw [if_pos (colon_mem_separated six)]

end Validation

section Helper

variable {bytes : List Byte} {address result : String}

/-- The number that bytes stand for, the most significant one first. -/
def bytesNumber (bytes : List Byte) : Nat :=
  bytes.foldl (fun number value => 256 * number + value.toNat) 0

theorem digitsValue_toX2 (some_ : bytes ≠ []) : digitsValue 16 (bytes.flatMap toX2) = some (bytesNumber bytes) := by
  have digits : bytes.flatMap toX2 ≠ [] := by
    obtain ⟨value, rest, rfl⟩ := List.exists_cons_of_ne_nil some_
    exact List.cons_ne_nil _ _
  have general (number : Nat) :
      (bytes.flatMap toX2).foldlM (fun value c => (digitValue 16 c).map (16 * value + ·)) number =
        some (bytes.foldl (fun number value => 256 * number + value.toNat) number) := by
    clear some_ digits
    induction bytes generalizing number with
    | nil => rfl
    | cons value rest ih =>
      have bound := value.isLt
      have high := (upperHexDigit_digit (show value.toNat / 16 < 16 by omega)).value
      have low := (upperHexDigit_digit (show value.toNat % 16 < 16 by omega)).value
      have sum : 16 * (16 * number + value.toNat / 16) + value.toNat % 16 = 256 * number + value.toNat := by omega
      simp only [List.flatMap_cons, toX2, List.cons_append, List.nil_append, List.foldlM_cons, high, low,
        Option.map_some, Option.bind_eq_bind, Option.bind_some, List.foldl_cons, ← sum]
      exact ih _
  rw [digitsValue, if_neg digits]
  exact general 0

/-- Digits that no sign and no prefix precedes. -/
theorem convertToUInt64_plain {first second : Char} {rest : List Char} (unsigned : first ≠ '+')
    (plain : second ≠ 'x' ∧ second ≠ 'X') {value : Nat} (digits : digitsValue 16 (first :: second :: rest) = some value)
    (bound : value < 2 ^ 64) : convertToUInt64 (first :: second :: rest) = .ok (BitVec.ofNat 64 value) := by
  have room : value < 18446744073709551616 := bound
  simp [convertToUInt64, unsigned, plain.1, plain.2, digits, room]

theorem utf16Length_digits (bytes : List Byte) : utf16Length (bytes.flatMap toX2) = 2 * bytes.length := by
  induction bytes with
  | nil => rfl
  | cons value rest ih =>
    have bound := value.isLt
    have high := (upperHexDigit_digit (show value.toNat / 16 < 16 by omega)).narrow
    have low := (upperHexDigit_digit (show value.toNat % 16 < 16 by omega)).narrow
    unfold utf16Length at ih ⊢
    simp only [List.flatMap_cons, toX2, List.cons_append, List.nil_append, List.map_cons, List.sum_cons, if_pos high,
      if_pos low, ih, List.length_cons]
    omega

theorem six_cases (six : bytes.length = 6) : ∃ b0 b1 b2 b3 b4 b5, bytes = [b0, b1, b2, b3, b4, b5] := by
  match bytes, six with
  | [b0, b1, b2, b3, b4, b5], _ => exact ⟨b0, b1, b2, b3, b4, b5, rfl⟩

theorem bytesNumber_lt (six : bytes.length = 6) : bytesNumber bytes < 2 ^ 48 := by
  obtain ⟨b0, b1, b2, b3, b4, b5, rfl⟩ := six_cases six
  simp only [bytesNumber, List.foldl_cons, List.foldl_nil]
  omega

/-- The helper parses the canonical notation. -/
theorem ParseBluetoothAddress_separated (six : bytes.length = 6) :
    ParseBluetoothAddress (String.ofList (separated ':' bytes)) = .ok (BitVec.ofNat 64 (bytesNumber bytes)) := by
  have colonless : ((String.ofList (separated ':' bytes)).toList.filter (· ≠ ':')).filter (· ≠ '-') = bytes.flatMap toX2 := by
    rw [String.toList_ofList, filter_separated (by decide) (fun _ small => decide_eq_true (upperHexDigit_digit small).colon),
      filter_digits fun _ small => decide_eq_true (upperHexDigit_digit small).hyphen]
  have some_ : bytes ≠ [] := by
    rintro rfl
    cases six
  have length : ¬utf16Length (bytes.flatMap toX2) ≠ 12 := by rw [utf16Length_digits, six]; decide
  have number := digitsValue_toX2 some_
  have bound : bytesNumber bytes < 2 ^ 64 := (bytesNumber_lt six).trans (by decide)
  rw [ParseBluetoothAddress]
  simp only [colonless, if_neg length]
  obtain ⟨value, rest, rfl⟩ := List.exists_cons_of_ne_nil some_
  have small := value.isLt
  exact convertToUInt64_plain (upperHexDigit_digit (show value.toNat / 16 < 16 by omega)).plus
    (upperHexDigit_digit (show value.toNat % 16 < 16 by omega)).prefix_ number bound

/-- The six bytes that the helper prints of a number. -/
def printedBytes (number : BitVec 64) : List Byte :=
  ((getBytes number).take 6).reverse

theorem printedBytes_eq (number : BitVec 64) : printedBytes number =
    [(number >>> 40).setWidth 8, (number >>> 32).setWidth 8, (number >>> 24).setWidth 8, (number >>> 16).setWidth 8,
      (number >>> 8).setWidth 8, (number >>> 0).setWidth 8] := rfl

theorem toNat_byte (number : BitVec 64) (shift : Nat) :
    ((number >>> shift).setWidth 8).toNat = number.toNat / 2 ^ shift % 256 := by
  rw [BitVec.toNat_setWidth, BitVec.toNat_ushiftRight, Nat.shiftRight_eq_div_pow]

theorem printedBytes_bytesNumber (six : bytes.length = 6) : printedBytes (BitVec.ofNat 64 (bytesNumber bytes)) = bytes := by
  have bound := bytesNumber_lt six
  have whole : (BitVec.ofNat 64 (bytesNumber bytes)).toNat = bytesNumber bytes := by
    rw [BitVec.toNat_ofNat, Nat.mod_eq_of_lt (by omega)]
  obtain ⟨b0, b1, b2, b3, b4, b5, rfl⟩ := six_cases six
  have byte (shift : Nat) (value : Byte) (same : bytesNumber [b0, b1, b2, b3, b4, b5] / 2 ^ shift % 256 = value.toNat) :
      (BitVec.ofNat 64 (bytesNumber [b0, b1, b2, b3, b4, b5]) >>> shift).setWidth 8 = value := by
    rw [← BitVec.toNat_inj, toNat_byte, whole, same]
  have small (value : Byte) : value.toNat < 256 := value.isLt
  have s0 := small b0
  have s1 := small b1
  have s2 := small b2
  have s3 := small b3
  have s4 := small b4
  have s5 := small b5
  simp only [bytesNumber, List.foldl_cons, List.foldl_nil] at byte
  rw [printedBytes_eq]
  simp only [bytesNumber, List.foldl_cons, List.foldl_nil]
  rw [byte 40 b0 (by omega), byte 32 b1 (by omega), byte 24 b2 (by omega), byte 16 b3 (by omega), byte 8 b4 (by omega),
    byte 0 b5 (by omega)]

theorem bytesNumber_printedBytes {number : BitVec 64} (bound : number.toNat < 2 ^ 48) :
    bytesNumber (printedBytes number) = number.toNat := by
  rw [printedBytes_eq]
  simp only [bytesNumber, List.foldl_cons, List.foldl_nil, toNat_byte]
  omega

theorem FormatBluetoothAddress_eq (number : BitVec 64) :
    FormatBluetoothAddress number = String.ofList (separated ':' (printedBytes number)) := rfl

/-- Every accepted address survives both programs: its result is canonical, is
the same for all notations of its six bytes, and goes through the helper
unchanged. -/
theorem addresses_survive :
    (∀ address result, isAscii address → validateBluetoothAddress address = .ok result →
      MAC_COLON_PATTERN result.toList = true ∧ validateBluetoothAddress result = .ok result ∧
        (∃ six, denotedBytes address = some six ∧ six.length = 6) ∧
        ∃ number, ParseBluetoothAddress result = .ok number ∧ FormatBluetoothAddress number = result) ∧
    (∀ address other result result', isAscii address → isAscii other →
      validateBluetoothAddress address = .ok result → validateBluetoothAddress other = .ok result' →
      (result = result' ↔ denotedBytes address = denotedBytes other)) ∧
    ∀ number : BitVec 64, number.toNat < 2 ^ 48 →
      ParseBluetoothAddress (FormatBluetoothAddress number) = .ok number := by
  refine ⟨fun address result ascii valid => ?_, fun address other result result' ascii ascii' valid valid' => ?_,
    fun number bound => ?_⟩
  · obtain ⟨bytes, accepted⟩ := accepted_of_validate valid
    obtain ⟨pattern, stable⟩ := canonical_separated accepted.six
    have denoted := accepted.denoted ascii
    obtain ⟨six, rfl, -⟩ := accepted
    rw [String.toList_ofList]
    refine ⟨pattern, stable, ⟨_, denoted, by rw [List.length_map, six]⟩, _, ParseBluetoothAddress_separated six, ?_⟩
    rw [FormatBluetoothAddress_eq, printedBytes_bytesNumber six]
  · obtain ⟨bytes, accepted⟩ := accepted_of_validate valid
    obtain ⟨others, accepted'⟩ := accepted_of_validate valid'
    exact accepted.same_iff accepted' ascii ascii'
  · rw [FormatBluetoothAddress_eq, ParseBluetoothAddress_separated rfl, bytesNumber_printedBytes bound,
      BitVec.ofNat_toNat, BitVec.setWidth_eq]

/-- An address in two notations, and the number the helper knows it by. -/
theorem addresses_survive_station : ∃ result,
    validateBluetoothAddress " 24-4c-ab-2c-24-8e" = .ok result ∧ validateBluetoothAddress result = .ok result ∧
      ParseBluetoothAddress (FormatBluetoothAddress 0x244cab2c248e#64) = .ok 0x244cab2c248e#64 := by
  have valid : validateBluetoothAddress " 24-4c-ab-2c-24-8e" = .ok "24:4C:AB:2C:24:8E" := by decide +kernel
  obtain ⟨accepted, -, printed⟩ := addresses_survive
  exact ⟨_, valid, (accepted _ _ (by simp [isAscii]) valid).2.1, printed _ (by decide)⟩

end Helper

end BluettiMqtt
