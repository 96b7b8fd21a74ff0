import Mathlib.Data.List.Chain
import Mathlib.Data.List.DropRight
import Mathlib.Data.List.Infix

/-- The characters that end a line. A carriage return and a line feed are among them. -/
structure Endings where
  ends : Char → Bool
  feed : ends '\n' = true
  carriageReturn : ends '\r' = true

/-- What a reader of lines keeps between two chunks: the beginning of the next line, and
whether the text so far ended in a carriage return. -/
structure LineReader where
  buffer : List Char
  sawReturn : Bool

namespace LineReader

variable (endings : Endings)

/-- The lines of a text, and what follows the last ending. A carriage return before a
line feed is part of the same ending. -/
def splitLines : List Char → List (List Char) × List Char
  | [] => ([], [])
  | c :: rest =>
    let (lines, last) := splitLines rest
    if c = '\r' ∧ rest.head? = some '\n' then (lines, last)
    else if endings.ends c then ([] :: lines, last)
    else
      match lines with
      | [] => ([], c :: last)
      | line :: lines => ((c :: line) :: lines, last)

def start : LineReader where
  buffer := []
  sawReturn := false

/-- One chunk, and the lines that it completes. A line feed is dropped that comes promptly
after a carriage return. -/
def write (r : LineReader) (prompt : Bool) (chunk : List Char) : List (List Char) × LineReader :=
  let joined := r.sawReturn && prompt
  let text := if joined ∧ chunk.head? = some '\n' then chunk.tail else chunk
  if text.any endings.ends then
    let (lines, last) := splitLines endings (r.buffer ++ text)
    (lines, { buffer := last, sawReturn := (r.buffer ++ text).getLast? = some '\r' })
  else ([], { buffer := r.buffer ++ text, sawReturn := r.sawReturn && !prompt })

def nonblank (lines : List (List Char)) : List (List Char) :=
  lines.filter (· ≠ [])

/-- The lines that are not blank and the beginning of the next one, character by character. -/
def absorb (seen : List (List Char) × List Char) (c : Char) : List (List Char) × List Char :=
  if endings.ends c then (seen.1 ++ nonblank [seen.2], []) else (seen.1, seen.2 ++ [c])

variable {endings}

@[simp] theorem nonblank_nil : nonblank [] = [] := rfl

@[simp] theorem nonblank_append (lines more : List (List Char)) :
    nonblank (lines ++ more) = nonblank lines ++ nonblank more :=
  List.filter_append ..

@[simp] theorem nonblank_blank (lines : List (List Char)) : nonblank ([] :: lines) = nonblank lines := by
  simp [nonblank]

theorem nonblank_cons (line : List Char) (lines : List (List Char)) :
    nonblank (line :: lines) = nonblank [line] ++ nonblank lines :=
  nonblank_append [line] lines

theorem absorb_open {text : List Char} (plain : ∀ c ∈ text, endings.ends c = false) (done : List (List Char))
    (line : List Char) : text.foldl (absorb endings) (done, line) = (done, line ++ text) := by
  induction text generalizing line with
  | nil => simp
  | cons c rest ih =>
    simp only [List.forall_mem_cons] at plain
    simp [absorb, plain.1, ih plain.2]

theorem splitLines_nil_of_plain {text : List Char} (plain : ∀ c ∈ text, endings.ends c = false) :
    splitLines endings text = ([], text) := by
  induction text with
  | nil => rfl
  | cons c rest ih =>
    simp only [List.forall_mem_cons] at plain
    have other : c ≠ '\r' := by
      rintro rfl
      exact Bool.false_ne_true (plain.1.symm.trans endings.carriageReturn)
    simp [splitLines, ih plain.2, plain.1, other]

/-- Nothing that ends a line stands after the last ending. -/
theorem splitLines_last (text : List Char) : ∀ c ∈ (splitLines endings text).2, endings.ends c = false := by
  induction text with
  | nil => simp [splitLines]
  | cons c rest ih =>
    simp only [splitLines]
    split
    · exact ih
    · split
      · exact ih
      · next open_ =>
        split
        · simp only [List.forall_mem_cons]
          exact ⟨by simpa using open_, ih⟩
        · exact ih

theorem splitLines_feed (rest : List Char) :
    splitLines endings ('\n' :: rest) = ([] :: (splitLines endings rest).1, (splitLines endings rest).2) := by
  simp [splitLines, endings.feed]

/-- The lines of a text that continues a line. -/
theorem absorb_splitLines (text : List Char) (done : List (List Char)) (line : List Char) :
    text.foldl (absorb endings) (done, line) =
      match (splitLines endings text).1 with
      | [] => (done, line ++ (splitLines endings text).2)
      | first :: lines => (done ++ nonblank ((line ++ first) :: lines), (splitLines endings text).2) := by
  induction text generalizing done line with
  | nil => simp [splitLines]
  | cons c rest ih =>
    rw [List.foldl_cons]
    by_cases return_ : c = '\r' ∧ rest.head? = some '\n'
    · obtain ⟨rfl, feed⟩ := return_
      obtain ⟨more, rfl⟩ : ∃ more, rest = '\n' :: more := by
        cases rest with
        | nil => cases feed
        | cons d more => exact ⟨more, by rw [Option.some.inj feed]⟩
      rw [absorb, if_pos endings.carriageReturn, ih]
      have same : splitLines endings ('\r' :: '\n' :: more) = splitLines endings ('\n' :: more) := by
        rw [splitLines]
        simp
      rw [same, splitLines_feed]
      simp only [List.append_nil, nonblank_blank, List.append_assoc, ← nonblank_cons]
    · by_cases ending : endings.ends c = true
      · rw [absorb, if_pos ending, ih]
        have same : splitLines endings (c :: rest) = ([] :: (splitLines endings rest).1, (splitLines endings rest).2) := by
          rw [splitLines]
          simp [return_, ending]
        rw [same]
        cases (splitLines endings rest).1 with
        | nil => simp
        | cons first lines => simp only [List.append_nil, List.nil_append, List.append_assoc, ← nonblank_cons]
      · rw [absorb, if_neg ending, ih]
        have open_ : endings.ends c = false := by simpa using ending
        cases lines : (splitLines endings rest).1 <;> simp [splitLines, return_, open_, lines]

theorem absorb_text (text : List Char) (done : List (List Char)) :
    text.foldl (absorb endings) (done, []) =
      (done ++ nonblank (splitLines endings text).1, (splitLines endings text).2) := by
  rw [absorb_splitLines]
  cases (splitLines endings text).1 <;> simp

theorem splitLines_returned {text : List Char} (returned : text.getLast? = some '\r') :
    (splitLines endings text).2 = [] := by
  obtain ⟨before, rfl⟩ := List.getLast?_eq_some_iff.mp returned
  have seen : (((before ++ ['\r']).foldl (absorb endings) ([], [])).2) = _ := congrArg Prod.snd (absorb_text _ [])
  rw [List.foldl_append] at seen
  simpa [absorb, endings.carriageReturn] using seen.symm

/-- What a reader keeps after a text. -/
structure Consistent (endings : Endings) (r : LineReader) (past : List Char) : Prop where
  plain : ∀ c ∈ r.buffer, endings.ends c = false
  returned : r.sawReturn = true → r.buffer = [] ∧ past.getLast? = some '\r'

/-- Every carriage return is the first half of an ending. -/
def Paired (text : List Char) : Prop :=
  text.IsChain fun c d => c = '\r' → d = '\n'

theorem Paired.cons {c : Char} {text : List Char} (other : c ≠ '\r') (paired : Paired text) : Paired (c :: text) :=
  List.isChain_cons.mpr ⟨fun _ _ same => absurd same other, paired⟩

/-- Lines without carriage returns, each with one and a line feed after it. -/
theorem paired_flatMap {lines : List (List Char)} (plain : ∀ line ∈ lines, '\r' ∉ line) :
    Paired (lines.flatMap fun line => line ++ ['\r', '\n']) := by
  induction lines with
  | nil => exact .nil
  | cons line lines ih =>
    rw [List.forall_mem_cons] at plain
    rw [List.flatMap_cons, List.append_assoc]
    obtain ⟨plain, later⟩ := plain
    induction line with
    | nil => exact List.isChain_cons_cons.mpr ⟨fun _ => rfl, Paired.cons (by decide) (ih later)⟩
    | cons c line rest =>
      simp only [List.mem_cons, not_or] at plain
      exact Paired.cons (Ne.symm plain.1) (rest plain.2)

theorem consistent_start : Consistent endings start [] where
  plain := by simp [start]
  returned := by simp [start]

variable {r : LineReader} {past chunk : List Char} {prompt : Bool}

/-- After a carriage return, only a line feed can come next. -/
theorem Consistent.feed (consistent : r.Consistent endings past) (paired : Paired (past ++ chunk))
    (saw : r.sawReturn = true) {c : Char} (next : chunk.head? = some c) : c = '\n' := by
  have ended := (consistent.returned saw).2
  exact (List.isChain_append.mp paired).2.2 _ ended _ next rfl

/-- The line feed that is dropped would have ended a blank line. -/
theorem absorb_joined (done : List (List Char)) {text : List Char} (feed : text.head? = some '\n') :
    text.foldl (absorb endings) (done, []) = text.tail.foldl (absorb endings) (done, []) := by
  cases text with
  | nil => cases feed
  | cons c rest =>
    cases Option.some.inj feed
    simp [absorb, endings.feed]

/-- A chunk completes the lines of the text, blank ones aside. -/
theorem write_absorb (prompt : Bool) (consistent : r.Consistent endings past) (paired : Paired (past ++ chunk)) :
    (∀ done, chunk.foldl (absorb endings) (done, r.buffer) =
        (done ++ nonblank (r.write endings prompt chunk).1, (r.write endings prompt chunk).2.buffer)) ∧
      (r.write endings prompt chunk).2.Consistent endings (past ++ chunk) := by
  obtain ⟨text, same, absorbed, ended⟩ : ∃ text,
      (if (r.sawReturn && prompt) ∧ chunk.head? = some '\n' then chunk.tail else chunk) = text ∧
      (∀ done, chunk.foldl (absorb endings) (done, r.buffer) = text.foldl (absorb endings) (done, r.buffer)) ∧
      (text ≠ [] → text.getLast? = chunk.getLast?) := by
    split
    · next dropped =>
      have blank := (consistent.returned (Bool.and_eq_true_iff.mp dropped.1).1).1
      refine ⟨chunk.tail, rfl, fun done => ?_, fun more => ?_⟩
      · rw [blank]
        exact absorb_joined done dropped.2
      · cases chunk with
        | nil => rfl
        | cons c rest => exact (List.getLast?_cons_of_ne_nil more).symm
    · exact ⟨chunk, rfl, fun _ => rfl, fun _ => rfl⟩
  have through (done : List (List Char)) : chunk.foldl (absorb endings) (done, r.buffer) =
      (r.buffer ++ text).foldl (absorb endings) (done, []) := by
    rw [absorbed, List.foldl_append, absorb_open consistent.plain, List.nil_append]
  simp only [through, absorb_text]
  by_cases any : text.any endings.ends = true
  · have some_ : text ≠ [] := by
      rintro rfl
      cases any
    simp only [write, same, any, if_true, implies_true, true_and]
    refine ⟨splitLines_last _, fun returned => ?_⟩
    have returned := of_decide_eq_true returned
    refine ⟨splitLines_returned returned, ?_⟩
    rw [List.getLast?_append_of_ne_nil _ some_, ended some_] at returned
    rw [List.getLast?_append, returned]
    rfl
  · have plain : ∀ c ∈ r.buffer ++ text, endings.ends c = false := by
      intro c member
      rcases List.mem_append.mp member with kept | new
      · exact consistent.plain c kept
      · exact Bool.eq_false_iff.mpr fun ends => any (List.any_eq_true.mpr ⟨c, new, ends⟩)
    simp only [write, same, any, if_false, Bool.false_eq_true, splitLines_nil_of_plain plain]
    refine ⟨fun _ => by simp, plain, fun returned => ?_⟩
    obtain ⟨saw, late⟩ := Bool.and_eq_true_iff.mp returned
    have late : prompt = false := by simpa using late
    have whole : text = chunk := by simpa [late] using same.symm
    subst whole
    have empty : text = [] := by
      cases text with
      | nil => rfl
      | cons c rest =>
        have feed : c = '\n' := consistent.feed paired saw rfl
        have open_ := plain c (by simp)
        rw [feed, endings.feed] at open_
        cases open_
    rw [empty, List.append_nil, List.append_nil]
    exact consistent.returned saw

theorem splitLines_head {c : Char} (plain : endings.ends c = false) (rest : List Char) :
    (splitLines endings (c :: rest)).1.head? ≠ some [] := by
  have other : c ≠ '\r' := by
    rintro rfl
    exact Bool.false_ne_true (plain.symm.trans endings.carriageReturn)
  cases lines : (splitLines endings rest).1 <;> simp [splitLines, other, plain, lines]

/-- A chunk that continues a line, or begins with one, completes no blank line first. -/
theorem write_head (consistent : r.Consistent endings past)
    (opens : r.buffer ≠ [] ∨ r.sawReturn = false ∧ ∀ c ∈ chunk.head?, endings.ends c = false) :
    (r.write endings prompt chunk).1.head? ≠ some [] := by
  have saw : r.sawReturn = false := by
    rcases opens with begun | ⟨saw, _⟩
    · exact Bool.eq_false_iff.mpr fun returned => begun (consistent.returned returned).1
    · exact saw
  by_cases any : chunk.any endings.ends = true
  · obtain ⟨c, rest, whole, plain⟩ : ∃ c rest, r.buffer ++ chunk = c :: rest ∧ endings.ends c = false := by
      cases kept : r.buffer with
      | cons c rest => exact ⟨c, rest ++ chunk, rfl, consistent.plain c (by simp [kept])⟩
      | nil =>
        cases chunk with
        | nil => cases any
        | cons c rest => exact ⟨c, rest, rfl, (opens.resolve_left fun begun => begun kept).2 c rfl⟩
    have head := splitLines_head plain rest
    rw [← whole] at head
    simpa [write, saw, any] using head
  · simp [write, saw, any]

/-- How a writer ends its lines: one character that stands nowhere else, and what follows it. -/
structure Terminates (endings : Endings) (e : Char) (more : List Char) : Prop where
  ends : endings.ends e = true
  rest : ∀ c ∈ more, endings.ends c = true
  once : e ∉ more

theorem prefix_append {first second text : List Char} (initial : text <+: first ++ second) :
    text <+: first ∨ ∃ rest, text = first ++ rest ∧ rest <+: second := by
  rcases List.prefix_or_prefix_of_prefix initial (List.prefix_append first second) with short | ⟨rest, rfl⟩
  · exact Or.inl short
  · exact Or.inr ⟨rest, rfl, (List.prefix_append_right_inj first).mp initial⟩

theorem absorb_endings {text : List Char} (all : ∀ c ∈ text, endings.ends c = true) (done : List (List Char)) :
    text.foldl (absorb endings) (done, []) = (done, []) := by
  induction text with
  | nil => rfl
  | cons c rest ih =>
    simp only [List.forall_mem_cons] at all
    rw [List.foldl_cons, absorb, if_pos all.1]
    simpa using ih all.2

/-- Of lines that are written one after the other, those have been read of which the
terminator has arrived. -/
theorem absorb_arrived {e : Char} {more : List Char} (terminates : Terminates endings e more)
    (lines : List (List Char)) (solid : ∀ line ∈ lines, line ≠ [] ∧ ∀ c ∈ line, endings.ends c = false)
    {arrived : List Char} (initial : arrived <+: lines.flatMap fun line => line ++ e :: more)
    (done : List (List Char)) :
    (arrived.foldl (absorb endings) (done, [])).1 = done ++ lines.take (arrived.count e) := by
  induction lines generalizing arrived done with
  | nil =>
    rw [List.prefix_nil.mp initial]
    simp
  | cons line lines ih =>
    rw [List.forall_mem_cons] at solid
    obtain ⟨⟨some_, plain⟩, solid⟩ := solid
    have absent : e ∉ line := fun member => by
      have open_ := plain e member
      rw [terminates.ends] at open_
      cases open_
    rw [List.flatMap_cons, List.append_assoc] at initial
    rcases prefix_append initial with short | ⟨rest, rfl, later⟩
    · have none_ : e ∉ arrived := fun member => absent (short.subset member)
      rw [absorb_open fun c member => plain c (short.subset member), List.count_eq_zero.mpr none_]
      simp
    · rw [List.foldl_append, absorb_open plain, List.nil_append, List.count_append, List.count_eq_zero.mpr absent,
        Nat.zero_add]
      cases rest with
      | nil => simp
      | cons c rest =>
        rw [List.cons_append, List.cons_prefix_cons] at later
        obtain ⟨rfl, later⟩ := later
        have full : nonblank [line] = [line] := by simp [nonblank, some_]
        rw [List.foldl_cons, absorb, if_pos terminates.ends, full, List.count_cons_self, List.take_succ_cons]
        rcases prefix_append later with short | ⟨rest, rfl, last⟩
        · have none_ : c ∉ rest := fun member => terminates.once (short.subset member)
          rw [absorb_endings fun d member => terminates.rest d (short.subset member), List.count_eq_zero.mpr none_]
          simp
        · rw [List.foldl_append, absorb_endings terminates.rest, ih solid last, List.count_append,
            List.count_eq_zero.mpr terminates.once, Nat.zero_add, List.append_assoc, List.singleton_append]

/-- What follows the last ending is the beginning of a line. -/
theorem absorb_unterminated (text : List Char) (done : List (List Char)) :
    (text.foldl (absorb endings) (done, [])).2 = text.rtakeWhile fun c => !endings.ends c := by
  induction text using List.reverseRecOn with
  | nil => rfl
  | append_singleton text c ih =>
    rw [List.foldl_append, List.rtakeWhile_concat, ← ih]
    by_cases ending : endings.ends c = true
    · simp [absorb, ending]
    · simp [absorb, ending]

/-- Of such lines, it is the beginning of the next one. -/
theorem unterminated_of_lines {e : Char} {more : List Char} (terminates : Terminates endings e more)
    (lines : List (List Char)) (solid : ∀ line ∈ lines, line ≠ [] ∧ ∀ c ∈ line, endings.ends c = false)
    {arrived : List Char} (initial : arrived <+: lines.flatMap fun line => line ++ e :: more)
    (begun : (arrived.rtakeWhile fun c => !endings.ends c) ≠ []) :
    ∃ line, lines[arrived.count e]? = some line ∧ (arrived.rtakeWhile fun c => !endings.ends c) <+: line := by
  induction lines generalizing arrived with
  | nil =>
    rw [List.prefix_nil.mp initial] at begun
    exact absurd rfl begun
  | cons line lines ih =>
    rw [List.forall_mem_cons] at solid
    obtain ⟨⟨_, plain⟩, solid⟩ := solid
    have absent : e ∉ line := fun member => by
      have open_ := plain e member
      rw [terminates.ends] at open_
      cases open_
    rw [List.flatMap_cons, List.append_assoc] at initial
    rcases prefix_append initial with short | ⟨rest, rfl, later⟩
    · have none_ : e ∉ arrived := fun member => absent (short.subset member)
      have whole : (arrived.rtakeWhile fun c => !endings.ends c) = arrived :=
        List.rtakeWhile_eq_self_iff.mpr fun c member => by simp [plain c (short.subset member)]
      exact ⟨line, by rw [List.count_eq_zero.mpr none_]; rfl, whole.symm ▸ short⟩
    · rw [List.count_append, List.count_eq_zero.mpr absent, Nat.zero_add]
      cases rest with
      | nil =>
        have whole : ((line ++ []).rtakeWhile fun c => !endings.ends c) = line := by
          rw [List.append_nil]
          exact List.rtakeWhile_eq_self_iff.mpr fun c member => by simp [plain c member]
        exact ⟨line, rfl, by rw [whole]⟩
      | cons c rest =>
        rw [List.cons_append, List.cons_prefix_cons] at later
        obtain ⟨rfl, later⟩ := later
        rw [← absorb_unterminated _ [], List.foldl_append, absorb_open plain, List.nil_append, List.foldl_cons, absorb,
          if_pos terminates.ends] at begun ⊢
        rw [List.count_cons_self]
        rcases prefix_append later with short | ⟨rest, rfl, last⟩
        · rw [absorb_endings fun d member => terminates.rest d (short.subset member)] at begun
          exact absurd rfl begun
        · rw [List.foldl_append, absorb_endings terminates.rest, absorb_unterminated] at begun ⊢
          rw [List.count_append, List.count_eq_zero.mpr terminates.once, Nat.zero_add]
          exact ih solid last begun

/-- What the reader of such lines keeps after a text. -/
structure Reads (endings : Endings) (e : Char) (lines : List (List Char)) (r : LineReader) (past : List Char) :
    Prop where
  consistent : r.Consistent endings past
  seen : past.foldl (absorb endings) ([], []) = (lines.take (past.count e), r.buffer)

theorem Reads.unterminated {e : Char} {lines : List (List Char)} (reads : r.Reads endings e lines past) :
    r.buffer = past.rtakeWhile fun c => !endings.ends c :=
  (congrArg Prod.snd reads.seen).symm.trans (absorb_unterminated past [])

theorem reads_start (e : Char) (lines : List (List Char)) : start.Reads endings e lines [] where
  consistent := consistent_start
  seen := by simp [start]

/-- Before the first terminator there is only the first line. -/
theorem plain_of_absent {e : Char} {more : List Char} {lines : List (List Char)}
    (solid : ∀ line ∈ lines, line ≠ [] ∧ ∀ c ∈ line, endings.ends c = false) {arrived : List Char}
    (initial : arrived <+: lines.flatMap fun line => line ++ e :: more) (absent : e ∉ arrived) :
    ∀ c ∈ arrived, endings.ends c = false := by
  cases lines with
  | nil =>
    rw [List.prefix_nil.mp initial]
    simp
  | cons line lines =>
    have plain := (solid line List.mem_cons_self).2
    rw [List.flatMap_cons, List.append_assoc] at initial
    rcases prefix_append initial with short | ⟨rest, rfl, later⟩
    · exact fun c member => plain c (short.subset member)
    · cases rest with
      | nil => simpa using plain
      | cons d rest =>
        rw [List.cons_append, List.cons_prefix_cons] at later
        exact absurd (List.mem_append_right line (by rw [later.1]; exact List.mem_cons_self)) absent

theorem head_plain {e : Char} {more : List Char} {lines : List (List Char)}
    (solid : ∀ line ∈ lines, line ≠ [] ∧ ∀ c ∈ line, endings.ends c = false)
    (initial : chunk <+: lines.flatMap fun line => line ++ e :: more) :
    ∀ c ∈ chunk.head?, endings.ends c = false := by
  intro c head
  cases lines with
  | nil =>
    rw [List.prefix_nil.mp initial] at head
    cases head
  | cons line lines =>
    rw [List.forall_mem_cons] at solid
    obtain ⟨d, rest, rfl⟩ := List.exists_cons_of_ne_nil solid.1.1
    cases chunk with
    | nil => cases head
    | cons first chunk =>
      cases head
      rw [List.flatMap_cons, List.cons_append, List.cons_append, List.cons_prefix_cons] at initial
      rw [initial.1]
      exact solid.1.2 d List.mem_cons_self

/-- However the text of the lines is cut into chunks, and however promptly they come: a
chunk completes the lines whose terminators begin in it, and no blank line comes before
the first of them. -/
theorem write_lines (prompt : Bool) {e : Char} {more : List Char} (terminates : Terminates endings e more)
    {lines : List (List Char)} (solid : ∀ line ∈ lines, line ≠ [] ∧ ∀ c ∈ line, endings.ends c = false)
    (paired : Paired (lines.flatMap fun line => line ++ e :: more)) (reads : r.Reads endings e lines past)
    (initial : past ++ chunk <+: lines.flatMap fun line => line ++ e :: more) :
    nonblank (r.write endings prompt chunk).1 = (lines.drop (past.count e)).take (chunk.count e) ∧
      (r.write endings prompt chunk).2.Reads endings e lines (past ++ chunk) ∧
      (past.count e = 0 → (r.write endings prompt chunk).1.head? ≠ some []) := by
  obtain ⟨rest, whole⟩ := initial
  have initial : past ++ chunk <+: lines.flatMap fun line => line ++ e :: more := ⟨rest, whole⟩
  rw [← whole] at paired
  obtain ⟨written, consistent⟩ := write_absorb prompt reads.consistent paired.left_of_append
  have seen : (past ++ chunk).foldl (absorb endings) ([], []) =
      (lines.take (past.count e) ++ nonblank (r.write endings prompt chunk).1, (r.write endings prompt chunk).2.buffer) := by
    rw [List.foldl_append, reads.seen, written]
  have taken : lines.take ((past ++ chunk).count e) =
      lines.take (past.count e) ++ nonblank (r.write endings prompt chunk).1 := by
    have arrived := absorb_arrived terminates lines solid initial []
    rw [seen, List.nil_append] at arrived
    exact arrived.symm
  refine ⟨?_, ⟨consistent, by rw [taken, seen]⟩, fun none_ => write_head reads.consistent ?_⟩
  · rw [List.count_append, List.take_add] at taken
    exact (List.append_cancel_left taken).symm
  · by_cases begun : r.buffer = []
    · have plain := plain_of_absent solid ((List.prefix_append _ _).trans initial) (List.count_eq_zero.mp none_)
      have empty : past = [] := by
        have seen := reads.seen
        rw [absorb_open plain, List.nil_append] at seen
        exact (congrArg Prod.snd seen).trans begun
      subst empty
      refine Or.inr ⟨Bool.eq_false_iff.mpr fun returned => ?_, head_plain solid initial⟩
      cases (reads.consistent.returned returned).2
    · exact Or.inl begun

/-- Who takes no notice of blank lines has the lines that are not blank. -/
theorem foldl_nonblank {σ : Type*} {handle : σ → List Char → σ} {ready : σ → Prop}
    (blank : ∀ s, ready s → handle s [] = s) (keeps : ∀ s line, ready s → ready (handle s line))
    (lines : List (List Char)) {s : σ} (base : ready s) : lines.foldl handle s = (nonblank lines).foldl handle s := by
  induction lines generalizing s with
  | nil => rfl
  | cons line lines ih =>
    by_cases empty : line = []
    · subst empty
      rw [List.foldl_cons, blank s base, nonblank_blank]
      exact ih base
    · have full : nonblank [line] = [line] := by simp [nonblank, empty]
      rw [nonblank_cons, full, List.foldl_cons, List.singleton_append, List.foldl_cons]
      exact ih (keeps s line base)

end LineReader
