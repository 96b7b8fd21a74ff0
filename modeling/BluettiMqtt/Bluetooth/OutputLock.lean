import BluettiMqtt.Bluetooth.AnswerLines
import BluettiMqtt.Library.LockedWriter

namespace BluettiMqtt
open Transition

namespace Native

/-- The messages that `RunAsync` writes. Notifications come from the callbacks of Windows. -/
def Message.fromLoop : Message → Bool
  | .notification _ => false
  | _ => true

def Message.isAnswer : Message → Bool
  | .response _ _ => true
  | .error _ _ _ => true
  | _ => false

/-- The side of the helper that writes. `started` says that the ready event is written,
`answering` that `RunAsync` awaits a write, and `answers` (oldest first) is what it has
written or wants to. -/
structure OutputLoop where
  writer : LockedWriter Message Char
  started : Bool
  answering : Bool
  running : Bool
  answers : List Message

/-- A handler answers, a characteristic changes, `_writeLock` passes to a writer, some of
a line is written or all of it; the wait for the lock is cancelled, or the write before it
begins, or the write fails. -/
inductive OutputEvent
  | answer (message : Message)
  | notify (event : HelperNotification)
  | acquire (place : Nat)
  | put (size : Nat)
  | release
  | cancel (place : Nat)
  | cancelWrite
  | fail

namespace OutputLoop

/-- `RunAsync` with its first message. -/
def create : OutputLoop where
  writer := LockedWriter.free.call .ready
  started := false
  answering := true
  running := true
  answers := [.ready]

/-- `RunAsync` is at its end. What it would tell of a failed write is not written either. -/
def ended (l : OutputLoop) : OutputLoop :=
  { l with
    answering := false
    running := false }

/-- One step; `none` when the event is not enabled. Only what `RunAsync` writes can be
cancelled, and not once the write has begun, since the console writes synchronously. A
write that fails has lost the pipe for good. -/
def step (l : OutputLoop) : OutputEvent → Option OutputLoop
  | .answer message =>
    if l.running && l.started && !l.answering && message.isAnswer then
      some { l with
        writer := l.writer.call message
        answering := true
        answers := l.answers ++ [message] }
    else none
  | .notify event => if l.started then some { l with writer := l.writer.call (.notification event) } else none
  | .acquire place => (l.writer.acquire Message.written place).map fun writer => { l with writer := writer }
  | .put size => (l.writer.put size).map fun writer => { l with writer := writer }
  | .release =>
    match l.writer.holder, l.writer.release with
    | some (message, _), some writer =>
      if message.fromLoop then
        some { l with
          writer := writer
          started := true
          answering := false }
      else some { l with writer := writer }
    | _, _ => none
  | .cancel place =>
    match l.writer.waiting[place]? with
    | some message => if message.fromLoop then some { l.ended with writer := l.writer.withdraw place } else none
    | none => none
  | .cancelWrite =>
    match l.writer.holder, l.writer.giveBack Message.written with
    | some (message, _), some writer => if message.fromLoop then some { l.ended with writer := writer } else none
    | _, _ => none
  | .fail =>
    match l.writer.holder, l.writer.fail Message.written with
    | some (message, _), some writer =>
      if message.fromLoop then some { l.ended with writer := writer } else some { l with writer := writer }
    | _, _ => none

/-- The messages of `RunAsync` that wait or are being written. -/
def outstanding (l : OutputLoop) : List Message :=
  (l.writer.holder.toList.map Prod.fst ++ l.writer.waiting).filter Message.fromLoop

/-- What is true of the output at any moment. -/
structure Ordered (l : OutputLoop) : Prop where
  intact : l.writer.Intact Message.written
  alone : l.outstanding.length ≤ if l.answering then 1 else 0
  called : (l.writer.granted ++ l.writer.waiting).filter Message.fromLoop <+: l.answers
  all : l.running = true → (l.writer.granted ++ l.writer.waiting).filter Message.fromLoop = l.answers
  begins : l.started = true → l.writer.passed.head? = some .ready
  unstarted : l.started = false → ∀ message ∈ l.writer.granted ++ l.writer.waiting, message = .ready

theorem ordered_create : create.Ordered where
  intact := ⟨fun _ => rfl, nofun⟩
  alone := by decide
  called := List.prefix_refl _
  all := fun _ => rfl
  begins := nofun
  unstarted := fun _ => by simp [create, LockedWriter.call, LockedWriter.free, LockedWriter.granted]

variable {l m : OutputLoop}

theorem Ordered.answer (ordered : l.Ordered) {message : Message} (run : l.step (.answer message) = some m) :
    m.Ordered := by
  obtain ⟨guard, made⟩ := Option.ite_none_right_eq_some.mp run
  cases made
  simp only [Bool.and_eq_true, Bool.not_eq_true'] at guard
  obtain ⟨⟨⟨running, started⟩, answering⟩, answer⟩ := guard
  have loop : message.fromLoop = true := by cases message <;> first | rfl | cases answer
  have none_ : l.outstanding = [] := by
    have alone := ordered.alone
    rw [answering] at alone
    exact List.eq_nil_of_length_eq_zero (Nat.le_zero.mp alone)
  have all := ordered.all running
  have added : (l.writer.granted ++ (l.writer.waiting ++ [message])).filter Message.fromLoop = l.answers ++ [message] := by
    rw [← List.append_assoc, List.filter_append, all, List.filter_singleton, loop]
    rfl
  refine ⟨ordered.intact.call message, ?_, ?_, fun _ => added, ordered.begins, fun unstarted => ?_⟩
  · have outstanding : (l.writer.holder.toList.map Prod.fst ++ (l.writer.waiting ++ [message])).filter Message.fromLoop =
        [message] := by
      rw [← List.append_assoc, List.filter_append]
      rw [OutputLoop.outstanding] at none_
      rw [none_, List.filter_singleton, loop]
      rfl
    exact Nat.le_of_eq (congrArg List.length outstanding)
  · exact added ▸ List.prefix_refl _
  · cases started.symm.trans unstarted

theorem Ordered.notify (ordered : l.Ordered) {event : HelperNotification} (run : l.step (.notify event) = some m) :
    m.Ordered := by
  obtain ⟨started, made⟩ := Option.ite_none_right_eq_some.mp run
  cases made
  have same (messages : List Message) :
      (messages ++ [Message.notification event]).filter Message.fromLoop = messages.filter Message.fromLoop := by
    rw [List.filter_append, List.filter_singleton]
    exact List.append_nil _
  have waiting (messages : List Message) :
      (messages ++ (l.writer.call (.notification event)).waiting).filter Message.fromLoop =
        (messages ++ l.writer.waiting).filter Message.fromLoop := by
    rw [LockedWriter.call, ← List.append_assoc, same]
  refine ⟨ordered.intact.call _, ?_, ?_, fun running => ?_, ordered.begins, fun unstarted => ?_⟩
  · rw [OutputLoop.outstanding]
    exact (waiting _).symm ▸ ordered.alone
  · exact (waiting _).symm ▸ ordered.called
  · exact (waiting _).trans (ordered.all running)
  · cases started.symm.trans unstarted

/-- Where at most one counts, it may as well come first. -/
theorem filter_to_front {message : Message} {before after : List Message}
    (alone : ((before ++ message :: after).filter Message.fromLoop).length ≤ 1) :
    (message :: (before ++ after)).filter Message.fromLoop = (before ++ message :: after).filter Message.fromLoop := by
  rw [List.filter_cons, List.filter_append, List.filter_append, List.filter_cons]
  by_cases loop : message.fromLoop = true
  · have none_ : before.filter Message.fromLoop = [] := by
      apply List.eq_nil_of_length_eq_zero
      rw [List.filter_append, List.filter_cons, if_pos loop, List.length_append, List.length_cons] at alone
      omega
    simp [loop, none_]
  · simp [loop]

theorem Ordered.acquire (ordered : l.Ordered) {place : Nat} (run : l.step (.acquire place) = some m) : m.Ordered := by
  obtain ⟨writer, acquired, rfl⟩ := Option.map_eq_some_iff.mp run
  have intact := ordered.intact.acquire acquired
  obtain ⟨message, free, found, rfl⟩ := LockedWriter.acquire_eq_some.mp acquired
  obtain ⟨before, after, waiting, left⟩ := LockedWriter.split_waiting found
  have alone : ((before ++ message :: after).filter Message.fromLoop).length ≤ if l.answering then 1 else 0 := by
    have alone := ordered.alone
    rwa [OutputLoop.outstanding, free, waiting] at alone
  have moved := filter_to_front (alone.trans (by split <;> decide))
  have same : (l.writer.passed ++ [message] ++ (l.writer.withdraw place).waiting).filter Message.fromLoop =
      (l.writer.granted ++ l.writer.waiting).filter Message.fromLoop := by
    rw [LockedWriter.granted_free free, left, waiting, List.append_assoc, List.singleton_append, List.filter_append, moved,
      ← List.filter_append]
  refine ⟨intact, ?_, same.symm ▸ ordered.called, fun running => same.trans (ordered.all running), ordered.begins,
    fun unstarted other member => ordered.unstarted unstarted other ?_⟩
  · change ((message :: (l.writer.withdraw place).waiting).filter Message.fromLoop).length ≤ _
    rw [left, moved]
    exact alone
  · change other ∈ l.writer.passed ++ [message] ++ (l.writer.withdraw place).waiting at member
    rw [LockedWriter.granted_free free, waiting]
    rw [left] at member
    simp only [List.mem_append, List.mem_cons, List.not_mem_nil, or_false] at member ⊢
    tauto

theorem Ordered.put (ordered : l.Ordered) {size : Nat} (run : l.step (.put size) = some m) : m.Ordered := by
  obtain ⟨writer, wrote, rfl⟩ := Option.map_eq_some_iff.mp run
  have intact := ordered.intact.put wrote
  obtain ⟨message, rest, _, held, rfl⟩ := LockedWriter.put_eq_some.mp wrote
  obtain ⟨_, alone, called, all, begins, unstarted⟩ := ordered
  rw [OutputLoop.outstanding, held] at alone
  rw [LockedWriter.granted_held held] at called all unstarted
  exact ⟨intact, alone, called, all, begins, unstarted⟩

/-- The one that has the lock is the only one of `RunAsync`, if it is one. -/
theorem Ordered.waiting_none (ordered : l.Ordered) {message : Message} {rest : List Char}
    (held : l.writer.holder = some (message, rest)) (loop : message.fromLoop = true) :
    l.writer.waiting.filter Message.fromLoop = [] := by
  have alone := ordered.alone
  rw [OutputLoop.outstanding, held] at alone
  change ((message :: l.writer.waiting).filter Message.fromLoop).length ≤ _ at alone
  rw [List.filter_cons, if_pos loop, List.length_cons] at alone
  have one : (if l.answering then 1 else 0) ≤ 1 := by split <;> decide
  exact List.eq_nil_of_length_eq_zero (by omega)

/-- A notification that has the lock does not count. -/
theorem Ordered.waiting_alone (ordered : l.Ordered) {message : Message} {rest : List Char}
    (held : l.writer.holder = some (message, rest)) (loop : message.fromLoop = false) :
    (l.writer.waiting.filter Message.fromLoop).length ≤ if l.answering then 1 else 0 := by
  have alone := ordered.alone
  rw [OutputLoop.outstanding, held] at alone
  change ((message :: l.writer.waiting).filter Message.fromLoop).length ≤ _ at alone
  rwa [List.filter_cons, if_neg (by simp [loop])] at alone

/-- The first that has passed is the ready event. -/
theorem Ordered.passed_head (ordered : l.Ordered) {message : Message} {rest : List Char}
    (held : l.writer.holder = some (message, rest)) : (l.writer.passed ++ [message]).head? = some .ready := by
  cases started : l.started with
  | true =>
    rw [List.head?_append, ordered.begins started]
    rfl
  | false =>
    have all := ordered.unstarted started
    rw [LockedWriter.granted_held held] at all
    cases first : l.writer.passed ++ [message] with
    | nil => simp at first
    | cons head tail =>
      rw [all head (List.mem_append_left _ (by rw [first]; exact List.mem_cons_self))]
      rfl

theorem Ordered.release (ordered : l.Ordered) (run : l.step .release = some m) : m.Ordered := by
  simp only [step] at run
  split at run
  · next message rest writer held released =>
    have intact := ordered.intact.release released
    have head := ordered.passed_head held
    have granted := LockedWriter.granted_release released
    have none_ := ordered.waiting_none held
    have alone := ordered.waiting_alone held
    obtain ⟨_, _, called, all, _, unstarted⟩ := ordered
    rw [← granted] at called all unstarted
    obtain ⟨_, whole, rfl⟩ := LockedWriter.release_eq_some.mp released
    cases held.symm.trans whole
    by_cases loop : message.fromLoop = true
    · rw [if_pos loop] at run
      cases run
      exact ⟨intact, Nat.le_of_eq (congrArg List.length (none_ loop)), called, all, fun _ => head, nofun⟩
    · rw [if_neg loop] at run
      cases run
      exact ⟨intact, alone (by simpa using loop), called, all, fun _ => head, unstarted⟩
  · cases run

theorem Ordered.cancel (ordered : l.Ordered) {place : Nat} (run : l.step (.cancel place) = some m) : m.Ordered := by
  simp only [step] at run
  split at run
  · next message found =>
    obtain ⟨loop, made⟩ := Option.ite_none_right_eq_some.mp run
    cases made
    obtain ⟨before, after, waiting, left⟩ := LockedWriter.split_waiting found
    have alone : ((l.writer.holder.toList.map Prod.fst ++ (before ++ message :: after)).filter Message.fromLoop).length ≤ 1 := by
      have alone := ordered.alone
      rw [OutputLoop.outstanding, waiting] at alone
      exact alone.trans (by split <;> decide)
    rw [List.filter_append, List.filter_append, List.filter_cons, if_pos loop, List.length_append, List.length_append,
      List.length_cons] at alone
    have none_ : (l.writer.holder.toList.map Prod.fst).filter Message.fromLoop = [] ∧
        before.filter Message.fromLoop = [] ∧ after.filter Message.fromLoop = [] :=
      ⟨List.eq_nil_of_length_eq_zero (by omega), List.eq_nil_of_length_eq_zero (by omega),
        List.eq_nil_of_length_eq_zero (by omega)⟩
    refine ⟨ordered.intact.withdraw place, ?_, ?_, nofun, ordered.begins, fun unstarted other member => ?_⟩
    · change ((l.writer.holder.toList.map Prod.fst ++ (l.writer.withdraw place).waiting).filter Message.fromLoop).length ≤ 0
      rw [left, List.filter_append, List.filter_append, none_.1, none_.2.1, none_.2.2]
      exact Nat.le_refl 0
    · have called := ordered.called
      change (l.writer.granted ++ (l.writer.withdraw place).waiting).filter Message.fromLoop <+: l.answers
      rw [left, List.filter_append, List.filter_append, none_.2.1, none_.2.2]
      rw [waiting, List.filter_append] at called
      exact (List.prefix_append _ _).trans (by simpa using called)
    · refine ordered.unstarted unstarted other ?_
      rcases List.mem_append.mp member with granted | waits
      · exact List.mem_append_left _ granted
      · exact List.mem_append_right _ (List.mem_of_mem_eraseIdx waits)
  · cases run

/-- The lock comes back before the whole line is written. -/
theorem Ordered.lost (ordered : l.Ordered) {message : Message} {rest : List Char} {writer : LockedWriter Message Char}
    (held : l.writer.holder = some (message, rest)) (intact : writer.Intact Message.written) (free : writer.holder = none)
    (waiting : writer.waiting = l.writer.waiting)
    (passed : writer.passed = l.writer.passed ∨ writer.passed = l.writer.passed ++ [message]) :
    (message.fromLoop = true → ({ l.ended with writer := writer } : OutputLoop).Ordered) ∧
      (message.fromLoop = false → ({ l with writer := writer } : OutputLoop).Ordered) := by
  have none_ := ordered.waiting_none held
  have alone := ordered.waiting_alone held
  obtain ⟨_, _, called, all, begins, unstarted⟩ := ordered
  rw [LockedWriter.granted_held held] at called all unstarted
  have granted : writer.granted = writer.passed := LockedWriter.granted_free free
  have outstanding : (writer.holder.toList.map Prod.fst ++ writer.waiting).filter Message.fromLoop =
      l.writer.waiting.filter Message.fromLoop := by
    rw [free, waiting]
    rfl
  have begins' (started : l.started = true) : writer.passed.head? = some .ready := by
    rcases passed with same | more
    · rw [same, begins started]
    · rw [more, List.head?_append, begins started]
      rfl
  have unstarted' (fresh : l.started = false) : ∀ other ∈ writer.granted ++ writer.waiting, other = .ready := by
    intro other member
    refine unstarted fresh other ?_
    rw [granted, waiting] at member
    rcases passed with same | more
    · rw [same] at member
      simp only [List.mem_append] at member ⊢
      tauto
    · rwa [more] at member
  constructor
  · intro loop
    refine ⟨intact, ?_, ?_, nofun, begins', unstarted'⟩
    · exact Nat.le_of_eq (congrArg List.length (outstanding.trans (none_ loop)))
    · refine List.IsPrefix.trans ?_ called
      change (writer.granted ++ writer.waiting).filter Message.fromLoop <+: _
      rw [granted, waiting, List.filter_append, List.filter_append, none_ loop, List.append_nil, List.append_nil]
      rcases passed with same | more
      · rw [same, List.filter_append]
        exact List.prefix_append _ _
      · rw [more]
  · intro loop
    have same : (writer.granted ++ writer.waiting).filter Message.fromLoop =
        (l.writer.passed ++ [message] ++ l.writer.waiting).filter Message.fromLoop := by
      rw [granted, waiting]
      rcases passed with same | more
      · simp [same, loop]
      · rw [more]
    exact ⟨intact, (congrArg List.length outstanding).trans_le (alone loop), same ▸ called,
      fun running => same.trans (all running), begins', unstarted'⟩

theorem Ordered.cancelWrite (ordered : l.Ordered) (run : l.step .cancelWrite = some m) : m.Ordered := by
  simp only [step] at run
  split at run
  · next message rest writer held returned =>
    obtain ⟨loop, made⟩ := Option.ite_none_right_eq_some.mp run
    cases made
    have intact := ordered.intact.giveBack returned
    obtain ⟨_, _, _, _, rfl⟩ := LockedWriter.giveBack_eq_some.mp returned
    exact (ordered.lost held intact rfl rfl (Or.inl rfl)).1 loop
  · cases run

theorem Ordered.fail (ordered : l.Ordered) (run : l.step .fail = some m) : m.Ordered := by
  simp only [step] at run
  split at run
  · next message rest writer held failed =>
    have intact := ordered.intact.fail failed
    obtain ⟨same, rest', held', rfl⟩ := LockedWriter.fail_eq_some.mp failed
    cases held.symm.trans held'
    obtain ⟨ends, goes⟩ := ordered.lost held intact rfl rfl (by dsimp only; split <;> simp)
    split at run
    · next loop =>
      cases run
      exact ends loop
    · next loop =>
      cases run
      exact goes (by simpa using loop)
  · cases run

/-- The answers that have got the lock are the first ones. -/
theorem Ordered.granted_answers (ordered : l.Ordered) : l.writer.granted.filter Message.fromLoop <+: l.answers := by
  have called := ordered.called
  rw [List.filter_append] at called
  exact (List.prefix_append _ _).trans called

/-- Before the ready event no message has had the lock. -/
theorem Ordered.granted_head (ordered : l.Ordered) : l.writer.granted = [] ∨ l.writer.granted.head? = some .ready := by
  cases started : l.started with
  | true =>
    right
    rw [LockedWriter.granted, List.head?_append, ordered.begins started]
    rfl
  | false =>
    cases granted : l.writer.granted with
    | nil => exact Or.inl rfl
    | cons first others =>
      right
      rw [ordered.unstarted started first (by rw [granted]; exact List.mem_append_left _ List.mem_cons_self)]
      rfl

theorem ordered_of_reach {trace : List OutputEvent} (reach : Reach step (fun _ _ => True) create trace l) : l.Ordered := by
  refine reach.invariant ordered_create fun s e t ordered _ run => ?_
  cases e with
  | answer message => exact ordered.answer run
  | notify event => exact ordered.notify run
  | acquire place => exact ordered.acquire run
  | put size => exact ordered.put run
  | release => exact ordered.release run
  | cancel place => exact ordered.cancel run
  | cancelWrite => exact ordered.cancelWrite run
  | fail => exact ordered.fail run

end OutputLoop

end Native

namespace WiredClient

section Runs

variable {numberString : Number → String} {bufferFrom : Option Json → Except TypeError (List Byte)}
  {hears : Nat → Option Json → Option Json → List Byte → Except Failure Unit} {syntaxError : String → Failure}
  (decodes : ∀ text, bufferFrom (some (.string text)) = .ok (Base64.decodeLenient text.toList))
  (quiet : ∀ listener sessionId uuid data, hears listener sessionId uuid data = .ok ())

/-- Nothing is heard of before it has come in. -/
theorem heard_of_nothing {trace : List WireEvent} (nothing : received trace = []) (messages : List Native.Message) :
    heard syntaxError messages trace = heard syntaxError [] trace := by
  induction trace using List.reverseRecOn with
  | nil => rfl
  | append_singleton trace e ih =>
    rw [received_append] at nothing
    obtain ⟨before, last⟩ := List.append_eq_nil_iff.mp nothing
    rw [heard_append, heard_append, ih before, before]
    congr 1
    cases e with
    | chunk prompt text =>
      have empty : text = [] := by simpa [received] using last
      simp [hear, empty]
    | ended =>
      simp only [hear, heardCut, List.rtakeWhile_nil]
      cases messages[List.count '\r' []]? <;> rfl
    | other event => rfl

include decodes quiet in
/-- The client is where the messages that got the lock bring it, as far as they have come in. -/
theorem reach_of_ordered {l : Native.OutputLoop} (ordered : l.Ordered) {trace : List WireEvent} {w : WiredClient}
    (reach : Reach (step numberString bufferFrom hears syntaxError) (fun _ _ => True) create trace w)
    (arrived : received trace <+: l.writer.output) :
    Reach HelperClient.step (fun _ _ => True) HelperClient.create (heard syntaxError l.writer.granted trace) w.client := by
  have initial := arrived.trans ordered.intact.output_prefix
  rcases ordered.granted_head with none_ | first
  · have nothing : received trace = [] := by
      rw [none_] at initial
      exact List.prefix_nil.mp initial
    have empty : received trace <+: [Native.Message.ready].flatMap Native.Message.written := by
      rw [nothing]
      exact List.nil_prefix
    have run := (follows_of_reach decodes quiet rfl reach empty).run
    rw [heard_of_nothing nothing] at run
    rw [none_]
    exact run
  · exact (follows_of_reach decodes quiet first reach initial).run

include decodes quiet in
/-- However answers and notifications take turns in the helper, are cancelled or fail, and
in whatever pieces their lines come in, the client is where the messages bring it whose
lines have come in, in the order in which they were given the lock, and the answers among
them are in the order in which the loop has given them. -/
theorem client_follows_helper {events : List Native.OutputEvent} {l : Native.OutputLoop}
    (locked : Reach Native.OutputLoop.step (fun _ _ => True) Native.OutputLoop.create events l)
    {trace : List WireEvent} {w : WiredClient}
    (reach : Reach (step numberString bufferFrom hears syntaxError) (fun _ _ => True) create trace w)
    (arrived : received trace <+: l.writer.output) :
    Reach HelperClient.step (fun _ _ => True) HelperClient.create (heard syntaxError l.writer.granted trace) w.client ∧
      l.writer.granted.filter Native.Message.fromLoop <+: l.answers := by
  have ordered := Native.OutputLoop.ordered_of_reach locked
  exact ⟨reach_of_ordered decodes quiet ordered reach arrived, ordered.granted_answers⟩

end Runs

/-- A notification gets the lock before the answer that waits longer. Its write fails in
the middle of the line, with which the output ends, and the answer is cancelled. -/
theorem client_follows_helper_overtaken :
    let events := [Native.OutputEvent.acquire 0, .put 100, .release, .answer (.response (some "1") .ok),
      .notify ⟨"s", "ff01", [0x01#8]⟩, .acquire 1, .put 30, .fail, .acquire 0, .cancelWrite]
    ∃ l, Reach Native.OutputLoop.step (fun _ _ => True) Native.OutputLoop.create events l ∧
      let trace := [WireEvent.chunk true l.writer.output, .ended]
      ∃ w, Reach (step (fun _ => "") textBuffer (fun _ _ _ _ => .ok ()) .error) (fun _ _ => True) create trace w ∧
        Reach HelperClient.step (fun _ _ => True) HelperClient.create (heard .error l.writer.granted trace) w.client ∧
        l.writer.granted.filter Native.Message.fromLoop <+: l.answers := by
  intro events
  have run : (events.foldlM Native.OutputLoop.step Native.OutputLoop.create).any (fun _ => true) = true := by
    decide +kernel
  obtain ⟨l, locked, _⟩ : ∃ l, Reach Native.OutputLoop.step (fun _ _ => True) Native.OutputLoop.create events l ∧ _ :=
    Reach.of_foldlM (fun _ _ _ => trivial) run
  have reach : ∃ w, Reach (step (fun _ => "") textBuffer (fun _ _ _ _ => .ok ()) .error) (fun _ _ => True) create
      [.chunk true l.writer.output, .ended] w :=
    ⟨_, .cons trivial rfl (.cons trivial rfl .start)⟩
  obtain ⟨w, reach⟩ := reach
  have arrived : received [.chunk true l.writer.output, .ended] <+: l.writer.output := by simp [received]
  exact ⟨l, locked, w, reach, client_follows_helper (fun _ => rfl) (fun _ _ _ _ => rfl) locked reach arrived⟩

end WiredClient

end BluettiMqtt
