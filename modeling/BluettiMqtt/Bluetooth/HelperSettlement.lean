import BluettiMqtt.Bluetooth.HelperClient
import BluettiMqtt.Library.Transition

namespace BluettiMqtt
open Promise Transition

variable {π : Type*}

/-- A call whose request has been written under `id` and which waits for its
answer with its deadline armed. -/
structure HelperCall.Open (record : HelperCall π) (id : String) : Prop where
  id : record.id = some id
  phase : record.phase = .awaitingResponse
  unsettled : record.settlements = []
  armed : record.timerArmed = true

/-- What `rejectPendingRequests` does to a call that has an entry. -/
def HelperCall.rejectedBy (error : Failure) (record : HelperCall π) : HelperCall π :=
  { record with timerArmed := false, settlements := record.settlements ++ [.rejected error] }

namespace PendingRequests

/-- The map and the calls tell one story: every entry belongs to an open call
of that id, ids are never reused, and a deadline is armed only for a call that
has not been settled. -/
structure Consistent (p : PendingRequests π) : Prop where
  registered : ∀ id call, p.pending.lookup id = some call →
    ∃ record, p.calls call = some record ∧ record.Open id
  issued : ∀ call record id, p.calls call = some record → record.id = some id → id ∈ p.issued
  distinct : ∀ left right l r id, p.calls left = some l → p.calls right = some r →
    l.id = some id → r.id = some id → left = right
  once : ∀ call record, p.calls call = some record → record.settlements.length ≤ 1
  early : ∀ call record, p.calls call = some record → record.phase = .awaitingReady →
    record.id = none ∧ record.settlements = []
  armed : ∀ call record, p.calls call = some record → record.timerArmed = true →
    record.phase = .awaitingResponse ∧ record.settlements = [] ∧ ∃ id, record.id = some id

/-- Every written request that has not been settled has an entry. -/
def Entered (p : PendingRequests π) : Prop :=
  ∀ call record, p.calls call = some record → record.phase = .awaitingResponse →
    record.settlements = [] → ∃ id, p.pending.lookup id = some call

/-- Every written request that has not been settled has an entry with its
deadline armed. -/
def Accounted (p : PendingRequests π) : Prop :=
  ∀ call record, p.calls call = some record → record.phase = .awaitingResponse →
    record.settlements = [] → record.timerArmed = true ∧ ∃ id, p.pending.lookup id = some call

/-- Between `p` and `q` no entry is removed without settling its promise. -/
def Keeps (p q : PendingRequests π) : Prop :=
  ∀ id call, p.pending.lookup id = some call → q.pending.lookup id = some call ∨
    ∃ record, q.calls call = some record ∧ record.settlements ≠ []

theorem Consistent.accounted {p : PendingRequests π} (consistent : p.Consistent) (entered : p.Entered) :
    p.Accounted := by
  intro call record entry awaiting unsettled
  obtain ⟨id, held⟩ := entered call record entry awaiting unsettled
  obtain ⟨found, atFound, open_⟩ := consistent.registered id call held
  cases entry.symm.trans atFound
  exact ⟨open_.armed, id, held⟩

/-- What a step does that concerns the single call `call` and leaves it with
`record`. -/
structure Changes (p q : PendingRequests π) (call : Nat) (record : HelperCall π) : Prop where
  here : q.calls call = some record
  others : ∀ other, other ≠ call → q.calls other = p.calls other
  entries : ∀ id other, other ≠ call → (q.pending.lookup id = some other ↔ p.pending.lookup id = some other)
  own : ∀ id, q.pending.lookup id = some call → record.Open id
  named : ∀ id, record.id = some id → id ∈ q.issued ∧
    (id ∉ p.issued ∨ ∃ old, p.calls call = some old ∧ old.id = some id)
  issued : ∀ id, id ∈ p.issued → id ∈ q.issued
  once : record.settlements.length ≤ 1
  early : record.phase = .awaitingReady → record.id = none ∧ record.settlements = []
  armed : record.timerArmed = true →
    record.phase = .awaitingResponse ∧ record.settlements = [] ∧ ∃ id, record.id = some id
  entered : p.Entered → record.phase = .awaitingResponse → record.settlements = [] →
    ∃ id, q.pending.lookup id = some call
  settled : ∀ id, p.pending.lookup id = some call → record.settlements ≠ []

theorem Changes.consistent {p q : PendingRequests π} {call : Nat} {record : HelperCall π}
    (changes : p.Changes q call record) (consistent : p.Consistent) : q.Consistent := by
  have cases_ (other : Nat) (found : HelperCall π) (entry : q.calls other = some found) :
      other = call ∧ found = record ∨ other ≠ call ∧ p.calls other = some found := by
    by_cases same : other = call
    · rw [same, changes.here] at entry
      exact Or.inl ⟨same, (Option.some.inj entry).symm⟩
    · exact Or.inr ⟨same, (changes.others other same).symm.trans entry⟩
  have foreign (other : Nat) (found : HelperCall π) (id : String) (different : other ≠ call)
      (old : p.calls other = some found) (named : found.id = some id) : record.id ≠ some id := by
    intro taken
    rcases (changes.named id taken).2 with fresh | ⟨mine, atMine, named'⟩
    · exact fresh (consistent.issued other found id old named)
    · exact different (consistent.distinct _ _ _ _ id old atMine named named')
  refine ⟨?_, ?_, ?_, ?_, ?_, ?_⟩
  · intro id other held
    by_cases same : other = call
    · rw [same] at held ⊢
      exact ⟨record, changes.here, changes.own id held⟩
    · obtain ⟨found, entry, open_⟩ := consistent.registered id other ((changes.entries id other same).mp held)
      exact ⟨found, (changes.others other same).trans entry, open_⟩
  · intro other found id entry named
    rcases cases_ other found entry with ⟨_, rfl⟩ | ⟨_, old⟩
    · exact (changes.named id named).1
    · exact changes.issued id (consistent.issued other found id old named)
  · intro left right l r id atLeft atRight namedLeft namedRight
    rcases cases_ left l atLeft with ⟨rfl, rfl⟩ | ⟨apartLeft, oldLeft⟩
    · rcases cases_ right r atRight with ⟨rfl, _⟩ | ⟨apart, old⟩
      · rfl
      · exact absurd namedLeft (foreign right r id apart old namedRight)
    · rcases cases_ right r atRight with ⟨rfl, rfl⟩ | ⟨_, old⟩
      · exact absurd namedRight (foreign left l id apartLeft oldLeft namedLeft)
      · exact consistent.distinct _ _ _ _ id oldLeft old namedLeft namedRight
  · intro other found entry
    rcases cases_ other found entry with ⟨_, rfl⟩ | ⟨_, old⟩
    · exact changes.once
    · exact consistent.once other found old
  · intro other found entry
    rcases cases_ other found entry with ⟨_, rfl⟩ | ⟨_, old⟩
    · exact changes.early
    · exact consistent.early other found old
  · intro other found entry
    rcases cases_ other found entry with ⟨_, rfl⟩ | ⟨_, old⟩
    · exact changes.armed
    · exact consistent.armed other found old

theorem Changes.step_entered {p q : PendingRequests π} {call : Nat} {record : HelperCall π}
    (changes : p.Changes q call record) (entered : p.Entered) : q.Entered := by
  intro other found entry awaiting unsettled
  by_cases same : other = call
  · rw [same, changes.here] at entry
    cases entry
    rw [same]
    exact changes.entered entered awaiting unsettled
  · rw [changes.others other same] at entry
    obtain ⟨id, held⟩ := entered other found entry awaiting unsettled
    exact ⟨id, (changes.entries id other same).mpr held⟩

theorem Changes.keeps {p q : PendingRequests π} {call : Nat} {record : HelperCall π}
    (changes : p.Changes q call record) : p.Keeps q := by
  intro id other held
  by_cases same : other = call
  · rw [same] at held ⊢
    exact Or.inr ⟨record, changes.here, changes.settled id held⟩
  · exact Or.inl ((changes.entries id other same).mpr held)

/-- A call without an entry of its own. -/
theorem Consistent.unentered {p : PendingRequests π} (consistent : p.Consistent) (call : Nat)
    (closed : ∀ record, p.calls call = some record → record.phase ≠ .awaitingResponse) (id : String) :
    p.pending.lookup id ≠ some call := by
  intro held
  obtain ⟨record, entry, open_⟩ := consistent.registered id call held
  exact closed record entry open_.phase

theorem Consistent.fresh_unentered {p : PendingRequests π} (consistent : p.Consistent) {id : String}
    (fresh : id ∉ p.issued) (call : Nat) : p.pending.lookup id ≠ some call := by
  intro held
  obtain ⟨record, entry, open_⟩ := consistent.registered id call held
  exact fresh (consistent.issued call record id entry open_.id)

theorem Consistent.requested {p : PendingRequests π} (consistent : p.Consistent) {call : Nat}
    (fresh : p.calls call = none) (disposed : Bool) (command : String) (arguments : Option π) :
    ∃ record, p.Changes (p.sendHelperRequest disposed call command arguments) call record := by
  have unentered := consistent.unentered call fun record entry => by simp [fresh] at entry
  cases disposed with
  | true =>
    exact ⟨_,
      { here := Table.insert_self _ _ _
        others := fun other => Table.insert_of_ne _ _
        entries := fun _ _ _ => Iff.rfl
        own := fun id held => absurd held (unentered id)
        named := nofun
        issued := fun _ member => member
        once := le_rfl
        early := nofun
        armed := nofun
        entered := nofun
        settled := fun id held => absurd held (unentered id) }⟩
  | false =>
    exact ⟨_,
      { here := Table.insert_self _ _ _
        others := fun other => Table.insert_of_ne _ _
        entries := fun _ _ _ => Iff.rfl
        own := fun id held => absurd held (unentered id)
        named := nofun
        issued := fun _ member => member
        once := Nat.zero_le 1
        early := fun _ => ⟨rfl, rfl⟩
        armed := nofun
        entered := nofun
        settled := fun id held => absurd held (unentered id) }⟩

/-- A call that still waits for the helper has no entry, no id and no outcome. -/
theorem Consistent.thrown {p : PendingRequests π} (consistent : p.Consistent) {call : Nat}
    {record : HelperCall π} (entry : p.calls call = some record)
    (waiting : record.phase = .awaitingReady) (error : Failure) :
    ∃ record, p.Changes (p.throw call error) call record := by
  obtain ⟨unnamed, unsettled⟩ := consistent.early call record entry waiting
  have unentered := consistent.unentered call fun found atFound => by
    cases entry.symm.trans atFound
    simp [waiting]
  have unarmed : record.timerArmed = false := by
    by_contra armed
    obtain ⟨phase, _⟩ := consistent.armed call record entry (by simpa using armed)
    simp [waiting] at phase
  exact ⟨_,
    { here := Table.adjust_self _ entry
      others := fun other different => Table.adjust_of_ne _ _ (by simpa using different.symm)
      entries := fun _ _ _ => Iff.rfl
      own := fun id held => absurd held (unentered id)
      named := by simp [unnamed]
      issued := fun _ member => member
      once := by simp [unsettled]
      early := nofun
      armed := by simp [unarmed]
      entered := nofun
      settled := fun id held => absurd held (unentered id) }⟩

theorem Consistent.sent {p : PendingRequests π} (consistent : p.Consistent) {call : Nat}
    {record : HelperCall π} (entry : p.calls call = some record)
    (waiting : record.phase = .awaitingReady) {id : String} (fresh : id ∉ p.issued)
    (write : Settlement Failure Unit) :
    ∃ after, p.Changes (p.sendAfterReady call record id write) call after := by
  obtain ⟨_, unsettled⟩ := consistent.early call record entry waiting
  have unentered := consistent.unentered call fun found atFound => by
    cases entry.symm.trans atFound
    simp [waiting]
  have absent := consistent.fresh_unentered fresh
  have registered := Table.adjust_self (fun record : HelperCall π =>
    { record with phase := .awaitingResponse, id := some id, timerArmed := true }) entry
  cases write with
  | fulfilled =>
    refine ⟨_,
      { here := registered
        others := fun other different => Table.adjust_of_ne _ _ (by simpa using different.symm)
        entries := fun other holder different => ?_
        own := fun other held => ?_
        named := fun other named => ?_
        issued := fun _ => List.mem_cons_of_mem _
        once := by simp [unsettled]
        early := by rintro ⟨⟩
        armed := fun _ => ⟨rfl, unsettled, id, rfl⟩
        entered := fun _ _ _ => ⟨id, by simp [sendAfterReady, register]⟩
        settled := fun other held => absurd held (unentered other) }⟩
    · by_cases same : other = id
      · subst same
        simp [sendAfterReady, register, absent, different.symm]
      · simp [sendAfterReady, register, same]
    · by_cases same : other = id
      · subst same
        exact ⟨rfl, rfl, unsettled, rfl⟩
      · simp [sendAfterReady, register, same, unentered] at held
    · cases Option.some.inj named
      exact ⟨List.mem_cons_self .., Or.inl fresh⟩
  | rejected error =>
    have thrown : p.sendAfterReady call record id (.rejected error) =
        (((p.register call id).clearTimeout call).delete id).throw call error := by
      simp [sendAfterReady, register]
    have atCall := Table.adjust_self (fun record : HelperCall π =>
      { record with phase := .finished, settlements := record.settlements ++ [.rejected error] })
      (Table.adjust_self (fun record : HelperCall π => { record with timerArmed := false }) registered)
    rw [thrown]
    refine ⟨_,
      { here := atCall
        others := fun other different => ?_
        entries := fun other holder different => ?_
        own := fun other held => ?_
        named := fun other named => ?_
        issued := fun _ => List.mem_cons_of_mem _
        once := by simp [unsettled]
        early := by rintro ⟨⟩
        armed := by rintro ⟨⟩
        entered := by rintro _ ⟨⟩
        settled := fun other held => absurd held (unentered other) }⟩
    · simp [throw, delete, clearTimeout, register, Table.adjust, different.symm]
    · by_cases same : other = id
      · subst same
        simp [throw, delete, clearTimeout, register, absent]
      · simp [throw, delete, clearTimeout, register, same]
    · by_cases same : other = id
      · subst same
        simp [throw, delete, clearTimeout, register] at held
      · simp [throw, delete, clearTimeout, register, same, unentered] at held
    · cases Option.some.inj named
      exact ⟨List.mem_cons_self .., Or.inl fresh⟩

theorem answer_record {p : PendingRequests π} {call : Nat} {record : HelperCall π} (entry : p.calls call = some record)
    (id : String) (outcome : Settlement Failure (Option π)) : (p.answer id call outcome).calls call =
      some { record with timerArmed := false, settlements := record.settlements ++ [outcome] } :=
  Table.adjust_self _ (Table.adjust_self _ entry)

theorem Consistent.answered {p : PendingRequests π} (consistent : p.Consistent) {id : String} {call : Nat}
    (held : p.pending.lookup id = some call) (outcome : Settlement Failure (Option π)) :
    ∃ record, p.Changes (p.answer id call outcome) call record := by
  obtain ⟨record, entry, open_⟩ := consistent.registered id call held
  have only (other : String) (also : p.pending.lookup other = some call) : other = id := by
    obtain ⟨found, atFound, again⟩ := consistent.registered other call also
    cases entry.symm.trans atFound
    exact Option.some.inj (again.id.symm.trans open_.id)
  refine ⟨_,
    { here := answer_record entry id outcome
      others := fun other different => ?_
      entries := fun other holder different => ?_
      own := fun other again => ?_
      named := fun other named =>
        ⟨consistent.issued call record other entry named, Or.inr ⟨record, entry, named⟩⟩
      issued := fun _ member => member
      once := by simp [open_.unsettled]
      early := by simp [open_.phase]
      armed := nofun
      entered := by simp
      settled := by simp }⟩
  · simp [answer, settle, clearTimeout, delete, Table.adjust, different.symm]
  · by_cases same : other = id
    · subst same
      simp [answer, settle, clearTimeout, delete, held, different.symm]
    · simp [answer, settle, clearTimeout, delete, same]
  · by_cases same : other = id
    · subst same
      simp [answer, settle, clearTimeout, delete] at again
    · simp only [answer, settle, clearTimeout, delete, AList.lookup_erase_ne same] at again
      exact absurd (only other again) same

/-- The deadline of a call that has its entry. -/
theorem deadline_entered {p : PendingRequests π} {id : String} {call : Nat} {record : HelperCall π}
    (held : p.pending.lookup id = some call) (named : record.id = some id) :
    p.deadline call record = p.answer id call
      (.rejected (.badConnectionError s!"Windows BLE helper request timed out: {record.command}")) := by
  simp [deadline, named, clearTimeout, held, answer, delete]

/-- The deadline of a call rejects it, or finds its entry gone. -/
theorem Consistent.expired {p : PendingRequests π} (consistent : p.Consistent) {call : Nat}
    {record : HelperCall π} (entry : p.calls call = some record) (armed : record.timerArmed = true) :
    ∃ after, p.Changes (p.deadline call record) call after := by
  obtain ⟨awaiting, unsettled, id, named⟩ := consistent.armed call record entry armed
  have mine (other : String) (held : p.pending.lookup other = some call) : other = id := by
    obtain ⟨found, atFound, open_⟩ := consistent.registered other call held
    cases entry.symm.trans atFound
    exact Option.some.inj (open_.id.symm.trans named)
  cases held : p.pending.lookup id with
  | some holder =>
    obtain ⟨found, atFound, open_⟩ := consistent.registered id holder held
    cases consistent.distinct _ _ _ _ id atFound entry open_.id named
    rw [deadline_entered held named]
    exact consistent.answered held _
  | none =>
    have gone (other : String) : p.pending.lookup other ≠ some call := by
      intro again
      rw [mine other again, held] at again
      cases again
    have same : p.deadline call record = p.clearTimeout call := by
      simp [deadline, named, clearTimeout, held]
    rw [same]
    exact ⟨_,
      { here := Table.adjust_self _ entry
        others := fun other different => Table.adjust_of_ne _ _ (by simpa using different.symm)
        entries := fun _ _ _ => Iff.rfl
        own := fun other again => absurd again (gone other)
        named := fun other named' =>
          ⟨consistent.issued call record other entry named', Or.inr ⟨record, entry, named'⟩⟩
        issued := fun _ member => member
        once := by simp [unsettled]
        early := by simp [awaiting]
        armed := by rintro ⟨⟩
        entered := fun entered _ _ => entered call record entry awaiting unsettled
        settled := fun other again => absurd again (gone other) }⟩

theorem mem_entryCalls {p : PendingRequests π} {call : Nat} :
    call ∈ p.entryCalls ↔ ∃ id, p.pending.lookup id = some call := by
  simp only [entryCalls, List.mem_map, List.mem_reverse]
  constructor
  · rintro ⟨⟨id, holder⟩, member, rfl⟩
    exact ⟨id, AList.mem_lookup_iff.mpr member⟩
  · rintro ⟨id, held⟩
    exact ⟨⟨id, call⟩, AList.mem_lookup_iff.mp held, rfl⟩

theorem Consistent.entryCalls_nodup {p : PendingRequests π} (consistent : p.Consistent) :
    p.entryCalls.Nodup := by
  refine List.Nodup.map_on ?_ (List.nodup_reverse.mpr p.pending.nodupKeys.nodup)
  rintro ⟨left, call⟩ atLeft ⟨right, other⟩ atRight same
  have same : call = other := same
  subst same
  obtain ⟨l, entryLeft, openLeft⟩ :=
    consistent.registered left call (AList.mem_lookup_iff.mpr (List.mem_reverse.mp atLeft))
  obtain ⟨r, entryRight, openRight⟩ :=
    consistent.registered right call (AList.mem_lookup_iff.mpr (List.mem_reverse.mp atRight))
  cases entryLeft.symm.trans entryRight
  cases Option.some.inj (openLeft.id.symm.trans openRight.id)
  rfl

theorem rejectEntry_eq (error : Failure) (p : PendingRequests π) (call : Nat) :
    rejectEntry error p call = { p with calls := p.calls.adjust (some call) (HelperCall.rejectedBy error) } := by
  have calls : (rejectEntry error p call).calls = p.calls.adjust (some call) (HelperCall.rejectedBy error) := by
    funext other
    by_cases here : call = other
    · cases entry : p.calls other <;>
        simp [rejectEntry, settle, clearTimeout, Table.adjust, here, entry, HelperCall.rejectedBy]
    · simp [rejectEntry, settle, clearTimeout, Table.adjust, here]
  exact congrArg (fun table => { p with calls := table }) calls

theorem foldl_rejectEntry (error : Failure) (calls : List Nat) (p : PendingRequests π) :
    calls.foldl (rejectEntry error) p = { p with
      calls := calls.foldl (fun table call => table.adjust (some call) (HelperCall.rejectedBy error)) p.calls } := by
  induction calls generalizing p with
  | nil => rfl
  | cons first rest ih => rw [List.foldl_cons, ih, rejectEntry_eq, List.foldl_cons]

/-- `rejectPendingRequests` settles and disarms exactly the calls that have an
entry. -/
theorem Consistent.rejected_calls {p : PendingRequests π} (consistent : p.Consistent) (error : Failure)
    (call : Nat) : (p.rejectPendingRequests error).calls call =
      if call ∈ p.entryCalls then (p.calls call).map (HelperCall.rejectedBy error)
      else p.calls call := by
  rw [rejectPendingRequests, foldl_rejectEntry]
  exact Table.foldl_adjust _ consistent.entryCalls_nodup _ _

theorem Consistent.rejected_record {p : PendingRequests π} (consistent : p.Consistent) {error : Failure}
    {call : Nat} {record : HelperCall π} (entry : (p.rejectPendingRequests error).calls call = some record) :
    (∃ id, p.pending.lookup id = some call) ∧
        (∃ old, p.calls call = some old ∧ record = { old with
          timerArmed := false, settlements := [.rejected error] }) ∨
      (∀ id, p.pending.lookup id ≠ some call) ∧ p.calls call = some record := by
  rw [consistent.rejected_calls] at entry
  split at entry
  next member =>
    obtain ⟨id, held⟩ := mem_entryCalls.mp member
    obtain ⟨old, atOld, open_⟩ := consistent.registered id call held
    obtain ⟨found, atFound, rfl⟩ := Option.map_eq_some_iff.mp entry
    cases atOld.symm.trans atFound
    exact Or.inl ⟨⟨id, held⟩, old, atOld, by simp [HelperCall.rejectedBy, open_.unsettled]⟩
  next absent => exact Or.inr ⟨fun id held => absent (mem_entryCalls.mpr ⟨id, held⟩), entry⟩

theorem rejectPendingRequests_issued (p : PendingRequests π) (error : Failure) :
    (p.rejectPendingRequests error).issued = p.issued := by
  rw [rejectPendingRequests, foldl_rejectEntry]

theorem Consistent.rejected {p : PendingRequests π} (consistent : p.Consistent) (error : Failure) :
    (p.rejectPendingRequests error).Consistent := by
  have origin (call : Nat) (record : HelperCall π)
      (entry : (p.rejectPendingRequests error).calls call = some record) :
      ∃ old, p.calls call = some old ∧ record.id = old.id ∧ record.phase = old.phase := by
    rcases consistent.rejected_record entry with ⟨_, old, atOld, rfl⟩ | ⟨_, old⟩
    · exact ⟨old, atOld, rfl, rfl⟩
    · exact ⟨record, old, rfl, rfl⟩
  refine ⟨?_, ?_, ?_, ?_, ?_, ?_⟩
  · intro id call held
    cases held
  · intro call record id entry named
    obtain ⟨old, atOld, same, _⟩ := origin call record entry
    rw [rejectPendingRequests_issued]
    exact consistent.issued call old id atOld (same.symm.trans named)
  · intro left right l r id atLeft atRight namedLeft namedRight
    obtain ⟨_, oldLeft, sameLeft, _⟩ := origin left l atLeft
    obtain ⟨_, oldRight, sameRight, _⟩ := origin right r atRight
    exact consistent.distinct _ _ _ _ id oldLeft oldRight (sameLeft.symm.trans namedLeft)
      (sameRight.symm.trans namedRight)
  · intro call record entry
    rcases consistent.rejected_record entry with ⟨_, _, _, rfl⟩ | ⟨_, old⟩
    · exact le_rfl
    · exact consistent.once call record old
  · intro call record entry waiting
    rcases consistent.rejected_record entry with ⟨⟨id, held⟩, old, atOld, rfl⟩ | ⟨_, old⟩
    · obtain ⟨found, atFound, open_⟩ := consistent.registered id call held
      cases atOld.symm.trans atFound
      cases waiting.symm.trans open_.phase
    · exact consistent.early call record old waiting
  · intro call record entry armed
    rcases consistent.rejected_record entry with ⟨_, _, _, rfl⟩ | ⟨_, old⟩
    · cases armed
    · exact consistent.armed call record old armed

theorem Consistent.rejected_entered {p : PendingRequests π} (consistent : p.Consistent)
    (entered : p.Entered) (error : Failure) : (p.rejectPendingRequests error).Entered := by
  intro call record entry awaiting unsettled
  rcases consistent.rejected_record entry with ⟨_, _, _, rfl⟩ | ⟨absent, old⟩
  · cases unsettled
  · obtain ⟨id, held⟩ := entered call record old awaiting unsettled
    exact absurd held (absent id)

theorem Consistent.rejected_entry {p : PendingRequests π} (consistent : p.Consistent) (error : Failure) {id : String}
    {call : Nat} {record : HelperCall π} (held : p.pending.lookup id = some call) (entry : p.calls call = some record) :
    (p.rejectPendingRequests error).calls call = some (record.rejectedBy error) := by
  rw [consistent.rejected_calls, if_pos (mem_entryCalls.mpr ⟨id, held⟩), entry]
  rfl

theorem Consistent.rejected_keeps {p : PendingRequests π} (consistent : p.Consistent) (error : Failure) :
    p.Keeps (p.rejectPendingRequests error) := by
  intro id call held
  obtain ⟨record, entry, _⟩ := consistent.registered id call held
  exact Or.inr ⟨_, consistent.rejected_entry error held entry, by simp [HelperCall.rejectedBy]⟩

/-- `pending.clear()` by itself forgets the entries and touches no call. -/
theorem Consistent.cleared {p : PendingRequests π} (consistent : p.Consistent) :
    ({ p with pending := ∅ } : PendingRequests π).Consistent :=
  ⟨nofun, consistent.issued, consistent.distinct, consistent.once, consistent.early, consistent.armed⟩

theorem Consistent.cleared_keeps_iff {p : PendingRequests π} (consistent : p.Consistent) :
    p.Keeps { p with pending := ∅ } ↔ p.pending = ∅ := by
  constructor
  · intro keeps
    refine AList.ext (List.eq_nil_iff_forall_not_mem.mpr ?_)
    rintro ⟨id, call⟩ member
    have held : p.pending.lookup id = some call := AList.mem_lookup_iff.mpr member
    obtain ⟨record, entry, open_⟩ := consistent.registered id call held
    rcases keeps id call held with still | ⟨found, atFound, settled⟩
    · cases still
    · cases entry.symm.trans atFound
      exact settled open_.unsettled
  · intro empty id call held
    rw [empty] at held
    cases held

end PendingRequests

namespace HelperClient
open PendingRequests

/-- Everything a step can do to the pending requests. -/
inductive Effect (c : HelperClient π) : HelperEvent π → PendingRequests π → Prop
  | changed {e q call record} : (∀ code, e ≠ .exit code) → c.Changes q call record → Effect c e q
  | rejected {e error} : (∀ code, e = .exit code → c.disposeRequested = false) →
      Effect c e (c.toPendingRequests.rejectPendingRequests error)
  | cleared {code} : c.disposeRequested = true → Effect c (.exit code) { c.toPendingRequests with pending := ∅ }
  | untouched {e} : (∀ code, e ≠ .exit code) → Effect c e c.toPendingRequests

/-- An answer changes the call that it finds, if any. -/
theorem answered_effect {c : HelperClient π} (consistent : c.Consistent) (message : HelperMessage π) (id : String)
    (outcome : Settlement Failure (Option π)) :
    c.Effect (.line message) (match c.pending.lookup id with
      | some entry => { c with toPendingRequests := c.answer id entry outcome }
      | none => c : HelperClient π).toPendingRequests := by
  have line : ∀ code, HelperEvent.line message ≠ .exit code := by rintro _ ⟨⟩
  cases held : c.pending.lookup id with
  | some entry =>
    obtain ⟨record, changes⟩ := consistent.answered held outcome
    exact .changed line changes
  | none => exact .untouched line

theorem routeHelperLine_effect {c : HelperClient π} (consistent : c.Consistent) (message : HelperMessage π) :
    c.Effect (.line message) (c.routeHelperLine message).toPendingRequests := by
  have line : ∀ code, HelperEvent.line message ≠ .exit code := by rintro _ ⟨⟩
  cases message with
  | response id payload =>
    cases id with
    | some id => exact answered_effect consistent _ id (.fulfilled payload)
    | none => exact .untouched line
  | error id code text =>
    cases id with
    | some id => exact answered_effect consistent _ id (.rejected (createHelperError code text))
    | none => exact .untouched line
  | ready => exact .untouched line
  | notification payload => cases payload <;> exact .untouched line
  | otherEvent => exact .untouched line

theorem step_effect {c d : HelperClient π} {e : HelperEvent π} (consistent : c.Consistent)
    (run : c.step e = some d) : c.Effect e d.toPendingRequests := by
  cases e with
  | request call command arguments =>
    obtain ⟨fresh, same⟩ := Option.ite_none_right_eq_some.mp run
    cases Option.some.inj same
    obtain ⟨record, changes⟩ := consistent.requested (Option.isNone_iff_eq_none.mp fresh)
      c.disposeRequested command arguments
    exact .changed nofun changes
  | readySettled call id write =>
    simp only [step] at run
    split at run
    next record _ entry ready =>
      obtain ⟨⟨waiting, fresh⟩, same⟩ := Option.ite_none_right_eq_some.mp run
      cases Option.some.inj same
      obtain ⟨after, changes⟩ := consistent.sent entry waiting fresh write
      exact .changed nofun changes
    next record error entry ready =>
      obtain ⟨waiting, same⟩ := Option.ite_none_right_eq_some.mp run
      cases Option.some.inj same
      obtain ⟨after, changes⟩ := consistent.thrown entry waiting error
      exact .changed nofun changes
    next => cases run
  | line message =>
    cases Option.some.inj run
    exact routeHelperLine_effect consistent message
  | malformedLine error =>
    cases Option.some.inj run
    unfold routeMalformedLine
    split <;> exact .untouched nofun
  | deadline call =>
    simp only [step] at run
    split at run
    next record entry =>
      obtain ⟨armed, same⟩ := Option.ite_none_right_eq_some.mp run
      cases Option.some.inj same
      obtain ⟨after, changes⟩ := consistent.expired entry armed
      exact .changed nofun changes
    next => cases run
  | stdinError error =>
    cases Option.some.inj run
    exact .rejected nofun
  | processError error =>
    obtain ⟨_, same⟩ := Option.ite_none_left_eq_some.mp run
    cases Option.some.inj same
    unfold onProcessError
    split <;> exact .rejected nofun
  | exit code =>
    obtain ⟨_, same⟩ := Option.ite_none_left_eq_some.mp run
    cases Option.some.inj same
    unfold onExit
    by_cases disposed : c.disposeRequested = true
    · rw [if_pos disposed]
      split <;> exact .cleared disposed
    · rw [if_neg disposed]
      have live (other : Option Int) (_ : HelperEvent.exit (π := π) code = .exit other) :
          c.disposeRequested = false := Bool.eq_false_iff.mpr disposed
      split <;> exact .rejected live
  | dispose =>
    cases Option.some.inj run
    exact .rejected nofun
  | onNotification listener =>
    cases Option.some.inj run
    exact .untouched nofun
  | removeListener listener =>
    cases Option.some.inj run
    exact .untouched nofun

/-- The process exits after `dispose` only when no entry is left in the map. -/
def ExitsEmpty (c : HelperClient π) (e : HelperEvent π) : Prop :=
  ∀ code, e = .exit code → c.disposeRequested = true → c.pending = ∅

theorem consistent_create : (create : HelperClient π).Consistent := by
  constructor <;> simp [create, empty]

theorem consistent_step {c d : HelperClient π} {e : HelperEvent π} (consistent : c.Consistent)
    (run : c.step e = some d) : d.Consistent := by
  have effect := step_effect consistent run
  generalize d.toPendingRequests = q at effect ⊢
  cases effect with
  | changed _ changes => exact changes.consistent consistent
  | rejected => exact consistent.rejected _
  | cleared => exact consistent.cleared
  | untouched => exact consistent

theorem entered_step {c d : HelperClient π} {e : HelperEvent π} (consistent : c.Consistent)
    (entered : c.Entered) (exits : c.ExitsEmpty e) (run : c.step e = some d) : d.Entered := by
  have effect := step_effect consistent run
  generalize d.toPendingRequests = q at effect ⊢
  cases effect with
  | changed _ changes => exact changes.step_entered entered
  | rejected => exact consistent.rejected_entered entered _
  | cleared disposed =>
    intro call record entry awaiting unsettled
    obtain ⟨id, held⟩ := entered call record entry awaiting unsettled
    rw [exits _ rfl disposed] at held
    cases held
  | untouched => exact entered

/-- A step keeps or settles every entry exactly when it is no exit that finds
entries after `dispose`. -/
theorem keeps_iff {c d : HelperClient π} {e : HelperEvent π} (consistent : c.Consistent)
    (run : c.step e = some d) : c.Keeps d.toPendingRequests ↔ c.ExitsEmpty e := by
  have effect := step_effect consistent run
  generalize d.toPendingRequests = q at effect ⊢
  cases effect with
  | changed other changes => exact iff_of_true changes.keeps fun code same => absurd same (other code)
  | rejected live =>
    refine iff_of_true (consistent.rejected_keeps _) fun code same disposed => ?_
    rw [live code same] at disposed
    cases disposed
  | cleared disposed =>
    rw [consistent.cleared_keeps_iff]
    exact ⟨fun empty _ _ _ => empty, fun exits => exits _ rfl disposed⟩
  | untouched other =>
    exact iff_of_true (fun _ _ held => Or.inl held) fun code same => absurd same (other code)

/-- What the events that an entry waits for settle its call with: a line that names
it, its deadline, an error, the exit of the process before `dispose`, or `dispose`. -/
def ending (c : HelperClient π) (id : String) (call : Nat) (command : String) :
    HelperEvent π → Option (Settlement Failure (Option π))
  | .line (.response (some other) payload) => if other = id then some (.fulfilled payload) else none
  | .line (.error (some other) code text) => if other = id then some (.rejected (createHelperError code text)) else none
  | .deadline other =>
    if other = call then
      some (.rejected (.badConnectionError s!"Windows BLE helper request timed out: {command}"))
    else none
  | .stdinError error => some (.rejected error)
  | .processError error => if c.errorHandled then none else some (.rejected error)
  | .exit code =>
    if c.exitHandled ∨ c.disposeRequested then none
    else some (.rejected (.error s!"Windows BLE helper exited with code {code.getD (-1)}"))
  | .dispose => some (.rejected (.error "Windows BLE helper disposed"))
  | _ => none

/-- Each of these events is possible and settles the call. -/
theorem step_ending {c : HelperClient π} {e : HelperEvent π} {id : String} {call : Nat} {record : HelperCall π}
    {outcome : Settlement Failure (Option π)} (consistent : c.Consistent) (held : c.pending.lookup id = some call)
    (entry : c.calls call = some record) (open_ : record.Open id)
    (ending : c.ending id call record.command e = some outcome) :
    ∃ d after, c.step e = some d ∧ d.calls call = some after ∧ after.settlements = [outcome] := by
  have answered (outcome : Settlement Failure (Option π)) :
      ∃ after, (c.answer id call outcome).calls call = some after ∧ after.settlements = [outcome] :=
    ⟨_, answer_record entry id outcome, by simp [open_.unsettled]⟩
  have rejected (error : Failure) :
      ∃ after, (c.rejectPendingRequests error).calls call = some after ∧ after.settlements = [.rejected error] :=
    ⟨_, consistent.rejected_entry error held entry, by simp [HelperCall.rejectedBy, open_.unsettled]⟩
  cases e with
  | line message =>
    obtain ⟨after, here, settled⟩ := answered outcome
    refine ⟨_, after, rfl, ?_, settled⟩
    cases message with
    | response other payload =>
      cases other with
      | none => cases ending
      | some other =>
        obtain ⟨rfl, same⟩ := Option.ite_none_right_eq_some.mp ending
        cases same
        simpa only [routeHelperLine, held] using here
    | error other code text =>
      cases other with
      | none => cases ending
      | some other =>
        obtain ⟨rfl, same⟩ := Option.ite_none_right_eq_some.mp ending
        cases same
        simpa only [routeHelperLine, held] using here
    | ready => cases ending
    | notification payload => cases ending
    | otherEvent name => cases ending
  | deadline other =>
    obtain ⟨rfl, same⟩ := Option.ite_none_right_eq_some.mp ending
    cases same
    obtain ⟨after, here, settled⟩ := answered (.rejected (.badConnectionError
      s!"Windows BLE helper request timed out: {record.command}"))
    refine ⟨{ c with toPendingRequests := c.toPendingRequests.deadline other record }, after,
      by simp only [step, entry, open_.armed, if_true], ?_, settled⟩
    rw [deadline_entered held open_.id]
    exact here
  | stdinError error =>
    cases ending
    obtain ⟨after, here, settled⟩ := rejected error
    exact ⟨_, after, rfl, here, settled⟩
  | processError error =>
    obtain ⟨unhandled, same⟩ := Option.ite_none_left_eq_some.mp ending
    cases same
    obtain ⟨after, here, settled⟩ := rejected error
    refine ⟨_, after, if_neg unhandled, ?_, settled⟩
    unfold onProcessError
    split <;> exact here
  | exit code =>
    obtain ⟨live, same⟩ := Option.ite_none_left_eq_some.mp ending
    cases same
    obtain ⟨unhandled, kept⟩ := not_or.mp live
    obtain ⟨after, here, settled⟩ := rejected (.error s!"Windows BLE helper exited with code {code.getD (-1)}")
    refine ⟨_, after, if_neg unhandled, ?_, settled⟩
    rw [onExit, if_neg kept]
    split <;> exact here
  | dispose =>
    cases ending
    obtain ⟨after, here, settled⟩ := rejected (.error "Windows BLE helper disposed")
    exact ⟨_, after, rfl, here, settled⟩
  | request call command arguments => cases ending
  | readySettled call id write => cases ending
  | malformedLine error => cases ending
  | onNotification listener => cases ending
  | removeListener listener => cases ending

/-- In every run a request is settled at most once. In the runs in which the
process never exits after `dispose` with an entry left in the map, every
written request that is not settled has its entry and its deadline; a step
removes an entry without settling it only when it is such an exit; and the call of
an entry is settled by a line that names it, its deadline, an error or `dispose`,
whichever comes first. -/
theorem requests_accounted {trace : List (HelperEvent π)} {c : HelperClient π}
    (reach : Reach step (fun _ _ => True) create trace c) :
    (∀ call record, c.calls call = some record → record.settlements.length ≤ 1) ∧
    (Reach step ExitsEmpty create trace c → c.Accounted) ∧
    (∀ e d, c.step e = some d → (c.Keeps d.toPendingRequests ↔ c.ExitsEmpty e)) ∧
    ∀ id call, c.pending.lookup id = some call →
      ∃ record, c.calls call = some record ∧ record.settlements = [] ∧
        ∀ e outcome, c.ending id call record.command e = some outcome →
          ∃ d after, c.step e = some d ∧ d.calls call = some after ∧ after.settlements = [outcome] := by
  have consistent := reach.invariant (P := fun c => c.Consistent) consistent_create
    fun c e d consistent _ run => consistent_step consistent run
  refine ⟨consistent.once, fun exits => ?_, fun e d run => keeps_iff consistent run, fun id call held => ?_⟩
  · have entered := exits.invariant (P := fun c => c.Consistent ∧ c.Entered) ⟨consistent_create, nofun⟩
      fun c e d ⟨consistent, entered⟩ exits run =>
        ⟨consistent_step consistent run, entered_step consistent entered exits run⟩
    exact consistent.accounted entered.2
  · obtain ⟨record, entry, open_⟩ := consistent.registered id call held
    exact ⟨record, entry, open_.unsettled, fun e outcome ending => step_ending consistent held entry open_ ending⟩

/-- A client whose helper is ready, with one scan request made and the session
not disposed of or disposed of in the meantime. -/
def scanning (disposed : Bool) : HelperClient Unit :=
  let requested := { (create.routeHelperLine .ready : HelperClient Unit) with
    toPendingRequests := (create : HelperClient Unit).sendHelperRequest false 0 "scan" none }
  if disposed then requested.dispose else requested

/-- The request of `scanning` is written. -/
def scanWritten (disposed : Bool) : HelperClient Unit :=
  { scanning disposed with
    toPendingRequests := (scanning disposed).sendAfterReady 0
      { command := "scan", arguments := none, phase := .awaitingReady, id := none, settlements := []
        timerArmed := false } "6f9d" (.fulfilled ()) }

/-- The request is pending, and its deadline rejects it. -/
theorem requests_accounted_scanWritten : (scanWritten false).Accounted ∧
    ∃ d after, (scanWritten false).step (.deadline 0) = some d ∧ d.calls 0 = some after ∧
      after.settlements = [.rejected (.badConnectionError "Windows BLE helper request timed out: scan")] := by
  have reach : Reach step ExitsEmpty create [.line .ready, .request 0 "scan" none,
      .readySettled 0 "6f9d" (.fulfilled ())] (scanWritten false) :=
    .cons nofun rfl (.cons nofun rfl (.cons nofun rfl .start))
  obtain ⟨_, accounted, _, ends⟩ := requests_accounted (reach.mono fun _ _ _ => trivial)
  obtain ⟨record, entry, _, settles⟩ := ends "6f9d" 0 rfl
  cases entry
  exact ⟨accounted reach, settles (.deadline 0) _ rfl⟩

/-- A request that passes the test of `disposeRequested` and enters its promise
after `dispose` is forgotten when the process exits. -/
theorem exit_forgets_request :
    ¬∀ (trace : List (HelperEvent Unit)) (c : HelperClient Unit),
      Reach step (fun _ _ => True) create trace c → c.Accounted := by
  intro promised
  have reach : Reach step (fun _ _ => True) create [.line .ready, .request 0 "scan" none, .dispose,
      .readySettled 0 "6f9d" (.fulfilled ()), .exit none] ((scanWritten true).onExit none) :=
    .cons trivial rfl (.cons trivial rfl (.cons trivial rfl (.cons trivial rfl (.cons trivial rfl .start))))
  obtain ⟨_, id, held⟩ := promised _ _ reach 0 _ rfl rfl rfl
  cases held

end HelperClient

end BluettiMqtt
