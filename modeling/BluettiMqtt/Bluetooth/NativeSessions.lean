import BluettiMqtt.Bluetooth.HelperProtocol
import BluettiMqtt.Bluetooth.HelperSettlement

namespace BluettiMqtt
open Promise Transition

/-- The id of the request that a line answers. -/
def HelperMessage.answers {π : Type*} : HelperMessage π → Option String
  | .response id _ => id
  | .error id _ _ => id
  | .ready => none
  | .notification _ => none
  | .otherEvent _ => none

/-- A call that has passed the test of `disposed`. -/
def HelperCall.made {π : Type*} (command : String) (arguments : Option π) : HelperCall π where
  command := command
  arguments := arguments
  phase := .awaitingReady
  id := none
  settlements := []
  timerArmed := false

namespace HelperPair

variable {normalizeUuid : String → String} {p q : HelperPair} {sessionId : String} {call : Nat}

/-- A transport has the session. -/
def Held (p : HelperPair) (sessionId : String) : Prop :=
  ∃ transport, (p.transports.transports transport).sessionId = some sessionId

/-- A call of `connect` awaits the client. -/
def Connecting (p : HelperPair) (call : Nat) : Prop :=
  ∃ transport, p.transports.calls call = some ⟨transport, .connecting⟩

/-- The helper writes or has written an answer with the session, and the call
still waits for it. -/
def Answered (p : HelperPair) (call : Nat) (sessionId : String) : Prop :=
  ∃ id payload, p.client.pending.lookup id = some call ∧ connectSession (some payload) = some sessionId ∧
    ((∃ request, p.helper.current = some (request, .answering payload (some sessionId)) ∧ request.id = id) ∨
      .response (some id) (some payload) ∈ p.helper.output)

/-- The answer has reached the client, and `connect` goes on with it. -/
def Received (p : HelperPair) (call : Nat) (sessionId : String) : Prop :=
  ∃ payload, p.outcome call = some (.fulfilled payload) ∧ connectSession payload = some sessionId

/-- A request to disconnect the session has been written, or is the next thing
its call does. -/
def DisconnectSent (p : HelperPair) (sessionId : String) : Prop :=
  (∃ request ∈ p.client.requests, request.command = "disconnect" ∧
    request.arguments = some [("sessionId", sessionId)]) ∨
  ∃ call record, p.client.calls call = some record ∧ record.phase = .awaitingReady ∧
    p.client.ready = some (.fulfilled ()) ∧ record.command = "disconnect" ∧
    record.arguments = some [("sessionId", sessionId)]

/-- Somebody on this side answers for a native connection. -/
def Accounted (p : HelperPair) (sessionId : String) : Prop :=
  p.Held sessionId ∨
    (∃ call, p.Connecting call ∧ (p.Answered call sessionId ∨ p.Received call sessionId)) ∨
    p.DisconnectSent sessionId

/-- The helper opens a connection only while its request is pending, no deadline
passes once the answer with the connection is under way, and `connect` goes on
with a session only while its transport has none. -/
def Timely (p : HelperPair) : PairEvent → Prop
  | .helper (.opened (.fulfilled _)) => ∀ request task, p.helper.current = some (request, task) →
      ∃ call, p.client.pending.lookup request.id = some call
  | .deadline call => ∀ sessionId, ¬p.Answered call sessionId
  | .settled call => ∀ transport payload, p.transports.calls call = some ⟨transport, .connecting⟩ →
      p.outcome call = some (.fulfilled payload) → (p.transports.transports transport).sessionId = none
  | _ => True

/-- The requests that are neither unwritten nor answered to the client, in the
order in which their answers come. -/
def places (p : HelperPair) : List String :=
  p.helper.output.filterMap HelperMessage.answers ++ (p.helper.current.map fun work => work.1.id).toList ++
    p.helper.input.map HelperRequest.id

structure Linked (p : HelperPair) : Prop where
  client : p.client.Consistent
  undisposed : p.client.disposeRequested = false
  ready : p.helper.input ≠ [] ∨ p.helper.current ≠ none ∨ p.helper.connections ≠ [] →
    p.client.ready = some (.fulfilled ())
  distinct : p.places.Nodup
  issued : ∀ id ∈ p.places, id ∈ p.client.issued
  connecting : ∀ call record, p.client.calls call = some record → record.command = "connect" →
    record.settlements = [] → p.Connecting call
  asked : ∀ request, request ∈ p.helper.input ∨ (∃ task, p.helper.current = some (request, task)) →
    ∀ call record, p.client.pending.lookup request.id = some call → p.client.calls call = some record →
      record.command = request.command
  opening : ∀ request address, p.helper.current = some (request, .opening address) → request.command = "connect"
  accounted : ∀ sessionId ∈ p.helper.connections, p.Accounted sessionId

/-- What stays of the client over a step: its records go on, and no entry is
lost but the one under `gone`. -/
structure Later (c d : HelperClient HelperObject) (gone : Option String) : Prop where
  records : ∀ call record, c.calls call = some record → ∃ later, d.calls call = some later ∧
    later.command = record.command ∧ record.settlements <+: later.settlements
  waiting : ∀ call record, c.calls call = some record → record.phase = .awaitingReady →
    c.ready = some (.fulfilled ()) → d.calls call = some record ∨
      ∃ request ∈ d.requests, request.command = record.command ∧ request.arguments = record.arguments
  requests : ∀ request ∈ c.requests, request ∈ d.requests
  kept : ∀ id call, c.pending.lookup id = some call → some id ≠ gone → d.pending.lookup id = some call
  entered : ∀ id call, d.pending.lookup id = some call → c.pending.lookup id = some call ∨ id ∉ c.issued
  issued : ∀ id ∈ c.issued, id ∈ d.issued
  ready : c.ready = some (.fulfilled ()) → d.ready = some (.fulfilled ())
  undisposed : d.disposeRequested = c.disposeRequested

variable {c d : HelperClient HelperObject} {gone : Option String}

theorem later_request {command : String} {arguments : Option HelperObject}
    (undisposed : c.disposeRequested = false) (run : c.step (.request call command arguments) = some d) :
    Later c d none ∧ c.calls call = none ∧ d.pending = c.pending ∧ d.issued = c.issued ∧ d.requests = c.requests ∧
      d.ready = c.ready ∧ d.calls = c.calls.insert call (.made command arguments) := by
  obtain ⟨fresh, same⟩ := Option.ite_none_right_eq_some.mp run
  have fresh := Option.isNone_iff_eq_none.mp fresh
  have sent : c.sendHelperRequest c.disposeRequested call command arguments =
      { c.toPendingRequests with calls := c.calls.insert call (.made command arguments) } := by
    rw [undisposed]
    rfl
  rw [sent] at same
  cases same
  have others {other : Nat} {record : HelperCall HelperObject} (entry : c.calls other = some record) :
      other ≠ call := by
    rintro rfl
    cases fresh.symm.trans entry
  refine ⟨⟨fun other record entry => ?_, fun other record entry _ _ => ?_, fun _ member => member,
    fun _ _ held _ => held, fun _ _ held => Or.inl held, fun _ member => member, id, rfl⟩, fresh, rfl, rfl, rfl, rfl, rfl⟩
  · exact ⟨record, (Table.insert_of_ne _ _ (others entry)).trans entry, rfl, List.prefix_refl _⟩
  · exact Or.inl ((Table.insert_of_ne _ _ (others entry)).trans entry)

theorem later_written {id : String} (consistent : c.Consistent)
    (run : c.step (.readySettled call id (.fulfilled ())) = some d) :
    Later c d none ∧ ((∃ record, c.calls call = some record ∧ c.ready = some (.fulfilled ()) ∧ id ∉ c.issued ∧
        d.requests = c.requests ++ [{ id := id, command := record.command, arguments := record.arguments }] ∧
        d.pending.lookup id = some call ∧ d.issued = id :: c.issued) ∨
      d.requests = c.requests ∧ d.issued = c.issued ∧ c.ready ≠ some (.fulfilled ())) ∧
    ∀ other, c.calls other = none → d.calls other = none := by
  simp only [HelperClient.step] at run
  split at run
  · rename_i record _ entry ready
    obtain ⟨⟨waiting, fresh⟩, same⟩ := Option.ite_none_right_eq_some.mp run
    cases same
    have absent := consistent.fresh_unentered fresh
    have registered : (c.toPendingRequests.sendAfterReady call record id (.fulfilled ())).calls call =
        some { record with phase := .awaitingResponse, id := some id, timerArmed := true } :=
      Table.adjust_self _ entry
    refine ⟨⟨fun other found held => ?_, fun other found held awaiting _ => ?_, ?_, ?_, ?_, ?_, ?_, rfl⟩, ?_,
      fun other unknown => Table.adjust_eq_none.mpr unknown⟩
    · by_cases same : other = call
      · subst same
        cases entry.symm.trans held
        exact ⟨_, registered, rfl, List.prefix_refl _⟩
      · exact ⟨found, (Table.adjust_of_ne _ _ (by simpa using Ne.symm same)).trans held, rfl, List.prefix_refl _⟩
    · by_cases same : other = call
      · subst same
        cases entry.symm.trans held
        exact Or.inr ⟨_, List.mem_append_right _ (List.mem_singleton.mpr rfl), rfl, rfl⟩
      · exact Or.inl ((Table.adjust_of_ne _ _ (by simpa using Ne.symm same)).trans held)
    · exact fun _ member => List.mem_append_left _ member
    · intro other holder held _
      have different : other ≠ id := by
        rintro rfl
        exact absent holder held
      simpa [PendingRequests.sendAfterReady, PendingRequests.register, different] using held
    · intro other holder held
      by_cases same : other = id
      · exact Or.inr (same ▸ fresh)
      · exact Or.inl (by simpa [PendingRequests.sendAfterReady, PendingRequests.register, same] using held)
    · exact fun _ member => List.mem_cons_of_mem _ member
    · exact fun fulfilled => fulfilled
    · exact Or.inl ⟨record, entry, ready, fresh, rfl, by simp [PendingRequests.sendAfterReady, PendingRequests.register], rfl⟩
  · rename_i record error entry ready
    obtain ⟨waiting, same⟩ := Option.ite_none_right_eq_some.mp run
    cases same
    have unready : c.ready ≠ some (.fulfilled ()) := by
      rw [ready]
      simp
    refine ⟨⟨fun other found held => ?_, fun _ _ _ _ fulfilled => absurd fulfilled unready, fun _ member => member,
      fun _ _ held _ => held, fun _ _ held => Or.inl held, fun _ member => member, fun fulfilled => fulfilled, rfl⟩, Or.inr ⟨rfl, rfl, unready⟩,
      fun other unknown => Table.adjust_eq_none.mpr unknown⟩
    by_cases same : other = call
    · subst same
      cases entry.symm.trans held
      exact ⟨_, Table.adjust_self _ entry, rfl, List.prefix_append _ _⟩
    · exact ⟨found, (Table.adjust_of_ne _ _ (by simpa using Ne.symm same)).trans held, rfl, List.prefix_refl _⟩
  · cases run

/-- A client of which only the requests differ, by a record that has gained at
most a settlement and by entries that are gone. -/
theorem later_changed {r : PendingRequests HelperObject} {record later : HelperCall HelperObject}
    (entry : c.calls call = some record) (written : record.phase ≠ .awaitingReady)
    (here : r.calls call = some later) (command : later.command = record.command)
    (settlements : record.settlements <+: later.settlements)
    (others : ∀ other, other ≠ call → r.calls other = c.calls other)
    (kept : ∀ id other, c.pending.lookup id = some other → some id ≠ gone → r.pending.lookup id = some other)
    (entered : ∀ id other, r.pending.lookup id = some other → c.pending.lookup id = some other)
    (requests : r.requests = c.requests) (issued : r.issued = c.issued) :
    Later c { c with toPendingRequests := r } gone where
  records other found held := by
    by_cases same : other = call
    · subst same
      cases entry.symm.trans held
      exact ⟨later, here, command, settlements⟩
    · exact ⟨found, (others other same).trans held, rfl, List.prefix_refl _⟩
  waiting other found held awaiting _ := by
    refine Or.inl ((others other ?_).trans held)
    rintro rfl
    cases entry.symm.trans held
    exact written awaiting
  requests request member := by
    change request ∈ r.requests
    rw [requests]
    exact member
  kept := kept
  entered id other held := Or.inl (entered id other held)
  issued other member := by
    change other ∈ r.issued
    rw [issued]
    exact member
  ready fulfilled := fulfilled
  undisposed := rfl

/-- A client that has the same requests. -/
theorem later_same (requests : d.toPendingRequests = c.toPendingRequests)
    (ready : c.ready = some (.fulfilled ()) → d.ready = some (.fulfilled ()))
    (undisposed : d.disposeRequested = c.disposeRequested) : Later c d gone where
  records _ record entry := ⟨record, by rw [requests]; exact entry, rfl, List.prefix_refl _⟩
  waiting _ _ entry _ _ := Or.inl (by rw [requests]; exact entry)
  requests _ member := by rw [requests]; exact member
  kept _ _ held _ := by rw [requests]; exact held
  entered _ _ held := Or.inl (by rw [← requests]; exact held)
  issued _ member := by rw [requests]; exact member
  ready := ready
  undisposed := undisposed

theorem lookup_erase_eq_some {pending : AList fun _ : String => Nat} {id other : String} {holder : Nat} :
    (pending.erase id).lookup other = some holder ↔ other ≠ id ∧ pending.lookup other = some holder := by
  by_cases same : other = id
  · subst same
    simp
  · simp [same]

theorem later_answer {id : String} (consistent : c.Consistent) (held : c.pending.lookup id = some call)
    (outcome : Settlement Failure (Option HelperObject)) :
    Later c { c with toPendingRequests := c.answer id call outcome } (some id) ∧
      (∀ other, c.calls other = none → (c.answer id call outcome).calls other = none) ∧
      ∃ record, (c.answer id call outcome).calls call = some record ∧ record.settlements.head? = some outcome := by
  obtain ⟨record, entry, open_⟩ := consistent.registered id call held
  have here : (c.answer id call outcome).calls call =
      some { record with timerArmed := false, settlements := record.settlements ++ [outcome] } :=
    Table.adjust_self _ (Table.adjust_self _ entry)
  refine ⟨later_changed entry ?_ here rfl (List.prefix_append _ _) (fun other different => ?_)
    (fun other holder found different => lookup_erase_eq_some.mpr ⟨fun same => different (congrArg some same), found⟩)
    (fun other holder found => (lookup_erase_eq_some.mp found).2) rfl rfl,
    fun other unknown => Table.adjust_eq_none.mpr (Table.adjust_eq_none.mpr unknown), _, here, ?_⟩
  · rw [open_.phase]
    exact nofun
  · have apart : some call ≠ some other := by simpa using Ne.symm different
    exact (Table.adjust_of_ne _ _ apart).trans (Table.adjust_of_ne _ _ apart)
  · simp [open_.unsettled]

theorem later_answered (consistent : c.Consistent) {id : String} {outcome : Settlement Failure (Option HelperObject)}
    (run : (match c.pending.lookup id with
      | some entry => { c with toPendingRequests := c.answer id entry outcome }
      | none => c) = d) :
    Later c d (some id) ∧ (∀ other, c.calls other = none → d.calls other = none) ∧ ∀ call, c.pending.lookup id = some call →
      ∃ record, d.calls call = some record ∧ record.settlements.head? = some outcome := by
  cases held : c.pending.lookup id with
  | some entry =>
    rw [held] at run
    cases run
    obtain ⟨later, unknown, settled⟩ := later_answer consistent held outcome
    refine ⟨later, unknown, fun call same => ?_⟩
    cases same
    exact settled
  | none =>
    rw [held] at run
    cases run
    exact ⟨later_same rfl (fun fulfilled => fulfilled) rfl, (fun _ unknown => unknown), by rintro _ ⟨⟩⟩

/-- A line answers the call that has its id, and settles it. -/
theorem later_line {message : HelperMessage HelperObject} (consistent : c.Consistent)
    (run : c.step (.line message) = some d) :
    Later c d message.answers ∧ (∀ other, c.calls other = none → d.calls other = none) ∧
      ∀ id call payload, c.pending.lookup id = some call →
      message = .response (some id) payload →
        ∃ record, d.calls call = some record ∧ record.settlements.head? = some (.fulfilled payload) := by
  have run := Option.some.inj run
  cases message with
  | response id payload =>
    cases id with
    | some id =>
      obtain ⟨later, issued, settled⟩ := later_answered consistent run
      refine ⟨later, issued, fun other call found held same => ?_⟩
      cases same
      exact settled call held
    | none =>
      cases run
      exact ⟨later_same rfl (fun fulfilled => fulfilled) rfl, (fun _ unknown => unknown), by rintro _ _ _ _ ⟨⟩⟩
  | error id code text =>
    cases id with
    | some id =>
      obtain ⟨later, issued, _⟩ := later_answered consistent run
      exact ⟨later, issued, by rintro _ _ _ _ ⟨⟩⟩
    | none =>
      cases run
      exact ⟨later_same rfl (fun fulfilled => fulfilled) rfl, (fun _ unknown => unknown), by rintro _ _ _ _ ⟨⟩⟩
  | ready =>
    cases run
    refine ⟨later_same rfl (fun fulfilled => ?_) rfl, (fun _ unknown => unknown), by rintro _ _ _ _ ⟨⟩⟩
    change some (c.ready.getD _) = _
    rw [fulfilled]
    rfl
  | notification payload =>
    cases payload <;> cases run <;>
      exact ⟨later_same rfl (fun fulfilled => fulfilled) rfl, (fun _ unknown => unknown), by rintro _ _ _ _ ⟨⟩⟩
  | otherEvent name =>
    cases run
    exact ⟨later_same rfl (fun fulfilled => fulfilled) rfl, (fun _ unknown => unknown), by rintro _ _ _ _ ⟨⟩⟩

/-- A deadline that passes takes its own entry away. -/
theorem later_deadline (consistent : c.Consistent) (run : c.step (.deadline call) = some d) :
    ∃ gone, Later c d gone ∧ (∀ other, c.calls other = none → d.calls other = none) ∧
      ∀ id other, some id = gone → c.pending.lookup id = some other → other = call := by
  simp only [HelperClient.step] at run
  split at run
  · rename_i record entry
    obtain ⟨armed, same⟩ := Option.ite_none_right_eq_some.mp run
    cases same
    obtain ⟨phase, unsettled, id, named⟩ := consistent.armed call record entry armed
    have written : record.phase ≠ .awaitingReady := by
      rw [phase]
      rintro ⟨⟩
    have fired : (c.clearTimeout call).calls call = some { record with timerArmed := false } :=
      Table.adjust_self _ entry
    have apart {other : Nat} (different : other ≠ call) : some call ≠ some other := by simpa using Ne.symm different
    simp only [PendingRequests.deadline, named]
    split
    · refine ⟨some id, later_changed entry written (Table.adjust_self _ fired) rfl (List.prefix_append _ _)
        (fun other different => (Table.adjust_of_ne _ _ (apart different)).trans (Table.adjust_of_ne _ _ (apart different)))
        (fun other holder found different =>
          lookup_erase_eq_some.mpr ⟨fun same => different (congrArg some same), found⟩)
        (fun other holder found => (lookup_erase_eq_some.mp found).2) rfl rfl,
        fun other unknown => Table.adjust_eq_none.mpr (Table.adjust_eq_none.mpr unknown),
        fun other holder same held => ?_⟩
      cases same
      obtain ⟨found, stored, open_⟩ := consistent.registered id holder held
      exact consistent.distinct holder call found record id stored entry open_.id named
    · exact ⟨none, later_changed entry written fired rfl (List.prefix_refl _)
        (fun other different => Table.adjust_of_ne _ _ (apart different)) (fun _ _ found _ => found)
        (fun _ _ found => found) rfl rfl, fun other unknown => Table.adjust_eq_none.mpr unknown,
        by rintro _ _ ⟨⟩⟩
  · cases run

theorem DisconnectSent.later (sent : p.DisconnectSent sessionId) (later : Later p.client q.client gone) :
    q.DisconnectSent sessionId := by
  rcases sent with ⟨request, member, command, arguments⟩ | ⟨call, record, entry, waiting, ready, command, arguments⟩
  · exact Or.inl ⟨request, later.requests request member, command, arguments⟩
  · rcases later.waiting call record entry waiting ready with still | ⟨request, member, same, likewise⟩
    · exact Or.inr ⟨call, record, still, waiting, later.ready ready, command, arguments⟩
    · exact Or.inl ⟨request, member, same.trans command, likewise.trans arguments⟩

theorem outcome_later {outcome : Settlement Failure (Option HelperObject)} (settled : p.outcome call = some outcome)
    (later : Later p.client q.client gone) : q.outcome call = some outcome := by
  obtain ⟨record, entry, head⟩ := Option.bind_eq_some_iff.mp settled
  obtain ⟨found, stored, _, grown⟩ := later.records call record entry
  refine Option.bind_eq_some_iff.mpr ⟨found, stored, ?_⟩
  obtain ⟨more, longer⟩ := grown
  rw [← longer, List.head?_append, head]
  rfl

theorem Received.later (received : p.Received call sessionId) (later : Later p.client q.client gone) :
    q.Received call sessionId := by
  obtain ⟨payload, settled, session⟩ := received
  exact ⟨payload, outcome_later settled later, session⟩

/-- An answer stays under way when its entry stays. -/
theorem Answered.later (answered : p.Answered call sessionId) (later : Later p.client q.client gone)
    (kept : ∀ id, gone = some id → p.client.pending.lookup id ≠ some call)
    (current : ∀ request payload, p.helper.current = some (request, .answering payload (some sessionId)) →
      q.helper.current = some (request, .answering payload (some sessionId)) ∨
        .response (some request.id) (some payload) ∈ q.helper.output)
    (output : ∀ id payload, p.client.pending.lookup id = some call →
      .response (some id) (some payload) ∈ p.helper.output → .response (some id) (some payload) ∈ q.helper.output) :
    q.Answered call sessionId := by
  obtain ⟨id, payload, held, session, place⟩ := answered
  refine ⟨id, payload, later.kept id call held fun same => kept id same.symm held, session, ?_⟩
  rcases place with ⟨request, writing, rfl⟩ | written
  · exact (current request payload writing).imp_left fun still => ⟨request, still, rfl⟩
  · exact Or.inr (output id payload held written)

/-- A call of `connect` whose request is not settled goes on. -/
theorem Linked.connecting_later (linked : p.Linked) (later : Later p.client q.client gone)
    (kept : ∀ call record, p.client.calls call = some record → record.settlements = [] → p.Connecting call →
      q.Connecting call)
    (fresh : ∀ call record, p.client.calls call = none → q.client.calls call = some record →
      record.command = "connect" → q.Connecting call)
    (call : Nat) (record : HelperCall HelperObject) (entry : q.client.calls call = some record)
    (command : record.command = "connect") (unsettled : record.settlements = []) : q.Connecting call := by
  cases before : p.client.calls call with
  | none => exact fresh call record before entry command
  | some old =>
    obtain ⟨found, stored, same, grown⟩ := later.records call old before
    cases entry.symm.trans stored
    rw [unsettled, List.prefix_nil] at grown
    exact kept call old before grown (linked.connecting call old before (same.symm.trans command) grown)

/-- The requests on their way keep the commands of their calls. -/
theorem Linked.asked_later (linked : p.Linked) (later : Later p.client q.client gone)
    {request : HelperRequest HelperObject}
    (place : request ∈ p.helper.input ∨ ∃ task, p.helper.current = some (request, task))
    (call : Nat) (record : HelperCall HelperObject) (held : q.client.pending.lookup request.id = some call)
    (entry : q.client.calls call = some record) : record.command = request.command := by
  have listed : request.id ∈ p.client.issued := by
    refine linked.issued request.id ?_
    unfold places
    rcases place with waiting | ⟨task, current⟩
    · exact List.mem_append_right _ (List.mem_map.mpr ⟨request, waiting, rfl⟩)
    · simp [current]
  rcases later.entered request.id call held with before | fresh
  · obtain ⟨old, stored, _⟩ := linked.client.registered request.id call before
    obtain ⟨found, now, same, _⟩ := later.records call old stored
    cases entry.symm.trans now
    exact same.trans (linked.asked request place call old before stored)
  · exact absurd listed fresh

/-- A step that leaves the helper alone. -/
theorem Linked.node (linked : p.Linked) (later : Later p.client q.client gone) (consistent : q.client.Consistent)
    (helper : q.helper = p.helper)
    (kept : ∀ call record, p.client.calls call = some record → record.settlements = [] → p.Connecting call →
      q.Connecting call)
    (fresh : ∀ call record, p.client.calls call = none → q.client.calls call = some record →
      record.command = "connect" → q.Connecting call)
    (accounted : ∀ sessionId ∈ p.helper.connections, p.Accounted sessionId → q.Accounted sessionId) : q.Linked where
  client := consistent
  undisposed := later.undisposed.trans linked.undisposed
  ready busy := by
    rw [helper] at busy
    exact later.ready (linked.ready busy)
  distinct := by
    unfold places
    rw [helper]
    exact linked.distinct
  issued id member := by
    unfold places at member
    rw [helper] at member
    exact later.issued id (linked.issued id member)
  connecting := linked.connecting_later later kept fresh
  asked request place := by
    rw [helper] at place
    exact linked.asked_later later place
  opening := by
    rw [helper]
    exact linked.opening
  accounted sessionId member := by
    rw [helper] at member
    exact accounted sessionId member (linked.accounted sessionId member)

/-- What is under way to a call stays so when the helper is left alone and no
entry of the call goes. -/
theorem underway_later (later : Later p.client q.client gone) (helper : q.helper = p.helper)
    (kept : ∀ id, gone = some id → p.client.pending.lookup id ≠ some call)
    (underway : p.Answered call sessionId ∨ p.Received call sessionId) :
    q.Answered call sessionId ∨ q.Received call sessionId := by
  rcases underway with answered | received
  · refine Or.inl (answered.later later kept (fun _ _ writing => Or.inl ?_) fun _ _ _ written => ?_) <;> rw [helper]
    · exact writing
    · exact written
  · exact Or.inr (received.later later)

/-- A request is made while the transports move on. -/
theorem Linked.send (linked : p.Linked) {command : String} {arguments : Option HelperObject}
    {transports : HelperTransports} (run : p.send call command arguments transports = some q)
    (calls : ∀ other transport, p.transports.calls other = some ⟨transport, .connecting⟩ →
      transports.calls other = some ⟨transport, .connecting⟩)
    (connect : command = "connect" → ∃ transport, transports.calls call = some ⟨transport, .connecting⟩)
    (held : ∀ transport sessionId, (p.transports.transports transport).sessionId = some sessionId →
      (transports.transports transport).sessionId = some sessionId ∨
        command = "disconnect" ∧ arguments = some [("sessionId", sessionId)]) : q.Linked := by
  obtain ⟨client, made, rfl⟩ := Option.map_eq_some_iff.mp run
  obtain ⟨later, unmade, pending, issued, _, ready, records⟩ := later_request linked.undisposed made
  refine linked.node later (HelperClient.consistent_step linked.client made) rfl ?_ ?_ ?_
  · rintro other record _ _ ⟨transport, entry⟩
    exact ⟨transport, calls other transport entry⟩
  · intro other record unknown entry connects
    change client.calls other = some record at entry
    rw [records] at entry
    rcases Table.insert_eq_some.mp entry with ⟨rfl, rfl⟩ | ⟨_, before⟩
    · exact connect connects
    · cases unknown.symm.trans before
  · intro sessionId member accounted
    rcases accounted with ⟨transport, session⟩ | ⟨other, ⟨transport, entry⟩, underway⟩ | sent
    · rcases held transport sessionId session with still | ⟨rfl, rfl⟩
      · exact Or.inl ⟨transport, still⟩
      · have connected : p.helper.connections ≠ [] := List.ne_nil_of_mem member
        refine Or.inr (Or.inr (Or.inr
          ⟨call, .made "disconnect" (some [("sessionId", sessionId)]), ?_, rfl, ?_, rfl, rfl⟩))
        · exact (congrFun records call).trans (Table.insert_self _ _ _)
        · exact ready.trans (linked.ready (Or.inr (Or.inr connected)))
    · exact Or.inr (Or.inl ⟨other, ⟨transport, calls other transport entry⟩,
        underway_later later rfl (fun _ absurd => nomatch absurd) underway⟩)
    · exact Or.inr (Or.inr (sent.later later))

/-- The transports move on by themselves. -/
theorem Linked.moved (linked : p.Linked) {transports : HelperTransports}
    (calls : ∀ other transport, p.transports.calls other = some ⟨transport, .connecting⟩ →
      transports.calls other = some ⟨transport, .connecting⟩ ∨ (p.outcome other).isSome = true ∧
        ∀ sessionId, p.Received other sessionId → ∃ transport,
          (transports.transports transport).sessionId = some sessionId)
    (held : ∀ transport sessionId, (p.transports.transports transport).sessionId = some sessionId →
      (transports.transports transport).sessionId = some sessionId) :
    ({ p with transports := transports } : HelperPair).Linked := by
  have later : Later p.client p.client none := later_same rfl (fun ready => ready) rfl
  have unsettled {other : Nat} {record : HelperCall HelperObject} (entry : p.client.calls other = some record)
      (none : record.settlements = []) : ¬(p.outcome other).isSome = true := by
    simp [outcome, entry, none]
  refine linked.node later linked.client rfl ?_ ?_ ?_
  · rintro other record entry none ⟨transport, place⟩
    exact ⟨transport, (calls other transport place).resolve_right fun settled => unsettled entry none settled.1⟩
  · intro other record unknown entry _
    cases unknown.symm.trans entry
  · intro sessionId _ accounted
    rcases accounted with ⟨transport, session⟩ | ⟨other, ⟨transport, place⟩, underway⟩ | sent
    · exact Or.inl ⟨transport, held transport sessionId session⟩
    · rcases calls other transport place with still | ⟨settled, taken⟩
      · exact Or.inr (Or.inl ⟨other, ⟨transport, still⟩, underway⟩)
      · rcases underway with ⟨id, payload, pending, _⟩ | received
        · obtain ⟨record, entry, open_⟩ := linked.client.registered id other pending
          exact absurd settled (unsettled entry open_.unsettled)
        · exact Or.inl (taken sessionId received)
    · exact Or.inr (Or.inr sent)

end HelperPair

namespace HelperTransports

variable {s : HelperTransports}

theorem connect_fields (s : HelperTransports) (call transport : Nat) :
    (s.connect call transport).transports = s.transports := by
  unfold connect
  split <;> rfl

theorem connect_calls (s : HelperTransports) (call transport : Nat) :
    (s.connect call transport).calls = s.calls.insert call ⟨transport,
      if (s.transports transport).sessionId.isSome then
        .settled (.rejected (.error "Helper transport is already connected"))
      else .connecting⟩ := by
  unfold connect
  split
  · rfl
  · rfl

theorem subscribe_sessions (s : HelperTransports) (call transport : Nat) (normalizedUuid : String) (onData other : Nat) :
    ((s.subscribe call transport normalizedUuid onData).transports other).sessionId =
      (s.transports other).sessionId := by
  cases session : (s.transports transport).sessionId with
  | none =>
    by_cases here : other = transport
    · subst here
      cases previous : (s.transports other).subscribers normalizedUuid <;>
        simp [subscribe, session, setCall, setTransport, restoreSubscriber, previous]
    · simp [subscribe, session, setCall, setTransport, here]
  | some sessionId =>
    by_cases here : other = transport
    · simp [subscribe, session, setCall, setTransport, here]
    · simp [subscribe, session, setCall, setTransport, here]

theorem subscribe_calls (s : HelperTransports) (call transport : Nat) (normalizedUuid : String) (onData : Nat) :
    ∃ phase, (s.subscribe call transport normalizedUuid onData).calls = s.calls.insert call ⟨transport, phase⟩ := by
  cases session : (s.transports transport).sessionId with
  | none =>
    refine ⟨.settled (.rejected (.error "Helper transport is not connected")), ?_⟩
    simp only [subscribe, session]
    rfl
  | some sessionId =>
    refine ⟨.subscribing normalizedUuid ((s.transports transport).subscribers normalizedUuid), ?_⟩
    simp only [subscribe, session]
    rfl

theorem disconnect_sessions (s : HelperTransports) (call transport other : Nat) :
    ((s.disconnect call transport).transports other).sessionId =
      if other = transport then none else (s.transports other).sessionId := by
  cases session : (s.transports transport).sessionId <;>
    by_cases here : other = transport <;>
    simp [disconnect, session, setCall, setTransport, here]

theorem disconnect_calls (s : HelperTransports) (call transport : Nat) :
    ∃ phase, (s.disconnect call transport).calls = s.calls.insert call ⟨transport, phase⟩ := by
  cases session : (s.transports transport).sessionId with
  | none =>
    refine ⟨.settled (.fulfilled ()), ?_⟩
    simp only [disconnect, session]
    rfl
  | some sessionId =>
    refine ⟨.disconnecting, ?_⟩
    simp only [disconnect, session]
    rfl

end HelperTransports

namespace HelperPair

variable {normalizeUuid : String → String} {p q : HelperPair} {sessionId : String} {call : Nat}

/-- A new call leaves those that connect as they are. -/
theorem connecting_insert {calls : Table Nat HelperTransportCall} {record : HelperTransportCall} {other transport : Nat}
    (fresh : calls call = none) (entry : calls other = some ⟨transport, .connecting⟩) :
    calls.insert call record other = some ⟨transport, .connecting⟩ := by
  refine (Table.insert_of_ne _ _ ?_).trans entry
  rintro rfl
  cases fresh.symm.trans entry

theorem Linked.connect {transport : Nat} {address : String} (linked : p.Linked)
    (run : p.step normalizeUuid (.connect call transport address) = some q) : q.Linked := by
  obtain ⟨transports, moved, run⟩ := Option.bind_eq_some_iff.mp run
  obtain ⟨fresh, same⟩ := Option.ite_none_right_eq_some.mp moved
  cases same
  have fresh := Option.isNone_iff_eq_none.mp fresh
  have calls (other place : Nat) (entry : p.transports.calls other = some ⟨place, .connecting⟩) :
      (p.transports.connect call transport).calls other = some ⟨place, .connecting⟩ := by
    rw [HelperTransports.connect_calls]
    exact connecting_insert fresh entry
  have held (place : Nat) (sessionId : String)
      (session : (p.transports.transports place).sessionId = some sessionId) :
      ((p.transports.connect call transport).transports place).sessionId = some sessionId := by
    rw [HelperTransports.connect_fields]
    exact session
  cases session : (p.transports.transports transport).sessionId with
  | some sessionId =>
    simp only [session] at run
    cases run
    exact linked.moved (fun other place entry => Or.inl (calls other place entry)) held
  | none =>
    simp only [session] at run
    refine linked.send run calls (fun _ => ⟨transport, ?_⟩) fun place sessionId found => Or.inl (held place sessionId found)
    rw [HelperTransports.connect_calls, Table.insert_self, session]
    rfl

theorem Linked.subscribe {transport onData : Nat} {uuid : String} (linked : p.Linked)
    (run : p.step normalizeUuid (.subscribe call transport uuid onData) = some q) : q.Linked := by
  obtain ⟨transports, moved, run⟩ := Option.bind_eq_some_iff.mp run
  obtain ⟨fresh, same⟩ := Option.ite_none_right_eq_some.mp moved
  cases same
  obtain ⟨phase, inserted⟩ := p.transports.subscribe_calls call transport (normalizeUuid uuid) onData
  have calls (other place : Nat) (entry : p.transports.calls other = some ⟨place, .connecting⟩) :
      (p.transports.subscribe call transport (normalizeUuid uuid) onData).calls other =
        some ⟨place, .connecting⟩ := by
    rw [inserted]
    exact connecting_insert (Option.isNone_iff_eq_none.mp fresh) entry
  have held (place : Nat) (sessionId : String)
      (session : (p.transports.transports place).sessionId = some sessionId) :
      ((p.transports.subscribe call transport (normalizeUuid uuid) onData).transports place).sessionId =
        some sessionId := by
    rw [HelperTransports.subscribe_sessions]
    exact session
  cases session : (p.transports.transports transport).sessionId with
  | some sessionId =>
    simp only [session] at run
    exact linked.send run calls (fun absurd => nomatch absurd) fun place sessionId found =>
      Or.inl (held place sessionId found)
  | none =>
    simp only [session] at run
    cases run
    exact linked.moved (fun other place entry => Or.inl (calls other place entry)) held

/-- `disconnect` gives up the session and asks the helper to release it. -/
theorem Linked.disconnect {transport : Nat} (linked : p.Linked)
    (run : p.step normalizeUuid (.disconnect call transport) = some q) : q.Linked := by
  obtain ⟨transports, moved, run⟩ := Option.bind_eq_some_iff.mp run
  obtain ⟨fresh, same⟩ := Option.ite_none_right_eq_some.mp moved
  cases same
  obtain ⟨phase, inserted⟩ := p.transports.disconnect_calls call transport
  have calls (other place : Nat) (entry : p.transports.calls other = some ⟨place, .connecting⟩) :
      (p.transports.disconnect call transport).calls other = some ⟨place, .connecting⟩ := by
    rw [inserted]
    exact connecting_insert (Option.isNone_iff_eq_none.mp fresh) entry
  cases session : (p.transports.transports transport).sessionId with
  | some sessionId =>
    simp only [session] at run
    refine linked.send run calls (fun absurd => nomatch absurd) fun place other found => ?_
    rw [HelperTransports.disconnect_sessions]
    by_cases here : place = transport
    · subst here
      cases session.symm.trans found
      exact Or.inr ⟨rfl, rfl⟩
    · rw [if_neg here]
      exact Or.inl found
  | none =>
    simp only [session] at run
    cases run
    refine linked.moved (fun other place entry => Or.inl (calls other place entry)) fun place other found => ?_
    rw [HelperTransports.disconnect_sessions]
    by_cases here : place = transport
    · subst here
      cases session.symm.trans found
    · rw [if_neg here]
      exact found

theorem Linked.request {command : String} {arguments : Option HelperObject} (linked : p.Linked)
    (run : p.step normalizeUuid (.request call command arguments) = some q) : q.Linked := by
  obtain ⟨other, run⟩ := Option.ite_none_right_eq_some.mp run
  refine linked.send run (fun _ _ entry => entry) (fun connect => ?_) fun _ _ session => Or.inl session
  subst connect
  exact absurd other (by decide)

/-- A request is written; its place is behind all others. -/
theorem Linked.written {id : String} (linked : p.Linked)
    (run : p.step normalizeUuid (.written call id) = some q) : q.Linked := by
  obtain ⟨client, made, rfl⟩ := Option.map_eq_some_iff.mp run
  obtain ⟨later, lines, unknown⟩ := later_written linked.client made
  have consistent := HelperClient.consistent_step linked.client made
  have kept (sessionId : String) (accounted : p.Accounted sessionId) : Accounted
      { p with
        client := client
        helper := { p.helper with
          input := p.helper.input ++ client.requests.drop p.client.requests.length } } sessionId := by
    rcases accounted with session | ⟨other, entry, underway⟩ | sent
    · exact Or.inl session
    · refine Or.inr (Or.inl ⟨other, entry, ?_⟩)
      rcases underway with answered | received
      · exact Or.inl (answered.later later (fun _ absurd => nomatch absurd) (fun _ _ writing => Or.inl writing)
          fun _ _ _ written => written)
      · exact Or.inr (received.later later)
    · exact Or.inr (Or.inr (sent.later later))
  rcases lines with ⟨record, entry, ready, fresh, requests, held, issued⟩ | ⟨requests, issued, unready⟩
  · have line : client.requests.drop p.client.requests.length =
        [{ id := id, command := record.command, arguments := record.arguments }] := by
      rw [requests, List.drop_left]
    rw [line] at kept ⊢
    have last : ({ p with
        client := client
        helper := { p.helper with input := p.helper.input ++
          [{ id := id, command := record.command, arguments := record.arguments }] } } : HelperPair).places =
        p.places ++ [id] := by
      simp [places]
    refine ⟨consistent, later.undisposed.trans linked.undisposed, fun _ => later.ready ready, ?_, ?_, ?_, ?_, ?_, ?_⟩
    · rw [last]
      exact List.nodup_append.mpr ⟨linked.distinct, List.nodup_singleton _, by
        rintro one member other single rfl
        rw [List.mem_singleton.mp single] at member
        exact fresh (linked.issued id member)⟩
    · rw [last]
      intro one member
      rcases List.mem_append.mp member with before | single
      · exact later.issued one (linked.issued one before)
      · rw [issued, List.mem_singleton.mp single]
        exact List.mem_cons_self
    · refine linked.connecting_later later (fun _ _ _ _ connecting => connecting) fun other found unmade stored _ => ?_
      cases (unknown other unmade).symm.trans stored
    · intro request place other found waiting stored
      by_cases mine : request.id = id
      · rw [mine] at waiting
        cases held.symm.trans waiting
        obtain ⟨now, entered, same, _⟩ := later.records call record entry
        cases stored.symm.trans entered
        have elsewhere (before : request ∈ p.helper.input ∨ ∃ task, p.helper.current = some (request, task)) :
            False := by
          refine fresh (linked.issued id (mine ▸ ?_))
          rcases before with member | ⟨task, current⟩
          · exact List.mem_append_right _ (List.mem_map.mpr ⟨request, member, rfl⟩)
          · simp [places, current]
        rcases place with member | current
        · rcases List.mem_append.mp member with before | single
          · exact (elsewhere (Or.inl before)).elim
          · rw [List.mem_singleton.mp single]
            exact same
        · exact (elsewhere (Or.inr current)).elim
      · refine linked.asked_later later (place.imp_left fun member => ?_) other found waiting stored
        rcases List.mem_append.mp member with before | single
        · exact before
        · rw [List.mem_singleton.mp single] at mine
          exact absurd rfl mine
    · exact linked.opening
    · exact fun sessionId member => kept sessionId (linked.accounted sessionId member)
  · have line : client.requests.drop p.client.requests.length = [] := by
      rw [requests, List.drop_length]
    rw [line, List.append_nil] at kept ⊢
    exact linked.node later consistent rfl (fun _ _ _ _ connecting => connecting)
      (fun other found unmade stored _ => nomatch (unknown other unmade).symm.trans stored)
      fun sessionId _ accounted => kept sessionId accounted

/-- A deadline passes that cuts no answer off. -/
theorem Linked.deadline (linked : p.Linked) (timely : p.Timely (.deadline call))
    (run : p.step normalizeUuid (.deadline call) = some q) : q.Linked := by
  obtain ⟨client, passed, rfl⟩ := Option.map_eq_some_iff.mp run
  obtain ⟨gone, later, unknown, own⟩ := later_deadline linked.client passed
  refine linked.node later (HelperClient.consistent_step linked.client passed) rfl
    (fun _ _ _ _ connecting => connecting) (fun other found unmade stored _ => ?_) fun sessionId _ accounted => ?_
  · cases (unknown other unmade).symm.trans stored
  · rcases accounted with session | ⟨other, entry, answered | received⟩ | sent
    · exact Or.inl session
    · refine Or.inr (Or.inl ⟨other, entry, underway_later later rfl (fun id same held => ?_) (Or.inl answered)⟩)
      cases own id other same.symm held
      exact timely sessionId answered
    · exact Or.inr (Or.inl ⟨other, entry, Or.inr (received.later later)⟩)
    · exact Or.inr (Or.inr (sent.later later))

/-- A call of a transport settles that has nothing under way to it that its
transport does not take over. -/
theorem Linked.settles (linked : p.Linked) {transport : Nat} {phase : HelperTransportPhase}
    {transports : HelperTransports} (calls : transports.calls = p.transports.calls.insert call ⟨transport, phase⟩)
    (held : ∀ transport sessionId, (p.transports.transports transport).sessionId = some sessionId →
      (transports.transports transport).sessionId = some sessionId)
    (taken : ∀ other, p.transports.calls call = some ⟨other, .connecting⟩ → (p.outcome call).isSome = true ∧
      ∀ sessionId, p.Received call sessionId → ∃ transport,
        (transports.transports transport).sessionId = some sessionId) :
    ({ p with transports := transports } : HelperPair).Linked := by
  refine linked.moved (fun other place entry => ?_) held
  by_cases same : other = call
  · subst same
    exact Or.inr (taken place entry)
  · rw [calls]
    exact Or.inl ((Table.insert_of_ne _ _ same).trans entry)

/-- A transport goes on with what its call of the client has settled with. -/
theorem Linked.settled (linked : p.Linked) (timely : p.Timely (.settled call))
    (run : p.step normalizeUuid (.settled call) = some q) : q.Linked := by
  simp only [HelperPair.step] at run
  split at run
  · rename_i transport outcome place settled
    obtain ⟨transports, moved, rfl⟩ := Option.map_eq_some_iff.mp run
    simp only [HelperTransports.step, place, Option.some.injEq] at moved
    subst moved
    have some_ : (p.outcome call).isSome = true := Option.isSome_iff_exists.mpr ⟨outcome, settled⟩
    have refused (error : Failure) (result : connectResult outcome = .rejected error)
        (nothing : ∀ sessionId, ¬p.Received call sessionId) : ({ p with
          transports := p.transports.connected call transport none (connectResult outcome) } : HelperPair).Linked := by
      rw [result]
      exact linked.settles rfl (fun _ _ session => session) fun _ _ =>
        ⟨some_, fun sessionId received => (nothing sessionId received).elim⟩
    cases outcome with
    | rejected error =>
      refine refused error rfl fun sessionId ⟨payload, found, _⟩ => ?_
      cases settled.symm.trans found
    | fulfilled payload =>
      cases session : connectSession payload with
      | none =>
        have result : connectResult (.fulfilled payload) =
            .rejected (.error "Helper returned an invalid connect payload") := by
          simp only [connectResult, session]
        refine refused _ result fun sessionId ⟨other, found, passed⟩ => ?_
        cases settled.symm.trans found
        cases session.symm.trans passed
      | some taken =>
        have result : connectResult (.fulfilled payload) = .fulfilled taken := by
          simp only [connectResult, session]
        have free := timely transport payload place settled
        rw [result]
        refine linked.settles rfl (fun other sessionId held => ?_) fun _ _ => ⟨some_, ?_⟩
        · have apart : other ≠ transport := by
            rintro rfl
            cases free.symm.trans held
          exact (congrArg HelperTransport.sessionId (if_neg apart)).trans held
        · rintro sessionId ⟨other, found, passed⟩
          cases settled.symm.trans found
          cases session.symm.trans passed
          exact ⟨transport, congrArg HelperTransport.sessionId (if_pos rfl)⟩
  · rename_i transport wanted previous outcome place settled
    obtain ⟨transports, moved, rfl⟩ := Option.map_eq_some_iff.mp run
    simp only [HelperTransports.step, place, Option.some.injEq] at moved
    subst moved
    have other (one : Nat) (absurd : p.transports.calls call = some ⟨one, .connecting⟩) : False := by
      cases place.symm.trans absurd
    cases requestResult outcome with
    | fulfilled => exact linked.settles rfl (fun _ _ session => session) fun one found => (other one found).elim
    | rejected error =>
      refine linked.settles rfl (fun one sessionId held => ?_) fun one found => (other one found).elim
      by_cases here : one = transport
      · subst here
        refine (congrArg HelperTransport.sessionId (if_pos rfl)).trans ?_
        cases previous <;> exact held
      · exact (congrArg HelperTransport.sessionId (if_neg here)).trans held
  · rename_i transport outcome place settled
    obtain ⟨transports, moved, rfl⟩ := Option.map_eq_some_iff.mp run
    simp only [HelperTransports.step, place, Option.some.injEq] at moved
    subst moved
    refine linked.settles rfl (fun _ _ session => session) fun one found => ?_
    cases place.symm.trans found
  · cases run

/-- A line of the helper reaches the client. The answer of a request is the only
line with its id, so that no other can take its entry away. -/
theorem Linked.line (linked : p.Linked) (run : p.step normalizeUuid .line = some q) : q.Linked := by
  simp only [HelperPair.step] at run
  split at run
  · cases run
  · rename_i message rest output
    obtain ⟨client, routed, rfl⟩ := Option.map_eq_some_iff.mp run
    obtain ⟨later, unknown, settles⟩ := later_line linked.client routed
    have consistent := HelperClient.consistent_step linked.client routed
    have same : (p.transports.hear normalizeUuid message).transports = p.transports.transports ∧
        (p.transports.hear normalizeUuid message).calls = p.transports.calls := by
      unfold HelperTransports.hear
      split <;> exact ⟨rfl, rfl⟩
    have before : p.places = (message.answers.toList ++ rest.filterMap HelperMessage.answers) ++
        (p.helper.current.map fun work => work.1.id).toList ++ p.helper.input.map HelperRequest.id := by
      unfold places
      rw [output, List.filterMap_cons]
      cases message.answers <;> rfl
    have listed := linked.distinct
    rw [before, List.append_assoc, List.append_assoc] at listed
    have connecting (call : Nat) (connecting : p.Connecting call) :
        Connecting { client := client, transports := p.transports.hear normalizeUuid message,
                     helper := { p.helper with output := rest } } call := by
      obtain ⟨transport, entry⟩ := connecting
      exact ⟨transport, (congrFun same.2 call).trans entry⟩
    constructor
    · exact consistent
    · exact later.undisposed.trans linked.undisposed
    · exact fun busy => later.ready (linked.ready busy)
    · refine List.Nodup.sublist ?_ listed
      unfold places
      rw [List.append_assoc]
      exact List.sublist_append_right _ _
    · intro id member
      refine later.issued id (linked.issued id ?_)
      unfold places at member
      rw [List.append_assoc] at member
      rw [before, List.append_assoc, List.append_assoc]
      exact List.mem_append_right _ member
    · exact linked.connecting_later later (fun other _ _ _ waiting => connecting other waiting)
        fun other found unmade stored _ => nomatch (unknown other unmade).symm.trans stored
    · exact fun request place => linked.asked_later later place
    · exact linked.opening
    · intro sessionId member
      rcases linked.accounted sessionId member with ⟨transport, session⟩ | ⟨call, waiting, answered | received⟩ | sent
      · exact Or.inl ⟨transport, (congrArg HelperTransport.sessionId (congrFun same.1 transport)).trans session⟩
      · refine Or.inr (Or.inl ⟨call, connecting call waiting, ?_⟩)
        obtain ⟨id, payload, held, session, place⟩ := answered
        by_cases mine : message.answers = some id
        · have first : id ∉ rest.filterMap HelperMessage.answers ++
              ((p.helper.current.map fun work => work.1.id).toList ++ p.helper.input.map HelperRequest.id) := by
            rw [mine] at listed
            exact (List.nodup_cons.mp listed).1
          rcases place with ⟨request, writing, rfl⟩ | written
          · refine absurd (List.mem_append_right _ (List.mem_append_left _ ?_)) first
            simp [writing]
          · rw [output] at written
            rcases List.mem_cons.mp written with here | elsewhere
            · obtain ⟨record, entry, head⟩ := settles id call (some payload) held here.symm
              exact Or.inr ⟨some payload, Option.bind_eq_some_iff.mpr ⟨record, entry, head⟩, session⟩
            · have again : id ∈ rest.filterMap HelperMessage.answers := List.mem_filterMap.mpr ⟨_, elsewhere, rfl⟩
              exact absurd (List.mem_append_left _ again) first
        · refine Or.inl ⟨id, payload, later.kept id call held (Ne.symm mine), session, place.imp_right fun written => ?_⟩
          rw [output] at written
          rcases List.mem_cons.mp written with here | elsewhere
          · rw [← here] at mine
            exact absurd rfl mine
          · exact elsewhere
      · exact Or.inr (Or.inl ⟨call, connecting call waiting, Or.inr (received.later later)⟩)
      · exact Or.inr (Or.inr (sent.later later))

/-- A step of the helper. -/
theorem Linked.handled (linked : p.Linked) {helper : HelperProtocol}
    (places : List.Sublist (HelperPair.places { p with helper := helper }) p.places)
    (busy : helper.input ≠ [] ∨ helper.current ≠ none ∨ helper.connections ≠ [] →
      p.helper.input ≠ [] ∨ p.helper.current ≠ none ∨ p.helper.connections ≠ [])
    (requests : ∀ request, request ∈ helper.input ∨ (∃ task, helper.current = some (request, task)) →
      request ∈ p.helper.input ∨ ∃ task, p.helper.current = some (request, task))
    (opening : ∀ request address, helper.current = some (request, .opening address) → request.command = "connect")
    (answers : ∀ sessionId ∈ helper.connections, ∀ call, p.Answered call sessionId →
      Answered { p with helper := helper } call sessionId)
    (connections : ∀ sessionId ∈ helper.connections, sessionId ∈ p.helper.connections ∨
      ∃ call, p.Connecting call ∧ Answered { p with helper := helper } call sessionId) :
    ({ p with helper := helper } : HelperPair).Linked where
  client := linked.client
  undisposed := linked.undisposed
  ready still := linked.ready (busy still)
  distinct := linked.distinct.sublist places
  issued id member := linked.issued id (places.subset member)
  connecting := linked.connecting
  asked request place := linked.asked request (requests request place)
  opening := opening
  accounted sessionId member := by
    rcases connections sessionId member with old | ⟨call, waiting, answered⟩
    · rcases linked.accounted sessionId old with session | ⟨call, waiting, answered | received⟩ | sent
      · exact Or.inl session
      · exact Or.inr (Or.inl ⟨call, waiting, Or.inl (answers sessionId member call answered)⟩)
      · exact Or.inr (Or.inl ⟨call, waiting, Or.inr received⟩)
      · exact Or.inr (Or.inr sent)
    · exact Or.inr (Or.inl ⟨call, waiting, Or.inl answered⟩)

/-- The helper goes on with the request it works on. -/
theorem Linked.works (linked : p.Linked) {request : HelperRequest HelperObject} {old task : HelperTask}
    {connections sessionIds : List String} (current : p.helper.current = some (request, old))
    (waits : ∀ address, task ≠ .opening address)
    (silent : ∀ payload sessionId, old = .answering payload (some sessionId) → sessionId ∉ connections)
    (known : ∀ sessionId ∈ connections, sessionId ∈ p.helper.connections ∨ ∃ call, p.Connecting call ∧
      Answered { p with helper := { p.helper with
        current := some (request, task), connections := connections, sessionIds := sessionIds } } call sessionId) :
    ({ p with helper := { p.helper with
        current := some (request, task), connections := connections, sessionIds := sessionIds } } :
      HelperPair).Linked := by
  have busy : p.helper.current ≠ none := by
    rw [current]
    exact Option.some_ne_none _
  refine linked.handled ?_ (fun _ => Or.inr (Or.inl busy)) ?_ ?_ ?_ known
  · unfold places
    rw [current]
    exact List.Sublist.refl _
  · rintro other (waiting | ⟨_, same⟩)
    · exact Or.inl waiting
    · cases same
      exact Or.inr ⟨old, current⟩
  · rintro other address same
    cases same
    exact absurd rfl (waits address)
  · rintro sessionId member call ⟨id, payload, held, session, ⟨other, writing, named⟩ | written⟩
    · cases current.symm.trans writing
      exact absurd member (silent payload sessionId rfl)
    · exact ⟨id, payload, held, session, Or.inr written⟩

/-- The answer of the current request is written. -/
theorem Linked.wrote (linked : p.Linked) {request : HelperRequest HelperObject} {task : HelperTask}
    {message : HelperMessage HelperObject} (current : p.helper.current = some (request, task))
    (answers : message.answers = some request.id)
    (complete : ∀ payload sessionId, task = .answering payload (some sessionId) →
      message = .response (some request.id) (some payload)) :
    ({ p with helper := { p.helper with
        current := none, output := p.helper.output ++ [message] } } : HelperPair).Linked := by
  refine linked.handled ?_ (fun busy => ?_) (fun other place => ?_) nofun (fun sessionId _ call answered => ?_)
    fun _ member => Or.inl member
  · simp [places, current, List.filterMap_append, answers]
  · exact Or.inr (Or.inl (by rw [current]; exact Option.some_ne_none _))
  · rcases place with waiting | ⟨_, absurd⟩
    · exact Or.inl waiting
    · cases absurd
  · obtain ⟨id, payload, held, session, ⟨other, writing, rfl⟩ | written⟩ := answered
    · cases current.symm.trans writing
      refine ⟨_, payload, held, session, Or.inr (List.mem_append_right _ ?_)⟩
      rw [complete payload sessionId rfl]
      exact List.mem_singleton.mpr rfl
    · exact ⟨id, payload, held, session, Or.inr (List.mem_append_left _ written)⟩

/-- What the helper begins to do about a request. -/
theorem handle_spec (h : HelperProtocol) (request : HelperRequest HelperObject) :
    ∃ task connections, h.handle request = { h with current := some (request, task), connections := connections } ∧
      (∀ sessionId ∈ connections, sessionId ∈ h.connections) ∧
      ∀ address, task = .opening address → request.command = "connect" := by
  unfold HelperProtocol.handle
  dsimp only
  split_ifs with ping connect disconnect other
  · exact ⟨_, h.connections, rfl, (fun _ member => member), nofun⟩
  · split
    · exact ⟨_, h.connections, rfl, (fun _ member => member), nofun⟩
    · exact ⟨_, h.connections, rfl, (fun _ member => member), fun _ _ => connect⟩
  · unfold HelperProtocol.handleDisconnect
    split
    · exact ⟨_, h.connections, rfl, (fun _ member => member), nofun⟩
    · refine ⟨_, _, rfl, (fun _ member => (List.mem_filter.mp member).1), ?_⟩
      split <;> exact nofun
  · exact ⟨_, h.connections, rfl, (fun _ member => member), nofun⟩
  · exact ⟨_, h.connections, rfl, (fun _ member => member), nofun⟩

theorem Linked.helper {event : ProtocolEvent} (linked : p.Linked) (timely : p.Timely (.helper event))
    (run : p.step normalizeUuid (.helper event) = some q) : q.Linked := by
  obtain ⟨helper, stepped, rfl⟩ := Option.map_eq_some_iff.mp run
  cases event with
  | read =>
    simp only [HelperProtocol.step] at stepped
    split at stepped
    · rename_i request rest idle input
      obtain ⟨_, stepped⟩ := Option.ite_none_right_eq_some.mp stepped
      cases stepped
      obtain ⟨task, connections, handled, fewer, opening⟩ := handle_spec { p.helper with input := rest } request
      rw [handled]
      refine linked.handled ?_ (fun _ => Or.inl ?_) ?_ ?_ ?_ fun sessionId member => Or.inl (fewer sessionId member)
      · simp [places, idle, input]
      · rw [input]
        exact List.cons_ne_nil _ _
      · rintro other (waiting | ⟨_, same⟩)
        · exact Or.inl (input ▸ List.mem_cons_of_mem _ waiting)
        · cases same
          exact Or.inl (input ▸ List.mem_cons_self)
      · rintro other address same
        cases same
        exact opening address rfl
      · rintro sessionId _ call ⟨id, payload, held, session, ⟨other, writing, _⟩ | written⟩
        · cases idle.symm.trans writing
        · exact ⟨id, payload, held, session, Or.inr written⟩
    · cases stepped
  | opened result =>
    simp only [HelperProtocol.step] at stepped
    split at stepped
    · rename_i request addressText sessionId name current
      obtain ⟨_, stepped⟩ := Option.ite_none_left_eq_some.mp stepped
      cases stepped
      obtain ⟨call, held⟩ := timely request _ current
      obtain ⟨record, entry, open_⟩ := linked.client.registered request.id call held
      have command : record.command = "connect" :=
        (linked.asked request (Or.inr ⟨_, current⟩) call record held entry).trans
          (linked.opening request addressText current)
      have waiting : p.Connecting call := linked.connecting call record entry command open_.unsettled
      refine linked.works current (by rintro _ ⟨⟩) (by rintro _ _ ⟨⟩) fun other member => ?_
      rcases List.mem_append.mp member with before | here
      · exact Or.inl before
      · rw [List.mem_singleton.mp here]
        exact Or.inr ⟨call, waiting, request.id, _, held, by simp [connectSession, List.lookup_cons],
          Or.inl ⟨request, rfl, rfl⟩⟩
    · rename_i request addressText message current
      cases stepped
      exact linked.works current (by rintro _ ⟨⟩) (by rintro _ _ ⟨⟩) fun _ member => Or.inl member
    · cases stepped
  | closed result =>
    simp only [HelperProtocol.step] at stepped
    split at stepped
    · rename_i request _ current
      cases stepped
      exact linked.works current (by rintro _ ⟨⟩) (by rintro _ _ ⟨⟩) fun _ member => Or.inl member
    · rename_i request message current
      cases stepped
      exact linked.works current (by rintro _ ⟨⟩) (by rintro _ _ ⟨⟩) fun _ member => Or.inl member
    · cases stepped
  | worked result =>
    simp only [HelperProtocol.step] at stepped
    split at stepped
    · rename_i request payload current
      cases stepped
      exact linked.works current (by rintro _ ⟨⟩) (by rintro _ _ ⟨⟩) fun _ member => Or.inl member
    · rename_i request message current
      cases stepped
      exact linked.works current (by rintro _ ⟨⟩) (by rintro _ _ ⟨⟩) fun _ member => Or.inl member
    · cases stepped
  | wrote result =>
    simp only [HelperProtocol.step] at stepped
    split at stepped
    · rename_i request payload opened current
      cases stepped
      cases result with
      | fulfilled =>
        refine linked.wrote current rfl fun other sessionId same => ?_
        cases same
        rfl
      | rejected message =>
        refine linked.works current (by rintro _ ⟨⟩) (fun other sessionId same member => ?_) fun _ member =>
          Or.inl (List.mem_filter.mp member).1
        cases same
        have apart := (List.mem_filter.mp member).2
        simp at apart
    · rename_i request code message current
      cases stepped
      cases result with
      | fulfilled => exact linked.wrote current rfl (by rintro _ _ ⟨⟩)
      | rejected =>
        refine linked.handled ?_ (fun busy => ?_) (fun other place => ?_) (by rintro _ _ ⟨⟩) (by rintro _ ⟨⟩) (by rintro _ ⟨⟩)
        · unfold places
          refine List.Sublist.append (List.Sublist.append (List.Sublist.refl _) ?_) (List.Sublist.refl _)
          exact List.nil_sublist _
        · rcases busy with input | absurd | absurd
          · exact Or.inl input
          · exact (absurd rfl).elim
          · exact (absurd rfl).elim
        · rcases place with waiting | ⟨_, absurd⟩
          · exact Or.inl waiting
          · cases absurd
    · cases stepped
  | notified event =>
    obtain ⟨_, stepped⟩ := Option.ite_none_right_eq_some.mp stepped
    cases stepped
    refine linked.handled ?_ id (fun _ place => place) linked.opening ?_ fun _ member => Or.inl member
    · simp [places, List.filterMap_append, HelperMessage.answers]
    · rintro sessionId _ call ⟨id, payload, held, session, place⟩
      exact ⟨id, payload, held, session, place.imp_right fun written => List.mem_append_left _ written⟩

theorem Linked.step {event : PairEvent} (linked : p.Linked) (timely : p.Timely event)
    (run : p.step normalizeUuid event = some q) : q.Linked := by
  cases event with
  | connect call transport address => exact linked.connect run
  | subscribe call transport uuid onData => exact linked.subscribe run
  | disconnect call transport => exact linked.disconnect run
  | request call command arguments => exact linked.request run
  | written call id => exact linked.written run
  | helper event => exact linked.helper timely run
  | line => exact linked.line run
  | deadline call => exact linked.deadline timely run
  | settled call => exact linked.settled timely run

theorem linked_create : create.Linked := by
  refine ⟨HelperClient.consistent_create, rfl, ?_, List.nodup_nil, nofun, nofun, ?_, nofun, nofun⟩
  · rintro (absurd | absurd | absurd) <;> exact (absurd rfl).elim
  · rintro _ (absurd | ⟨_, absurd⟩) <;> cases absurd

/-- In the runs in which no deadline cuts an answer off and no transport is
connected twice, somebody answers for every native connection. -/
theorem native_sessions_accounted {trace : List PairEvent}
    (reach : Reach (HelperPair.step normalizeUuid) Timely create trace p) :
    ∀ sessionId ∈ p.helper.connections, p.Accounted sessionId :=
  (reach.invariant (P := Linked) linked_create fun _ _ _ linked timely run => linked.step timely run).accounted

/-- One transport connects. -/
theorem native_session_held : ∃ p trace, Reach (HelperPair.step fun uuid => String.ofList (lowered uuid)) Timely create
    trace p ∧ "8d6a" ∈ p.helper.connections ∧ p.Accounted "8d6a" := by
  have reach : ∃ p, Reach (HelperPair.step fun uuid => String.ofList (lowered uuid)) Timely create
      [.line, .connect 0 0 "24:4C:AB:2C:24:8E", .written 0 "6f9d", .helper .read,
        .helper (.opened (.fulfilled ("8d6a", "EB3A"))), .helper (.wrote (.fulfilled ())), .line, .settled 0] p ∧
      p.helper.connections = ["8d6a"] := by
    refine ⟨_, .cons trivial rfl (.cons trivial rfl (.cons trivial rfl (.cons trivial rfl (.cons ?_ rfl
      (.cons trivial rfl (.cons trivial rfl (.cons ?_ rfl .start))))))), rfl⟩
    · intro request task current
      cases current
      exact ⟨0, rfl⟩
    · intro transport payload place _
      cases place
      rfl
  obtain ⟨p, reach, connections⟩ := reach
  have member : "8d6a" ∈ p.helper.connections := by
    rw [connections]
    exact List.mem_singleton.mpr rfl
  exact ⟨p, _, reach, member, native_sessions_accounted reach "8d6a" member⟩

/-- The helper opens the connection after the deadline has passed, and its
answer is dropped. -/
theorem late_connect_orphans_session : ¬∀ (normalizeUuid : String → String) trace p,
    Reach (HelperPair.step normalizeUuid) (fun _ _ => True) create trace p →
      ∀ sessionId ∈ p.helper.connections, p.Accounted sessionId := by
  intro promised
  have reach : ∃ p, Reach (HelperPair.step fun uuid => String.ofList (lowered uuid)) (fun _ _ => True) create
      [.line, .connect 0 0 "24:4C:AB:2C:24:8E", .written 0 "6f9d", .helper .read, .deadline 0,
        .helper (.opened (.fulfilled ("8d6a", "EB3A"))), .helper (.wrote (.fulfilled ())), .line, .settled 0] p ∧
      p.helper.connections = ["8d6a"] ∧ (∀ transport, (p.transports.transports transport).sessionId = none) ∧
      (∀ call record, p.transports.calls call = some record → record.phase ≠ .connecting) ∧
      p.client.requests = [⟨"6f9d", "connect", some [("address", "24:4C:AB:2C:24:8E")]⟩] ∧
      ∀ call record, p.client.calls call = some record → record.command = "connect" := by
    refine ⟨_, .cons trivial rfl (.cons trivial rfl (.cons trivial rfl (.cons trivial rfl (.cons trivial rfl
      (.cons trivial rfl (.cons trivial rfl (.cons trivial rfl (.cons trivial rfl .start)))))))), rfl,
      fun _ => rfl, ?_, rfl, ?_⟩
    · rintro (_ | call) record entry
      · cases entry
        nofun
      · have unknown : none = some record := entry
        cases unknown
    · rintro (_ | call) record entry
      · cases entry
        rfl
      · have unknown : none = some record := entry
        cases unknown
  obtain ⟨p, reach, connections, unheld, unconnecting, requests, commands⟩ := reach
  have member : "8d6a" ∈ p.helper.connections := by
    rw [connections]
    exact List.mem_singleton.mpr rfl
  rcases promised _ _ _ reach "8d6a" member with ⟨transport, held⟩ | ⟨call, ⟨transport, entry⟩, _⟩ |
    ⟨request, sent, disconnects, _⟩ | ⟨call, record, entry, _, _, disconnects, _⟩
  · cases (unheld transport).symm.trans held
  · exact unconnecting call _ entry rfl
  · rw [requests, List.mem_singleton] at sent
    subst sent
    exact absurd disconnects (by decide)
  · exact absurd ((commands call record entry).symm.trans disconnects) (by decide)

end HelperPair

end BluettiMqtt
