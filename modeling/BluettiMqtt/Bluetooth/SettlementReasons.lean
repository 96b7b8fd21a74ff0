import BluettiMqtt.Bluetooth.HelperSettlement

namespace BluettiMqtt
open Promise Transition

variable {π : Type*}

/-- The errors that an event of the client itself gives to calls of a command. -/
def HelperEvent.Gives (command : String) (error : Failure) : HelperEvent π → Prop
  | .request _ _ _ => error = .error "Windows BLE helper disposed"
  | .readySettled _ _ (.rejected reason) => error = reason
  | .malformedLine reason => error = reason
  | .deadline _ => error = .badConnectionError s!"Windows BLE helper request timed out: {command}"
  | .stdinError reason => error = reason
  | .processError reason => error = reason
  | .exit code =>
    error = .error "Windows BLE helper was disposed before becoming ready" ∨
      error = .error s!"Windows BLE helper exited with code {code.getD (-1)}"
  | .dispose => error = .error "Windows BLE helper disposed"
  | _ => False

/-- A call later on: its command and its id stay, and it gains settlements of one kind. -/
structure HelperCall.Grows (why : HelperCall π → Settlement Failure (Option π) → Prop) (record later : HelperCall π) :
    Prop where
  command : later.command = record.command
  id : ∀ id, record.id = some id → later.id = some id
  settlements : ∀ outcome ∈ later.settlements, outcome ∈ record.settlements ∨ why record outcome

namespace HelperClient
open PendingRequests

/-- What an event can settle a call with. -/
inductive Settles (c : HelperClient π) (e : HelperEvent π) (record : HelperCall π) : Settlement Failure (Option π) → Prop
  | answered {id payload} : e = .line (.response (some id) payload) → record.id = some id →
      Settles c e record (.fulfilled payload)
  | failed {id code text} : e = .line (.error (some id) code text) → record.id = some id →
      Settles c e record (.rejected (createHelperError code text))
  | unready {error} : c.ready = some (.rejected error) → Settles c e record (.rejected error)
  | own {error} : e.Gives record.command error → Settles c e record (.rejected error)

/-- What an event can make of a record. -/
inductive Grown (c : HelperClient π) (e : HelperEvent π) : Option (HelperCall π) → Option (HelperCall π) → Prop
  | absent : Grown c e none none
  | added {later} : later.id = none → (∀ outcome ∈ later.settlements, c.Settles e later outcome) →
      Grown c e none (some later)
  | kept {record later} : record.Grows (c.Settles e) later → Grown c e (some record) (some later)

variable {c d : HelperClient π} {e : HelperEvent π} {call : Nat}

theorem Grown.same (record : Option (HelperCall π)) : c.Grown e record record := by
  cases record with
  | none => exact .absent
  | some record => exact .kept ⟨rfl, fun _ held => held, fun _ member => Or.inl member⟩

theorem grown_adjust {key : Nat} {f : HelperCall π → HelperCall π}
    (grows : ∀ record, c.calls key = some record → record.Grows (c.Settles e) (f record)) :
    c.Grown e (c.calls call) (c.calls.adjust (some key) f call) := by
  by_cases same : key = call
  · subst same
    cases entry : c.calls key with
    | none =>
      rw [Table.adjust_eq_none.mpr entry]
      exact .absent
    | some record =>
      rw [Table.adjust_self f entry]
      exact .kept (grows record entry)
  · rw [Table.adjust_of_ne _ _ (by simpa using same)]
    exact .same _

/-- The one call that an event settles. -/
theorem grown_settled {key : Nat} {f : HelperCall π → HelperCall π} {outcome : Settlement Failure (Option π)}
    (command : ∀ record, (f record).command = record.command) (id : ∀ record, (f record).id = record.id)
    (settlements : ∀ record, (f record).settlements = record.settlements ++ [outcome])
    (settles : ∀ record, c.calls key = some record → c.Settles e record outcome) :
    c.Grown e (c.calls call) (c.calls.adjust (some key) f call) := by
  refine grown_adjust fun record entry => ⟨command record, fun id_ held => (id record).trans held, fun other member => ?_⟩
  rw [settlements, List.mem_append, List.mem_singleton] at member
  rcases member with member | rfl
  · exact Or.inl member
  · exact Or.inr (settles record entry)

theorem grown_rejectPendingRequests (consistent : c.Consistent) {error : Failure}
    (given : ∀ command, e.Gives command error) :
    c.Grown e (c.calls call) ((c.toPendingRequests.rejectPendingRequests error).calls call) := by
  rw [consistent.rejected_calls]
  split
  · cases c.calls call with
    | none => exact .absent
    | some record =>
      refine .kept ⟨rfl, fun _ held => held, fun outcome member => ?_⟩
      rcases List.mem_append.mp member with member | member
      · exact Or.inl member
      · cases List.mem_singleton.mp member
        exact Or.inr (.own (given record.command))
  · exact .same _

theorem grown_answered {id : String} {outcome : Settlement Failure (Option π)} (consistent : c.Consistent)
    (settles : ∀ record, record.id = some id → c.Settles e record outcome) :
    c.Grown e (c.calls call) ((match c.pending.lookup id with
      | some entry => { c with toPendingRequests := c.answer id entry outcome }
      | none => c : HelperClient π).calls call) := by
  cases held : c.pending.lookup id with
  | none => exact .same _
  | some entry =>
    obtain ⟨found, stored, open_⟩ := consistent.registered id entry held
    change c.Grown e _ (((c.calls.adjust _ _).adjust _ _) call)
    rw [Table.adjust_adjust]
    refine grown_settled (fun _ => rfl) (fun _ => rfl) (fun _ => rfl) fun record stored' => settles record ?_
    cases stored.symm.trans stored'
    exact open_.id

theorem grown_line (consistent : c.Consistent) (message : HelperMessage π) :
    c.Grown (.line message) (c.calls call) ((c.routeHelperLine message).calls call) := by
  cases message with
  | response id payload =>
    cases id with
    | some id => exact grown_answered consistent fun record named => .answered rfl named
    | none => exact .same _
  | error id code text =>
    cases id with
    | some id => exact grown_answered consistent fun record named => .failed rfl named
    | none => exact .same _
  | notification payload => cases payload <;> exact .same _
  | ready => exact .same _
  | otherEvent name => exact .same _

theorem grown_readySettled {id : String} {write : Settlement Failure Unit} (consistent : c.Consistent)
    (run : c.step (.readySettled call id write) = some d) (other : Nat) :
    c.Grown (.readySettled call id write) (c.calls other) (d.calls other) := by
  simp only [step] at run
  split at run
  · next record _ entry _ =>
    obtain ⟨⟨waiting, fresh⟩, same⟩ := Option.ite_none_right_eq_some.mp run
    cases same
    -- a call that waits for the helper has neither an id nor a settlement
    have early (found : HelperCall π) (stored : c.calls call = some found) : found.id = none := by
      cases entry.symm.trans stored
      exact (consistent.early call record entry waiting).1
    cases write with
    | fulfilled value =>
      refine grown_adjust fun found stored => ⟨rfl, fun named held => ?_, fun _ member => Or.inl member⟩
      cases (early found stored).symm.trans held
    | rejected error =>
      have registered : (c.register call id).pending.lookup id = some call := by simp [register]
      simp only [sendAfterReady, registered]
      change Grown c _ _ (((c.calls.adjust _ _).adjust _ _).adjust _ _ other)
      rw [Table.adjust_adjust, Table.adjust_adjust]
      refine grown_adjust fun found stored => ⟨rfl, fun named held => ?_, fun outcome member => ?_⟩
      · cases (early found stored).symm.trans held
      · rcases List.mem_append.mp member with member | member
        · exact Or.inl member
        · cases List.mem_singleton.mp member
          exact Or.inr (.own rfl)
  · next record error entry ready =>
    obtain ⟨_, same⟩ := Option.ite_none_right_eq_some.mp run
    cases same
    exact grown_settled (fun _ => rfl) (fun _ => rfl) (fun _ => rfl) fun _ _ => .unready ready
  · cases run

theorem grown_deadline (run : c.step (.deadline call) = some d) (other : Nat) :
    c.Grown (.deadline call) (c.calls other) (d.calls other) := by
  simp only [step] at run
  split at run
  · next record entry =>
    obtain ⟨_, same⟩ := Option.ite_none_right_eq_some.mp run
    cases same
    have cleared : c.Grown (.deadline call) (c.calls other) ((c.clearTimeout call).calls other) :=
      grown_adjust fun _ _ => ⟨rfl, fun _ held => held, fun _ member => Or.inl member⟩
    simp only [PendingRequests.deadline]
    split
    · split
      · change Grown c _ _ ((c.calls.adjust _ _).adjust _ _ other)
        rw [Table.adjust_adjust]
        refine grown_settled (fun _ => rfl) (fun _ => rfl) (fun _ => rfl) fun found stored => .own ?_
        cases entry.symm.trans stored
        rfl
      · exact cleared
    · exact cleared
  · cases run

theorem sendHelperRequest_calls (p : PendingRequests π) (disposed : Bool) (call : Nat) (command : String)
    (arguments : Option π) : ∃ record : HelperCall π,
      (p.sendHelperRequest disposed call command arguments).calls = p.calls.insert call record ∧ record.id = none ∧
        ∀ outcome ∈ record.settlements, outcome = .rejected (.error "Windows BLE helper disposed") := by
  unfold sendHelperRequest
  split
  · exact ⟨_, rfl, rfl, by simp⟩
  · exact ⟨_, rfl, rfl, by simp⟩

/-- All that an event does to the calls. -/
theorem step_grown (consistent : c.Consistent) (run : c.step e = some d) (call : Nat) :
    c.Grown e (c.calls call) (d.calls call) := by
  cases e with
  | request made command arguments =>
    obtain ⟨fresh, same⟩ := Option.ite_none_right_eq_some.mp run
    cases same
    have fresh := Option.isNone_iff_eq_none.mp fresh
    obtain ⟨record, inserted, named, disposed⟩ :=
      sendHelperRequest_calls c.toPendingRequests c.disposeRequested made command arguments
    change c.Grown _ _ ((c.sendHelperRequest c.disposeRequested made command arguments).calls call)
    rw [inserted]
    by_cases here : call = made
    · subst here
      rw [fresh, Table.insert_self]
      refine .added named fun outcome member => ?_
      cases disposed outcome member
      exact .own rfl
    · rw [Table.insert_of_ne _ _ here]
      exact .same _
  | readySettled made id write => exact grown_readySettled consistent run call
  | line message =>
    cases run
    exact grown_line consistent message
  | malformedLine error =>
    cases run
    unfold routeMalformedLine
    split <;> exact .same _
  | deadline made => exact grown_deadline run call
  | stdinError error =>
    cases run
    exact grown_rejectPendingRequests consistent fun _ => rfl
  | processError error =>
    obtain ⟨_, same⟩ := Option.ite_none_left_eq_some.mp run
    cases same
    unfold onProcessError
    split <;> exact grown_rejectPendingRequests consistent fun _ => rfl
  | exit code =>
    obtain ⟨_, same⟩ := Option.ite_none_left_eq_some.mp run
    cases same
    unfold onExit
    split
    · split <;> exact .same _
    · split <;> exact grown_rejectPendingRequests consistent fun _ => Or.inr rfl
  | dispose =>
    cases run
    exact grown_rejectPendingRequests consistent fun _ => rfl
  | onNotification listener =>
    cases run
    exact .same _
  | removeListener listener =>
    cases run
    exact .same _

/-- Why a call of a command, written under an id, has settled so. -/
inductive Reason (trace : List (HelperEvent π)) (command : String) (id : Option String) :
    Settlement Failure (Option π) → Prop
  | answered {asked payload} : id = some asked → .line (.response (some asked) payload) ∈ trace →
      Reason trace command id (.fulfilled payload)
  | failed {asked code text} : id = some asked → .line (.error (some asked) code text) ∈ trace →
      Reason trace command id (.rejected (createHelperError code text))
  | own {e error} : e ∈ trace → e.Gives command error → Reason trace command id (.rejected error)

theorem Reason.grows {trace : List (HelperEvent π)} {record later : HelperCall π} {outcome : Settlement Failure (Option π)}
    {why : HelperCall π → Settlement Failure (Option π) → Prop}
    (reason : Reason trace record.command record.id outcome) (grows : record.Grows why later) :
    Reason trace later.command later.id outcome := by
  cases reason with
  | answered named line => exact .answered (grows.id _ named) line
  | failed named line => exact .failed (grows.id _ named) line
  | own member given => exact .own member (grows.command ▸ given)

theorem Reason.next {trace : List (HelperEvent π)} {command : String} {id : Option String}
    {outcome : Settlement Failure (Option π)} (reason : Reason trace command id outcome) :
    Reason (trace ++ [e]) command id outcome := by
  cases reason with
  | answered named line => exact .answered named (List.mem_append_left _ line)
  | failed named line => exact .failed named (List.mem_append_left _ line)
  | own member given => exact .own (List.mem_append_left _ member) given

/-- The promise `ready` is rejected by one of the events, whatever command waits for it. -/
def UnreadyFor (trace : List (HelperEvent π)) (c : HelperClient π) : Prop :=
  ∀ error, c.ready = some (.rejected error) → ∃ e ∈ trace, ∀ command, e.Gives command error

theorem Settles.reason {trace : List (HelperEvent π)} {record : HelperCall π} {outcome : Settlement Failure (Option π)}
    (settles : c.Settles e record outcome) (unready : UnreadyFor trace c) :
    Reason (trace ++ [e]) record.command record.id outcome := by
  have last : e ∈ trace ++ [e] := List.mem_append_right _ (List.mem_singleton.mpr rfl)
  cases settles with
  | answered line named => exact .answered named (line ▸ last)
  | failed line named => exact .failed named (line ▸ last)
  | unready rejected =>
    obtain ⟨earlier, member, given⟩ := unready _ rejected
    exact .own (List.mem_append_left _ member) (given _)
  | own given => exact .own last given

/-- An event leaves the promise alone, fulfils it or rejects it with an error of its own. -/
theorem step_ready (run : c.step e = some d) :
    d.ready = c.ready ∨ d.ready = some (c.ready.getD (.fulfilled ())) ∨
      ∃ error, (∀ command, e.Gives command error) ∧ d.ready = some (c.ready.getD (.rejected error)) := by
  cases e with
  | line message =>
    cases run
    cases message with
    | response id payload =>
      left
      cases id with
      | none => rfl
      | some id => simp only [routeHelperLine]; split <;> rfl
    | error id code text =>
      left
      cases id with
      | none => rfl
      | some id => simp only [routeHelperLine]; split <;> rfl
    | ready => exact Or.inr (Or.inl rfl)
    | notification payload => cases payload <;> exact Or.inl rfl
    | otherEvent name => exact Or.inl rfl
  | malformedLine error =>
    cases run
    unfold routeMalformedLine
    split
    · exact Or.inl rfl
    · exact Or.inr (Or.inr ⟨error, fun _ => rfl, rfl⟩)
  | processError error =>
    obtain ⟨_, same⟩ := Option.ite_none_left_eq_some.mp run
    cases same
    unfold onProcessError
    split
    · exact Or.inl rfl
    · exact Or.inr (Or.inr ⟨error, fun _ => rfl, rfl⟩)
  | exit code =>
    obtain ⟨_, same⟩ := Option.ite_none_left_eq_some.mp run
    cases same
    unfold onExit
    split
    · split
      · exact Or.inl rfl
      · exact Or.inr (Or.inr ⟨_, fun _ => Or.inl rfl, rfl⟩)
    · split
      · exact Or.inl rfl
      · exact Or.inr (Or.inr ⟨_, fun _ => Or.inr rfl, rfl⟩)
  | readySettled made id write =>
    simp only [step] at run
    split at run
    · obtain ⟨_, same⟩ := Option.ite_none_right_eq_some.mp run
      cases same
      exact Or.inl rfl
    · obtain ⟨_, same⟩ := Option.ite_none_right_eq_some.mp run
      cases same
      exact Or.inl rfl
    · cases run
  | deadline made =>
    simp only [step] at run
    split at run
    · obtain ⟨_, same⟩ := Option.ite_none_right_eq_some.mp run
      cases same
      exact Or.inl rfl
    · cases run
  | request made command arguments =>
    obtain ⟨_, same⟩ := Option.ite_none_right_eq_some.mp run
    cases same
    exact Or.inl rfl
  | stdinError error =>
    cases run
    exact Or.inl rfl
  | dispose =>
    cases run
    exact Or.inl rfl
  | onNotification listener =>
    cases run
    exact Or.inl rfl
  | removeListener listener =>
    cases run
    exact Or.inl rfl

theorem UnreadyFor.step {trace : List (HelperEvent π)} (unready : UnreadyFor trace c) (run : c.step e = some d) :
    UnreadyFor (trace ++ [e]) d := by
  have last : e ∈ trace ++ [e] := List.mem_append_right _ (List.mem_singleton.mpr rfl)
  have earlier {error : Failure} (rejected : c.ready = some (.rejected error)) :
      ∃ e' ∈ trace ++ [e], ∀ command, e'.Gives command error := by
    obtain ⟨e', member, given⟩ := unready error rejected
    exact ⟨e', List.mem_append_left _ member, given⟩
  intro error rejected
  rcases step_ready run with same | same | ⟨other, given, same⟩
  · exact earlier (same.symm.trans rejected)
  · cases before : c.ready with
    | none =>
      rw [same, before] at rejected
      cases rejected
    | some outcome =>
      rw [same, before] at rejected
      exact earlier (before.trans rejected)
  · cases before : c.ready with
    | none =>
      rw [same, before] at rejected
      cases rejected
      exact ⟨e, last, given⟩
    | some outcome =>
      rw [same, before] at rejected
      exact earlier (before.trans rejected)

/-- In every run, what a call has settled with is the answer of a line to its own id, or an
error of the client's own. -/
theorem settled_for_reason {trace : List (HelperEvent π)} (reach : Reach step (fun _ _ => True) create trace c)
    {record : HelperCall π} (entry : c.calls call = some record) {outcome : Settlement Failure (Option π)}
    (settled : outcome ∈ record.settlements) : Reason trace record.command record.id outcome := by
  have reasons : UnreadyFor trace c ∧ ∀ call record, c.calls call = some record → ∀ outcome ∈ record.settlements,
      Reason trace record.command record.id outcome := by
    clear entry settled
    induction reach with
    | start => exact ⟨by rintro _ ⟨⟩, by rintro _ _ ⟨⟩⟩
    | @next trace c e d reach _ run ih =>
      obtain ⟨unready, reasons⟩ := ih
      have consistent := reach.invariant consistent_create fun c e d consistent _ run => consistent_step consistent run
      refine ⟨unready.step run, fun call later entry outcome member => ?_⟩
      have grown := step_grown consistent run call
      rw [entry] at grown
      generalize before : c.calls call = old at grown
      cases grown with
      | added _ settles => exact (settles outcome member).reason unready
      | @kept record _ grows =>
        rcases grows.settlements outcome member with earlier | settles
        · exact (reasons call record before outcome earlier).next.grows grows
        · exact (settles.reason unready).grows grows
  exact reasons.2 call record entry outcome settled

end HelperClient

end BluettiMqtt
