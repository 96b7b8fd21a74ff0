import BluettiMqtt.Core.EventBus
import BluettiMqtt.Library.Transition

namespace BluettiMqtt
open Promise Transition

namespace EventBus

variable {ι P C : Type*} {b c : EventBus ι P C} {e : EventBusEvent ι P C} {call : Nat}
  {publication : Publication ι P C} {deliveries : List (ι × BusMessage P C)}

/-- What has been handed to which listener on behalf of a call. -/
def deliveriesOf (b : EventBus ι P C) (call : Nat) : List (ι × BusMessage P C) :=
  (b.deliveries.filter fun delivery => delivery.1 = call).map Prod.snd

/-- A call has handed its message to the first of its listeners, once to each,
and stands where its `Promise.all` stands. -/
structure Faithful (deliveries : List (ι × BusMessage P C)) (publication : Publication ι P C) : Prop where
  distinct : publication.listeners.Nodup
  delivered : ∃ called, publication.listeners = called ++ publication.uncalled ∧
    deliveries = called.map fun listener => (listener, publication.message)
  silent : ∀ listener ∈ publication.uncalled, publication.outcomes listener = none
  sound : All.Sound publication.listeners publication.outcomes publication.all
  result : ∀ outcome, publication.settled = some outcome →
    publication.uncalled = [] ∧ publication.all.result = some outcome

theorem Faithful.resumed (faithful : Faithful deliveries publication) {result : Settlement Failure Unit}
    (done : publication.all.result = some result) (complete : publication.uncalled = []) :
    Faithful deliveries { publication with settled := some result } where
  distinct := faithful.distinct
  delivered := faithful.delivered
  silent := faithful.silent
  sound := faithful.sound
  result outcome same := by
    cases same
    exact ⟨complete, done⟩

/-- A call that has settled has handed its message to each of its listeners. -/
theorem Faithful.delivered_of_settled (faithful : Faithful deliveries publication) {outcome : Settlement Failure Unit}
    (settled : publication.settled = some outcome) :
    deliveries = publication.listeners.map fun listener => (listener, publication.message) := by
  obtain ⟨called, whole, handed⟩ := faithful.delivered
  rw [handed, whole, (faithful.result outcome settled).1, List.append_nil]

/-- A call is rejected exactly when one of its listeners has failed. -/
theorem Faithful.rejected_iff (faithful : Faithful deliveries publication) {outcome : Settlement Failure Unit}
    (settled : publication.settled = some outcome) :
    (∃ reason, outcome = .rejected reason) ↔
      ∃ listener ∈ publication.listeners, ∃ reason, publication.outcomes listener = some (.rejected reason) := by
  have known := (faithful.result outcome settled).2
  cases outcome with
  | fulfilled value =>
    have all := (faithful.sound.fulfilled known).2
    refine ⟨nofun, fun ⟨listener, member, reason, failed⟩ => ?_⟩
    rw [all listener member] at failed
    cases failed
  | rejected reason =>
    refine ⟨fun _ => ?_, fun _ => ⟨reason, rfl⟩⟩
    obtain ⟨listener, member, failed⟩ := faithful.sound.rejected reason known
    exact ⟨listener, member, reason, failed⟩

/-- Every call is faithful to its listeners, and the sets hold each listener once. -/
structure Orderly (b : EventBus ι P C) : Prop where
  parsers : b.parserListeners.Nodup
  commands : b.commandListeners.Nodup
  faithful : ∀ call publication, b.publications call = some publication → Faithful (b.deliveriesOf call) publication
  fresh : ∀ call, b.publications call = none → b.deliveriesOf call = []

theorem Orderly.create : Orderly (create : EventBus ι P C) where
  parsers := List.nodup_nil
  commands := List.nodup_nil
  faithful _ _ entry := by cases entry
  fresh _ _ := rfl

theorem Orderly.listenersOf (orderly : Orderly b) (message : BusMessage P C) : (b.listenersOf message).Nodup := by
  cases message with
  | parser message => exact orderly.parsers
  | command message => exact orderly.commands

/-- A step that is about one call leaves the others alone. -/
theorem Orderly.update (orderly : Orderly b) (parsers : c.parserListeners = b.parserListeners)
    (commands : c.commandListeners = b.commandListeners)
    (entries : c.publications = b.publications.insert call publication)
    (others : ∀ other ≠ call, c.deliveriesOf other = b.deliveriesOf other)
    (faithful : Faithful (c.deliveriesOf call) publication) : Orderly c where
  parsers := parsers ▸ orderly.parsers
  commands := commands ▸ orderly.commands
  faithful other found entry := by
    rw [entries] at entry
    rcases Table.insert_eq_some.mp entry with ⟨rfl, rfl⟩ | ⟨apart, entry⟩
    · exact faithful
    · rw [others other apart]
      exact orderly.faithful other found entry
  fresh other missing := by
    rw [entries] at missing
    obtain ⟨apart, missing⟩ := Table.insert_eq_none.mp missing
    rw [others other apart]
    exact orderly.fresh other missing

/-- The message of a call, and the listeners that it found. -/
def Published (b : EventBus ι P C) (call : Nat) (message : BusMessage P C) (listeners : List ι) : Prop :=
  ∃ publication, b.publications call = some publication ∧ publication.message = message ∧
    publication.listeners = listeners

theorem Published.insert {message : BusMessage P C} {listeners : List ι} {other : Nat} {later : Publication ι P C}
    (published : Published b call message listeners) (entry : b.publications other = some publication)
    (entries : c.publications = b.publications.insert other later) (sameMessage : later.message = publication.message)
    (sameListeners : later.listeners = publication.listeners) : Published c call message listeners := by
  obtain ⟨found, known, rfl, rfl⟩ := published
  by_cases same : call = other
  · subst same
    cases known.symm.trans entry
    exact ⟨later, by rw [entries, Table.insert_self], sameMessage, sameListeners⟩
  · exact ⟨found, by rw [entries, Table.insert_of_ne _ _ same, known], rfl, rfl⟩

/-- The `Promise.all` of a call has not settled while a handler is pending. -/
def Patient (call : Nat) (b : EventBus ι P C) : Prop :=
  ∀ publication, b.publications call = some publication →
    All.Waits publication.listeners publication.outcomes publication.all

theorem Patient.insert {other : Nat} {later : Publication ι P C} (patient : Patient call b)
    (entry : b.publications other = some publication) (entries : c.publications = b.publications.insert other later)
    (waits : call = other → All.Waits publication.listeners publication.outcomes publication.all →
      All.Waits later.listeners later.outcomes later.all) : Patient call c := by
  intro found known
  rw [entries] at known
  rcases Table.insert_eq_some.mp known with ⟨rfl, rfl⟩ | ⟨_, known⟩
  · exact waits rfl (patient publication entry)
  · exact patient found known

theorem Published.publish (b : EventBus ι P C) (call : Nat) (message : BusMessage P C) :
    Published (b.publish call message) call message (b.listenersOf message) :=
  ⟨_, Table.insert_self _ _ _, rfl, rfl⟩

theorem Patient.publish (b : EventBus ι P C) (call : Nat) (message : BusMessage P C) :
    Patient call (b.publish call message) := by
  intro found known
  cases (Table.insert_self _ _ _).symm.trans known
  intro result done listener member
  have some_ : b.listenersOf message ≠ [] := List.ne_nil_of_mem member
  simp [All.start, some_] at done

variable [DecidableEq ι]

/-- What one step can do. -/
inductive Moves (b : EventBus ι P C) : EventBusEvent ι P C → EventBus ι P C → Prop
  | registered (label : EventBusEvent ι P C) (parsers commands : List ι) (distinct : b.parserListeners.Nodup → parsers.Nodup)
      (distinct' : b.commandListeners.Nodup → commands.Nodup) :
      Moves b label { b with parserListeners := parsers, commandListeners := commands }
  | published (label : EventBusEvent ι P C) (call : Nat) (message : BusMessage P C) (fresh : b.publications call = none) :
      Moves b label (b.publish call message)
  | called (call : Nat) (outcome : Option (Settlement Failure Unit)) (publication : Publication ι P C)
      (listener : ι) (rest : List ι) (entry : b.publications call = some publication)
      (next : publication.uncalled = listener :: rest) :
      Moves b (.called call outcome) (b.callListener call publication listener rest outcome)
  | handlerSettled (call : Nat) (listener : ι) (outcome : Settlement Failure Unit) (publication : Publication ι P C)
      (entry : b.publications call = some publication) (reached : listener ∉ publication.uncalled)
      (pending : publication.outcomes listener = none) :
      Moves b (.handlerSettled call listener outcome)
        (b.setPublication call { publication with outcomes := publication.outcomes.insert listener outcome })
  | heard (call : Nat) (listener : ι) (outcome : Settlement Failure Unit) (publication : Publication ι P C)
      (entry : b.publications call = some publication) (settled : publication.outcomes listener = some outcome)
      (unheard : listener ∈ publication.all.reactions) (complete : publication.uncalled = []) :
      Moves b (.heard call listener)
        (b.setPublication call { publication with all := publication.all.hear listener outcome })
  | resumed (call : Nat) (result : Settlement Failure Unit) (publication : Publication ι P C)
      (entry : b.publications call = some publication) (done : publication.all.result = some result)
      (complete : publication.uncalled = []) :
      Moves b (.resumed call) (b.setPublication call { publication with settled := some result })

theorem nodup_addListener {listeners : List ι} (distinct : listeners.Nodup) (listener : ι) :
    (addListener listeners listener).Nodup := by
  unfold addListener
  split
  · exact distinct
  · next absent => exact distinct.append (List.nodup_singleton _) (by simpa using absent)

theorem nodup_removeListener {listeners : List ι} (distinct : listeners.Nodup) (listener : ι) :
    (removeListener listeners listener).Nodup :=
  distinct.filter _

theorem step_moves (run : b.step e = some c) : Moves b e c := by
  cases e with
  | addParserListener listener =>
    cases run
    exact .registered _ _ _ (nodup_addListener · listener) id
  | addCommandListener listener =>
    cases run
    exact .registered _ _ _ id (nodup_addListener · listener)
  | removeParserListener listener =>
    cases run
    exact .registered _ _ _ (nodup_removeListener · listener) id
  | removeCommandListener listener =>
    cases run
    exact .registered _ _ _ id (nodup_removeListener · listener)
  | publishParserMessage call message =>
    obtain ⟨fresh, same⟩ := Option.ite_none_right_eq_some.mp run
    cases same
    exact .published _ call _ fresh
  | publishCommandMessage call message =>
    obtain ⟨fresh, same⟩ := Option.ite_none_right_eq_some.mp run
    cases same
    exact .published _ call _ fresh
  | called call outcome =>
    simp only [step] at run
    split at run
    · next publication entry =>
      split at run
      · cases run
      · next listener rest next_ =>
        cases run
        exact .called call outcome publication listener rest entry next_
    · cases run
  | handlerSettled call listener outcome =>
    simp only [step] at run
    split at run
    · next publication entry =>
      obtain ⟨⟨_, reached, pending⟩, same⟩ := Option.ite_none_right_eq_some.mp run
      cases same
      exact .handlerSettled call listener outcome publication entry reached pending
    · cases run
  | heard call listener =>
    simp only [step] at run
    split at run
    · next publication entry =>
      split at run
      · next outcome settled =>
        obtain ⟨⟨complete, unheard⟩, same⟩ := Option.ite_none_right_eq_some.mp run
        cases same
        exact .heard call listener outcome publication entry settled unheard complete
      · cases run
    · cases run
  | resumed call =>
    simp only [step] at run
    split at run
    · next publication entry =>
      split at run
      · next result done =>
        obtain ⟨⟨complete, _⟩, same⟩ := Option.ite_none_right_eq_some.mp run
        cases same
        exact .resumed call result publication entry done complete
      · cases run
    · cases run

theorem insert_grows {outcomes : Table ι (Settlement Failure Unit)} {listener : ι} (pending : outcomes listener = none)
    (outcome : Settlement Failure Unit) (other : ι) (result : Settlement Failure Unit)
    (known : outcomes other = some result) : outcomes.insert listener outcome other = some result := by
  have apart : other ≠ listener := by
    rintro rfl
    rw [pending] at known
    cases known
  exact (Table.insert_of_ne _ _ apart).trans known

theorem recordOutcome_grows {outcomes : Table ι (Settlement Failure Unit)} {listener : ι}
    (pending : outcomes listener = none) (outcome : Option (Settlement Failure Unit)) (other : ι)
    (result : Settlement Failure Unit) (known : outcomes other = some result) :
    recordOutcome outcomes listener outcome other = some result := by
  cases outcome with
  | none => exact known
  | some outcome => exact insert_grows pending outcome other result known

theorem recordOutcome_of_ne (outcomes : Table ι (Settlement Failure Unit)) {listener other : ι}
    (outcome : Option (Settlement Failure Unit)) (apart : other ≠ listener) :
    recordOutcome outcomes listener outcome other = outcomes other := by
  cases outcome with
  | none => rfl
  | some outcome => exact Table.insert_of_ne _ _ apart

theorem Faithful.called (faithful : Faithful deliveries publication) {listener : ι} {rest : List ι}
    (next : publication.uncalled = listener :: rest) (outcome : Option (Settlement Failure Unit)) :
    Faithful (deliveries ++ [(listener, publication.message)])
      { publication with uncalled := rest, outcomes := recordOutcome publication.outcomes listener outcome } := by
  obtain ⟨called, whole, handed⟩ := faithful.delivered
  have pending : publication.outcomes listener = none := faithful.silent listener (by rw [next]; exact List.mem_cons_self)
  have apart : listener ∉ rest := by
    have distinct := faithful.distinct
    rw [whole, next] at distinct
    exact (List.nodup_cons.mp (List.nodup_append.mp distinct).2.1).1
  refine ⟨faithful.distinct, ⟨called ++ [listener], ?_, ?_⟩, fun other member => ?_, ?_, fun result settled => ?_⟩
  · rw [whole, next, List.append_assoc]
    rfl
  · rw [List.map_append, ← handed]
    rfl
  · refine (recordOutcome_of_ne _ _ (ne_of_mem_of_not_mem member apart)).trans (faithful.silent other ?_)
    rw [next]
    exact List.mem_cons_of_mem _ member
  · exact faithful.sound.mono (recordOutcome_grows pending outcome)
  · have none_ := (faithful.result result settled).1
    rw [next] at none_
    cases none_

theorem Faithful.handlerSettled (faithful : Faithful deliveries publication) {listener : ι}
    (reached : listener ∉ publication.uncalled) (pending : publication.outcomes listener = none)
    (outcome : Settlement Failure Unit) :
    Faithful deliveries { publication with outcomes := publication.outcomes.insert listener outcome } where
  distinct := faithful.distinct
  delivered := faithful.delivered
  silent other member :=
    (Table.insert_of_ne _ _ (ne_of_mem_of_not_mem member reached)).trans (faithful.silent other member)
  sound := faithful.sound.mono (insert_grows pending outcome)
  result := faithful.result

theorem Faithful.heard (faithful : Faithful deliveries publication) {listener : ι} {outcome : Settlement Failure Unit}
    (settled : publication.outcomes listener = some outcome) (unheard : listener ∈ publication.all.reactions) :
    Faithful deliveries { publication with all := publication.all.hear listener outcome } where
  distinct := faithful.distinct
  delivered := faithful.delivered
  silent := faithful.silent
  sound := faithful.sound.hear unheard settled
  result result done := by
    obtain ⟨complete, known⟩ := faithful.result result done
    exact ⟨complete, All.hear_settled known listener outcome⟩

theorem deliveriesOf_callListener (b : EventBus ι P C) (call other : Nat) (publication : Publication ι P C) (listener : ι)
    (rest : List ι) (outcome : Option (Settlement Failure Unit)) :
    (b.callListener call publication listener rest outcome).deliveriesOf other =
      b.deliveriesOf other ++ if call = other then [(listener, publication.message)] else [] := by
  by_cases same : call = other
  · simp [deliveriesOf, callListener, setPublication, same]
  · simp [deliveriesOf, callListener, setPublication, same]

theorem Orderly.moves (orderly : Orderly b) (moves : Moves b e c) : Orderly c := by
  cases moves with
  | registered _ parsers commands distinct distinct' =>
    exact ⟨distinct orderly.parsers, distinct' orderly.commands, orderly.faithful, orderly.fresh⟩
  | published _ call message fresh =>
    refine orderly.update rfl rfl rfl (fun other _ => rfl) ?_
    rw [show (b.publish call message).deliveriesOf call = [] from orderly.fresh call fresh]
    exact ⟨orderly.listenersOf message, ⟨[], rfl, rfl⟩, fun _ _ => rfl, All.Sound.start (orderly.listenersOf message) _, nofun⟩
  | called call outcome publication listener rest entry next =>
    refine orderly.update rfl rfl rfl (fun other apart => ?_) ?_
    · rw [deliveriesOf_callListener, if_neg (Ne.symm apart), List.append_nil]
    · rw [deliveriesOf_callListener, if_pos rfl]
      exact (orderly.faithful call publication entry).called next outcome
  | handlerSettled call listener outcome publication entry reached pending =>
    exact orderly.update rfl rfl rfl (fun other _ => rfl)
      ((orderly.faithful call publication entry).handlerSettled reached pending outcome)
  | heard call listener outcome publication entry settled unheard complete =>
    exact orderly.update rfl rfl rfl (fun other _ => rfl)
      ((orderly.faithful call publication entry).heard settled unheard)
  | resumed call result publication entry done complete =>
    exact orderly.update rfl rfl rfl (fun other _ => rfl)
      ((orderly.faithful call publication entry).resumed done complete)

theorem Published.moves {message : BusMessage P C} {listeners : List ι} (published : Published b call message listeners)
    (moves : Moves b e c) : Published c call message listeners := by
  cases moves with
  | registered _ parsers commands distinct distinct' => exact published
  | published _ other text fresh =>
    obtain ⟨found, known, same⟩ := published
    have apart : call ≠ other := by
      rintro rfl
      rw [fresh] at known
      cases known
    exact ⟨found, (Table.insert_of_ne _ _ apart).trans known, same⟩
  | called other outcome publication listener rest entry next => exact published.insert entry rfl rfl rfl
  | handlerSettled other listener outcome publication entry reached pending => exact published.insert entry rfl rfl rfl
  | heard other listener outcome publication entry settled unheard complete => exact published.insert entry rfl rfl rfl
  | resumed other result publication entry done complete => exact published.insert entry rfl rfl rfl

/-- When a call's `Promise.all` hears of a failure, all its handlers have
settled. -/
def HeardLast (call : Nat) (b : EventBus ι P C) : EventBusEvent ι P C → Prop
  | .heard other listener => other = call → ∀ publication reason, b.publications call = some publication →
      publication.outcomes listener = some (.rejected reason) →
        ∀ handler ∈ publication.listeners, (publication.outcomes handler).isSome = true
  | _ => True

theorem Patient.moves (patient : Patient call b) (orderly : Orderly b) (allowed : HeardLast call b e)
    (moves : Moves b e c) : Patient call c := by
  cases moves with
  | registered _ parsers commands distinct distinct' => exact patient
  | published _ other message fresh =>
    intro found known
    rcases Table.insert_eq_some.mp known with ⟨rfl, rfl⟩ | ⟨_, known⟩
    · intro result done listener member
      have some_ : b.listenersOf message ≠ [] := List.ne_nil_of_mem member
      simp [All.start, some_] at done
    · exact patient found known
  | called other outcome publication listener rest entry next =>
    have pending : publication.outcomes listener = none :=
      (orderly.faithful other publication entry).silent listener (by rw [next]; exact List.mem_cons_self)
    exact patient.insert entry rfl fun _ waits => waits.mono (recordOutcome_grows pending outcome)
  | handlerSettled other listener outcome publication entry reached pending =>
    exact patient.insert entry rfl fun _ waits => waits.mono (insert_grows pending outcome)
  | heard other listener outcome publication entry settled unheard complete =>
    refine patient.insert entry rfl fun same waits => ?_
    subst same
    refine waits.hear (orderly.faithful call publication entry).sound unheard settled fun reason failed => ?_
    exact allowed rfl publication reason entry (failed ▸ settled)
  | resumed other result publication entry done complete => exact patient.insert entry rfl fun _ waits => waits

section Runs

variable {guard : EventBus ι P C → EventBusEvent ι P C → Prop} {before after : List (EventBusEvent ι P C)}

theorem Orderly.reach {initial : EventBus ι P C} (orderly : Orderly initial) (reach : Reach step guard initial after b) :
    Orderly b :=
  reach.invariant orderly fun _ _ _ ih _ run => ih.moves (step_moves run)

theorem step_publish {message : BusMessage P C} (run : b.step (.publish call message) = some c) :
    b.publications call = none ∧ c = b.publish call message := by
  cases message with
  | parser message =>
    obtain ⟨fresh, same⟩ := Option.ite_none_right_eq_some.mp run
    exact ⟨fresh, (Option.some.inj same).symm⟩
  | command message =>
    obtain ⟨fresh, same⟩ := Option.ite_none_right_eq_some.mp run
    exact ⟨fresh, (Option.some.inj same).symm⟩

theorem Published.reach {initial : EventBus ι P C} {message : BusMessage P C} {listeners : List ι}
    (published : Published initial call message listeners) (reach : Reach step guard initial after b) :
    Published b call message listeners :=
  reach.invariant (P := fun b => Published b call message listeners) published fun _ _ _ ih _ run =>
    ih.moves (step_moves run)

theorem Patient.reach {initial : EventBus ι P C} (patient : Patient call initial) (orderly : Orderly initial)
    (reach : Reach step (HeardLast call) initial after b) : Patient call b := by
  have both : Orderly b ∧ Patient call b := by
    refine reach.invariant (P := fun b => Orderly b ∧ Patient call b) ⟨orderly, patient⟩ fun _ _ _ ih allowed run => ?_
    exact ⟨ih.1.moves (step_moves run), ih.2.moves ih.1 allowed (step_moves run)⟩
  exact both.2

/-- The listener that follows those already called can be called, and is handed the
message. -/
theorem next_callable (orderly : Orderly b) (entry : b.publications call = some publication) {listener : ι}
    {rest : List (ι × BusMessage P C)}
    (next : publication.listeners.map (fun listener => (listener, publication.message)) =
      b.deliveriesOf call ++ (listener, publication.message) :: rest) (outcome : Option (Settlement Failure Unit)) :
    ∃ c, b.step (.called call outcome) = some c ∧
      c.deliveriesOf call = b.deliveriesOf call ++ [(listener, publication.message)] := by
  obtain ⟨called, whole, handed⟩ := (orderly.faithful call publication entry).delivered
  rw [handed, whole, List.map_append] at next
  have remaining := List.append_cancel_left next
  cases uncalled : publication.uncalled with
  | nil => simp [uncalled] at remaining
  | cons first later =>
    rw [uncalled, List.map_cons] at remaining
    cases remaining
    refine ⟨b.callListener call publication listener later outcome, by simp only [step, entry, uncalled], ?_⟩
    rw [deliveriesOf_callListener, if_pos rfl]

/-- A failure heard while a handler is pending settles the call over it. -/
theorem settles_early {listener : ι} (run : b.step (.heard call listener) = some c)
    (early : ¬HeardLast call b (.heard call listener)) :
    ∃ trace d publication outcome, Reach step (fun _ _ => True) c trace d ∧ d.publications call = some publication ∧
      publication.settled = some outcome ∧ ∃ handler ∈ publication.listeners, publication.outcomes handler = none := by
  simp only [HeardLast, not_forall] at early
  obtain ⟨-, publication, reason, entry, failed, handler, member, pending⟩ := early
  have unsettled : publication.outcomes handler = none := by simpa using pending
  simp only [step, entry, failed] at run
  obtain ⟨⟨complete, -⟩, same⟩ := Option.ite_none_right_eq_some.mp run
  obtain ⟨result, done⟩ := All.hear_rejected_result publication.all listener reason
  cases same
  -- the publication may have settled before, over an earlier failure
  cases settled : publication.settled with
  | some outcome => exact ⟨[], _, _, outcome, .start, Table.insert_self _ _ _, rfl, handler, member, unsettled⟩
  | none =>
    let heard := { publication with all := publication.all.hear listener (.rejected reason), settled := none }
    have resumed : (b.setPublication call heard).step (.resumed call) =
        some ((b.setPublication call heard).setPublication call { heard with settled := some result }) := by
      simp only [step, setPublication, Table.insert_self, heard, done, complete, and_self, if_true]
    exact ⟨[.resumed call], _, _, result, .next .start trivial resumed, Table.insert_self _ _ _, rfl, handler, member,
      unsettled⟩

/-- A publication hands its message once to each listener it found, the next of
which can always be called, and is rejected exactly when one of them fails; it waits
for all of them unless its `Promise.all` hears of a failure while another handler is
pending, in which case it need not. -/
theorem publication_waits :
    (∀ before after (b c d : EventBus ι P C) call message, Reach step (fun _ _ => True) create before b →
      b.step (.publish call message) = some c → Reach step (fun _ _ => True) c after d →
        ∃ publication, d.publications call = some publication ∧ (b.listenersOf message).Nodup ∧
          d.deliveriesOf call <+: (b.listenersOf message).map (fun listener => (listener, message)) ∧
          (∀ listener rest, (b.listenersOf message).map (fun listener => (listener, message)) =
              d.deliveriesOf call ++ (listener, message) :: rest →
            ∀ outcome, ∃ e, d.step (.called call outcome) = some e ∧
              e.deliveriesOf call = d.deliveriesOf call ++ [(listener, message)]) ∧
          ∀ outcome, publication.settled = some outcome →
            d.deliveriesOf call = (b.listenersOf message).map (fun listener => (listener, message)) ∧
            ((∃ reason, outcome = .rejected reason) ↔
              ∃ listener ∈ b.listenersOf message, ∃ reason, publication.outcomes listener = some (.rejected reason)) ∧
            (Reach step (HeardLast call) c after d →
              ∀ listener ∈ b.listenersOf message, (publication.outcomes listener).isSome = true)) ∧
    ∀ trace (b c : EventBus ι P C) call listener, Reach step (fun _ _ => True) create trace b →
      b.step (.heard call listener) = some c → ¬HeardLast call b (.heard call listener) →
        ∃ trace d publication outcome, Reach step (fun _ _ => True) c trace d ∧
          d.publications call = some publication ∧ publication.settled = some outcome ∧
            ∃ handler ∈ publication.listeners, publication.outcomes handler = none := by
  refine ⟨fun before after b c d call message first publish later => ?_,
    fun trace b c call listener _ run early => settles_early run early⟩
  have orderly := Orderly.create.reach first
  obtain ⟨fresh, rfl⟩ := step_publish publish
  have orderly' := orderly.moves (step_moves publish)
  obtain ⟨publication, entry, rfl, same⟩ := (Published.publish b call message).reach later
  have faithful := (orderly'.reach later).faithful call publication entry
  have delivered := faithful.delivered
  rw [← same]
  refine ⟨publication, entry, faithful.distinct, ?_,
    fun listener rest next outcome => next_callable (orderly'.reach later) entry next outcome,
    fun outcome settled => ⟨faithful.delivered_of_settled settled, faithful.rejected_iff settled, fun waited => ?_⟩⟩
  · obtain ⟨called, whole, handed⟩ := delivered
    rw [handed, whole, List.map_append]
    exact List.prefix_append _ _
  · exact (Patient.publish b call publication.message).reach orderly' waited publication entry outcome
      (faithful.result outcome settled).2

end Runs

section Stations

/-- A bus with the telemetry listeners of two broker connections. -/
def twoConnections : EventBus Nat Unit Unit where
  parserListeners := [0, 1]
  commandListeners := []
  publications := fun _ => none
  deliveries := []

theorem twoConnections_reached : Reach step (fun _ _ => True) create
    [.addParserListener 0, .addParserListener 1] twoConnections :=
  .next (s := { twoConnections with parserListeners := [0] }) (.next .start trivial rfl) trivial rfl

/-- The first listener has failed, the second is still publishing, and the call
settles. -/
theorem publication_settles_early : ¬∀ before after (b c d : EventBus Nat Unit Unit) call message publication outcome,
    Reach step (fun _ _ => True) create before b → b.step (.publish call message) = some c →
      Reach step (fun _ _ => True) c after d → d.publications call = some publication →
        publication.settled = some outcome →
          ∀ listener ∈ b.listenersOf message, (publication.outcomes listener).isSome = true := by
  intro waits
  have failed : Reach step (fun _ _ => True) (twoConnections.publish 0 (.parser ())) _ _ :=
    .next (e := .handlerSettled 0 0 (.rejected (.error "client disconnecting")))
      (.next (e := .called 0 none) (.next (e := .called 0 none) .start trivial rfl) trivial rfl) trivial rfl
  have later := (failed.next (e := .heard 0 0) trivial rfl).next (e := .resumed 0) trivial rfl
  have waited := waits _ _ _ _ _ 0 (.parser ()) _ _ twoConnections_reached rfl later rfl rfl 1 (by decide)
  exact absurd waited (by decide)

/-- The second listener ends before the failure of the first is heard. -/
theorem publication_waits_for_both : ∃ trace d publication,
    Reach step (HeardLast 0) (twoConnections.publish 0 (.parser ())) trace d ∧ d.publications 0 = some publication ∧
      publication.settled = some (.rejected (.error "client disconnecting")) ∧
      d.deliveriesOf 0 = [(0, BusMessage.parser ()), (1, BusMessage.parser ())] ∧
      ∀ listener ∈ twoConnections.listenersOf (.parser ()), (publication.outcomes listener).isSome = true := by
  have called : Reach step (HeardLast 0) (twoConnections.publish 0 (.parser ())) _ _ :=
    .next (e := .called 0 none) (.next (e := .called 0 none) .start (by trivial) rfl) (by trivial) rfl
  have settled := (called.next (e := .handlerSettled 0 0 (.rejected (.error "client disconnecting"))) (by trivial) rfl).next
    (e := .handlerSettled 0 1 (.fulfilled ())) (by trivial) rfl
  have later := (settled.next (e := .heard 0 0) (by
    rintro - publication reason entry - handler member
    cases entry
    revert handler
    decide) rfl).next (e := .resumed 0) (by trivial) rfl
  obtain ⟨publication, entry, -, -, -, once⟩ := publication_waits.1 _ _ _ _ _ 0 (.parser ()) twoConnections_reached rfl
    (later.mono fun _ _ _ => trivial)
  cases entry
  obtain ⟨handed, -, waited⟩ := once _ rfl
  exact ⟨_, _, _, later, rfl, rfl, handed, waited later⟩

end Stations

end EventBus

end BluettiMqtt
