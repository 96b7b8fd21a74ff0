import BluettiMqtt.App.DeviceWorkQueue
import BluettiMqtt.Library.FairMutex
import BluettiMqtt.Library.Transition
import Mathlib.Algebra.Order.BigOperators.Group.List
import Mathlib.Algebra.Order.Ring.Nat
import Mathlib.Data.Fintype.EquivFin

namespace BluettiMqtt
open Promise Transition

variable {ε α : Type*}

/-- The calls made for one address. -/
def lane (calls : List (String × Nat)) (address : String) : List Nat :=
  (calls.filter fun call => call.1 = address).map Prod.snd

@[simp] theorem lane_append_self (calls : List (String × Nat)) (address : String) (work : Nat) :
    lane (calls ++ [(address, work)]) address = lane calls address ++ [work] := by
  simp [lane]

theorem lane_append_of_ne (calls : List (String × Nat)) {address other : String} (work : Nat)
    (different : address ≠ other) : lane (calls ++ [(address, work)]) other = lane calls other := by
  simp [lane, different]

theorem mem_lane {calls : List (String × Nat)} {address : String} {work : Nat} :
    work ∈ lane calls address ↔ (address, work) ∈ calls := by
  simp [lane]

theorem lane_nodup {calls : List (String × Nat)} (distinct : (calls.map Prod.snd).Nodup)
    (address : String) : (lane calls address).Nodup :=
  distinct.sublist (List.filter_sublist.map Prod.snd)

namespace DeviceWorkQueue

/-- The works in `live` await one another: the first awaits `previous`, each
other the promise its predecessor has made, and `tail` is the promise made
last. -/
def Linked (works : Table Nat (Work ε α)) : Chain Nat → List Nat → Chain Nat → Prop
  | previous, [], tail => tail = previous
  | previous, work :: rest, tail =>
    (works work).map Work.previous = some previous ∧ Linked works (.next previous work) rest tail

theorem Linked.append {works : Table Nat (Work ε α)} {previous tail : Chain Nat} {live : List Nat}
    {work : Nat} (linked : Linked works previous live tail)
    (awaits : (works work).map Work.previous = some tail) :
    Linked works previous (live ++ [work]) (.next tail work) := by
  induction live generalizing previous with
  | nil =>
    cases linked
    exact ⟨awaits, rfl⟩
  | cons first rest ih => exact ⟨linked.1, ih linked.2⟩

theorem Linked.congr {works others : Table Nat (Work ε α)} {previous tail : Chain Nat} {live : List Nat}
    (linked : Linked works previous live tail)
    (same : ∀ work ∈ live, (others work).map Work.previous = (works work).map Work.previous) :
    Linked others previous live tail := by
  induction live generalizing previous with
  | nil => exact linked
  | cons first rest ih =>
    exact ⟨(same first (List.mem_cons_self ..)).trans linked.1,
      ih linked.2 fun work member => same work (List.mem_cons_of_mem _ member)⟩

/-- Whoever awaits a fulfilled promise of the chain finds its start fulfilled. -/
theorem Linked.fulfilled {works : Table Nat (Work ε α)} {released : Nat → Bool} {previous tail : Chain Nat}
    {live : List Nat} (linked : Linked works previous live tail) {work : Nat} (member : work ∈ live)
    {record : Work ε α} (entry : works work = some record)
    (ready : record.previous.fulfilled released = true) : previous.fulfilled released = true := by
  induction live generalizing previous with
  | nil => cases member
  | cons first rest ih =>
    rcases List.mem_cons.mp member with rfl | later
    · have same : record.previous = previous := by simpa [entry] using linked.1
      exact same ▸ ready
    · have next := ih linked.2 later
      exact (Bool.and_eq_true_iff.mp next).1

/-- The promise made last belongs to the last work of the chain. -/
theorem Linked.tail_eq {works : Table Nat (Work ε α)} {previous tail : Chain Nat} {live : List Nat}
    (linked : Linked works previous live tail) :
    live = [] ∧ tail = previous ∨ ∃ before last, last ∈ live ∧ tail = .next before last := by
  induction live generalizing previous with
  | nil => exact Or.inl ⟨rfl, linked⟩
  | cons first rest ih =>
    rcases ih linked.2 with ⟨_, rfl⟩ | ⟨before, last, member, same⟩
    · exact Or.inr ⟨previous, first, List.mem_cons_self .., rfl⟩
    · exact Or.inr ⟨before, last, List.mem_cons_of_mem _ member, same⟩

/-- Bookkeeping that concerns each call by itself. -/
structure Tidy (q : DeviceWorkQueue ε α) : Prop where
  known : ∀ work record, q.works work = some record → (record.address, work) ∈ q.enqueued
  listed : ∀ address work, (address, work) ∈ q.enqueued →
    ∃ record, q.works work = some record ∧ record.address = address
  distinct : (q.enqueued.map Prod.snd).Nodup
  released : ∀ work record, q.works work = some record →
    (record.released = true ↔ ∃ outcome, record.phase = .settled outcome)
  outcome : ∀ work record outcome, q.works work = some record →
    record.phase = .finishing outcome ∨ record.phase = .settled outcome → q.outcomes work = some outcome

/-- The calls for one address are those of the abstract lock `m`, and the
entry of the address is the promise of its last unsettled call. -/
structure Represents (q : DeviceWorkQueue ε α) (address : String) (m : FairMutex Nat) : Prop where
  calls : lane q.enqueued address = m.calls
  grants : lane q.started address = m.grants
  done : ∀ work ∈ m.done, ∃ record outcome, q.works work = some record ∧ record.phase = .settled outcome
  held : ∀ work, m.holder = some work → ∃ record, q.works work = some record ∧ record.phase.isActive = true
  waits : ∀ work ∈ m.waiting, ∃ record, q.works work = some record ∧ record.phase = .waiting
  linked : ∃ previous tail, q.fulfilled previous = true ∧
    Linked q.works previous (m.holder.toList ++ m.waiting) tail ∧
    q.deviceQueues address = if m.holder.toList ++ m.waiting = [] then none else some tail

theorem Represents.mem_calls {q : DeviceWorkQueue ε α} {address : String} {m : FairMutex Nat}
    (represents : q.Represents address m) (tidy : q.Tidy) {work : Nat} {record : Work ε α}
    (entry : q.works work = some record) (here : record.address = address) : work ∈ m.calls := by
  rw [← represents.calls, mem_lane, ← here]
  exact tidy.known work record entry

theorem Represents.address {q : DeviceWorkQueue ε α} {address : String} {m : FairMutex Nat}
    (represents : q.Represents address m) (tidy : q.Tidy) {work : Nat} (member : work ∈ m.calls) :
    ∃ record, q.works work = some record ∧ record.address = address := by
  rw [← represents.calls, mem_lane] at member
  exact tidy.listed address work member

/-- Where a call stands is told by its phase. -/
theorem Represents.mem_waiting {q : DeviceWorkQueue ε α} {address : String} {m : FairMutex Nat}
    (represents : q.Represents address m) (tidy : q.Tidy) {work : Nat} {record : Work ε α}
    (entry : q.works work = some record) (here : record.address = address)
    (waiting : record.phase = .waiting) : work ∈ m.waiting := by
  have member := represents.mem_calls tidy entry here
  simp only [FairMutex.calls, List.mem_append, Option.mem_toList] at member
  rcases member with (done | held) | waits
  · obtain ⟨found, outcome, atFound, settled⟩ := represents.done work done
    cases entry.symm.trans atFound
    cases waiting.symm.trans settled
  · obtain ⟨found, atFound, active⟩ := represents.held work held
    cases entry.symm.trans atFound
    simp [waiting, WorkPhase.isActive] at active
  · exact waits

theorem Represents.holder {q : DeviceWorkQueue ε α} {address : String} {m : FairMutex Nat}
    (represents : q.Represents address m) (tidy : q.Tidy) {work : Nat} {record : Work ε α}
    (entry : q.works work = some record) (here : record.address = address)
    (active : record.phase.isActive = true) : m.holder = some work := by
  have member := represents.mem_calls tidy entry here
  simp only [FairMutex.calls, List.mem_append, Option.mem_toList] at member
  rcases member with (done | held) | waits
  · obtain ⟨found, outcome, atFound, settled⟩ := represents.done work done
    cases entry.symm.trans atFound
    simp [settled, WorkPhase.isActive] at active
  · exact held
  · obtain ⟨found, atFound, waiting⟩ := represents.waits work waits
    cases entry.symm.trans atFound
    simp [waiting, WorkPhase.isActive] at active

/-- The call of `work` changes from `old` to `record` and no other call does. -/
structure Updates (q t : DeviceWorkQueue ε α) (work : Nat) (old record : Work ε α) : Prop where
  before : q.works work = some old
  works : t.works = q.works.insert work record
  address : record.address = old.address
  previous : record.previous = old.previous
  released : old.released = true → record.released = true

theorem Updates.here {q t : DeviceWorkQueue ε α} {work : Nat} {old record : Work ε α}
    (updates : Updates q t work old record) : t.works work = some record := by
  rw [updates.works, Table.insert_self]

theorem Updates.other {q t : DeviceWorkQueue ε α} {work : Nat} {old record : Work ε α}
    (updates : Updates q t work old record) {other : Nat} (different : other ≠ work) :
    t.works other = q.works other := by
  rw [updates.works, Table.insert_of_ne _ _ different]

theorem Updates.awaits {q t : DeviceWorkQueue ε α} {work : Nat} {old record : Work ε α}
    (updates : Updates q t work old record) (other : Nat) :
    (t.works other).map Work.previous = (q.works other).map Work.previous := by
  by_cases same : other = work
  · rw [same, updates.here, updates.before]
    simp [updates.previous]
  · rw [updates.other same]

theorem Updates.fulfilled {q t : DeviceWorkQueue ε α} {work : Nat} {old record : Work ε α}
    (updates : Updates q t work old record) {promise : Chain Nat} (fulfilled : q.fulfilled promise = true) :
    t.fulfilled promise = true := by
  refine Chain.fulfilled_mono (fun other released => ?_) fulfilled
  by_cases same : other = work
  · subst same
    simp only [DeviceWorkQueue.released, updates.before, updates.here, Option.elim] at released ⊢
    exact updates.released released
  · simpa only [DeviceWorkQueue.released, updates.other same] using released

theorem Updates.tidy {q t : DeviceWorkQueue ε α} {work : Nat} {old record : Work ε α}
    (updates : Updates q t work old record) (tidy : q.Tidy) (enqueued : t.enqueued = q.enqueued)
    (released : record.released = true ↔ ∃ outcome, record.phase = .settled outcome)
    (outcomes : ∀ other, other ≠ work → t.outcomes other = q.outcomes other)
    (outcome : ∀ outcome, record.phase = .finishing outcome ∨ record.phase = .settled outcome →
      t.outcomes work = some outcome) : t.Tidy := by
  refine ⟨?_, ?_, ?_, ?_, ?_⟩
  · intro other found entry
    rw [enqueued]
    by_cases same : other = work
    · rw [same, updates.here] at entry
      cases entry
      rw [same, updates.address]
      exact tidy.known work old updates.before
    · exact tidy.known other found (updates.other same ▸ entry)
  · intro address other member
    rw [enqueued] at member
    obtain ⟨found, entry, here⟩ := tidy.listed address other member
    by_cases same : other = work
    · subst same
      cases updates.before.symm.trans entry
      exact ⟨record, updates.here, updates.address.trans here⟩
    · exact ⟨found, (updates.other same).trans entry, here⟩
  · rw [enqueued]
    exact tidy.distinct
  · intro other found entry
    by_cases same : other = work
    · rw [same, updates.here] at entry
      cases entry
      exact released
    · exact tidy.released other found (updates.other same ▸ entry)
  · intro other found ended entry
    by_cases same : other = work
    · rw [same, updates.here] at entry
      cases entry
      rw [same]
      exact outcome ended
    · rw [outcomes other same]
      exact tidy.outcome other found ended (updates.other same ▸ entry)

/-- What happens for one address leaves the others alone. -/
theorem Represents.frame {q t : DeviceWorkQueue ε α} {address : String} {m : FairMutex Nat}
    (represents : q.Represents address m) (enqueued : lane t.enqueued address = lane q.enqueued address)
    (started : lane t.started address = lane q.started address)
    (works : ∀ work ∈ m.calls, t.works work = q.works work)
    (fulfilled : ∀ promise, q.fulfilled promise = true → t.fulfilled promise = true)
    (entry : t.deviceQueues address = q.deviceQueues address) : t.Represents address m := by
  have done (work : Nat) (member : work ∈ m.done) : t.works work = q.works work :=
    works work (by simp [FairMutex.calls, member])
  have live (work : Nat) (member : work ∈ m.holder.toList ++ m.waiting) : t.works work = q.works work :=
    works work (by
      rw [FairMutex.calls, List.append_assoc]
      exact List.mem_append_right _ member)
  refine ⟨enqueued.trans represents.calls, started.trans represents.grants, ?_, ?_, ?_, ?_⟩
  · intro work member
    rw [done work member]
    exact represents.done work member
  · intro work holds
    rw [live work (by simp [holds])]
    exact represents.held work holds
  · intro work member
    rw [live work (List.mem_append_right _ member)]
    exact represents.waits work member
  · obtain ⟨previous, tail, ready, linked, held⟩ := represents.linked
    exact ⟨previous, tail, fulfilled previous ready,
      linked.congr fun work member => by rw [live work member], entry.trans held⟩

theorem Tidy.unreleased {q : DeviceWorkQueue ε α} (tidy : q.Tidy) {work : Nat} {record : Work ε α}
    (entry : q.works work = some record) (open_ : ∀ outcome, record.phase ≠ .settled outcome) :
    q.released work = false := by
  refine Bool.eq_false_iff.mpr fun released => ?_
  simp only [DeviceWorkQueue.released, entry, Option.elim] at released
  obtain ⟨outcome, settled⟩ := (tidy.released work record entry).mp released
  exact open_ outcome settled

/-- A work whose turn it is stands first among the unsettled ones. -/
theorem Represents.turn {q : DeviceWorkQueue ε α} {address : String} {m : FairMutex Nat}
    (represents : q.Represents address m) (tidy : q.Tidy) {work : Nat} {record : Work ε α}
    (entry : q.works work = some record) (here : record.address = address)
    (waiting : record.phase = .waiting) (ready : q.fulfilled record.previous = true) :
    m.holder = none ∧ ∃ rest, m.waiting = work :: rest := by
  have member := represents.mem_waiting tidy entry here waiting
  obtain ⟨previous, tail, _, linked, _⟩ := represents.linked
  cases holder : m.holder with
  | some held =>
    rw [holder] at linked
    obtain ⟨found, atFound, active⟩ := represents.held held holder
    have open_ := tidy.unreleased atFound fun outcome settled => by simp [settled, WorkPhase.isActive] at active
    have next := linked.2.fulfilled member entry ready
    rw [(Bool.and_eq_true_iff.mp next).2] at open_
    cases open_
  | none =>
    refine ⟨rfl, ?_⟩
    cases line : m.waiting with
    | nil => simp [line] at member
    | cons first rest =>
      rw [holder, line] at linked
      rcases List.mem_cons.mp (line ▸ member) with rfl | later
      · exact ⟨rest, rfl⟩
      · obtain ⟨found, atFound, waits⟩ := represents.waits first (by simp [line])
        have open_ := tidy.unreleased atFound fun outcome settled => by cases waits.symm.trans settled
        have next := linked.2.fulfilled later entry ready
        rw [(Bool.and_eq_true_iff.mp next).2] at open_
        cases open_

/-- Every address has its lock, and the bookkeeping is in order. -/
structure Fair (q : DeviceWorkQueue ε α) : Prop where
  tidy : q.Tidy
  represents : ∀ address, ∃ m, q.Represents address m

theorem fair_create : (create : DeviceWorkQueue ε α).Fair := by
  refine ⟨by constructor <;> simp [create], fun address => ⟨.free, rfl, rfl, by simp [FairMutex.free],
    by simp [FairMutex.free], by simp [FairMutex.free], .resolved, .resolved, rfl, rfl, ?_⟩⟩
  simp [FairMutex.free, create]

/-- Calls of other addresses see nothing of an update. -/
theorem Fair.elsewhere {q t : DeviceWorkQueue ε α} (fair : q.Fair) {work : Nat} {old record : Work ε α}
    (updates : Updates q t work old record) (enqueued : t.enqueued = q.enqueued) {address : String}
    (different : old.address ≠ address) (started : lane t.started address = lane q.started address)
    (entry : t.deviceQueues address = q.deviceQueues address) : ∃ m, t.Represents address m := by
  obtain ⟨m, represents⟩ := fair.represents address
  refine ⟨m, represents.frame (by rw [enqueued]) started ?_ (fun _ => updates.fulfilled) entry⟩
  intro other member
  refine updates.other fun same => ?_
  obtain ⟨found, atFound, here⟩ := represents.address fair.tidy member
  rw [same] at atFound
  cases updates.before.symm.trans atFound
  exact different here

theorem setPhase_updates {q : DeviceWorkQueue ε α} {work : Nat} {record : Work ε α}
    (entry : q.works work = some record) (phase : WorkPhase ε α) :
    Updates q (q.setPhase work phase) work record { record with phase := phase } :=
  ⟨entry, Table.adjust_eq_insert _ entry, rfl, rfl, fun released => released⟩

section Phases

variable {q : DeviceWorkQueue ε α} {work : Nat} {record : Work ε α} {address : String} {m : FairMutex Nat}

/-- The work whose turn it is takes the lock. -/
theorem Represents.begin (represents : q.Represents address m) (tidy : q.Tidy)
    (entry : q.works work = some record) (here : record.address = address) (waiting : record.phase = .waiting)
    (ready : q.fulfilled record.previous = true) (updates : Updates q (q.begin work record) work record
      { record with phase := .running }) : ∃ n, m.acquire = some n ∧ (q.begin work record).Represents address n := by
  obtain ⟨idle, rest, line⟩ := represents.turn tidy entry here waiting ready
  have distinct := lane_nodup tidy.distinct address
  rw [represents.calls, FairMutex.calls, idle, line] at distinct
  simp only [Option.toList_none, List.append_nil] at distinct
  obtain ⟨_, single, apart⟩ := List.nodup_append.mp distinct
  have acquired : m.acquire = some { m with holder := some work, waiting := rest } :=
    FairMutex.acquire_eq_some.mpr ⟨work, rest, idle, line, rfl⟩
  refine ⟨_, acquired, ?_, ?_, ?_, ?_, ?_, ?_⟩
  · rw [FairMutex.calls_acquire acquired]
    exact represents.calls
  · rw [FairMutex.grants_acquire acquired rfl, ← represents.grants, ← here]
    exact lane_append_self _ _ _
  · intro other member
    rw [updates.other (apart other member work (List.mem_cons_self ..))]
    exact represents.done other member
  · intro other holds
    cases Option.some.inj holds
    exact ⟨_, updates.here, rfl⟩
  · intro other member
    rw [updates.other fun same => (List.nodup_cons.mp single).1 (same ▸ member)]
    exact represents.waits other (by simp [line, member])
  · obtain ⟨previous, tail, first, linked, held⟩ := represents.linked
    rw [idle, line] at linked held
    exact ⟨previous, tail, updates.fulfilled first, linked.congr fun other _ => updates.awaits other, held⟩

theorem Fair.begin (fair : q.Fair) (entry : q.works work = some record) (waiting : record.phase = .waiting)
    (ready : q.fulfilled record.previous = true) : (q.begin work record).Fair := by
  have updates : Updates q (q.begin work record) work record { record with phase := .running } :=
    ⟨entry, (setPhase_updates entry .running).works, rfl, rfl, fun released => released⟩
  have unreleased : record.released ≠ true := by
    rw [Ne, fair.tidy.released work record entry]
    simp [waiting]
  refine ⟨updates.tidy fair.tidy rfl (by simpa using unreleased) (fun _ _ => rfl) (by simp), fun address => ?_⟩
  by_cases here : record.address = address
  · obtain ⟨m, represents⟩ := fair.represents address
    obtain ⟨n, _, after⟩ := represents.begin fair.tidy entry here waiting ready updates
    exact ⟨n, after⟩
  · exact fair.elsewhere updates rfl here (lane_append_of_ne _ _ here) rfl

/-- The lock stays with a work that has ended until it is released. -/
theorem Represents.workEnded (represents : q.Represents address m) {outcome : Settlement ε α}
    (running : record.phase = .running) (updates : Updates q (q.workEnded work outcome) work record
      { record with phase := .finishing outcome }) : (q.workEnded work outcome).Represents address m := by
  have apart (other : Nat) (found : Work ε α) (atOther : q.works other = some found)
      (idle : found.phase.isActive = false) : other ≠ work := by
    intro same
    rw [same] at atOther
    cases updates.before.symm.trans atOther
    simp [running, WorkPhase.isActive] at idle
  refine ⟨represents.calls, represents.grants, ?_, ?_, ?_, ?_⟩
  · intro other member
    obtain ⟨found, ended, atFound, settled⟩ := represents.done other member
    have different := apart other found atFound (by rw [settled]; rfl)
    exact ⟨found, ended, (updates.other different).trans atFound, settled⟩
  · intro other holds
    by_cases same : other = work
    · rw [same]
      exact ⟨_, updates.here, rfl⟩
    · rw [updates.other same]
      exact represents.held other holds
  · intro other member
    obtain ⟨found, atFound, waits⟩ := represents.waits other member
    have different := apart other found atFound (by rw [waits]; rfl)
    exact ⟨found, (updates.other different).trans atFound, waits⟩
  · obtain ⟨previous, tail, first, linked, held⟩ := represents.linked
    exact ⟨previous, tail, updates.fulfilled first, linked.congr fun other _ => updates.awaits other, held⟩

theorem Fair.workEnded (fair : q.Fair) (entry : q.works work = some record) (running : record.phase = .running)
    (outcome : Settlement ε α) : (q.workEnded work outcome).Fair := by
  have updates : Updates q (q.workEnded work outcome) work record { record with phase := .finishing outcome } :=
    ⟨entry, (setPhase_updates entry _).works, rfl, rfl, fun released => released⟩
  have unreleased : record.released ≠ true := by
    rw [Ne, fair.tidy.released work record entry]
    simp [running]
  refine ⟨updates.tidy fair.tidy rfl (by simpa using unreleased)
    (fun other different => Table.insert_of_ne _ _ different) ?_, fun address => ?_⟩
  · intro ended same
    simp only [reduceCtorEq, or_false, WorkPhase.finishing.injEq] at same
    rw [← same]
    exact Table.insert_self _ _ _
  · by_cases here : record.address = address
    · obtain ⟨m, represents⟩ := fair.represents address
      exact ⟨m, represents.workEnded running updates⟩
    · exact fair.elsewhere updates rfl here rfl rfl

/-- The `finally` block releases the lock. -/
theorem Represents.finish (represents : q.Represents address m) (tidy : q.Tidy) {outcome : Settlement ε α}
    (entry : q.works work = some record) (here : record.address = address)
    (finishing : record.phase = .finishing outcome) (updates : Updates q (q.finish work record outcome) work record
      { record with released := true, phase := .settled outcome }) :
    (q.finish work record outcome).Represents address m.release := by
  have holds := represents.holder tidy entry here (by rw [finishing]; rfl)
  have distinct := lane_nodup tidy.distinct address
  rw [represents.calls, FairMutex.calls, holds, List.append_assoc] at distinct
  obtain ⟨_, live, apart⟩ := List.nodup_append.mp distinct
  simp only [Option.toList_some, List.singleton_append] at live apart
  obtain ⟨previous, tail, first, linked, held⟩ := represents.linked
  rw [holds] at linked held
  simp only [Option.toList_some, List.singleton_append, reduceCtorEq, if_false] at linked held
  have same : record.previous = previous := by simpa [entry] using linked.1
  refine ⟨?_, ?_, ?_, ?_, ?_, ?_⟩
  · rw [FairMutex.calls_release]
    exact represents.calls
  · rw [FairMutex.grants_release]
    exact represents.grants
  · intro other member
    simp only [FairMutex.release, holds, Option.toList_some, List.mem_append, List.mem_singleton] at member
    rcases member with done | rfl
    · rw [updates.other (apart other done work (List.mem_cons_self ..))]
      exact represents.done other done
    · exact ⟨_, outcome, updates.here, rfl⟩
  · intro other none_
    cases none_
  · intro other member
    rw [updates.other fun same => (List.nodup_cons.mp live).1 (same ▸ member)]
    exact represents.waits other member
  · refine ⟨.next previous work, tail, ?_, linked.2.congr fun other _ => updates.awaits other, ?_⟩
    · have released : (q.finish work record outcome).released work = true := by
        simp [DeviceWorkQueue.released, updates.here]
      exact Bool.and_eq_true_iff.mpr ⟨updates.fulfilled first, released⟩
    · simp only [DeviceWorkQueue.finish, here, held, same, FairMutex.release, Option.toList_none,
        List.nil_append]
      rcases linked.2.tail_eq with ⟨none_, rfl⟩ | ⟨before, last, member, rfl⟩
      · simp [none_, Table.erase]
      · have apart_ : last ≠ work := fun same => (List.nodup_cons.mp live).1 (same ▸ member)
        have some_ : m.waiting ≠ [] := List.ne_nil_of_mem member
        simp [apart_, some_, held]

theorem Fair.finish (fair : q.Fair) {outcome : Settlement ε α} (entry : q.works work = some record)
    (finishing : record.phase = .finishing outcome) : (q.finish work record outcome).Fair := by
  have updates : Updates q (q.finish work record outcome) work record
      { record with released := true, phase := .settled outcome } :=
    ⟨entry, rfl, rfl, rfl, fun _ => rfl⟩
  refine ⟨updates.tidy fair.tidy rfl (by simp) (fun _ _ => rfl) ?_, fun address => ?_⟩
  · intro ended same
    simp only [reduceCtorEq, false_or, WorkPhase.settled.injEq] at same
    exact fair.tidy.outcome work record ended entry (Or.inl (same ▸ finishing))
  · by_cases here : record.address = address
    · obtain ⟨m, represents⟩ := fair.represents address
      exact ⟨m.release, represents.finish fair.tidy entry here finishing updates⟩
    · refine fair.elsewhere updates rfl here rfl ?_
      simp only [DeviceWorkQueue.finish]
      split
      · simp [Table.erase, Ne.symm here]
      · rfl

end Phases

section Enqueue

variable {q : DeviceWorkQueue ε α} {work : Nat} {address : String}

theorem known_ne (fresh : q.works work = none) {other : Nat} {found : Work ε α}
    (entry : q.works other = some found) : other ≠ work := by
  intro same
  rw [same, fresh] at entry
  cases entry

theorem enqueue_added (q : DeviceWorkQueue ε α) (work : Nat) (address : String) :
    (q.enqueue work address).works work =
      some ⟨address, (q.deviceQueues address).getD .resolved, false, .waiting⟩ :=
  Table.insert_self _ _ _

theorem enqueue_old {other : Nat} (different : other ≠ work) :
    (q.enqueue work address).works other = q.works other :=
  Table.insert_of_ne _ _ different

theorem enqueue_fulfilled (fresh : q.works work = none) {promise : Chain Nat}
    (ready : q.fulfilled promise = true) : (q.enqueue work address).fulfilled promise = true := by
  refine Chain.fulfilled_mono (fun other released => ?_) ready
  cases entry : q.works other with
  | none => simp [DeviceWorkQueue.released, entry] at released
  | some found => simpa only [DeviceWorkQueue.released, enqueue_old (known_ne fresh entry)] using released

theorem Tidy.enqueue (tidy : q.Tidy) (fresh : q.works work = none) (address : String) :
    (q.enqueue work address).Tidy := by
  refine ⟨?_, ?_, ?_, ?_, ?_⟩
  · intro other found entry
    by_cases same : other = work
    · rw [same, enqueue_added] at entry
      cases entry
      simp [DeviceWorkQueue.enqueue, same]
    · exact List.mem_append_left _ (tidy.known other found (enqueue_old same ▸ entry))
  · intro place other member
    rcases List.mem_append.mp member with member | last
    · obtain ⟨found, entry, here⟩ := tidy.listed place other member
      exact ⟨found, (enqueue_old (known_ne fresh entry)).trans entry, here⟩
    · cases List.mem_singleton.mp last
      exact ⟨_, enqueue_added q work address, rfl⟩
  · rw [DeviceWorkQueue.enqueue, List.map_append, List.map_singleton]
    refine List.nodup_append.mpr ⟨tidy.distinct, List.pairwise_singleton _ _, ?_⟩
    intro other member last here same
    obtain ⟨⟨place, called⟩, listed, rfl⟩ := List.mem_map.mp member
    obtain ⟨found, entry, _⟩ := tidy.listed place called listed
    exact known_ne fresh entry (same.trans (List.mem_singleton.mp here))
  · intro other found entry
    by_cases same : other = work
    · rw [same, enqueue_added] at entry
      cases entry
      simp
    · exact tidy.released other found (enqueue_old same ▸ entry)
  · intro other found ended entry
    by_cases same : other = work
    · rw [same, enqueue_added] at entry
      cases entry
      simp
    · exact tidy.outcome other found ended (enqueue_old same ▸ entry)

theorem Represents.fresh_ne {m : FairMutex Nat} (represents : q.Represents address m) (tidy : q.Tidy)
    (fresh : q.works work = none) {earlier : Nat} (member : earlier ∈ m.calls) : earlier ≠ work := by
  obtain ⟨found, entry, _⟩ := represents.address tidy member
  exact known_ne fresh entry

/-- The new call joins the end of the line and awaits the promise made last. -/
theorem Represents.enqueue {m : FairMutex Nat} (represents : q.Represents address m) (tidy : q.Tidy)
    (fresh : q.works work = none) : (q.enqueue work address).Represents address (m.enqueue work) := by
  have kept (earlier : Nat) (member : earlier ∈ m.calls) :
      (q.enqueue work address).works earlier = q.works earlier :=
    enqueue_old (represents.fresh_ne tidy fresh member)
  have live (earlier : Nat) (member : earlier ∈ m.holder.toList ++ m.waiting) : earlier ∈ m.calls := by
    rw [FairMutex.calls, List.append_assoc]
    exact List.mem_append_right _ member
  refine ⟨?_, represents.grants, ?_, ?_, ?_, ?_⟩
  · rw [FairMutex.calls_enqueue, ← represents.calls]
    exact lane_append_self _ _ _
  · intro earlier member
    have member : earlier ∈ m.done := member
    rw [kept earlier (by simp [FairMutex.calls, member])]
    exact represents.done earlier member
  · intro earlier holds
    have holds : m.holder = some earlier := holds
    rw [kept earlier (by simp [FairMutex.calls, holds])]
    exact represents.held earlier holds
  · intro earlier member
    rcases List.mem_append.mp member with member | last
    · rw [kept earlier (by simp [FairMutex.calls, member])]
      exact represents.waits earlier member
    · cases List.mem_singleton.mp last
      exact ⟨_, enqueue_added q work address, rfl⟩
  · obtain ⟨previous, tail, first, linked, held⟩ := represents.linked
    have unaffected : Linked (q.enqueue work address).works previous (m.holder.toList ++ m.waiting) tail :=
      linked.congr fun earlier member => by rw [kept earlier (live earlier member)]
    have entry : (q.enqueue work address).deviceQueues address =
        some (.next ((q.deviceQueues address).getD .resolved) work) := Table.insert_self _ _ _
    by_cases empty : m.holder.toList ++ m.waiting = []
    · rw [if_pos empty] at held
      refine ⟨.resolved, .next .resolved work, rfl, ?_, ?_⟩
      · rw [FairMutex.enqueue, ← List.append_assoc, empty]
        exact ⟨by rw [enqueue_added]; simp [held], rfl⟩
      · simp [entry, held, FairMutex.enqueue]
    · rw [if_neg empty] at held
      refine ⟨previous, .next tail work, enqueue_fulfilled fresh first, ?_, ?_⟩
      · rw [FairMutex.enqueue, ← List.append_assoc]
        exact unaffected.append (by rw [enqueue_added]; simp [held])
      · simp [entry, held, FairMutex.enqueue]

theorem Fair.enqueue (fair : q.Fair) (fresh : q.works work = none) (address : String) :
    (q.enqueue work address).Fair := by
  refine ⟨fair.tidy.enqueue fresh address, fun other => ?_⟩
  obtain ⟨m, represents⟩ := fair.represents other
  by_cases here : address = other
  · subst here
    exact ⟨m.enqueue work, represents.enqueue fair.tidy fresh⟩
  · exact ⟨m, represents.frame (lane_append_of_ne _ _ here) rfl
      (fun earlier member => enqueue_old (represents.fresh_ne fair.tidy fresh member))
      (fun _ => enqueue_fulfilled fresh) (Table.insert_of_ne _ _ (Ne.symm here))⟩

end Enqueue

/-- The two queues differ at most in what `stop`, `reset` and `sleep` are
about. -/
structure SameWorks (q t : DeviceWorkQueue ε α) : Prop where
  works : t.works = q.works
  deviceQueues : t.deviceQueues = q.deviceQueues
  enqueued : t.enqueued = q.enqueued
  started : t.started = q.started
  outcomes : t.outcomes = q.outcomes

theorem wake_sameWorks (q : DeviceWorkQueue ε α) (call : Nat) : SameWorks q (q.wake call) := by
  unfold wake
  split
  · split <;> exact ⟨rfl, rfl, rfl, rfl, rfl⟩
  · exact ⟨rfl, rfl, rfl, rfl, rfl⟩

theorem foldl_wake_sameWorks (calls : List Nat) (q : DeviceWorkQueue ε α) :
    SameWorks q (calls.foldl wake q) := by
  induction calls generalizing q with
  | nil => exact ⟨rfl, rfl, rfl, rfl, rfl⟩
  | cons first rest ih =>
    have here := wake_sameWorks q first
    have later := ih (q.wake first)
    exact ⟨later.works.trans here.works, later.deviceQueues.trans here.deviceQueues,
      later.enqueued.trans here.enqueued, later.started.trans here.started, later.outcomes.trans here.outcomes⟩

theorem Fair.same {q t : DeviceWorkQueue ε α} (fair : q.Fair) (same : SameWorks q t) : t.Fair := by
  have fulfilled (promise : Chain Nat) (ready : q.fulfilled promise = true) : t.fulfilled promise = true :=
    Chain.fulfilled_mono (fun other released => by
      simpa only [DeviceWorkQueue.released, same.works] using released) ready
  refine ⟨⟨?_, ?_, ?_, ?_, ?_⟩, fun address => ?_⟩
  · rw [same.works, same.enqueued]
    exact fair.tidy.known
  · rw [same.works, same.enqueued]
    exact fair.tidy.listed
  · rw [same.enqueued]
    exact fair.tidy.distinct
  · rw [same.works]
    exact fair.tidy.released
  · rw [same.works, same.outcomes]
    exact fair.tidy.outcome
  · obtain ⟨m, represents⟩ := fair.represents address
    exact ⟨m, represents.frame (by rw [same.enqueued]) (by rw [same.started]) (fun _ _ => by rw [same.works])
      fulfilled (by rw [same.deviceQueues])⟩

theorem WorkPhase.isWaiting_iff {phase : WorkPhase ε α} : phase.isWaiting = true ↔ phase = .waiting := by
  cases phase <;> simp [WorkPhase.isWaiting]

theorem WorkPhase.isRunning_iff {phase : WorkPhase ε α} : phase.isRunning = true ↔ phase = .running := by
  cases phase <;> simp [WorkPhase.isRunning]

/-- Everything a step can do to the works. -/
inductive Effect (q : DeviceWorkQueue ε α) : WorkQueueEvent ε α → DeviceWorkQueue ε α → Prop
  | enqueued {work address} : q.works work = none → Effect q (.enqueue work address) (q.enqueue work address)
  | started {work record} : q.works work = some record → record.phase = .waiting →
      q.fulfilled record.previous = true → Effect q (.start work none) (q.begin work record)
  | threw {work record error} : q.works work = some record → record.phase = .waiting →
      q.fulfilled record.previous = true → Effect q (.start work (some error))
        (((q.begin work record).workEnded work (.rejected error)).finish work record (.rejected error))
  | ended {work record outcome} : q.works work = some record → record.phase = .running →
      Effect q (.workSettled work outcome) (q.workEnded work outcome)
  | finished {work record outcome} : q.works work = some record → record.phase = .finishing outcome →
      Effect q (.finish work) (q.finish work record outcome)
  | unrelated {e t} : SameWorks q t → Effect q e t

theorem step_effect {q t : DeviceWorkQueue ε α} {e : WorkQueueEvent ε α} (run : q.step e = some t) :
    q.Effect e t := by
  cases e with
  | enqueue work address =>
    obtain ⟨fresh, same⟩ := Option.ite_none_right_eq_some.mp run
    cases Option.some.inj same
    exact .enqueued (Option.isNone_iff_eq_none.mp fresh)
  | start work thrown =>
    simp only [step] at run
    split at run
    next record entry =>
      obtain ⟨turn, same⟩ := Option.ite_none_right_eq_some.mp run
      obtain ⟨waiting, ready⟩ := Bool.and_eq_true_iff.mp turn
      have waiting := WorkPhase.isWaiting_iff.mp waiting
      cases thrown with
      | none =>
        cases Option.some.inj same
        exact .started entry waiting ready
      | some error =>
        cases Option.some.inj same
        exact .threw entry waiting ready
    next => cases run
  | workSettled work outcome =>
    simp only [step] at run
    split at run
    next record entry =>
      obtain ⟨running, same⟩ := Option.ite_none_right_eq_some.mp run
      cases Option.some.inj same
      exact .ended entry (WorkPhase.isRunning_iff.mp running)
    next => cases run
  | finish work =>
    simp only [step] at run
    split at run
    next record entry =>
      split at run
      next outcome finishing =>
        cases Option.some.inj run
        exact .finished entry finishing
      next => cases run
    next => cases run
  | stop =>
    cases Option.some.inj run
    have woken := foldl_wake_sameWorks q.sleepWaiters { q with stopRequested := true }
    exact .unrelated ⟨woken.works, woken.deviceQueues, woken.enqueued, woken.started, woken.outcomes⟩
  | reset =>
    cases Option.some.inj run
    exact .unrelated ⟨rfl, rfl, rfl, rfl, rfl⟩
  | sleep call ms =>
    obtain ⟨_, same⟩ := Option.ite_none_right_eq_some.mp run
    cases Option.some.inj same
    unfold sleep
    split <;> exact .unrelated ⟨rfl, rfl, rfl, rfl, rfl⟩
  | sleepTimer call =>
    simp only [step] at run
    split at run
    next record entry =>
      obtain ⟨_, same⟩ := Option.ite_none_right_eq_some.mp run
      cases Option.some.inj same
      exact .unrelated (wake_sameWorks q call)
    next => cases run

theorem Fair.step {q t : DeviceWorkQueue ε α} {e : WorkQueueEvent ε α} (fair : q.Fair)
    (run : q.step e = some t) : t.Fair := by
  cases step_effect run with
  | enqueued fresh => exact fair.enqueue fresh _
  | started entry waiting ready => exact fair.begin entry waiting ready
  | @threw work record error entry waiting ready =>
    have began := fair.begin entry waiting ready
    have running : (q.begin work record).works work = some { record with phase := .running } := by
      rw [DeviceWorkQueue.begin, (setPhase_updates entry .running).works, Table.insert_self]
    have ended := began.workEnded running rfl (.rejected error)
    have finishing : ((q.begin work record).workEnded work (.rejected error)).works work =
        some { record with phase := .finishing (.rejected error) } := by
      rw [DeviceWorkQueue.workEnded, (setPhase_updates running _).works, Table.insert_self]
    have finished := ended.finish finishing rfl
    exact finished
  | ended entry running => exact fair.workEnded entry running _
  | finished entry finishing => exact fair.finish entry finishing
  | unrelated same => exact fair.same same

/-- What is recorded as the outcome of a work is how the work itself ended. -/
theorem outcome_origin {trace : List (WorkQueueEvent ε α)} {q : DeviceWorkQueue ε α}
    (reach : Reach DeviceWorkQueue.step (fun _ _ => True) create trace q) {work : Nat} {outcome : Settlement ε α}
    (ended : q.outcomes work = some outcome) :
    .workSettled work outcome ∈ trace ∨ ∃ error, outcome = .rejected error ∧ .start work (some error) ∈ trace := by
  induction reach with
  | start => cases ended
  | @next trace s e t _ _ run ih =>
    have earlier (old : s.outcomes work = some outcome) :
        .workSettled work outcome ∈ trace ++ [e] ∨
          ∃ error, outcome = .rejected error ∧ .start work (some error) ∈ trace ++ [e] := by
      rcases ih old with settled | ⟨error, rejected, threw⟩
      · exact Or.inl (List.mem_append_left _ settled)
      · exact Or.inr ⟨error, rejected, List.mem_append_left _ threw⟩
    cases step_effect run with
    | enqueued => exact earlier ended
    | started => exact earlier ended
    | @threw called record error =>
      rcases Table.insert_eq_some.mp ended with ⟨rfl, rfl⟩ | ⟨_, old⟩
      · exact Or.inr ⟨error, rfl, List.mem_append_right _ (List.mem_singleton_self _)⟩
      · exact earlier old
    | @ended called record result =>
      rcases Table.insert_eq_some.mp ended with ⟨rfl, rfl⟩ | ⟨_, old⟩
      · exact Or.inl (List.mem_append_right _ (List.mem_singleton_self _))
      · exact earlier old
    | finished => exact earlier ended
    | unrelated same => exact earlier (same.outcomes ▸ ended)

/-- The entry of an address is there as long as one of its calls is. -/
theorem Fair.entry_none_iff {q : DeviceWorkQueue ε α} (fair : q.Fair) (address : String) :
    q.deviceQueues address = none ↔ ∀ work record, q.works work = some record → record.address = address →
      ∃ outcome, record.phase = .settled outcome := by
  obtain ⟨m, represents⟩ := fair.represents address
  obtain ⟨previous, tail, _, _, held⟩ := represents.linked
  rw [held]
  constructor
  · intro gone work record entry here
    have empty : m.holder.toList ++ m.waiting = [] := by
      by_contra live
      simp [live] at gone
    have member := represents.mem_calls fair.tidy entry here
    rw [FairMutex.calls, List.append_assoc, empty, List.append_nil] at member
    obtain ⟨found, outcome, atFound, settled⟩ := represents.done work member
    cases entry.symm.trans atFound
    exact ⟨outcome, settled⟩
  · intro settled
    refine if_pos (List.eq_nil_iff_forall_not_mem.mpr fun work member => ?_)
    have called : work ∈ m.calls := by
      rw [FairMutex.calls, List.append_assoc]
      exact List.mem_append_right _ member
    obtain ⟨record, entry, here⟩ := represents.address fair.tidy called
    obtain ⟨outcome, ended⟩ := settled work record entry here
    simp only [List.mem_append, Option.mem_toList] at member
    rcases member with holds | waits
    · obtain ⟨found, atFound, active⟩ := represents.held work holds
      cases entry.symm.trans atFound
      simp [ended, WorkPhase.isActive] at active
    · obtain ⟨found, atFound, waiting⟩ := represents.waits work waits
      cases entry.symm.trans atFound
      cases ended.symm.trans waiting

/-- The call waits, was made before all others of the address that wait, and its
work may start. -/
def Next (q : DeviceWorkQueue ε α) (address : String) (first : Nat) : Prop :=
  ∃ found, q.works first = some found ∧ found.address = address ∧ found.phase = .waiting ∧
    (∀ other later, q.works other = some later → later.address = address → later.phase = .waiting →
      other = first ∨ [first, other].Sublist (lane q.enqueued address)) ∧
    ∀ thrown, (q.step (.start first thrown)).isSome = true

/-- A waiting work is behind a running one of its address, or the first in
line may start. -/
theorem Fair.progress {q : DeviceWorkQueue ε α} (fair : q.Fair) {work : Nat} {record : Work ε α}
    (entry : q.works work = some record) (waiting : record.phase = .waiting) :
    (∃ other found, q.works other = some found ∧ found.address = record.address ∧
      found.phase.isActive = true ∧ [other, work].Sublist (lane q.enqueued record.address)) ∨
    ∃ first, q.Next record.address first := by
  obtain ⟨m, represents⟩ := fair.represents record.address
  have member := represents.mem_waiting fair.tidy entry rfl waiting
  cases holder : m.holder with
  | some holds =>
    obtain ⟨found, atFound, active⟩ := represents.held holds holder
    have called : holds ∈ m.calls := by simp [FairMutex.calls, holder]
    obtain ⟨same, atSame, here⟩ := represents.address fair.tidy called
    cases atFound.symm.trans atSame
    refine Or.inl ⟨holds, found, atFound, here, active, ?_⟩
    rw [represents.calls]
    exact FairMutex.holder_before holder member
  | none =>
    cases line : m.waiting with
    | nil => simp [line] at member
    | cons first rest =>
      obtain ⟨found, atFound, waits⟩ := represents.waits first (by simp [line])
      have called : first ∈ m.calls := by simp [FairMutex.calls, line]
      obtain ⟨same, atSame, here⟩ := represents.address fair.tidy called
      cases atFound.symm.trans atSame
      obtain ⟨previous, tail, ready, linked, _⟩ := represents.linked
      rw [holder, line] at linked
      have awaits : found.previous = previous := by simpa [atFound] using linked.1
      refine Or.inr ⟨first, found, atFound, here, waits, ?_, ?_⟩
      · intro other later atLater place waits
        rcases List.mem_cons.mp (line ▸ represents.mem_waiting fair.tidy atLater place waits) with rfl | behind
        · exact Or.inl rfl
        · rw [represents.calls]
          exact Or.inr (FairMutex.head_before line behind)
      · intro thrown
        cases thrown <;> simp [DeviceWorkQueue.step, atFound, waits, WorkPhase.isWaiting, awaits, ready]

/-- The work whose turn it is was called before all others that wait. -/
theorem Fair.leads {q : DeviceWorkQueue ε α} (fair : q.Fair) {work other : Nat} {record later : Work ε α}
    (entry : q.works work = some record) (waiting : record.phase = .waiting)
    (ready : q.fulfilled record.previous = true) (entry_other : q.works other = some later)
    (same : later.address = record.address) (waits : later.phase = .waiting) :
    other = work ∨ [work, other].Sublist (lane q.enqueued record.address) := by
  obtain ⟨m, represents⟩ := fair.represents record.address
  obtain ⟨_, rest, line⟩ := represents.turn fair.tidy entry rfl waiting ready
  rcases List.mem_cons.mp (line ▸ represents.mem_waiting fair.tidy entry_other same waits) with here | behind
  · exact Or.inl here
  · rw [represents.calls]
    exact Or.inr (FairMutex.head_before line behind)

theorem Fair.one_active {q : DeviceWorkQueue ε α} (fair : q.Fair) {left right : Nat} {l r : Work ε α}
    (atLeft : q.works left = some l) (atRight : q.works right = some r) (same : l.address = r.address)
    (activeLeft : l.phase.isActive = true) (activeRight : r.phase.isActive = true) : left = right := by
  obtain ⟨m, represents⟩ := fair.represents r.address
  have holdsLeft := represents.holder fair.tidy atLeft same activeLeft
  have holdsRight := represents.holder fair.tidy atRight rfl activeRight
  exact Option.some.inj (holdsLeft.symm.trans holdsRight)

/-- A step settles a call with an outcome, changes no other call and leaves the first of
its address that waits, if any, free to start. -/
def Frees (q t : DeviceWorkQueue ε α) (work : Nat) (outcome : Settlement ε α) : Prop :=
  ∃ record, q.works work = some record ∧
    t.works work = some { record with released := true, phase := .settled outcome } ∧
    (∀ other, other ≠ work → t.works other = q.works other) ∧
    ∀ other waits, t.works other = some waits → waits.address = record.address → waits.phase = .waiting →
      ∃ first, t.Next record.address first

/-- A call that settles while no other work of its address is active. -/
theorem Fair.frees {q t : DeviceWorkQueue ε α} (fair : t.Fair) {work : Nat} {record : Work ε α}
    {outcome : Settlement ε α} (entry : q.works work = some record)
    (works : t.works = q.works.insert work { record with released := true, phase := .settled outcome })
    (lone : ∀ other found, q.works other = some found → found.address = record.address →
      found.phase.isActive = true → other = work) : Frees q t work outcome := by
  have other {one : Nat} (apart : one ≠ work) : t.works one = q.works one := by
    rw [works, Table.insert_of_ne _ _ apart]
  have here : t.works work = some { record with released := true, phase := .settled outcome } := by
    rw [works, Table.insert_self]
  refine ⟨record, entry, here, fun one apart => other apart, fun one waits entry place waiting => ?_⟩
  rcases fair.progress entry waiting with ⟨holds, found, atFound, same, active, _⟩ | first
  · have apart : holds ≠ work := by
      rintro rfl
      cases here.symm.trans atFound
      cases active
    exact absurd (lone holds found ((other apart).symm.trans atFound) (same.trans place) active) apart
  · rwa [place] at first

/-- The end of a work makes way for the next one. -/
theorem Fair.finish_frees {q : DeviceWorkQueue ε α} (fair : q.Fair) {work : Nat} {record : Work ε α}
    {outcome : Settlement ε α} (entry : q.works work = some record) (finishing : record.phase = .finishing outcome) :
    ∃ t, q.step (.finish work) = some t ∧ Frees q t work outcome := by
  refine ⟨q.finish work record outcome, by simp only [DeviceWorkQueue.step, entry, finishing], ?_⟩
  refine (fair.finish entry finishing).frees entry rfl fun other found atFound here active => ?_
  exact fair.one_active atFound entry here active (by rw [finishing]; rfl)

/-- So does a work that throws when it is called. -/
theorem Fair.throw_frees {q t : DeviceWorkQueue ε α} (fair : q.Fair) {work : Nat} {error : ε}
    (run : q.step (.start work (some error)) = some t) : Frees q t work (.rejected error) := by
  have later := fair.step run
  simp only [DeviceWorkQueue.step] at run
  split at run
  · next record entry =>
    obtain ⟨turn, same⟩ := Option.ite_none_right_eq_some.mp run
    cases same
    obtain ⟨waiting, ready⟩ := Bool.and_eq_true_iff.mp turn
    obtain ⟨m, represents⟩ := fair.represents record.address
    obtain ⟨free, _⟩ := represents.turn fair.tidy entry rfl (WorkPhase.isWaiting_iff.mp waiting) ready
    have began := setPhase_updates entry .running
    have ended := setPhase_updates (q := q.begin work record) began.here (.finishing (.rejected error))
    refine later.frees entry ?_ fun other found atFound here active => ?_
    · change Table.insert _ _ _ = _
      rw [DeviceWorkQueue.workEnded, ended.works, DeviceWorkQueue.begin, began.works]
      simp only [Table.insert_insert]
    · have holds := represents.holder fair.tidy atFound here active
      rw [free] at holds
      cases holds
  · cases run

/-- How many steps a call has before it. -/
def stepsLeft : WorkPhase ε α → Nat
  | .waiting => 3
  | .running => 2
  | .finishing _ => 1
  | .settled _ => 0

/-- How many steps the calls of an address have before them. -/
def backlog (q : DeviceWorkQueue ε α) (address : String) : Nat :=
  ((lane q.enqueued address).map fun work => (q.works work).elim 0 fun record => stepsLeft record.phase).sum

theorem Updates.backlog_lt {q t : DeviceWorkQueue ε α} {work : Nat} {old record : Work ε α}
    (updates : Updates q t work old record) (tidy : q.Tidy) (enqueued : t.enqueued = q.enqueued)
    (closer : stepsLeft record.phase < stepsLeft old.phase) : t.backlog old.address < q.backlog old.address := by
  unfold backlog
  rw [enqueued]
  refine List.sum_lt_sum _ _ (fun other _ => ?_) ⟨work, mem_lane.mpr (tidy.known work old updates.before), ?_⟩
  · by_cases same : other = work
    · rw [same, updates.here, updates.before]
      exact Nat.le_of_lt closer
    · rw [updates.other same]
  · rw [updates.here, updates.before]
    exact closer

theorem Fair.begin_backlog {q : DeviceWorkQueue ε α} (fair : q.Fair) {work : Nat} {record : Work ε α}
    (entry : q.works work = some record) (waiting : record.phase = .waiting) :
    (q.begin work record).backlog record.address < q.backlog record.address :=
  (setPhase_updates entry .running).backlog_lt fair.tidy rfl (by rw [waiting]; exact Nat.lt_succ_self 2)

theorem Fair.workEnded_backlog {q : DeviceWorkQueue ε α} (fair : q.Fair) {work : Nat} {record : Work ε α}
    (entry : q.works work = some record) (running : record.phase = .running) (outcome : Settlement ε α) :
    (q.workEnded work outcome).backlog record.address < q.backlog record.address :=
  (setPhase_updates entry (.finishing outcome)).backlog_lt fair.tidy rfl (by rw [running]; exact Nat.lt_succ_self 1)

theorem Fair.finish_backlog {q : DeviceWorkQueue ε α} (fair : q.Fair) {work : Nat} {record : Work ε α}
    {outcome : Settlement ε α} (entry : q.works work = some record) (finishing : record.phase = .finishing outcome) :
    (q.finish work record outcome).backlog record.address < q.backlog record.address := by
  have updates : Updates q (q.finish work record outcome) work record
      { record with released := true, phase := .settled outcome } :=
    ⟨entry, rfl, rfl, rfl, fun _ => rfl⟩
  exact updates.backlog_lt fair.tidy rfl (by rw [finishing]; exact Nat.zero_lt_one)

/-- There is always a call that has not been made. -/
theorem Tidy.exists_fresh {q : DeviceWorkQueue ε α} (tidy : q.Tidy) : ∃ work, q.works work = none := by
  obtain ⟨work, absent⟩ := Infinite.exists_notMem_finset (q.enqueued.map Prod.snd).toFinset
  refine ⟨work, Option.eq_none_iff_forall_ne_some.mpr fun record entry => absent ?_⟩
  exact List.mem_toFinset.mpr (List.mem_map_of_mem (tidy.known work record entry))

/-- `enqueue` is a fair lock for each address: at most one work runs, works
start in the order of the calls, every call settles with the outcome of its own
work, however it ends, and makes way for the next one, a waiting work is never stuck,
and the entry of the address is there exactly as long as one of its calls has not settled. -/
theorem enqueue_fair {trace : List (WorkQueueEvent ε α)} {q : DeviceWorkQueue ε α}
    (reach : Reach DeviceWorkQueue.step (fun _ _ => True) create trace q) :
    (∀ left right l r, q.works left = some l → q.works right = some r → l.address = r.address →
      l.phase.isActive = true → r.phase.isActive = true → left = right) ∧
    (∀ address, lane q.started address <+: lane q.enqueued address) ∧
    (∀ work record outcome, q.works work = some record → record.phase = .settled outcome →
      .workSettled work outcome ∈ trace ∨ ∃ error, outcome = .rejected error ∧ .start work (some error) ∈ trace) ∧
    (∀ work record, q.works work = some record → record.phase = .running → ∀ outcome,
      ∃ t, q.step (.workSettled work outcome) = some t ∧ t.works work = some { record with phase := .finishing outcome }) ∧
    (∀ work record outcome, q.works work = some record → record.phase = .finishing outcome →
      ∃ t, q.step (.finish work) = some t ∧ Frees q t work outcome) ∧
    (∀ work error t, q.step (.start work (some error)) = some t → Frees q t work (.rejected error)) ∧
    (∀ work record, q.works work = some record → record.phase = .waiting →
      (∃ other found, q.works other = some found ∧ found.address = record.address ∧
        found.phase.isActive = true ∧ [other, work].Sublist (lane q.enqueued record.address)) ∨
      ∃ first, q.Next record.address first) ∧
    ∀ address, q.deviceQueues address = none ↔ ∀ work record, q.works work = some record →
      record.address = address → ∃ outcome, record.phase = .settled outcome := by
  have fair := reach.invariant (P := Fair) fair_create fun q e t fair _ run => fair.step run
  refine ⟨fun left right l r atLeft atRight same activeLeft activeRight =>
      fair.one_active atLeft atRight same activeLeft activeRight, ?_, ?_, ?_,
    fun work record outcome entry finishing => fair.finish_frees entry finishing,
    fun work error t run => fair.throw_frees run,
    fun work record entry waiting => fair.progress entry waiting, fair.entry_none_iff⟩
  · intro address
    obtain ⟨m, represents⟩ := fair.represents address
    rw [represents.calls, represents.grants]
    exact m.grants_prefix_calls
  · intro work record outcome entry settled
    exact outcome_origin reach (fair.tidy.outcome work record outcome entry (Or.inr settled))
  · intro work record entry running outcome
    refine ⟨q.workEnded work outcome, by simp only [DeviceWorkQueue.step, entry, running]; rfl, ?_⟩
    exact (setPhase_updates entry (.finishing outcome)).here

/-- Two works of one address, of which the first fails: the second one may start when
`enqueue` has rejected the first. -/
theorem enqueue_fair_after_failure : ∃ q t : DeviceWorkQueue String Nat,
    Reach DeviceWorkQueue.step (fun _ _ => True) create
      [.enqueue 0 "AA", .enqueue 1 "AA", .start 0 none, .workSettled 0 (.rejected "busy")] q ∧
    q.step (.finish 0) = some t ∧ Frees q t 0 (.rejected "busy") ∧ ∃ first, t.Next "AA" first := by
  have reach : ∃ q : DeviceWorkQueue String Nat, Reach DeviceWorkQueue.step (fun _ _ => True) create
      [.enqueue 0 "AA", .enqueue 1 "AA", .start 0 none, .workSettled 0 (.rejected "busy")] q ∧
      q.works 0 = some ⟨"AA", .resolved, false, .finishing (.rejected "busy")⟩ ∧
      q.works 1 = some ⟨"AA", .next .resolved 0, false, .waiting⟩ :=
    ⟨_, .cons trivial rfl (.cons trivial rfl (.cons trivial rfl (.cons trivial rfl .start))), rfl, rfl⟩
  obtain ⟨q, reach, first, second⟩ := reach
  obtain ⟨_, _, _, _, ends, _⟩ := enqueue_fair reach
  obtain ⟨t, run, frees⟩ := ends 0 _ _ first rfl
  have frees_ := frees
  obtain ⟨record, entry, _, others, next⟩ := frees_
  cases first.symm.trans entry
  exact ⟨q, t, reach, run, frees, next 1 _ ((others 1 (by decide)).trans second) rfl rfl⟩

end DeviceWorkQueue

end BluettiMqtt
