import BluettiMqtt.Bluetooth.Manager
import BluettiMqtt.Bluetooth.SessionTransport

namespace BluettiMqtt
open Promise Transition DeviceSession

/-- The address and the session whose `connectAndInitialize` a call awaits. -/
def ManagerPhase.opening : ManagerPhase → Option (String × Nat)
  | .connectingAll address _ session => some (address, session)
  | .replacing address session => some (address, session)
  | _ => none

/-- The address and the session whose `disconnect` a call awaits. -/
def ManagerPhase.closing : ManagerPhase → Option (String × Nat)
  | .releasing address existing => some (address, existing)
  | .disconnectingAll address session _ => some (address, session)
  | _ => none

/-- The address that a call of `reconnect` works on. -/
def ManagerPhase.reconnects : ManagerPhase → Option String
  | .releasing address _ => some address
  | .replacing address _ => some address
  | _ => none

namespace MultiDeviceManager

variable {m t : MultiDeviceManager} {call : CallId} {address : String} {session : Nat}

/-- No call is in progress. -/
def Quiet (m : MultiDeviceManager) : Prop :=
  ∀ call phase, m.calls call = some phase → phase.inProgress = false

/-- Every other call in progress is a `reconnect` of another address than the
given one, if any. -/
def Clear (m : MultiDeviceManager) (call : CallId) (place : Option String) : Prop :=
  ∀ other phase, other ≠ call → m.calls other = some phase → phase.inProgress = true →
    ∃ here there, place = some here ∧ phase.reconnects = some there ∧ here ≠ there

/-- The calls on one address follow each other. `connectAll` and `disconnectAll`
run alone. -/
def Orderly (m : MultiDeviceManager) : ManagerEvent → Prop
  | .connectAll _ => m.Quiet
  | .reconnect call address => m.Clear call (some address)
  | .disconnectAll _ => m.Quiet
  | .session _ _ => True
  | .returned _ => True

def Opens (m : MultiDeviceManager) (call : CallId) (address : String) (session : Nat) : Prop :=
  ∃ phase, m.calls call = some phase ∧ phase.opening = some (address, session)

def Closes (m : MultiDeviceManager) (call : CallId) (address : String) (session : Nat) : Prop :=
  ∃ phase, m.calls call = some phase ∧ phase.closing = some (address, session)

/-- What is known of the sessions: those in the map, those being initialized,
those being disconnected, and those the manager has done with. -/
structure Owned (m : MultiDeviceManager) : Prop where
  fresh : ∀ session, m.created ≤ session → m.objects session = none
  mapped : ∀ address session, m.sessions.get? address = some session → ∃ object,
    m.objects session = some object ∧ object.address = address ∧ object.Over ∧
      ∃ call, object.initializations call = some (.settled (.fulfilled ()))
  opened : ∀ call address session, m.Opens call address session → m.sessions.get? address = none ∧
    ∃ object, m.objects session = some object ∧ object.address = address ∧ object.StartedBy call
  closed : ∀ call address session, m.Closes call address session →
    m.sessions.get? address = some session ∧
      ∃ object, m.objects session = some object ∧ Released object.transportCalls
  left : ∀ session object, m.objects session = some object →
    (∀ address, m.sessions.get? address ≠ some session) → (∀ call address, ¬m.Opens call address session) →
      object.Over ∧ Released object.transportCalls
  apart : ∀ call phase, m.calls call = some phase → phase.inProgress = true → m.Clear call phase.reconnects

theorem opening_inProgress {phase : ManagerPhase} {found : String × Nat} (opening : phase.opening = some found) :
    phase.inProgress = true := by
  cases phase with
  | settled outcome => cases opening
  | _ => rfl

theorem closing_inProgress {phase : ManagerPhase} {found : String × Nat} (closing : phase.closing = some found) :
    phase.inProgress = true := by
  cases phase with
  | settled outcome => cases closing
  | _ => rfl

/-- A call of `reconnect` works on its own address only. -/
theorem reconnects_own {phase : ManagerPhase} {place : String}
    (works : phase.opening = some (address, session) ∨ phase.closing = some (address, session))
    (reconnects : phase.reconnects = some place) : place = address := by
  cases phase with
  | releasing own existing =>
    rcases works with opening | closing
    · cases opening
    · cases closing
      cases reconnects
      rfl
  | replacing own replacement =>
    rcases works with opening | closing
    · cases opening
      cases reconnects
      rfl
    · cases closing
  | _ => cases reconnects

theorem Quiet.clear (quiet : m.Quiet) (call : CallId) (place : Option String) : m.Clear call place := by
  intro other phase _ entry progress
  rw [quiet other phase entry] at progress
  cases progress

/-- Two calls that work on one address are the same. -/
theorem Owned.alone (owned : m.Owned) {other : CallId} {one two : Nat}
    (first : m.Opens call address one ∨ m.Closes call address one)
    (second : m.Opens other address two ∨ m.Closes other address two) : call = other := by
  have works {call : CallId} {session : Nat} (either : m.Opens call address session ∨ m.Closes call address session) :
      ∃ phase, m.calls call = some phase ∧ phase.inProgress = true ∧
        (phase.opening = some (address, session) ∨ phase.closing = some (address, session)) := by
    rcases either with ⟨phase, entry, opening⟩ | ⟨phase, entry, closing⟩
    · exact ⟨phase, entry, opening_inProgress opening, Or.inl opening⟩
    · exact ⟨phase, entry, closing_inProgress closing, Or.inr closing⟩
  by_contra different
  obtain ⟨phase, entry, progress, mine⟩ := works first
  obtain ⟨later, found, ongoing, yours⟩ := works second
  obtain ⟨here, there, reconnects, reconnected, unequal⟩ :=
    owned.apart call phase entry progress other later (Ne.symm different) found ongoing
  exact unequal ((reconnects_own mine reconnects).trans (reconnects_own yours reconnected).symm)

/-- Calls other than one keep what they do. -/
theorem opens_setCall {phase : ManagerPhase} {other : CallId} {place : String} {opened : Nat} :
    (m.setCall call phase).Opens other place opened ↔
      other = call ∧ phase.opening = some (place, opened) ∨ other ≠ call ∧ m.Opens other place opened := by
  simp only [Opens, setCall, Table.insert_eq_some]
  constructor
  · rintro ⟨found, ⟨here, rfl⟩ | ⟨elsewhere, entry⟩, opening⟩
    · exact Or.inl ⟨here, opening⟩
    · exact Or.inr ⟨elsewhere, found, entry, opening⟩
  · rintro (⟨here, opening⟩ | ⟨elsewhere, found, entry, opening⟩)
    · exact ⟨phase, Or.inl ⟨here, rfl⟩, opening⟩
    · exact ⟨found, Or.inr ⟨elsewhere, entry⟩, opening⟩

theorem closes_setCall {phase : ManagerPhase} {other : CallId} {place : String} {closed : Nat} :
    (m.setCall call phase).Closes other place closed ↔
      other = call ∧ phase.closing = some (place, closed) ∨ other ≠ call ∧ m.Closes other place closed := by
  simp only [Closes, setCall, Table.insert_eq_some]
  constructor
  · rintro ⟨found, ⟨here, rfl⟩ | ⟨elsewhere, entry⟩, closing⟩
    · exact Or.inl ⟨here, closing⟩
    · exact Or.inr ⟨elsewhere, found, entry, closing⟩
  · rintro (⟨here, closing⟩ | ⟨elsewhere, found, entry, closing⟩)
    · exact ⟨phase, Or.inl ⟨here, rfl⟩, closing⟩
    · exact ⟨found, Or.inr ⟨elsewhere, entry⟩, closing⟩

/-- The calls stay apart when one goes on to another phase. -/
theorem clear_setCall {phase : ManagerPhase} (apart : ∀ call phase, m.calls call = some phase →
    phase.inProgress = true → m.Clear call phase.reconnects) (clear : phase.inProgress = true →
    m.Clear call phase.reconnects) (other : CallId) (found : ManagerPhase)
    (entry : (m.setCall call phase).calls other = some found) (progress : found.inProgress = true) :
    (m.setCall call phase).Clear other found.reconnects := by
  intro third later different stored ongoing
  rcases Table.insert_eq_some.mp stored with ⟨rfl, rfl⟩ | ⟨elsewhere, held⟩
  · rcases Table.insert_eq_some.mp entry with ⟨rfl, _⟩ | ⟨_, entry⟩
    · exact absurd rfl different
    · obtain ⟨here, there, mine, yours, unequal⟩ := clear ongoing other found (Ne.symm different) entry progress
      exact ⟨there, here, yours, mine, Ne.symm unequal⟩
  · rcases Table.insert_eq_some.mp entry with ⟨rfl, rfl⟩ | ⟨_, entry⟩
    · exact clear progress third later elsewhere held ongoing
    · exact apart other found entry progress third later different held ongoing

/-- A call ends whose session, if it was initializing one, could not be
initialized. -/
theorem Owned.abandon (owned : m.Owned) {outcome : Settlement Rejection Unit}
    (failed : ∀ address session object, m.Opens call address session → m.objects session = some object →
      ∃ error, object.initializations call = some (.settled (.rejected error))) :
    (m.setCall call (.settled outcome)).Owned where
  fresh := owned.fresh
  mapped := owned.mapped
  opened other place opened opens := by
    rcases opens_setCall.mp opens with ⟨_, absurd⟩ | ⟨_, before⟩
    · cases absurd
    · exact owned.opened other place opened before
  closed other place closed closes := by
    rcases closes_setCall.mp closes with ⟨_, absurd⟩ | ⟨_, before⟩
    · cases absurd
    · exact owned.closed other place closed before
  left session object found unmapped unopened := by
    by_cases mine : ∃ address, m.Opens call address session
    · obtain ⟨address, opens⟩ := mine
      obtain ⟨_, same, stored, _, started⟩ := owned.opened call address session opens
      cases found.symm.trans stored
      obtain ⟨error, rejected⟩ := failed address session object opens found
      exact ⟨started.over rejected, started.cleaned _ rejected rfl⟩
    · refine owned.left session object found unmapped fun other place opens => ?_
      by_cases same : other = call
      · subst same
        exact mine ⟨place, opens⟩
      · exact unopened other place (opens_setCall.mpr (Or.inr ⟨same, opens⟩))
  apart := clear_setCall owned.apart fun progress => nomatch progress

/-- A session is stored once it is initialized. -/
theorem Owned.install (owned : m.Owned) (opens : m.Opens call address session) {object : DeviceSession}
    (found : m.objects session = some object)
    (initialized : object.initializations call = some (.settled (.fulfilled ())))
    (outcome : Settlement Rejection Unit) :
    ({ m with sessions := m.sessions.set address session }.setCall call (.settled outcome)).Owned := by
  obtain ⟨absent, same, stored, here, started⟩ := owned.opened call address session opens
  cases found.symm.trans stored
  have entries (place : String) (other : Nat) :
      (m.sessions.set address session).get? place = some other ↔
        place = address ∧ other = session ∨ place ≠ address ∧ m.sessions.get? place = some other := by
    rw [OrderedMap.get?_set]
    exact Table.insert_eq_some
  constructor
  · exact owned.fresh
  · intro place other entry
    rcases (entries place other).mp entry with ⟨rfl, rfl⟩ | ⟨_, before⟩
    · exact ⟨object, found, here, started.over initialized, call, initialized⟩
    · exact owned.mapped place other before
  · intro other place opened reopens
    rcases opens_setCall.mp reopens with ⟨_, absurd⟩ | ⟨different, before⟩
    · cases absurd
    · obtain ⟨missing, rest⟩ := owned.opened other place opened before
      refine ⟨?_, rest⟩
      have elsewhere : place ≠ address := by
        rintro rfl
        exact different (owned.alone (Or.inl before) (Or.inl opens))
      refine (congrFun (OrderedMap.get?_set _ _ _) place).trans ?_
      exact (Table.insert_of_ne _ _ elsewhere).trans missing
  · intro other place closed closes
    rcases closes_setCall.mp closes with ⟨_, absurd⟩ | ⟨different, before⟩
    · cases absurd
    · obtain ⟨held, rest⟩ := owned.closed other place closed before
      refine ⟨(entries place closed).mpr (Or.inr ⟨?_, held⟩), rest⟩
      rintro rfl
      cases absent.symm.trans held
  · intro other left stored unmapped unopened
    refine owned.left other left stored (fun place entry => ?_) fun one place reopens => ?_
    · by_cases same : place = address
      · subst same
        cases absent.symm.trans entry
      · exact unmapped place ((entries place other).mpr (Or.inr ⟨same, entry⟩))
    · by_cases same : one = call
      · subst same
        obtain ⟨phase, entry, opening⟩ := opens
        obtain ⟨again, twice, reopening⟩ := reopens
        cases entry.symm.trans twice
        cases opening.symm.trans reopening
        exact unmapped address ((entries address session).mpr (Or.inl ⟨rfl, rfl⟩))
      · exact unopened one place (opens_setCall.mpr (Or.inr ⟨same, reopens⟩))
  · exact clear_setCall owned.apart fun progress => nomatch progress

/-- A session is forgotten once it is disconnected. -/
theorem Owned.remove (owned : m.Owned) (closes : m.Closes call address session)
    (outcome : Settlement Rejection Unit) :
    ({ m with sessions := m.sessions.delete address }.setCall call (.settled outcome)).Owned := by
  obtain ⟨held, object, found, released⟩ := owned.closed call address session closes
  have entries (place : String) (other : Nat) :
      (m.sessions.delete address).get? place = some other ↔
        place ≠ address ∧ m.sessions.get? place = some other := by
    rw [OrderedMap.get?_delete]
    exact Table.erase_eq_some
  constructor
  · exact owned.fresh
  · exact fun place other entry => owned.mapped place other ((entries place other).mp entry).2
  · intro other place opened opens
    rcases opens_setCall.mp opens with ⟨_, absurd⟩ | ⟨_, before⟩
    · cases absurd
    · obtain ⟨missing, rest⟩ := owned.opened other place opened before
      refine ⟨Option.eq_none_iff_forall_ne_some.mpr fun one entry => ?_, rest⟩
      cases missing.symm.trans ((entries place one).mp entry).2
  · intro other place closed recloses
    rcases closes_setCall.mp recloses with ⟨_, absurd⟩ | ⟨different, before⟩
    · cases absurd
    · obtain ⟨stored, rest⟩ := owned.closed other place closed before
      refine ⟨(entries place closed).mpr ⟨?_, stored⟩, rest⟩
      rintro rfl
      exact different (owned.alone (Or.inr before) (Or.inr closes))
  · intro other left stored unmapped unopened
    by_cases mine : other = session
    · subst mine
      cases found.symm.trans stored
      obtain ⟨_, same, _, done, _⟩ := owned.mapped address other held
      cases found.symm.trans same
      exact ⟨done, released⟩
    · refine owned.left other left stored (fun place entry => ?_) fun one place opens => ?_
      · by_cases same : place = address
        · subst same
          exact mine (Option.some.inj (entry.symm.trans held))
        · exact unmapped place ((entries place other).mpr ⟨same, entry⟩)
      · by_cases same : one = call
        · subst same
          obtain ⟨phase, entry, closing⟩ := closes
          obtain ⟨again, twice, opening⟩ := opens
          cases entry.symm.trans twice
          cases phase with
          | connectingAll => cases closing
          | replacing => cases closing
          | _ => cases opening
        · exact unopened one place (opens_setCall.mpr (Or.inr ⟨same, opens⟩))
  · exact clear_setCall owned.apart fun progress => nomatch progress

/-- A new session is created and its initialization begins. -/
theorem Owned.startSession (owned : m.Owned) (phase : ManagerPhase)
    (idle : ∀ found, m.calls call = some found → found.inProgress = false)
    (clear : m.Clear call phase.reconnects) (absent : m.sessions.get? address = none)
    (opening : phase.opening = some (address, m.created)) : (m.startSession call address phase).Owned := by
  have unused : m.objects m.created = none := owned.fresh m.created le_rfl
  have kept {other : Nat} {object : DeviceSession} (found : m.objects other = some object) :
      (m.startSession call address phase).objects other = some object := by
    have old : other ≠ m.created := by
      rintro rfl
      cases unused.symm.trans found
    exact (Table.insert_of_ne _ _ old).trans found
  constructor
  · intro other bound
    have old : other ≠ m.created := by
      rintro rfl
      exact absurd bound (Nat.not_succ_le_self _)
    exact (Table.insert_of_ne _ _ old).trans (owned.fresh other ((Nat.le_succ _).trans bound))
  · intro place other entry
    obtain ⟨object, found, rest⟩ := owned.mapped place other entry
    exact ⟨object, kept found, rest⟩
  · intro other place opened opens
    rcases opens_setCall.mp opens with ⟨rfl, here⟩ | ⟨_, before⟩
    · cases opening.symm.trans here
      refine ⟨absent, _, Table.insert_self _ _ _, rfl, ?_⟩
      refine ⟨fun one found entry => ?_, ⟨.connecting 0, Table.insert_self _ _ _⟩, fun found entry failed => ?_⟩
      · rcases Table.insert_eq_some.mp entry with ⟨same, _⟩ | ⟨_, never⟩
        · exact same
        · cases never
      · cases (Table.insert_self _ _ _).symm.trans entry
        cases failed
    · obtain ⟨missing, object, found, rest⟩ := owned.opened other place opened before
      exact ⟨missing, object, kept found, rest⟩
  · intro other place closed closes
    rcases closes_setCall.mp closes with ⟨_, here⟩ | ⟨_, before⟩
    · cases phase with
      | connectingAll => cases here
      | replacing => cases here
      | _ => cases opening
    · obtain ⟨held, object, found, released⟩ := owned.closed other place closed before
      exact ⟨held, object, kept found, released⟩
  · intro other object found unmapped unopened
    rcases Table.insert_eq_some.mp found with ⟨rfl, _⟩ | ⟨old, before⟩
    · exact absurd (opens_setCall.mpr (Or.inl ⟨rfl, opening⟩)) (unopened call address)
    · refine owned.left other object before unmapped fun one place opens => ?_
      by_cases same : one = call
      · subst same
        obtain ⟨found, entry, works⟩ := opens
        cases (idle found entry).symm.trans (opening_inProgress works)
      · exact unopened one place (opens_setCall.mpr (Or.inr ⟨same, opens⟩))
  · exact clear_setCall owned.apart fun _ => clear

/-- A stored session is told to disconnect. -/
theorem Owned.endSession (owned : m.Owned) {phase : ManagerPhase}
    (idle : ∀ found, m.calls call = some found → found.inProgress = false)
    (clear : m.Clear call phase.reconnects) (held : m.sessions.get? address = some session)
    (closing : phase.closing = some (address, session)) : (m.endSession call session phase).Owned := by
  obtain ⟨object, found, here, done, initialized⟩ := owned.mapped address session held
  have changed : (m.endSession call session phase).objects =
      m.objects.insert session (object.disconnect call) :=
    Table.adjust_eq_insert _ found
  have others {other : Nat} {stored : DeviceSession} (entry : m.objects other = some stored) :
      ∃ later, (m.endSession call session phase).objects other = some later ∧ later.address = stored.address ∧
        later.initializations = stored.initializations ∧
        (Released stored.transportCalls → Released later.transportCalls) := by
    rw [changed]
    by_cases same : other = session
    · subst same
      cases found.symm.trans entry
      exact ⟨_, Table.insert_self _ _ _, rfl, rfl, fun _ => released_concat _⟩
    · exact ⟨stored, (Table.insert_of_ne _ _ same).trans entry, rfl, rfl, id⟩
  constructor
  · intro other bound
    have old : other ≠ session := by
      rintro rfl
      cases (owned.fresh other bound).symm.trans found
    rw [changed, Table.insert_of_ne _ _ old]
    exact owned.fresh other bound
  · intro place other entry
    obtain ⟨stored, before, address, over_, call, settled⟩ := owned.mapped place other entry
    obtain ⟨later, after, same, initializations, _⟩ := others before
    refine ⟨later, after, same.trans address, ?_, call, ?_⟩
    · rw [DeviceSession.Over, initializations]
      exact over_
    · rw [initializations]
      exact settled
  · intro other place opened opens
    rcases opens_setCall.mp opens with ⟨_, absurd⟩ | ⟨_, before⟩
    · cases phase with
      | connectingAll => cases closing
      | replacing => cases closing
      | _ => cases absurd
    · obtain ⟨missing, stored, entry, address, own, begun, cleaned⟩ := owned.opened other place opened before
      obtain ⟨later, after, same, initializations, released⟩ := others entry
      refine ⟨missing, later, after, same.trans address, ?_, ?_, ?_⟩ <;> rw [initializations]
      · exact own
      · exact begun
      · exact fun phase entry failed => released (cleaned phase entry failed)
  · intro other place closed closes
    rcases closes_setCall.mp closes with ⟨_, works⟩ | ⟨_, before⟩
    · cases closing.symm.trans works
      refine ⟨held, object.disconnect call, ?_, released_concat object.transportCalls⟩
      rw [changed, Table.insert_self]
    · obtain ⟨stored, former, entry, released⟩ := owned.closed other place closed before
      obtain ⟨later, after, _, _, still⟩ := others entry
      exact ⟨stored, later, after, still released⟩
  · intro other stored entry unmapped unopened
    rw [changed] at entry
    rcases Table.insert_eq_some.mp entry with ⟨rfl, _⟩ | ⟨_, before⟩
    · exact absurd held (unmapped address)
    · refine owned.left other stored before unmapped fun one place opens => ?_
      by_cases same : one = call
      · subst same
        obtain ⟨found, entry, works⟩ := opens
        cases (idle found entry).symm.trans (opening_inProgress works)
      · exact unopened one place (opens_setCall.mpr (Or.inr ⟨same, opens⟩))
  · exact clear_setCall owned.apart fun _ => clear

/-- What a session does that the manager does not cause. -/
theorem Owned.went (owned : m.Owned) {object later : DeviceSession} (found : m.objects session = some object)
    (course : Course object later) : { m with objects := m.objects.insert session later }.Owned := by
  have entry (other : Nat) (stored : DeviceSession) : m.objects.insert session later other = some stored ↔
      other = session ∧ stored = later ∨ other ≠ session ∧ m.objects other = some stored :=
    Table.insert_eq_some
  have finished (over_ : object.Over) (released : Released object.transportCalls) :
      later.Over ∧ Released later.transportCalls := by
    obtain ⟨still, _, _, more, calls, writes⟩ := over_.course course
    rw [calls]
    exact ⟨still, released.append writes⟩
  constructor
  · intro other bound
    have old : other ≠ session := by
      rintro rfl
      cases (owned.fresh other bound).symm.trans found
    exact (Table.insert_of_ne _ _ old).trans (owned.fresh other bound)
  · intro place other held
    obtain ⟨stored, before, address, over_, call, settled⟩ := owned.mapped place other held
    by_cases same : other = session
    · subst same
      cases found.symm.trans before
      obtain ⟨still, initializations, _⟩ := over_.course course
      refine ⟨later, Table.insert_self _ _ _, course.address.trans address, still, call, ?_⟩
      rw [initializations]
      exact settled
    · exact ⟨stored, (entry other stored).mpr (Or.inr ⟨same, before⟩), address, over_, call, settled⟩
  · intro call place opened opens
    obtain ⟨missing, stored, before, address, started⟩ := owned.opened call place opened opens
    by_cases same : opened = session
    · subst same
      cases found.symm.trans before
      exact ⟨missing, later, Table.insert_self _ _ _, course.address.trans address, started.course course⟩
    · exact ⟨missing, stored, (entry opened stored).mpr (Or.inr ⟨same, before⟩), address, started⟩
  · intro call place closed closes
    obtain ⟨held, stored, before, released⟩ := owned.closed call place closed closes
    by_cases same : closed = session
    · subst same
      cases found.symm.trans before
      obtain ⟨object, twice, _, over_, _⟩ := owned.mapped place closed held
      cases found.symm.trans twice
      exact ⟨held, later, Table.insert_self _ _ _, (finished over_ released).2⟩
    · exact ⟨held, stored, (entry closed stored).mpr (Or.inr ⟨same, before⟩), released⟩
  · intro other stored held unmapped unopened
    rcases (entry other stored).mp held with ⟨rfl, rfl⟩ | ⟨_, before⟩
    · obtain ⟨over_, released⟩ := owned.left other object found unmapped unopened
      exact finished over_ released
    · exact owned.left other stored before unmapped unopened
  · exact owned.apart

/-- What a call does next does not depend on where it stood. -/
theorem connectNext_setCall (m : MultiDeviceManager) (call : CallId) (phase : ManagerPhase) (addresses : List String) :
    (m.setCall call phase).connectNext call addresses = m.connectNext call addresses := by
  have again (later : ManagerPhase) : (m.calls.insert call phase).insert call later = m.calls.insert call later :=
    Table.insert_insert _ _ _ _
  induction addresses with
  | nil => simp only [connectNext, setCall, again]
  | cons address rest ih =>
    have same : (m.setCall call phase).sessions = m.sessions := rfl
    simp only [connectNext, ih, same]
    split
    · rfl
    · simp only [MultiDeviceManager.startSession, setCall, again]

theorem replace_setCall (m : MultiDeviceManager) (call : CallId) (phase : ManagerPhase) (address : String) :
    (m.setCall call phase).replace call address = m.replace call address := by
  simp only [replace, MultiDeviceManager.startSession, setCall, Table.insert_insert]

theorem disconnectNext_setCall (m : MultiDeviceManager) (call : CallId) (phase : ManagerPhase)
    (failures : List Failure) :
    (m.setCall call phase).disconnectNext call failures = m.disconnectNext call failures := by
  have same : (m.setCall call phase).sessions = m.sessions := rfl
  simp only [disconnectNext, same]
  split <;> simp only [MultiDeviceManager.endSession, setCall, Table.insert_insert]

theorem Owned.connectNext (owned : m.Owned) (idle : ∀ found, m.calls call = some found → found.inProgress = false)
    (clear : m.Clear call none) (addresses : List String) : (m.connectNext call addresses).Owned := by
  induction addresses with
  | nil =>
    refine owned.abandon fun address session object opens _ => ?_
    obtain ⟨phase, entry, opening⟩ := opens
    cases (idle phase entry).symm.trans (opening_inProgress opening)
  | cons address rest ih =>
    unfold MultiDeviceManager.connectNext
    split
    · exact ih
    · rename_i missing
      refine owned.startSession _ idle clear ?_ rfl
      simpa [OrderedMap.has] using missing

theorem Owned.disconnectNext (owned : m.Owned)
    (idle : ∀ found, m.calls call = some found → found.inProgress = false) (clear : m.Clear call none)
    (failures : List Failure) : (m.disconnectNext call failures).Owned := by
  unfold MultiDeviceManager.disconnectNext
  split
  · refine owned.abandon fun address session object opens _ => ?_
    obtain ⟨phase, entry, opening⟩ := opens
    cases (idle phase entry).symm.trans (opening_inProgress opening)
  · rename_i address session rest entries
    have held : m.sessions.get? address = some session := by
      rw [OrderedMap.get?_eq_some, entries]
      exact List.mem_cons_self
    exact owned.endSession idle clear held rfl

theorem Clear.setCall {phase : ManagerPhase} {place : Option String} (clear : m.Clear call place) :
    (m.setCall call phase).Clear call place := by
  intro other found different entry progress
  exact clear other found different ((Table.insert_of_ne _ _ different).symm.trans entry) progress

theorem idle_setCall {outcome : Settlement Rejection Unit} (found : ManagerPhase)
    (entry : (m.setCall call (.settled outcome)).calls call = some found) : found.inProgress = false := by
  cases (Table.insert_self _ _ _).symm.trans entry
  rfl

theorem get?_delete_self (m : MultiDeviceManager) (address : String) :
    (m.sessions.delete address).get? address = none := by
  rw [OrderedMap.get?_delete]
  exact if_pos rfl

/-- The one session that a call initializes has been refused. -/
theorem rejected_of_opens (opens : m.Opens call address session) {object : DeviceSession}
    (found : m.objects session = some object) {error : Failure}
    (rejected : object.initializations call = some (.settled (.rejected error))) (place : String) (other : Nat)
    (stored : DeviceSession) (reopens : m.Opens call place other) (held : m.objects other = some stored) :
    ∃ error, stored.initializations call = some (.settled (.rejected error)) := by
  obtain ⟨phase, entry, opening⟩ := opens
  obtain ⟨again, twice, reopening⟩ := reopens
  cases entry.symm.trans twice
  cases opening.symm.trans reopening
  cases found.symm.trans held
  exact ⟨error, rejected⟩

/-- A session's own step leaves the manager's fields alone. -/
theorem session_step {session : Nat} {event : SessionEvent} (run : m.step (.session session event) = some t) :
    ∃ object later, m.objects session = some object ∧ Course object later ∧
      t = { m with objects := m.objects.insert session later } := by
  simp only [MultiDeviceManager.step] at run
  split at run
  · cases run
  · rename_i foreign
    split at run
    · rename_i object found
      obtain ⟨later, course, rfl⟩ := Option.map_eq_some_iff.mp run
      refine ⟨object, later, found, step_course ?_ ?_ course, rfl⟩
      · rintro _ rfl
        exact foreign rfl
      · rintro _ rfl
        exact foreign rfl
    · cases run

/-- The sessions of a manager keep their owners through every step. -/
theorem Owned.step (owned : m.Owned) {event : ManagerEvent} (orderly : m.Orderly event)
    (run : m.step event = some t) : t.Owned := by
  cases event with
  | connectAll call =>
    obtain ⟨fresh, run⟩ := Option.ite_none_right_eq_some.mp run
    cases run
    exact owned.connectNext (fun found entry => orderly call found entry) (orderly.clear call none) m.addresses
  | reconnect call address =>
    obtain ⟨fresh, run⟩ := Option.ite_none_right_eq_some.mp run
    cases run
    have idle : ∀ found, m.calls call = some found → found.inProgress = false := by
      simp [Option.isNone_iff_eq_none.mp fresh]
    unfold MultiDeviceManager.reconnect
    split
    · rename_i existing held
      exact owned.endSession idle orderly held rfl
    · rename_i absent
      exact owned.startSession _ idle orderly absent rfl
  | disconnectAll call =>
    obtain ⟨fresh, run⟩ := Option.ite_none_right_eq_some.mp run
    cases run
    exact owned.disconnectNext (fun found entry => orderly call found entry) (orderly.clear call none) []
  | session session event =>
    obtain ⟨object, later, found, course, rfl⟩ := session_step run
    exact owned.went found course
  | returned call =>
    obtain ⟨phase, entry, run⟩ := Option.bind_eq_some_iff.mp run
    have clear (progress : phase.inProgress = true) : m.Clear call phase.reconnects :=
      owned.apart call phase entry progress
    cases phase with
    | connectingAll address rest session =>
      have opens : m.Opens call address session := ⟨_, entry, rfl⟩
      obtain ⟨_, object, found, _, started⟩ := owned.opened call address session opens
      simp only [MultiDeviceManager.returned, initialization, found, Option.bind_some] at run
      split at run
      · rename_i initialized
        cases run
        have installed := owned.install opens found initialized (.fulfilled ())
        have next := installed.connectNext idle_setCall (Clear.setCall (clear rfl)) rest
        rwa [connectNext_setCall] at next
      · rename_i error rejected
        cases run
        exact owned.abandon (rejected_of_opens opens found rejected)
      · cases run
    | releasing address existing =>
      have closes : m.Closes call address existing := ⟨_, entry, rfl⟩
      simp only [MultiDeviceManager.returned] at run
      split at run
      · cases run
        have removed := owned.remove closes (.fulfilled ())
        have next := removed.startSession (.replacing address m.created) idle_setCall
          (Clear.setCall (clear rfl)) (get?_delete_self m address) rfl
        rwa [← replace_setCall] 
      · cases run
    | replacing address session =>
      have opens : m.Opens call address session := ⟨_, entry, rfl⟩
      obtain ⟨_, object, found, _, started⟩ := owned.opened call address session opens
      simp only [MultiDeviceManager.returned, initialization, found, Option.bind_some] at run
      split at run
      · rename_i initialized
        cases run
        exact owned.install opens found initialized _
      · rename_i error rejected
        cases run
        exact owned.abandon (rejected_of_opens opens found rejected)
      · cases run
    | disconnectingAll address session failures =>
      have closes : m.Closes call address session := ⟨_, entry, rfl⟩
      simp only [MultiDeviceManager.returned] at run
      split at run
      · cases run
        have removed := owned.remove closes (.fulfilled ())
        have next := removed.disconnectNext idle_setCall (Clear.setCall (clear rfl))
        rw [← disconnectNext_setCall]
        exact next _
      · cases run
    | settled outcome => cases run

theorem owned_of_reach {addresses : List String} {trace : List ManagerEvent}
    (reach : Reach MultiDeviceManager.step Orderly (create addresses) trace m) : m.Owned := by
  apply reach.invariant (P := Owned)
  · exact ⟨(fun _ _ => rfl), (fun _ _ entry => nomatch entry), (fun _ _ _ ⟨_, entry, _⟩ => nomatch entry),
      (fun _ _ _ ⟨_, entry, _⟩ => nomatch entry), (fun _ _ entry => nomatch entry), (fun _ _ entry => nomatch entry)⟩
  · exact fun _ _ _ owned orderly run => owned.step orderly run

end MultiDeviceManager

end BluettiMqtt
