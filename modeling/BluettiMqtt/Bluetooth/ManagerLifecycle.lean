import BluettiMqtt.Bluetooth.ManagerOwnership

namespace BluettiMqtt
open Promise Transition DeviceSession

namespace MultiDeviceManager

variable {m s t : MultiDeviceManager} {call : CallId} {addresses : List String} {trace : List ManagerEvent}

/-- A call of `connectAll` is in progress. -/
def ConnectingAll (call : CallId) (m : MultiDeviceManager) : Prop :=
  ∃ address rest session, m.calls call = some (.connectingAll address rest session)

/-- A call of `disconnectAll` is in progress. -/
def DisconnectingAll (call : CallId) (m : MultiDeviceManager) : Prop :=
  ∃ address session failures, m.calls call = some (.disconnectingAll address session failures)

/-- A session that is in the map or being initialized. -/
def Live (m : MultiDeviceManager) (session : Nat) : Prop :=
  (∃ address, m.sessions.get? address = some session) ∨ ∃ call address, m.Opens call address session

/-- No two live sessions have the same address. -/
theorem Owned.one_session (owned : m.Owned) {one other : Nat} {first second : DeviceSession}
    (found : m.objects one = some first) (stored : m.objects other = some second)
    (same : first.address = second.address) (live : m.Live one) (lives : m.Live other) : one = other := by
  have mapped {session : Nat} {object : DeviceSession} {address : String} (found : m.objects session = some object)
      (entry : m.sessions.get? address = some session) : m.sessions.get? object.address = some session := by
    obtain ⟨again, twice, here, _⟩ := owned.mapped address session entry
    cases found.symm.trans twice
    rw [here]
    exact entry
  have opened {session : Nat} {object : DeviceSession} {call : CallId} {address : String}
      (found : m.objects session = some object) (opens : m.Opens call address session) :
      m.sessions.get? object.address = none ∧ m.Opens call object.address session := by
    obtain ⟨absent, again, twice, here, _⟩ := owned.opened call address session opens
    cases found.symm.trans twice
    rw [here]
    exact ⟨absent, opens⟩
  rcases live with ⟨address, entry⟩ | ⟨call, address, opens⟩
  · have first := mapped found entry
    rcases lives with ⟨place, held⟩ | ⟨later, place, reopens⟩
    · rw [same, mapped stored held] at first
      exact (Option.some.inj first).symm
    · rw [same, (opened stored reopens).1] at first
      cases first
  · obtain ⟨absent, first⟩ := opened found opens
    rw [same] at absent first
    rcases lives with ⟨place, held⟩ | ⟨later, place, reopens⟩
    · cases absent.symm.trans (mapped stored held)
    · obtain ⟨_, second⟩ := opened stored reopens
      cases owned.alone (Or.inl first) (Or.inl second)
      obtain ⟨phase, entry, opening⟩ := first
      obtain ⟨again, twice, reopening⟩ := second
      cases entry.symm.trans twice
      cases opening.symm.trans reopening
      rfl

/-- While a call that is no `reconnect` is in progress, no other call goes on. -/
theorem Owned.alone_step (owned : m.Owned) {phase : ManagerPhase} (entry : m.calls call = some phase)
    (progress : phase.inProgress = true) (alone : phase.reconnects = none) {event : ManagerEvent}
    (orderly : m.Orderly event) (run : m.step event = some t) :
    (∃ session event', event = .session session event') ∨ event = .returned call := by
  cases event with
  | connectAll other => cases (orderly call phase entry).symm.trans progress
  | disconnectAll other => cases (orderly call phase entry).symm.trans progress
  | reconnect other address =>
    obtain ⟨fresh, _⟩ := Option.ite_none_right_eq_some.mp run
    have different : call ≠ other := by
      rintro rfl
      rw [entry] at fresh
      cases fresh
    obtain ⟨_, _, _, reconnects, _⟩ := orderly call phase different entry progress
    cases alone.symm.trans reconnects
  | session session event => exact Or.inl ⟨session, event, rfl⟩
  | returned other =>
    by_cases same : other = call
    · exact Or.inr (congrArg _ same)
    · obtain ⟨later, found, run⟩ := Option.bind_eq_some_iff.mp run
      have ongoing : later.inProgress = true := by
        cases later with
        | settled outcome => cases run
        | _ => rfl
      obtain ⟨_, _, here, _⟩ := owned.apart call phase entry progress other later same found ongoing
      cases alone.symm.trans here

theorem connectNext_sessions (m : MultiDeviceManager) (call : CallId) (addresses : List String) :
    (m.connectNext call addresses).sessions = m.sessions := by
  induction addresses with
  | nil => rfl
  | cons address rest ih =>
    unfold connectNext
    split
    · exact ih
    · rfl

/-- `connectAll` only ever adds sessions. -/
theorem Owned.connectingAll_step (owned : m.Owned) (connecting : ConnectingAll call m) {event : ManagerEvent}
    (orderly : m.Orderly event) (run : m.step event = some t) {place : String} {held : Nat}
    (entry : m.sessions.get? place = some held) : t.sessions.get? place = some held := by
  obtain ⟨address, rest, session, phase⟩ := connecting
  rcases owned.alone_step phase rfl rfl orderly run with ⟨other, event, rfl⟩ | rfl
  · obtain ⟨_, _, _, _, rfl⟩ := session_step run
    exact entry
  · simp only [MultiDeviceManager.step, phase, Option.bind_some, MultiDeviceManager.returned] at run
    split at run
    · cases run
      rw [connectNext_sessions]
      have elsewhere : place ≠ address := by
        rintro rfl
        have absent := (owned.opened call place session ⟨_, phase, rfl⟩).1
        cases absent.symm.trans entry
      exact (congrFun (OrderedMap.get?_set _ _ _) place).trans ((Table.insert_of_ne _ _ elsewhere).trans entry)
    · cases run
      exact entry
    · cases run

/-- The runs in which a call is in progress up to the last step. -/
theorem Owned.during (owned : m.Owned) {during : MultiDeviceManager → Prop}
    (reach : Reach MultiDeviceManager.step (fun m event => m.Orderly event ∧ during m) m trace t) : t.Owned :=
  reach.invariant (P := Owned) owned fun _ _ _ owned guard run => owned.step guard.1 run

theorem Owned.connectingAll_keeps (owned : m.Owned)
    (reach : Reach MultiDeviceManager.step (fun m event => m.Orderly event ∧ ConnectingAll call m) m trace t)
    {place : String} {held : Nat} (entry : m.sessions.get? place = some held) :
    t.sessions.get? place = some held := by
  induction reach with
  | start => exact entry
  | next before guard run ih => exact (owned.during before).connectingAll_step guard.2 guard.1 run ih

theorem step_addresses {event : ManagerEvent} (run : m.step event = some t) : t.addresses = m.addresses := by
  have connectNext (m : MultiDeviceManager) (call : CallId) (rest : List String) :
      (m.connectNext call rest).addresses = m.addresses := by
    induction rest with
    | nil => rfl
    | cons address rest ih =>
      unfold MultiDeviceManager.connectNext
      split
      · exact ih
      · rfl
  have disconnectNext (m : MultiDeviceManager) (call : CallId) (failures : List Failure) :
      (m.disconnectNext call failures).addresses = m.addresses := by
    unfold MultiDeviceManager.disconnectNext
    split <;> rfl
  cases event with
  | connectAll call =>
    obtain ⟨_, run⟩ := Option.ite_none_right_eq_some.mp run
    cases run
    exact connectNext m call m.addresses
  | reconnect call address =>
    obtain ⟨_, run⟩ := Option.ite_none_right_eq_some.mp run
    cases run
    unfold MultiDeviceManager.reconnect
    split <;> rfl
  | disconnectAll call =>
    obtain ⟨_, run⟩ := Option.ite_none_right_eq_some.mp run
    cases run
    exact disconnectNext m call []
  | session session event =>
    obtain ⟨_, _, _, _, rfl⟩ := session_step run
    rfl
  | returned call =>
    obtain ⟨phase, _, run⟩ := Option.bind_eq_some_iff.mp run
    cases phase with
    | connectingAll address rest session =>
      simp only [MultiDeviceManager.returned] at run
      split at run
      · cases run
        exact connectNext _ call rest
      · cases run
        rfl
      · cases run
    | releasing address existing =>
      simp only [MultiDeviceManager.returned] at run
      split at run
      · cases run
        rfl
      · cases run
    | replacing address session =>
      simp only [MultiDeviceManager.returned] at run
      split at run
      · cases run
        rfl
      · cases run
        rfl
      · cases run
    | disconnectingAll address session failures =>
      simp only [MultiDeviceManager.returned] at run
      split at run
      · cases run
        exact disconnectNext _ call _
      · cases run
    | settled outcome => cases run

theorem addresses_of_reach (reach : Reach MultiDeviceManager.step Orderly (create addresses) trace m) :
    m.addresses = addresses :=
  reach.invariant (P := fun m => m.addresses = addresses) rfl fun _ _ _ same _ run => (step_addresses run).trans same

/-- What a session does when its transport does as it is told. -/
def successes (session : Nat) (call : CallId) : List ManagerEvent :=
  [.session session (.connectSettled call (.fulfilled ())), .session session (.nameSettled call (.fulfilled [])),
    .session session (.subscribeSettled call (.fulfilled ()))]

/-- A session whose transport does as it is told is initialized. -/
theorem initialization_succeeds (m : MultiDeviceManager) (call : CallId) (address : String) (session : Nat)
    (found : m.objects session = some (openSession address call)) :
    ∃ object, object.initializations call = some (.settled (.fulfilled ())) ∧
      Reach MultiDeviceManager.step Orderly m (successes session call)
        { m with objects := m.objects.insert session object } := by
  let connected := (openSession address call).connectSettled call 0 (.fulfilled ())
  let named := connected.nameSettled call 0 (.fulfilled [])
  let object := named.subscribeSettled call 0 (.fulfilled ())
  have opening : (openSession address call).step (.connectSettled call (.fulfilled ())) = some connected := by
    have phase : (openSession address call).initializations call = some (.connecting 0) := Table.insert_self _ _ _
    simp only [DeviceSession.step, phase]
    rfl
  have naming : connected.step (.nameSettled call (.fulfilled [])) = some named := by
    have phase : connected.initializations call = some (.readingName 0) := Table.insert_self _ _ _
    simp only [DeviceSession.step, phase]
    rfl
  have subscribing : named.step (.subscribeSettled call (.fulfilled ())) = some object := by
    have phase : named.initializations call = some (.subscribing 0) := Table.insert_self _ _ _
    simp only [DeviceSession.step, phase]
    rfl
  have first : m.step (.session session (.connectSettled call (.fulfilled ()))) =
      some { m with objects := m.objects.insert session connected } := by
    simp [MultiDeviceManager.step, SessionEvent.isOwners, found, opening]
  have second : ({ m with objects := m.objects.insert session connected } : MultiDeviceManager).step
      (.session session (.nameSettled call (.fulfilled []))) =
        some { m with objects := m.objects.insert session named } := by
    simp [MultiDeviceManager.step, SessionEvent.isOwners, naming, Table.insert_insert]
  have third : ({ m with objects := m.objects.insert session named } : MultiDeviceManager).step
      (.session session (.subscribeSettled call (.fulfilled ()))) =
        some { m with objects := m.objects.insert session object } := by
    simp [MultiDeviceManager.step, SessionEvent.isOwners, subscribing, Table.insert_insert]
  exact ⟨object, Table.insert_self _ _ _, .cons trivial first (.cons trivial second (.cons trivial third .start))⟩

/-- The loop of `connectAll` gets through when all transports do as they are told. -/
theorem connectNext_completes (call : CallId) (rest : List String) (m : MultiDeviceManager) :
    ∃ trace t, Reach MultiDeviceManager.step Orderly (m.connectNext call rest) trace t ∧
      t.calls call = some (.settled (.fulfilled ())) ∧
      (∀ address session, m.sessions.get? address = some session → t.sessions.get? address = some session) ∧
      ∀ address ∈ rest, ∃ session, t.sessions.get? address = some session := by
  induction rest generalizing m with
  | nil => exact ⟨[], _, .start, Table.insert_self _ _ _, (fun _ _ entry => entry), (fun _ member => nomatch member)⟩
  | cons address rest ih =>
    unfold connectNext
    split
    · rename_i known
      obtain ⟨trace, t, reach, settled, kept, reached⟩ := ih m
      refine ⟨trace, t, reach, settled, kept, fun other member => ?_⟩
      rcases List.mem_cons.mp member with rfl | later
      · obtain ⟨session, entry⟩ := Option.isSome_iff_exists.mp known
        exact ⟨session, kept other session entry⟩
      · exact reached other later
    · rename_i unknown
      let started := m.startSession call address (.connectingAll address rest m.created)
      obtain ⟨object, initialized, begun⟩ := initialization_succeeds started call address m.created
        (Table.insert_self _ _ _)
      let ready : MultiDeviceManager := { started with objects := started.objects.insert m.created object }
      let stored : MultiDeviceManager := { ready with sessions := ready.sessions.set address m.created }
      have returned : ready.step (.returned call) = some (stored.connectNext call rest) := by
        have phase : ready.calls call = some (.connectingAll address rest m.created) := Table.insert_self _ _ _
        have awaited : ready.initialization call m.created = some (.settled (.fulfilled ())) := by
          simp [initialization, ready, initialized]
        simp only [MultiDeviceManager.step, phase, Option.bind_some, MultiDeviceManager.returned, awaited]
        rfl
      obtain ⟨trace, t, reach, settled, kept, reached⟩ := ih stored
      have entries (place : String) : stored.sessions.get? place =
          m.sessions.get?.insert address m.created place :=
        congrFun (OrderedMap.get?_set _ _ _) place
      refine ⟨successes m.created call ++ .returned call :: trace, t,
        begun.trans (.cons trivial returned reach), settled, fun place session entry => ?_, fun place member => ?_⟩
      · refine kept place session ((entries place).trans ?_)
        refine (Table.insert_of_ne _ _ ?_).trans entry
        rintro rfl
        exact unknown (Option.isSome_iff_exists.mpr ⟨session, entry⟩)
      · rcases List.mem_cons.mp member with rfl | later
        · exact ⟨m.created, kept place m.created ((entries place).trans (Table.insert_self _ _ _))⟩
        · exact reached place later

/-- The sessions in the map are told apart by their addresses. -/
theorem Owned.distinct (owned : m.Owned) : (m.sessions.entries.map Prod.snd).Nodup := by
  refine List.Nodup.map_on ?_ (List.Nodup.of_map Prod.fst m.sessions.distinct)
  rintro ⟨address, session⟩ here ⟨place, other⟩ there same
  cases same
  obtain ⟨object, found, first, _⟩ := owned.mapped address session (OrderedMap.get?_eq_some.mpr here)
  obtain ⟨again, twice, second, _⟩ := owned.mapped place session (OrderedMap.get?_eq_some.mpr there)
  cases found.symm.trans twice
  exact Prod.ext (first.symm.trans second) rfl

/-- While `disconnectAll` runs no session is being initialized. -/
theorem Owned.all_over (owned : m.Owned) (disconnecting : DisconnectingAll call m) {session : Nat}
    {object : DeviceSession} (found : m.objects session = some object) : object.Over := by
  obtain ⟨address, current, failures, phase⟩ := disconnecting
  by_cases mapped : ∃ place, m.sessions.get? place = some session
  · obtain ⟨place, entry⟩ := mapped
    obtain ⟨again, twice, _, over_, _⟩ := owned.mapped place session entry
    cases found.symm.trans twice
    exact over_
  · refine (owned.left session object found (fun place entry => mapped ⟨place, entry⟩) ?_).1
    rintro other place ⟨later, entry, opening⟩
    by_cases same : other = call
    · subst same
      cases phase.symm.trans entry
      cases opening
    · obtain ⟨_, _, absurd, _⟩ := owned.apart call _ phase rfl other later same entry (opening_inProgress opening)
      cases absurd

/-- Since the first state the call has told a session to disconnect, once. -/
def Told (call : CallId) (m t : MultiDeviceManager) (session : Nat) (phase : DisconnectPhase) : Prop :=
  ∃ before after, m.objects session = some before ∧ t.objects session = some after ∧
    after.disconnects call = some phase ∧
    after.transportCalls.count .disconnect = before.transportCalls.count .disconnect + 1

/-- Since the first state nobody has told a session to disconnect. -/
def Untold (m t : MultiDeviceManager) (session : Nat) : Prop :=
  ∃ before after, m.objects session = some before ∧ t.objects session = some after ∧
    after.transportCalls.count .disconnect = before.transportCalls.count .disconnect

/-- How far `disconnectAll` has come since the first state. -/
def Sweep (call : CallId) (m t : MultiDeviceManager) : Prop :=
  (∃ done address session rest results phase,
    t.calls call = some (.disconnectingAll address session (results.filterMap disconnectFailure)) ∧
    m.sessions.entries = done ++ (address, session) :: rest ∧ t.sessions.entries = (address, session) :: rest ∧
    List.Forall₂ (fun entry result => Told call m t entry.2 (.settled result)) done results ∧
    Told call m t session phase ∧ ∀ entry ∈ rest, Untold m t entry.2) ∨
  ∃ results, t.calls call = some (.settled (disconnectOutcome (results.filterMap disconnectFailure))) ∧
    t.sessions.entries = [] ∧
    List.Forall₂ (fun entry result => Told call m t entry.2 (.settled result)) m.sessions.entries results

theorem count_writes {calls more : List TransportCall} (writes : ∀ one ∈ more, one.isWrite = true) :
    (calls ++ more).count .disconnect = calls.count .disconnect := by
  rw [List.count_append, Nat.add_eq_left, List.count_eq_zero]
  exact fun member => nomatch writes _ member

/-- A step of the sessions themselves changes neither. -/
theorem Told.course {phase : DisconnectPhase} {session other : Nat} {object later : DeviceSession}
    (told : Told call m t session phase) (found : t.objects other = some object) (over_ : object.Over)
    (course : Course object later) :
    ∃ next, Told call m { t with objects := t.objects.insert other later } session next ∧
      ∀ result, phase = .settled result → next = .settled result := by
  obtain ⟨before, after, start, entry, disconnect, count⟩ := told
  by_cases same : session = other
  · subst same
    cases found.symm.trans entry
    obtain ⟨_, _, disconnects, more, calls, writes⟩ := over_.course course
    have still : ∃ next, later.disconnects call = some next ∧ ∀ result, phase = .settled result → next = .settled result := by
      rcases disconnects with unchanged | ⟨one, result, open_, changed⟩
      · exact ⟨phase, by rw [unchanged]; exact disconnect, fun _ settled => settled⟩
      · by_cases here : call = one
        · subst here
          cases open_.symm.trans disconnect
          exact ⟨.settled result, by rw [changed, Table.insert_self], fun _ settled => nomatch settled⟩
        · exact ⟨phase, by rw [changed, Table.insert_of_ne _ _ here]; exact disconnect, fun _ settled => settled⟩
    obtain ⟨next, held, keeps⟩ := still
    refine ⟨next, ⟨before, later, start, Table.insert_self _ _ _, held, ?_⟩, keeps⟩
    rw [calls, count_writes writes, count]
  · exact ⟨phase, ⟨before, after, start, (Table.insert_of_ne _ _ same).trans entry, disconnect, count⟩,
      fun _ settled => settled⟩

theorem Untold.course {session other : Nat} {object later : DeviceSession} (untold : Untold m t session)
    (found : t.objects other = some object) (over_ : object.Over) (course : Course object later) :
    Untold m { t with objects := t.objects.insert other later } session := by
  obtain ⟨before, after, start, entry, count⟩ := untold
  by_cases same : session = other
  · subst same
    cases found.symm.trans entry
    obtain ⟨_, _, _, more, calls, writes⟩ := over_.course course
    refine ⟨before, later, start, Table.insert_self _ _ _, ?_⟩
    rw [calls, count_writes writes, count]
  · exact ⟨before, after, start, (Table.insert_of_ne _ _ same).trans entry, count⟩

/-- The loop of `disconnectAll`, at the first entry that is left. -/
theorem sweep_next (t : MultiDeviceManager) (done : List (String × Nat)) (results : List (Settlement Failure Unit))
    (distinct : (m.sessions.entries.map Prod.snd).Nodup) (entries : m.sessions.entries = done ++ t.sessions.entries)
    (told : List.Forall₂ (fun entry result => Told call m t entry.2 (.settled result)) done results)
    (untold : ∀ entry ∈ t.sessions.entries, Untold m t entry.2) :
    Sweep call m (t.disconnectNext call (results.filterMap disconnectFailure)) := by
  unfold MultiDeviceManager.disconnectNext
  split
  · rename_i finished
    rw [finished, List.append_nil] at entries
    exact Or.inr ⟨results, Table.insert_self _ _ _, finished, entries ▸ told⟩
  · rename_i address session rest left
    rw [left] at entries untold
    rw [entries, List.map_append, List.map_cons, List.nodup_append] at distinct
    obtain ⟨_, unique, disjoint⟩ := distinct
    have others : session ∉ rest.map Prod.snd := (List.nodup_cons.mp unique).1
    have passed : session ∉ done.map Prod.snd := fun member => disjoint session member session List.mem_cons_self rfl
    obtain ⟨before, after, start, entry, count⟩ := untold (address, session) List.mem_cons_self
    have changed : (t.endSession call session (.disconnectingAll address session
        (results.filterMap disconnectFailure))).objects = t.objects.insert session (after.disconnect call) :=
      Table.adjust_eq_insert _ entry
    have kept {other : Nat} (different : other ≠ session) : (t.endSession call session (.disconnectingAll address
        session (results.filterMap disconnectFailure))).objects other = t.objects other := by
      rw [changed, Table.insert_of_ne _ _ different]
    refine Or.inl ⟨done, address, session, rest, results, .disconnecting, Table.insert_self _ _ _, entries, left,
      ?_, ?_, fun other member => ?_⟩
    · have elsewhere : ∀ other ∈ done, other.2 ≠ session := by
        rintro other member rfl
        exact passed (List.mem_map.mpr ⟨other, member, rfl⟩)
      refine ((List.forall₂_and_left _ _).mpr ⟨elsewhere, told⟩).imp fun other result held => ?_
      obtain ⟨different, first, last, begun, stored, settled, counted⟩ := held
      exact ⟨first, last, begun, (kept different).trans stored, settled, counted⟩
    · refine ⟨before, after.disconnect call, start, by rw [changed, Table.insert_self], Table.insert_self _ _ _, ?_⟩
      change (after.transportCalls ++ [_]).count _ = _
      rw [List.count_append, count]
      rfl
    · obtain ⟨first, last, begun, held, same⟩ := untold other (List.mem_cons_of_mem _ member)
      refine ⟨first, last, begun, (kept ?_).trans held, same⟩
      rintro here
      exact others (List.mem_map.mpr ⟨other, member, here⟩)

theorem Sweep.step (sweep : Sweep call m t) (distinct : (m.sessions.entries.map Prod.snd).Nodup)
    (owned : t.Owned) (disconnecting : DisconnectingAll call t) {event : ManagerEvent} {u : MultiDeviceManager}
    (orderly : t.Orderly event) (run : t.step event = some u) : Sweep call m u := by
  have place := disconnecting
  obtain ⟨address, session, failures, phase⟩ := place
  rcases sweep with ⟨done, here, current, rest, results, state, entry, entries, left, told, telling, untold⟩ | finished
  · cases phase.symm.trans entry
    rcases owned.alone_step phase rfl rfl orderly run with ⟨other, event, rfl⟩ | rfl
    · obtain ⟨object, later, found, course, rfl⟩ := session_step run
      have over_ := owned.all_over disconnecting found
      obtain ⟨next, still, _⟩ := telling.course found over_ course
      refine Or.inl ⟨done, address, session, rest, results, next, entry, entries, left, told.imp ?_, still, ?_⟩
      · intro one result before
        obtain ⟨after, held, keeps⟩ := before.course found over_ course
        cases keeps result rfl
        exact held
      · exact fun one member => (untold one member).course found over_ course
    · simp only [MultiDeviceManager.step, phase, Option.bind_some, MultiDeviceManager.returned] at run
      split at run
      · rename_i result settled
        cases run
        have remaining := OrderedMap.entries_delete_head left
        have last : Told call m t session (.settled result) := by
          obtain ⟨before, after, start, held, disconnect, count⟩ := telling
          have same : after.disconnects call = some (.settled result) := by
            simpa [disconnection, held] using settled
          exact ⟨before, after, start, held, same, count⟩
        have gathered : (results ++ [result]).filterMap disconnectFailure =
            results.filterMap disconnectFailure ++ (disconnectFailure result).toList := by
          cases result <;> simp [List.filterMap_append, disconnectFailure]
        rw [← gathered]
        refine sweep_next { t with sessions := t.sessions.delete address } (done ++ [(address, session)])
          (results ++ [result]) distinct ?_ ?_ ?_
        · rw [remaining, entries]
          simp
        · exact List.rel_append told (.cons last .nil)
        · rw [remaining]
          exact untold
      · cases run
  · obtain ⟨_, settled, _⟩ := finished
    cases phase.symm.trans settled

/-- `disconnectAll` tells every session once, whatever fails, and gathers what
has failed. -/
theorem Owned.sweep (owned : m.Owned) (quiet : m.Quiet) (start : m.step (.disconnectAll call) = some s)
    (reach : Reach MultiDeviceManager.step (fun m event => m.Orderly event ∧ DisconnectingAll call m) s trace t) :
    Sweep call m t := by
  have distinct := owned.distinct
  have orderly : m.Orderly (.disconnectAll call) := quiet
  have first : s.Owned := owned.step orderly start
  induction reach with
  | start =>
    obtain ⟨_, run⟩ := Option.ite_none_right_eq_some.mp start
    cases run
    refine sweep_next m [] [] distinct rfl .nil fun entry member => ?_
    obtain ⟨object, found, _⟩ := owned.mapped entry.1 entry.2 (OrderedMap.get?_eq_some.mpr member)
    exact ⟨object, object, found, found, rfl⟩
  | next before guard run ih => exact ih.step distinct (first.during before) guard.2 guard.1 run

/-- A call of `disconnectAll` gets through when the transports answer the `disconnect` of
each session as given, and nothing else happens. -/
def Completes (call : CallId) (answers : Nat → Settlement Failure Unit) (m : MultiDeviceManager) : Prop :=
  ∃ trace t outcome, Reach MultiDeviceManager.step (fun m event => m.Orderly event ∧ DisconnectingAll call m) m trace t ∧
    t.calls call = some (.settled outcome) ∧
    ∀ session event, .session session event ∈ trace → event = .disconnectSettled call (answers session)

section Sweeps

variable {answers : Nat → Settlement Failure Unit} {address : String} {session : Nat} {failures : List Failure}
  {object : DeviceSession} {rest : List (String × Nat)}

/-- The transport answers the `disconnect` that `disconnectAll` awaits. -/
theorem Completes.answered (sweeping : m.calls call = some (.disconnectingAll address session failures))
    (entry : m.objects session = some object) (disconnecting : object.disconnects call = some .disconnecting)
    (later : Completes call answers
      { m with objects := m.objects.insert session (object.disconnectSettled call (answers session)) }) :
    Completes call answers m := by
  obtain ⟨trace, t, outcome, reach, settled, told⟩ := later
  have run : m.step (.session session (.disconnectSettled call (answers session))) = some
      { m with objects := m.objects.insert session (object.disconnectSettled call (answers session)) } := by
    simp [MultiDeviceManager.step, SessionEvent.isOwners, entry, DeviceSession.step, disconnecting]
  have during : DisconnectingAll call m := ⟨address, session, failures, sweeping⟩
  have orderly : m.Orderly (.session session (.disconnectSettled call (answers session))) := trivial
  refine ⟨_, t, outcome, .cons ⟨orderly, during⟩ run reach, settled, fun other event member => ?_⟩
  rcases List.mem_cons.mp member with here | behind
  · cases here
    rfl
  · exact told other event behind

/-- `disconnectAll` goes on after one session. -/
theorem Completes.returned {result : Settlement Failure Unit}
    (sweeping : m.calls call = some (.disconnectingAll address session failures))
    (entry : m.objects session = some object) (answered : object.disconnects call = some (.settled result))
    (later : Completes call answers ({ m with sessions := m.sessions.delete address }.disconnectNext call
      (failures ++ (disconnectFailure result).toList))) : Completes call answers m := by
  obtain ⟨trace, t, outcome, reach, settled, told⟩ := later
  have settles : m.disconnection call session = some (.settled result) := by
    rw [disconnection, entry, Option.bind_some, answered]
  have run : m.step (.returned call) = some ({ m with sessions := m.sessions.delete address }.disconnectNext call
      (failures ++ (disconnectFailure result).toList)) := by
    simp only [MultiDeviceManager.step, sweeping, Option.bind_some, MultiDeviceManager.returned, settles]
  have during : DisconnectingAll call m := ⟨address, session, failures, sweeping⟩
  have orderly : m.Orderly (.returned call) := trivial
  refine ⟨_, t, outcome, .cons ⟨orderly, during⟩ run reach, settled, fun other event member => ?_⟩
  exact told other event (by simpa using member)

/-- From anywhere in the sweep it gets through, if the rest of it does. -/
theorem completes_sweep {phase : DisconnectPhase} (sweeping : m.calls call = some (.disconnectingAll address session failures))
    (left : m.sessions.entries = (address, session) :: rest) (entry : m.objects session = some object)
    (disconnect : object.disconnects call = some phase) (known : ∀ one ∈ rest, ∃ object, m.objects one.2 = some object)
    (later : ∀ (failures : List Failure) (m : MultiDeviceManager), m.sessions.entries = rest →
      (∀ one ∈ rest, ∃ object, m.objects one.2 = some object) → Completes call answers (m.disconnectNext call failures)) :
    Completes call answers m := by
  cases phase with
  | settled result =>
    exact .returned sweeping entry disconnect (later _ _ (OrderedMap.entries_delete_head left) known)
  | disconnecting =>
    refine .answered sweeping entry disconnect (.returned sweeping (Table.insert_self _ _ _) (Table.insert_self _ _ _)
      (later _ _ (OrderedMap.entries_delete_head left) fun one member => ?_))
    obtain ⟨found, at_⟩ := known one member
    by_cases same : one.2 = session
    · rw [same]
      exact ⟨_, Table.insert_self _ _ _⟩
    · exact ⟨found, (Table.insert_of_ne _ _ same).trans at_⟩

theorem completes_disconnectNext (left : m.sessions.entries = rest)
    (known : ∀ one ∈ rest, ∃ object, m.objects one.2 = some object) :
    Completes call answers (m.disconnectNext call failures) := by
  induction rest generalizing m failures with
  | nil =>
    rw [disconnectNext, left]
    exact ⟨[], _, _, .start, Table.insert_self _ _ _, fun _ _ member => (List.not_mem_nil member).elim⟩
  | cons next rest ih =>
    obtain ⟨address, session⟩ := next
    obtain ⟨object, held⟩ := known (address, session) List.mem_cons_self
    rw [disconnectNext, left]
    refine completes_sweep (Table.insert_self _ _ _) left (Table.adjust_self _ held) (Table.insert_self _ _ _)
      (fun one member => ?_) fun failures later entries known => ih entries known
    obtain ⟨found, at_⟩ := known one (List.mem_cons_of_mem _ member)
    by_cases same : session = one.2
    · rw [← same]
      exact ⟨_, Table.adjust_self _ held⟩
    · exact ⟨found, (Table.adjust_of_ne _ _ (by simpa using same)).trans at_⟩

/-- A call of `disconnectAll` that has not settled gets through. -/
theorem Sweep.completes (sweep : Sweep call m t) (answers : Nat → Settlement Failure Unit) : Completes call answers t := by
  rcases sweep with ⟨_, _, _, _, _, _, sweeping, _, left, _, told, untold⟩ | ⟨_, settled, _⟩
  · obtain ⟨_, object, _, entry, disconnect, _⟩ := told
    refine completes_sweep sweeping left entry disconnect (fun one member => ?_) fun failures later entries known =>
      completes_disconnectNext entries known
    obtain ⟨_, found, _, held, _⟩ := untold one member
    exact ⟨found, held⟩
  · exact ⟨[], t, _, .start, settled, fun _ _ member => nomatch member⟩

end Sweeps

theorem getSession_ok {address : String} {session : Nat} (found : m.getSession address = .ok session) :
    m.sessions.get? address = some session := by
  unfold getSession at found
  split at found
  · cases found
    assumption
  · cases found

/-- What `disconnectAll` settles with, by what the sessions have answered. -/
theorem disconnectOutcome_eq (results : List (Settlement Failure Unit)) :
    let failures := results.filterMap fun result =>
      match result with
      | .fulfilled _ => none
      | .rejected error => some error.toError
    (failures = [] → disconnectOutcome (results.filterMap disconnectFailure) = .fulfilled ()) ∧
    (failures ≠ [] → disconnectOutcome (results.filterMap disconnectFailure) =
      .rejected (.aggregateError failures "Failed to disconnect one or more Bluetooth sessions")) := by
  intro failures
  have same : results.filterMap disconnectFailure = failures := by
    refine List.filterMap_congr fun result _ => ?_
    cases result <;> rfl
  rw [same]
  constructor
  · intro none_
    rw [none_]
    rfl
  · intro some_
    cases failed : failures with
    | nil => exact absurd failed some_
    | cons error errors => rfl

/-- In every run in which calls on one address follow each other: sessions are
handed out only once initialized, no address has two, and no transport is left
connected behind. What `connectAll` has established stays, and it can be called
again; `disconnectAll` gets through whatever the transports answer, disconnects every
session once, and is fulfilled, or rejected with what has failed. -/
theorem manager_owns_its_sessions
    (reach : Reach MultiDeviceManager.step Orderly (create addresses) trace m) :
    (∀ address session, m.getSession address = .ok session → ∃ object call, m.objects session = some object ∧
      object.address = address ∧ object.initializations call = some (.settled (.fulfilled ()))) ∧
    (∀ one other first second, m.objects one = some first → m.objects other = some second →
      first.address = second.address → m.Live one → m.Live other → one = other) ∧
    (∀ session object, m.objects session = some object → (∃ address, .connect address ∈ object.transportCalls) →
      (∃ address, m.sessions.get? address = some session) ∨ (∃ call address, m.Opens call address session) ∨
        Released object.transportCalls) ∧
    (∀ call later t, ConnectingAll call m →
      Reach MultiDeviceManager.step (fun m event => m.Orderly event ∧ ConnectingAll call m) m later t →
      ∀ address session, m.sessions.get? address = some session → t.sessions.get? address = some session) ∧
    (m.Quiet → ∀ call, m.calls call = none → ∃ later t,
      Reach MultiDeviceManager.step Orderly m (.connectAll call :: later) t ∧
        t.calls call = some (.settled (.fulfilled ())) ∧
        (∀ address session, m.sessions.get? address = some session → t.sessions.get? address = some session) ∧
        ∀ address ∈ addresses, ∃ session, t.sessions.get? address = some session) ∧
    ∀ call s later t, m.Quiet → m.step (.disconnectAll call) = some s →
      Reach MultiDeviceManager.step (fun m event => m.Orderly event ∧ DisconnectingAll call m) s later t →
        (∀ answers, Completes call answers t) ∧ ∀ outcome, t.calls call = some (.settled outcome) →
          t.sessions.entries = [] ∧ ∃ results,
            List.Forall₂ (fun entry result => Told call m t entry.2 (.settled result)) m.sessions.entries results ∧
            let failures := results.filterMap fun result =>
              match result with
              | .fulfilled _ => none
              | .rejected error => some error.toError
            (failures = [] → outcome = .fulfilled ()) ∧
            (failures ≠ [] → outcome = .rejected (.aggregateError failures
              "Failed to disconnect one or more Bluetooth sessions")) := by
  have owned := owned_of_reach reach
  refine ⟨fun address session found => ?_, fun one other first second found stored same live lives =>
      owned.one_session found stored same live lives, fun session object found _ => ?_,
    fun call later t _ during address session entry => owned.connectingAll_keeps during entry,
    fun quiet call fresh => ?_, fun call s later t quiet start during => ?_⟩
  · obtain ⟨object, stored, here, _, call, initialized⟩ := owned.mapped address session (getSession_ok found)
    exact ⟨object, call, stored, here, initialized⟩
  · by_cases mapped : ∃ address, m.sessions.get? address = some session
    · exact Or.inl mapped
    · by_cases opened : ∃ call address, m.Opens call address session
      · exact Or.inr (Or.inl opened)
      · refine Or.inr (Or.inr (owned.left session object found ?_ ?_).2)
        · exact fun address entry => mapped ⟨address, entry⟩
        · exact fun call address opens => opened ⟨call, address, opens⟩
  · obtain ⟨later, t, after, settled, kept, reached⟩ := connectNext_completes call m.addresses m
    have begun : m.step (.connectAll call) = some (m.connectNext call m.addresses) :=
      if_pos (Option.isNone_iff_eq_none.mpr fresh)
    refine ⟨later, t, .cons quiet begun after, settled, kept, ?_⟩
    rw [← addresses_of_reach reach]
    exact reached
  · have sweep := owned.sweep quiet start during
    refine ⟨sweep.completes, fun outcome settled => ?_⟩
    rcases sweep with ⟨_, _, _, _, _, _, phase, _⟩ | ⟨results, phase, empty, told⟩
    · cases phase.symm.trans settled
    · cases phase.symm.trans settled
      exact ⟨empty, results, told, disconnectOutcome_eq results⟩

theorem quiet_of_calls {bound : Nat} (fresh : ∀ call, bound ≤ call → m.calls call = none)
    (settled : ∀ call < bound, ((m.calls call).all fun phase => !phase.inProgress) = true) : m.Quiet := by
  intro call phase entry
  rcases Nat.lt_or_ge call bound with known | unknown
  · have over_ := settled call known
    rw [entry] at over_
    simpa using over_
  · rw [fresh call unknown] at entry
    cases entry

/-- Of two stations the second one refuses its first connection; it is connected by another
`connectAll`, and the first one is reconnected. -/
def twoStations : List ManagerEvent :=
  [.connectAll 0] ++ successes 0 0 ++ [.returned 0, .session 1 (.connectSettled 0 (.rejected (.error "AccessDenied"))),
    .session 1 (.cleanupSettled 0 (.fulfilled ())), .returned 0, .connectAll 1] ++ successes 2 1 ++
    [.returned 1, .reconnect 2 "AA", .session 0 (.disconnectSettled 2 (.rejected (.error "Closed"))), .returned 2] ++
    successes 3 2 ++ [.returned 2]

/-- The second session cannot be disconnected. -/
def oneStays : List ManagerEvent :=
  [.session 2 (.disconnectSettled 3 (.fulfilled ())), .returned 3,
    .session 3 (.disconnectSettled 3 (.rejected (.value "Unreachable"))), .returned 3]

theorem manager_owns_two_stations : ∃ m s t object call,
    Reach MultiDeviceManager.step Orderly (create ["AA", "BB"]) twoStations m ∧ m.getSession "AA" = .ok 3 ∧
    m.objects 3 = some object ∧ object.initializations call = some (.settled (.fulfilled ())) ∧
    m.step (.disconnectAll 3) = some s ∧
    Reach MultiDeviceManager.step (fun m event => m.Orderly event ∧ DisconnectingAll 3 m) s oneStays t ∧
    t.calls 3 = some (.settled (.rejected (.aggregateError [.error "Unreachable"]
      "Failed to disconnect one or more Bluetooth sessions"))) ∧ t.sessions.entries = [] := by
  have reach : ∃ m, Reach MultiDeviceManager.step Orderly (create ["AA", "BB"]) twoStations m ∧ m.Quiet ∧
      m.getSession "AA" = .ok 3 ∧ ∃ s t, m.step (.disconnectAll 3) = some s ∧
        Reach MultiDeviceManager.step (fun m event => m.Orderly event ∧ DisconnectingAll 3 m) s oneStays t ∧
        t.calls 3 = some (.settled (.rejected (.aggregateError [.error "Unreachable"]
          "Failed to disconnect one or more Bluetooth sessions"))) := by
    refine ⟨_, .cons (fun _ _ entry => nomatch entry) rfl (.cons trivial rfl (.cons trivial rfl (.cons trivial rfl
      (.cons trivial rfl (.cons trivial rfl (.cons trivial rfl (.cons trivial rfl (.cons ?_ rfl (.cons trivial rfl
      (.cons trivial rfl (.cons trivial rfl (.cons trivial rfl (.cons (Quiet.clear ?_ _ _) rfl (.cons trivial rfl
      (.cons trivial rfl (.cons trivial rfl (.cons trivial rfl (.cons trivial rfl (.cons trivial rfl
      .start))))))))))))))))))), ?_, rfl, _, _, rfl, .cons ⟨trivial, _, _, _, rfl⟩ rfl
        (.cons ⟨trivial, _, _, _, rfl⟩ rfl (.cons ⟨trivial, _, _, _, rfl⟩ rfl (.cons ⟨trivial, _, _, _, rfl⟩ rfl .start))),
      rfl⟩
    · refine @quiet_of_calls _ 1 (fun call fresh => ?_) (by decide +kernel)
      repeat refine (Table.insert_of_ne _ _ (by omega)).trans ?_
      rfl
    · refine @quiet_of_calls _ 2 (fun call fresh => ?_) (by decide +kernel)
      repeat refine (Table.insert_of_ne _ _ (by omega)).trans ?_
      rfl
    · refine @quiet_of_calls _ 3 (fun call fresh => ?_) (by decide +kernel)
      repeat refine (Table.insert_of_ne _ _ (by omega)).trans ?_
      rfl
  obtain ⟨m, reach, quiet, found, s, t, start, during, settled⟩ := reach
  obtain ⟨handed, _, _, _, _, disconnects⟩ := manager_owns_its_sessions reach
  obtain ⟨object, call, stored, _, initialized⟩ := handed "AA" 3 found
  obtain ⟨_, outcome⟩ := disconnects 3 s oneStays t quiet start during
  exact ⟨m, s, t, object, call, reach, found, stored, initialized, start, during, settled, (outcome _ settled).1⟩

end MultiDeviceManager

end BluettiMqtt
