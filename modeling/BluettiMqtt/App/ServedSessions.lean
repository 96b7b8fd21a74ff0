import BluettiMqtt.App.HandlerSessions

namespace BluettiMqtt
open Promise Transition

namespace DeviceHandler

variable {h t : DeviceHandler} {event : HandlerEvent} {work transport : Nat}

/-- What a step may do to a work. A work that performs has called the session of
a transport in the manager's map. -/
inductive WorkMove (h t : DeviceHandler) (work : Nat) : Prop
  | kept (same : t.works work = h.works work)
  | called (fresh : h.works work = none) (source : WorkSource) (entry : t.works work = some ⟨source, .waiting⟩)
  | began (source : WorkSource) (before : h.works work = some ⟨source, .waiting⟩) (progress : WorkProgress)
      (called : progress ≠ .waiting) (after : t.works work = some ⟨source, progress⟩)
      (performing : ∀ transport, progress = .performing transport → ∃ address managed command,
        h.server.sessions.get? address = some managed ∧ managed.transport = transport ∧
        t.sessions transport = (h.sessions transport).perform work command)

theorem Booked.absent (booked : h.Booked) (fresh : h.queue.works work = none) : h.works work = none := by
  cases found : h.works work with
  | none => rfl
  | some entry =>
    obtain ⟨record, at_, _⟩ := rel_some booked.paired found
    cases fresh.symm.trans at_

theorem Starts.waits {began : DeviceHandler} {source : WorkSource} {record : Work Failure Unit}
    (starts : Starts h began work source record) (booked : h.Booked) : h.works work = some ⟨source, .waiting⟩ := by
  obtain ⟨progress, entry⟩ := starts.entry
  obtain ⟨found, at_, paired⟩ := rel_some booked.paired entry
  cases starts.record_at.symm.trans at_
  cases paired.mpr starts.waiting
  exact entry

theorem Starts.workMove {began : DeviceHandler} {source : WorkSource} {record : Work Failure Unit} {other : Nat}
    (starts : Starts h began work source record) (booked : h.Booked) (request : Except Failure DeviceCommand) :
    WorkMove h (began.begin work source record.address request) other := by
  have before := starts.waits booked
  rcases began.begin_cases work source record.address request with ⟨error, same, _⟩ |
    ⟨command, managed, _, stored, same⟩
  · rw [same]
    by_cases here : other = work
    · subst here
      exact .began source before (.thrown error) nofun (Table.insert_self _ _ _) nofun
    · exact .kept ((Table.insert_of_ne _ _ here).trans (congrFun starts.works other))
  · rw [same]
    by_cases here : other = work
    · subst here
      refine .began source before (.performing managed.transport) nofun (Table.insert_self _ _ _) ?_
      rintro transport ⟨⟩
      refine ⟨record.address, managed, command, starts.stored ▸ stored, rfl, ?_⟩
      change Function.update began.sessions managed.transport _ managed.transport = _
      rw [Function.update_self, starts.sessions]
    · exact .kept ((Table.insert_of_ne _ _ here).trans (congrFun starts.works other))

theorem Effect.workMove (effect : Effect h event t) (booked : h.Booked) (work : Nat) : WorkMove h t work := by
  cases effect.outline with
  | stopped => exact .kept rfl
  | @entered event server =>
    obtain ⟨sessions, same⟩ := h.entered_frame server
    rw [same]
    exact .kept rfl
  | @moved _ own _ _ _ _ _ _ _ _ _ _ _ _ advanced =>
    rcases advanced_cases advanced with ⟨cycle, task, _, fresh, rfl⟩ | ⟨_, sessions, rfl⟩
    · by_cases here : work = own
      · subst here
        exact .called (booked.absent fresh) _ (Table.insert_self _ _ _)
      · exact .kept (Table.insert_of_ne _ _ here)
    · exact .kept rfl
  | @called own address command fresh =>
    by_cases here : work = own
    · subst here
      exact .called (booked.absent fresh) _ (Table.insert_self _ _ _)
    · exact .kept (Table.insert_of_ne _ _ here)
  | started starts => exact starts.workMove booked _
  | settled => exact .kept rfl
  | finished => exact .kept rfl
  | session => exact .kept rfl

/-- A work that has been called keeps what came of it. -/
theorem WorkMove.lasts (move : WorkMove h t work) {source : WorkSource} {progress : WorkProgress}
    (entry : h.works work = some ⟨source, progress⟩) (called : progress ≠ .waiting) :
    t.works work = some ⟨source, progress⟩ := by
  cases move with
  | kept same => exact same.trans entry
  | called fresh => cases fresh.symm.trans entry
  | began _ before =>
    cases before.symm.trans entry
    exact absurd rfl called

theorem WorkMove.performing (move : WorkMove h t work) {source : WorkSource}
    (entry : h.works work = some ⟨source, .performing transport⟩) :
    t.works work = some ⟨source, .performing transport⟩ :=
  move.lasts entry nofun

/-- A running work goes on until it settles. -/
theorem Effect.running (effect : Effect h event t) {record : Work Failure Unit}
    (record_at : h.queue.works work = some record) (running : record.phase = .running) :
    t.queue.works work = some record ∨ ∃ outcome entry, event = .settle work outcome ∧
      h.works work = some entry ∧ h.settles work entry outcome = true := by
  have insert {other : Nat} {later found : Work Failure Unit} {phase : WorkPhase Failure Unit}
      (found_at : h.queue.works other = some found) (place : found.phase = phase) (idle : phase ≠ .running) :
      h.queue.works.insert other later work = some record := by
    refine (Table.insert_of_ne _ _ ?_).trans record_at
    rintro rfl
    cases found_at.symm.trans record_at
    exact idle (place.symm.trans running)
  have began {other : Nat} {source : WorkSource} {found : Work Failure Unit} {start : DeviceHandler}
      (starts : Starts h start other source found) (request : Except Failure DeviceCommand) :
      (start.begin other source found.address request).queue.works work = some record := by
    rw [begin_queue, starts.queue, begin_works starts.record_at]
    exact insert starts.record_at starts.waiting nofun
  cases effect.outline with
  | stopped => exact Or.inl record_at
  | @entered event server =>
    obtain ⟨sessions, same⟩ := h.entered_frame server
    rw [same]
    exact Or.inl record_at
  | moved current allowed run move arrives advanced =>
    rcases advanced_cases advanced with ⟨cycle, task, _, fresh, rfl⟩ | ⟨_, sessions, rfl⟩
    · exact Or.inl ((DeviceWorkQueue.enqueue_old (DeviceWorkQueue.known_ne fresh record_at)).trans record_at)
    · exact Or.inl record_at
  | called fresh =>
    exact Or.inl ((DeviceWorkQueue.enqueue_old (DeviceWorkQueue.known_ne fresh record_at)).trans record_at)
  | started starts => exact Or.inl (began starts _)
  | @settled other found entry outcome found_at still entry_at allowed =>
    by_cases here : other = work
    · subst here
      exact Or.inr ⟨outcome, entry, rfl, entry_at, allowed⟩
    · left
      change (h.queue.workEnded other outcome).works work = _
      rw [workEnded_works found_at]
      exact (Table.insert_of_ne _ _ (Ne.symm here)).trans record_at
  | finished found_at finishing => exact Or.inl (insert found_at finishing nofun)
  | session => exact Or.inl record_at

theorem Effect.created (effect : Effect h event t) : h.server.created ≤ t.server.created := by
  have began {work : Nat} {source : WorkSource} {record : Work Failure Unit} {start : DeviceHandler}
      (starts : Starts h start work source record) (request : Except Failure DeviceCommand) :
      h.server.created ≤ (start.begin work source record.address request).server.created := by
    rw [begin_server, starts.created]
  cases effect.outline with
  | stopped => exact Nat.le_refl _
  | @entered event server other lone allowed run =>
    obtain ⟨sessions, same⟩ := h.entered_frame server
    rw [same]
    exact (Server.step_opens lone other (unwritten_of_allows allowed) run).grows
  | moved current allowed run move arrives advanced =>
    have opens := Server.loopStep_opens current run arrives.loops
    rcases advanced_cases advanced with ⟨cycle, task, _, fresh, rfl⟩ | ⟨_, sessions, rfl⟩
    · exact opens.grows
    · exact opens.grows
  | called => exact Nat.le_refl _
  | started starts => exact began starts _
  | settled => exact Nat.le_refl _
  | finished => exact Nat.le_refl _
  | session => exact Nat.le_refl _

/-- The transport has been created for the address. -/
structure Serves (h : DeviceHandler) (transport : Nat) (address : String) : Prop where
  known : transport < h.server.created
  address : (h.sessions transport).address = address

/-- The initialization of a session has ended. -/
def Initialized (h : DeviceHandler) (transport : Nat) : Prop :=
  ∃ outcome, (h.sessions transport).initializations 0 = some (.settled outcome)

theorem initialized_of {result : Settlement Failure String} (read : h.initialization transport = some result) :
    h.Initialized transport := by
  unfold DeviceHandler.initialization at read
  split at read
  · exact ⟨_, ‹_›⟩
  · exact ⟨_, ‹_›⟩
  · cases read

/-- A session enters the manager's map after its initialization, by `connectAll`
or by the loop of its device. -/
theorem Effect.stored (effect : Effect h event t) {address : String} {managed : ManagedSession}
    (stored : t.server.sessions.get? address = some managed) :
    h.server.sessions.get? address = some managed ∨ h.Initialized managed.transport ∧
      ((∃ rest, h.server.phase = .connecting address rest managed.transport) ∨
        ∃ (index : Nat) (loop : PollingLoop), h.server.loops[index]? = some loop ∧ loop.address = address ∧
          loop.phase = .replacing managed.transport) := by
  have began {work : Nat} {source : WorkSource} {record : Work Failure Unit} {start : DeviceHandler}
      {request : Except Failure DeviceCommand} (starts : Starts h start work source record)
      (stored : (start.begin work source record.address request).server.sessions.get? address = some managed) :
      h.server.sessions.get? address = some managed := by
    rw [begin_server, starts.stored] at stored
    exact stored
  cases effect.outline with
  | stopped => exact Or.inl stored
  | @entered event server other lone allowed run =>
    obtain ⟨sessions, same⟩ := h.entered_frame server
    rw [same] at stored
    rcases Server.step_stored lone run stored with kept | ⟨rest, result, place, rfl⟩
    · exact Or.inl kept
    · refine Or.inr ⟨?_, Or.inl ⟨rest, place⟩⟩
      simp only [allows, place, decide_eq_true_eq] at allowed
      exact initialized_of allowed
  | @moved index work event loop server phase calls cycles _ current allowed run move arrives advanced =>
    have opens := Server.loopStep_opens current run arrives.loops
    have held : server.sessions.get? address = some managed := by
      rcases advanced_cases advanced with ⟨cycle, task, _, fresh, rfl⟩ | ⟨_, sessions, rfl⟩
      · exact stored
      · exact stored
    by_cases own : address = loop.address
    · subst own
      rcases opens.stored managed held with kept | place
      · exact Or.inl kept
      · refine Or.inr ⟨?_, Or.inr ⟨index, loop, current, rfl, place⟩⟩
        rw [place] at move
        cases move with
        | replaced _ name now =>
          simp only [continues, place, decide_eq_true_eq] at allowed
          exact initialized_of allowed
        | unreplaced _ error now =>
          simp only [continues, place, decide_eq_true_eq] at allowed
          exact initialized_of allowed
    · exact Or.inl ((arrives.frame.sessions address own).symm.trans held)
  | called => exact Or.inl stored
  | started starts => exact Or.inl (began starts stored)
  | settled => exact Or.inl stored
  | finished => exact Or.inl stored
  | session => exact Or.inl stored

/-- A new session has been opened on a new transport. -/
structure Opened (h t : DeviceHandler) (transport : Nat) (address : String) : Prop where
  fresh : transport = h.server.created
  next : t.server.created = h.server.created + 1
  session : t.sessions transport = MultiDeviceManager.openSession address 0

theorem Starts.begun {began : DeviceHandler} {source : WorkSource} {record : Work Failure Unit}
    (starts : Starts h began work source record) (request : Except Failure DeviceCommand) :
    (began.begin work source record.address request).server.phase = h.server.phase := by
  rw [begin_server, starts.phase]

theorem Effect.connecting (effect : Effect h event t) {address : String} {rest : List String}
    (place : t.server.phase = .connecting address rest transport) :
    h.server.phase = .connecting address rest transport ∨ Opened h t transport address := by
  cases effect.outline with
  | stopped => exact Or.inl place
  | @entered event server other lone allowed run =>
    obtain ⟨sessions, same⟩ := h.entered_frame server
    have at_ : server.phase = .connecting address rest transport := by
      rw [same] at place
      exact place
    obtain ⟨fresh, next⟩ := (Server.step_opens lone other (unwritten_of_allows allowed) run).connecting address rest transport at_
    refine Or.inr ⟨fresh, by rw [same]; exact next, ?_⟩
    have shape : h.entered server = { h with server := server }.openTransport transport address := by
      unfold DeviceHandler.entered
      rw [at_]
    rw [shape]
    exact Function.update_self transport _ _
  | moved current allowed run move arrives advanced =>
    rcases advanced_cases advanced with ⟨cycle, task, _, fresh, rfl⟩ | ⟨_, sessions, rfl⟩
    · exact Or.inl (arrives.frame.phase.symm.trans place)
    · exact Or.inl (arrives.frame.phase.symm.trans place)
  | called => exact Or.inl place
  | started starts => exact Or.inl ((starts.begun _).symm.trans place)
  | settled => exact Or.inl place
  | finished => exact Or.inl place
  | session => exact Or.inl place

theorem Effect.replacing (effect : Effect h event t) (unstarted : h.server.phase.beforeLoops = true → h.server.loops = [])
    {index : Nat} {loop : PollingLoop} (current : t.server.loops[index]? = some loop)
    (place : loop.phase = .replacing transport) :
    h.server.loops[index]? = some loop ∨ Opened h t transport loop.address := by
  cases effect with
  | stopped => exact Or.inl current
  | @entered event server other lone allowed run =>
    obtain ⟨sessions, same⟩ := h.entered_frame server
    have at_ : server.loops[index]? = some loop := by
      rw [same] at current
      exact current
    rcases (step_loops lone unstarted run).1 with kept | ⟨_, heads⟩
    · exact Or.inl (kept ▸ at_)
    · rw [heads loop (List.mem_of_getElem? at_)] at place
      cases place
  | @moved own work event before server phase calls cycles _ found allowed run move arrives advanced =>
    have opens := Server.loopStep_opens found run arrives.loops
    have at_ : server.loops[index]? = some loop := by
      rcases advanced_cases advanced with ⟨cycle, task, _, fresh, rfl⟩ | ⟨_, sessions, rfl⟩
      · exact current
      · exact current
    rw [arrives.loops] at at_
    rcases loops_set found at_ with ⟨rfl, rfl⟩ | ⟨_, at_⟩
    · cases place
      obtain ⟨fresh, next⟩ := opens.replacing transport rfl
      cases advanced
      exact Or.inr ⟨fresh, next, Function.update_self transport _ _⟩
    · exact Or.inl at_
  | called => exact Or.inl current
  | commandStarted =>
    rw [begin_server] at current
    exact Or.inl current
  | @loopStarted work own record task queued progress before cycle _ _ _ _ found =>
    rw [begin_server] at current
    change (h.server.startWork own before cycle queued).loops[index]? = _ at current
    rw [(h.server.startWork_arrives own before cycle queued).loops] at current
    rcases loops_set found current with ⟨_, rfl⟩ | ⟨_, current⟩
    · cases place
    · exact Or.inl current
  | settled => exact Or.inl current
  | finished => exact Or.inl current
  | session => exact Or.inl current

/-- The sessions belong to the works that use them: a call of `perform` is
outstanding only while its work runs, and a session in the manager's map has
been initialized. -/
structure Served (h : DeviceHandler) : Prop where
  orderly : ∀ transport, (h.sessions transport).Orderly
  performed : ∀ transport work phase, (h.sessions transport).phaseOf work = some phase →
    ∃ source, h.works work = some ⟨source, .performing transport⟩
  performing : ∀ work source transport, h.works work = some ⟨source, .performing transport⟩ →
    transport < h.server.created ∧ (h.sessions transport).phaseOf work ≠ none
  running : ∀ transport work phase, (h.sessions transport).phaseOf work = some phase → phase.isSettled = false →
    ∃ record, h.queue.works work = some record ∧ record.phase = .running ∧
      record.address = (h.sessions transport).address
  stored : ∀ address managed, h.server.sessions.get? address = some managed →
    h.Serves managed.transport address ∧ (h.sessions managed.transport).Over
  connecting : ∀ address rest transport, h.server.phase = .connecting address rest transport →
    h.Serves transport address ∧ (h.sessions transport).StartedBy 0
  replacing : ∀ (index : Nat) (loop : PollingLoop) (transport : Nat), h.server.loops[index]? = some loop →
    loop.phase = .replacing transport → h.Serves transport loop.address ∧ (h.sessions transport).StartedBy 0

theorem outer_event {event : SessionEvent} (outer : event.isCall = false) :
    (∀ call command, event ≠ .perform call command) ∧ (∀ call, event ≠ .connectAndInitialize call) ∧
      ∀ call, event ≠ .disconnect call := by
  refine ⟨?_, ?_, ?_⟩
  · rintro call command rfl
    cases outer
  · rintro call rfl
    cases outer
  · rintro call rfl
    cases outer

/-- What a step keeps of the session of a transport that exists. -/
theorem SessionMove.keeps (move : SessionMove h t transport) (known : transport < h.server.created) :
    (t.sessions transport).address = (h.sessions transport).address ∧
      ((h.sessions transport).Over → (t.sessions transport).Over) ∧
      ((h.sessions transport).StartedBy 0 → (t.sessions transport).StartedBy 0) := by
  have course {later : DeviceSession} (course : DeviceSession.Course (h.sessions transport) later) :
      later.address = (h.sessions transport).address ∧ ((h.sessions transport).Over → later.Over) ∧
        ((h.sessions transport).StartedBy 0 → later.StartedBy 0) :=
    ⟨course.address, fun done => (done.course course).1, fun started => started.course course⟩
  cases move with
  | kept same =>
    rw [same]
    exact ⟨rfl, fun done => done, fun started => started⟩
  | opened address fresh => exact absurd fresh (Nat.ne_of_lt known)
  | stepped event outer run =>
    obtain ⟨_, uninitialized, undisconnected⟩ := outer_event outer
    exact course (DeviceSession.step_course uninitialized undisconnected run)
  | released call same =>
    rw [same]
    exact ⟨rfl, fun done => done, fun started =>
      ⟨started.own, started.begun, fun _ _ _ => released_concat _⟩⟩
  | performed work starts stored own command entry queue same =>
    rw [same]
    exact course (DeviceSession.perform_course _ _ _)

theorem Serves.keep {address : String} (serves : h.Serves transport address) (move : SessionMove h t transport)
    (grows : h.server.created ≤ t.server.created) : t.Serves transport address :=
  ⟨Nat.lt_of_lt_of_le serves.known grows, (move.keeps serves.known).1.trans serves.address⟩

theorem Opened.serves {address : String} (opened : Opened h t transport address) :
    t.Serves transport address ∧ (t.sessions transport).StartedBy 0 := by
  refine ⟨⟨?_, ?_⟩, ?_⟩
  · rw [opened.next, opened.fresh]
    exact Nat.lt_succ_self _
  · rw [opened.session]
    rfl
  · rw [opened.session]
    refine ⟨fun other phase entry => ?_, ⟨.connecting 0, rfl⟩, fun phase entry failed => ?_⟩
    · rcases Table.insert_eq_some.mp entry with ⟨here, _⟩ | ⟨_, entry⟩
      · exact here
      · cases entry
    · have first : phase = .connecting 0 := (Option.some.inj entry).symm
      rw [first] at failed
      cases failed

theorem Starts.unperformed {began : DeviceHandler} {source : WorkSource} {record : Work Failure Unit}
    (starts : Starts h began work source record) (served : h.Served) (booked : h.Booked) (transport : Nat) :
    (h.sessions transport).phaseOf work = none := by
  cases at_ : (h.sessions transport).phaseOf work with
  | none => rfl
  | some phase =>
    obtain ⟨other, entry⟩ := served.performed transport work phase at_
    cases (starts.waits booked).symm.trans entry

/-- When the queue calls a work, no call is outstanding in the session of its address. -/
theorem Starts.quiet {began : DeviceHandler} {source : WorkSource} {record : Work Failure Unit}
    (starts : Starts h began work source record) (served : h.Served) (booked : h.Booked) {managed : ManagedSession}
    (stored : h.server.sessions.get? record.address = some managed) : (h.sessions managed.transport).Quiet := by
  rw [DeviceSession.quiet_iff]
  intro other phase at_
  by_contra open_
  obtain ⟨found, found_at, running, here⟩ :=
    served.running managed.transport other phase at_ (Bool.eq_false_iff.mpr open_)
  obtain ⟨m, represents⟩ := booked.fair.represents record.address
  have idle := (represents.turn booked.fair.tidy starts.record_at rfl starts.waiting starts.ready).1
  have same : found.address = record.address := here.trans (served.stored _ _ stored).1.address
  have held := represents.holder booked.fair.tidy found_at same (by rw [running]; rfl)
  cases idle.symm.trans held

theorem Served.orderly_step (served : h.Served) (booked : h.Booked) (effect : Effect h event t) (transport : Nat) :
    (t.sessions transport).Orderly := by
  have before := served.orderly transport
  cases effect.sessionMove transport with
  | kept same =>
    rw [same]
    exact before
  | opened address _ _ same =>
    rw [same]
    have empty := DeviceSession.orderly_create address DeviceSession.DEFAULT_COMMAND_TIMEOUT_MS
    exact ⟨empty.single, empty.timeout, empty.pending, empty.armed⟩
  | stepped event outer run =>
    exact before.step (fun call command same => absurd same ((outer_event outer).1 call command)) run
  | released call same =>
    rw [same]
    have cleared := before.cleared
    exact ⟨cleared.single, cleared.timeout, cleared.pending, cleared.armed⟩
  | performed work starts stored own command entry queue same =>
    rw [same]
    have fresh := Option.map_eq_none_iff.mp (starts.unperformed served booked transport)
    cases ready : (h.sessions transport).isReady with
    | true =>
      subst own
      exact before.started (starts.quiet served booked stored) ready command
    | false => exact before.refused fresh ready command

theorem Served.performed_step (served : h.Served) (booked : h.Booked) (effect : Effect h event t)
    {phase : PerformPhase} (at_ : (t.sessions transport).phaseOf work = some phase) :
    ∃ source, t.works work = some ⟨source, .performing transport⟩ := by
  have old {before : PerformPhase} (found : (h.sessions transport).phaseOf work = some before) :
      ∃ source, t.works work = some ⟨source, .performing transport⟩ := by
    obtain ⟨source, entry⟩ := served.performed transport work before found
    exact ⟨source, (effect.workMove booked work).performing entry⟩
  cases effect.sessionMove transport with
  | kept same =>
    rw [same] at at_
    exact old at_
  | opened address _ _ same =>
    rw [same] at at_
    cases at_
  | stepped event outer run =>
    have kept := DeviceSession.step_phaseKept (outer_event outer).1 run work
    cases found : (h.sessions transport).phaseOf work with
    | none => cases (kept.known.mp found).symm.trans at_
    | some before => exact old found
  | released call same =>
    rw [same, DeviceSession.disconnect_phaseOf] at at_
    exact old at_
  | performed own starts stored _ command entry queue same =>
    rw [same, DeviceSession.perform_phaseOf] at at_
    by_cases here : work = own
    · subst here
      exact ⟨_, entry⟩
    · rw [if_neg here] at at_
      exact old at_

theorem Served.running_step (served : h.Served) (effect : Effect h event t)
    {phase : PerformPhase} (at_ : (t.sessions transport).phaseOf work = some phase) (open_ : phase.isSettled = false) :
    ∃ record, t.queue.works work = some record ∧ record.phase = .running ∧
      record.address = (t.sessions transport).address := by
  have old {before : PerformPhase} (found : (h.sessions transport).phaseOf work = some before)
      (outstanding : before.isSettled = false) : ∃ record, t.queue.works work = some record ∧
        record.phase = .running ∧ record.address = (t.sessions transport).address := by
    obtain ⟨record, record_at, running, here⟩ := served.running transport work before found outstanding
    obtain ⟨source, performs⟩ := served.performed transport work before found
    have known := (served.performing work source transport performs).1
    have same := ((effect.sessionMove transport).keeps known).1
    rcases effect.running record_at running with later | ⟨outcome, entry, rfl, entry_at, settles⟩
    · exact ⟨record, later, running, here.trans same.symm⟩
    · cases performs.symm.trans entry_at
      simp only [DeviceHandler.settles, found] at settles
      cases before with
      | writing => cases settles
      | awaitingResponse => cases settles
      | settled result => cases outstanding
  cases effect.sessionMove transport with
  | kept same =>
    rw [same] at at_
    exact old at_ open_
  | opened address _ _ same =>
    rw [same] at at_
    cases at_
  | stepped event outer run =>
    obtain ⟨before, found, outstanding⟩ := (DeviceSession.step_phaseKept (outer_event outer).1 run work).outstanding at_ open_
    exact old found outstanding
  | released call same =>
    rw [same, DeviceSession.disconnect_phaseOf] at at_
    exact old at_ open_
  | @performed _ own source record starts managed stored own_ command entry queue same =>
    rw [same, DeviceSession.perform_phaseOf] at at_
    by_cases here : work = own
    · subst here
      subst own_
      refine ⟨{ record with phase := .running }, ?_, rfl, ?_⟩
      · rw [queue, begin_works starts.record_at]
        exact Table.insert_self _ _ _
      · rw [same]
        refine (served.stored _ _ stored).1.address.symm.trans ?_
        exact (DeviceSession.perform_course _ _ _).address.symm
    · rw [if_neg here] at at_
      exact old at_ open_

theorem Served.performing_step (served : h.Served) (booked : h.Booked) (effect : Effect h event t)
    {source : WorkSource} (entry : t.works work = some ⟨source, .performing transport⟩) :
    transport < t.server.created ∧ (t.sessions transport).phaseOf work ≠ none := by
  have old (before : h.works work = some ⟨source, .performing transport⟩) :
      transport < t.server.created ∧ (t.sessions transport).phaseOf work ≠ none := by
    obtain ⟨known, some_⟩ := served.performing work source transport before
    refine ⟨Nat.lt_of_lt_of_le known effect.created, ?_⟩
    cases effect.sessionMove transport with
    | kept same =>
      rw [same]
      exact some_
    | opened address fresh => exact absurd fresh (Nat.ne_of_lt known)
    | stepped event outer run =>
      have kept := DeviceSession.step_phaseKept (outer_event outer).1 run work
      exact fun none_ => some_ (kept.known.mpr none_)
    | released call same =>
      rw [same, DeviceSession.disconnect_phaseOf]
      exact some_
    | performed own starts stored _ command entry queue same =>
      rw [same, DeviceSession.perform_phaseOf]
      split
      · exact nofun
      · exact some_
  cases effect.workMove booked work with
  | kept same => exact old (same.symm.trans entry)
  | called _ other at_ => cases at_.symm.trans entry
  | began other _ progress _ after performing =>
    cases after.symm.trans entry
    obtain ⟨address, managed, command, stored, rfl, same⟩ := performing transport rfl
    refine ⟨Nat.lt_of_lt_of_le (served.stored address managed stored).1.known effect.created, ?_⟩
    rw [same, DeviceSession.perform_phaseOf, if_pos rfl]
    exact nofun

/-- The sessions stay with the works that use them. -/
theorem Served.step (served : h.Served) (booked : h.Booked) (placed : h.Placed) (effect : Effect h event t) :
    t.Served where
  orderly := served.orderly_step booked effect
  performed _ _ _ at_ := served.performed_step booked effect at_
  performing _ _ _ entry := served.performing_step booked effect entry
  running _ _ _ at_ open_ := served.running_step effect at_ open_
  stored address managed stored := by
    have move := effect.sessionMove managed.transport
    rcases effect.stored stored with before | ⟨⟨outcome, ended⟩, ⟨rest, place⟩ | ⟨index, loop, current, rfl, place⟩⟩
    · obtain ⟨serves, done⟩ := served.stored address managed before
      exact ⟨serves.keep move effect.created, (move.keeps serves.known).2.1 done⟩
    · obtain ⟨serves, started⟩ := served.connecting address rest managed.transport place
      exact ⟨serves.keep move effect.created, (move.keeps serves.known).2.1 (started.over ended)⟩
    · obtain ⟨serves, started⟩ := served.replacing index loop managed.transport current place
      exact ⟨serves.keep move effect.created, (move.keeps serves.known).2.1 (started.over ended)⟩
  connecting address rest transport place := by
    rcases effect.connecting place with before | opened
    · obtain ⟨serves, started⟩ := served.connecting address rest transport before
      have move := effect.sessionMove transport
      exact ⟨serves.keep move effect.created, (move.keeps serves.known).2.2 started⟩
    · exact opened.serves
  replacing index loop transport current place := by
    rcases effect.replacing placed.unstarted current place with before | opened
    · obtain ⟨serves, started⟩ := served.replacing index loop transport before place
      have move := effect.sessionMove transport
      exact ⟨serves.keep move effect.created, (move.keeps serves.known).2.2 started⟩
    · exact opened.serves

/-- How a work that is not running any more has ended. -/
def ending : WorkPhase Failure Unit → Option (Settlement Failure Unit)
  | .waiting => none
  | .running => none
  | .finishing outcome => some outcome
  | .settled outcome => some outcome

/-- A work ends with what its `perform`, or the test before it, has given. -/
def Answered (h : DeviceHandler) : Prop :=
  ∀ work record outcome, h.queue.works work = some record → ending record.phase = some outcome →
    ∃ entry, h.works work = some entry ∧ h.settles work entry outcome = true

theorem Effect.ended (effect : Effect h event t) {record : Work Failure Unit} {outcome : Settlement Failure Unit}
    (record_at : t.queue.works work = some record) (ended : ending record.phase = some outcome) :
    (∃ old, h.queue.works work = some old ∧ ending old.phase = some outcome) ∨
      ∃ entry, event = .settle work outcome ∧ h.works work = some entry ∧ h.settles work entry outcome = true := by
  have insert {other : Nat} {old later : Work Failure Unit} (old_at : h.queue.works other = some old)
      (same : ending later.phase = some outcome → ending old.phase = some outcome)
      (found : h.queue.works.insert other later work = some record) :
      ∃ old, h.queue.works work = some old ∧ ending old.phase = some outcome := by
    rcases Table.insert_eq_some.mp found with ⟨rfl, rfl⟩ | ⟨_, found⟩
    · exact ⟨old, old_at, same ended⟩
    · exact ⟨record, found, ended⟩
  have enqueued {other : Nat} {address : String}
      (found : (h.queue.enqueue other address).works work = some record) :
      ∃ old, h.queue.works work = some old ∧ ending old.phase = some outcome := by
    rcases Table.insert_eq_some.mp found with ⟨_, rfl⟩ | ⟨_, found⟩
    · cases ended
    · exact ⟨record, found, ended⟩
  have began {other : Nat} {source : WorkSource} {old : Work Failure Unit} {start : DeviceHandler}
      {request : Except Failure DeviceCommand} (starts : Starts h start other source old)
      (found : (start.begin other source old.address request).queue.works work = some record) :
      ∃ old, h.queue.works work = some old ∧ ending old.phase = some outcome := by
    rw [begin_queue, starts.queue, begin_works starts.record_at] at found
    exact insert starts.record_at (fun absurd => by cases absurd) found
  cases effect.outline with
  | stopped => exact Or.inl ⟨record, record_at, ended⟩
  | @entered event server =>
    obtain ⟨sessions, same⟩ := h.entered_frame server
    rw [same] at record_at
    exact Or.inl ⟨record, record_at, ended⟩
  | moved current allowed run move arrives advanced =>
    rcases advanced_cases advanced with ⟨cycle, task, _, fresh, rfl⟩ | ⟨_, sessions, rfl⟩
    · exact Or.inl (enqueued record_at)
    · exact Or.inl ⟨record, record_at, ended⟩
  | called => exact Or.inl (enqueued record_at)
  | started starts => exact Or.inl (began starts record_at)
  | @settled other old entry result old_at running entry_at allowed =>
    change (h.queue.workEnded other result).works work = some record at record_at
    rw [workEnded_works old_at] at record_at
    rcases Table.insert_eq_some.mp record_at with ⟨rfl, rfl⟩ | ⟨_, found⟩
    · cases ended
      exact Or.inr ⟨entry, rfl, entry_at, allowed⟩
    · exact Or.inl ⟨record, found, ended⟩
  | finished old_at finishing =>
    refine Or.inl (insert old_at (fun same => ?_) record_at)
    rw [finishing]
    exact same
  | session => exact Or.inl ⟨record, record_at, ended⟩

/-- A call that has settled stays settled. -/
theorem SessionMove.settled (move : SessionMove h t transport) (known : transport < h.server.created) (booked : h.Booked)
    (served : h.Served) {outcome : Settlement Failure (List Byte)}
    (settled : (h.sessions transport).phaseOf work = some (.settled outcome)) :
    (t.sessions transport).phaseOf work = some (.settled outcome) := by
  cases move with
  | kept same =>
    rw [same]
    exact settled
  | opened address fresh => exact absurd fresh (Nat.ne_of_lt known)
  | stepped event outer run => exact (DeviceSession.step_phaseKept (outer_event outer).1 run work).settled settled
  | released call same =>
    rw [same, DeviceSession.disconnect_phaseOf]
    exact settled
  | performed own starts stored _ command entry queue same =>
    have different : work ≠ own := by
      rintro rfl
      cases (starts.unperformed served booked transport).symm.trans settled
    rw [same, DeviceSession.perform_phaseOf, if_neg different]
    exact settled

/-- What a work can settle with it can settle with until it does. -/
theorem Effect.settles_lasts (effect : Effect h event t) (booked : h.Booked) (served : h.Served) {entry : HandlerWork}
    {outcome : Settlement Failure Unit} (entry_at : h.works work = some entry)
    (settles : h.settles work entry outcome = true) : t.works work = some entry ∧ t.settles work entry outcome = true := by
  obtain ⟨source, progress⟩ := entry
  have same : t.works work = some ⟨source, progress⟩ := by
    cases effect.workMove booked work with
    | kept same => exact same.trans entry_at
    | called fresh => cases fresh.symm.trans entry_at
    | began _ before =>
      cases before.symm.trans entry_at
      cases settles
  refine ⟨same, ?_⟩
  cases progress with
  | waiting => cases settles
  | thrown error => exact settles
  | performing transport =>
    simp only [DeviceHandler.settles] at settles ⊢
    split at settles
    · rename_i error settled
      have known := (served.performing work source transport entry_at).1
      rw [(effect.sessionMove transport).settled known booked served settled]
      exact settles
    · rename_i response settled
      have known := (served.performing work source transport entry_at).1
      rw [(effect.sessionMove transport).settled known booked served settled]
      exact settles
    · cases settles

theorem Answered.step (answered : h.Answered) (booked : h.Booked) (served : h.Served) (effect : Effect h event t) :
    t.Answered := by
  intro work record outcome record_at ended
  rcases effect.ended record_at ended with ⟨old, old_at, before⟩ | ⟨entry, _, entry_at, settles⟩
  · obtain ⟨entry, entry_at, settles⟩ := answered work old outcome old_at before
    exact ⟨entry, effect.settles_lasts booked served entry_at settles⟩
  · exact ⟨entry, effect.settles_lasts booked served entry_at settles⟩

/-- The works, the loops and the sessions of the handler belong together. -/
structure Sound (h : DeviceHandler) : Prop where
  booked : h.Booked
  placed : h.Placed
  served : h.Served
  answered : h.Answered

theorem Sound.create (addresses : List String) (runOnce : Bool) (options : PollingOptions) :
    (create addresses runOnce options).Sound where
  booked := ⟨DeviceWorkQueue.fair_create, fun _ => .none⟩
  placed :=
    { unstarted := fun _ => rfl
      queued := fun _ _ _ _ current => nomatch current
      working := fun _ _ _ _ _ current => nomatch current
      alone := fun _ _ _ entry => nomatch entry }
  served :=
    { orderly := fun _ => DeviceSession.orderly_create "" _
      performed := fun _ _ _ at_ => nomatch at_
      performing := fun _ _ _ entry => nomatch entry
      running := fun _ _ _ at_ => nomatch at_
      stored := fun _ _ stored => nomatch (congrFun OrderedMap.get?_empty _).symm.trans stored
      connecting := fun _ _ _ place => nomatch place
      replacing := fun _ _ _ current => nomatch current }
  answered := fun _ _ _ record_at => nomatch record_at

theorem Sound.step (sound : h.Sound) (effect : Effect h event t) : t.Sound where
  booked := sound.booked.step effect
  placed := sound.placed.step sound.booked effect
  served := sound.served.step sound.booked sound.placed effect
  answered := sound.answered.step sound.booked sound.served effect

theorem sound_of_reach {guard : DeviceHandler → HandlerEvent → Prop} {addresses : List String} {runOnce : Bool}
    {options : PollingOptions} {trace : List HandlerEvent}
    (reach : Reach step guard (create addresses runOnce options) trace h) : h.Sound :=
  reach.invariant (P := Sound) (.create addresses runOnce options) fun _ _ _ sound _ run => sound.step (step_effect run)

theorem Effect.server (effect : Effect h event t) : t.server = h.server ∨ ∃ e, h.server.step e = some t.server := by
  cases effect with
  | stopped => exact Or.inr ⟨.stop, rfl⟩
  | @entered event server other lone allowed run =>
    obtain ⟨sessions, same⟩ := h.entered_frame server
    rw [same]
    exact Or.inr ⟨event, run⟩
  | @moved index work event loop server phase calls cycles _ current allowed run move arrives advanced =>
    have ran : h.server.step (.loop index event) = some server := by simp only [Server.step, current, run]
    rcases advanced_cases advanced with ⟨cycle, task, _, fresh, rfl⟩ | ⟨_, sessions, rfl⟩
    · exact Or.inr ⟨_, ran⟩
    · exact Or.inr ⟨_, ran⟩
  | called => exact Or.inl rfl
  | commandStarted record_at entry waiting ready counts =>
    rw [begin_server]
    rcases counts with rfl | run
    · exact Or.inl rfl
    · exact Or.inr ⟨_, run⟩
  | @loopStarted work index record task queued progress loop cycle _ _ _ _ current place =>
    refine Or.inr ⟨.loop index .workStarted, ?_⟩
    simp only [Server.step, Server.loopStep, current, place, begin_server]
  | settled => exact Or.inl rfl
  | finished => exact Or.inl rfl
  | session => exact Or.inl rfl

/-- The server of the handler takes the steps of a server. -/
theorem server_reach {guard : DeviceHandler → HandlerEvent → Prop} {addresses : List String} {runOnce : Bool}
    {options : PollingOptions} {trace : List HandlerEvent}
    (reach : Reach step guard (create addresses runOnce options) trace h) :
    ∃ moves, Reach Server.step (fun _ _ => True) (Server.create addresses runOnce options) moves h.server := by
  induction reach with
  | start => exact ⟨[], .start⟩
  | next _ _ run ih =>
    obtain ⟨moves, before⟩ := ih
    rcases (step_effect run).server with same | ⟨e, ran⟩
    · exact ⟨moves, same.symm ▸ before⟩
    · exact ⟨_, .next before trivial ran⟩

end DeviceHandler

end BluettiMqtt
