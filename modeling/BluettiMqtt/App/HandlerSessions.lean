import BluettiMqtt.App.HandlerSteps
import BluettiMqtt.App.PollingLoops
import BluettiMqtt.Bluetooth.SessionCalls

namespace BluettiMqtt
open Promise Transition

namespace Server

variable {s t : Server}

/-- Whatever is being connected afterwards has just been created. -/
structure Opens (s t : Server) : Prop where
  grows : s.created ≤ t.created
  connecting : ∀ address rest transport, t.phase = .connecting address rest transport →
    transport = s.created ∧ t.created = s.created + 1

theorem Opens.none (created : t.created = s.created)
    (idle : ∀ address rest transport, t.phase ≠ .connecting address rest transport) : Opens s t :=
  ⟨created.ge, fun address rest transport place => absurd place (idle address rest transport)⟩

theorem connectNext_opens (s : Server) (addresses : List String) : Opens s (s.connectNext addresses) := by
  rcases s.connectNext_cases addresses with same | ⟨address, rest, _, same⟩
  · rw [same]
    exact .none rfl nofun
  · rw [same]
    refine ⟨Nat.le_succ _, fun other others transport place => ?_⟩
    cases place
    exact ⟨rfl, rfl⟩

theorem connectAllWithRecovery_opens (s : Server) : Opens s s.connectAllWithRecovery := by
  unfold Server.connectAllWithRecovery
  split
  · exact .none rfl nofun
  · have opens := (s.record .connectAll).connectNext_opens s.addresses
    exact ⟨opens.grows, opens.connecting⟩

theorem disconnectNext_opens (s : Server) (outcome : Settlement Failure Unit) : Opens s (s.disconnectNext outcome) := by
  rcases s.disconnectNext_cases outcome with ⟨_, same⟩ | ⟨address, session, _, same⟩
  · rw [same]
    exact .none rfl nofun
  · rw [same]
    exact .none rfl nofun

theorem step_opens {event : ServerEvent} (lone : ∀ index e, event ≠ .loop index e) (lasting : event ≠ .stop)
    (unwritten : ∀ address, event ≠ .commandWritten address) (run : s.step event = some t) : Opens s t := by
  cases step_effect run with
  | moved phase move => exact .none rfl move.keepsNothing.2.1
  | entered =>
    have opens := ({ s with stopRequested := false } : Server).connectAllWithRecovery_opens
    exact ⟨opens.grows, opens.connecting⟩
  | initialized address rest transport _ result =>
    cases result with
    | fulfilled name =>
      have opens := ({ s with
        sessions := s.sessions.set address { transport := transport, name := name } } : Server).connectNext_opens rest
      exact ⟨opens.grows, opens.connecting⟩
    | rejected error => exact .none rfl nofun
  | connectAllReturned result _ phase after accounts =>
    refine .none accounts.created fun address rest transport place => ?_
    rw [accounts.phase] at place
    cases (place : phase = _)
    rcases after with same | same | ⟨error, same⟩ <;> cases same
  | retried => exact s.connectAllWithRecovery_opens
  | started => exact .none rfl nofun
  | loop index e => exact absurd rfl (lone index e)
  | joined => exact .none rfl nofun
  | cleanup outcome => exact s.disconnectNext_opens outcome
  | disconnected _ outcome address =>
    have opens := ({ s with sessions := s.sessions.delete address } : Server).disconnectNext_opens outcome
    exact ⟨opens.grows, opens.connecting⟩
  | commandWritten address => exact absurd rfl (unwritten address)
  | stop => exact absurd rfl lasting

theorem disconnectNext_stored (s : Server) (outcome : Settlement Failure Unit) :
    (s.disconnectNext outcome).sessions = s.sessions := by
  rcases s.disconnectNext_cases outcome with ⟨_, same⟩ | ⟨_, _, _, same⟩
  · rw [same]
  · rw [same]
    rfl

/-- A session enters the map when its initialization has ended. -/
theorem step_stored {event : ServerEvent} (lone : ∀ index e, event ≠ .loop index e) (run : s.step event = some t)
    {address : String} {session : ManagedSession} (stored : t.sessions.get? address = some session) :
    s.sessions.get? address = some session ∨
      ∃ rest result, s.phase = .connecting address rest session.transport ∧ event = .initialized result := by
  cases step_effect run with
  | moved => exact Or.inl stored
  | entered =>
    rw [show s.runHandler.sessions = s.sessions from connectAllWithRecovery_sessions _] at stored
    exact Or.inl stored
  | initialized own rest transport place result =>
    cases result with
    | fulfilled name =>
      have same : (s.initialized own rest transport (.fulfilled name)).sessions =
          s.sessions.set own { transport := transport, name := name } := connectNext_sessions _ rest
      rw [same, OrderedMap.get?_set] at stored
      rcases Table.insert_eq_some.mp stored with ⟨rfl, rfl⟩ | ⟨_, stored⟩
      · exact Or.inr ⟨rest, _, place, rfl⟩
      · exact Or.inl stored
    | rejected error => exact Or.inl stored
  | connectAllReturned result _ phase after accounts =>
    rw [accounts.sessions] at stored
    exact Or.inl stored
  | retried =>
    rw [s.connectAllWithRecovery_sessions] at stored
    exact Or.inl stored
  | started => exact Or.inl stored
  | loop index e => exact absurd rfl (lone index e)
  | joined => exact Or.inl stored
  | cleanup outcome =>
    rw [s.disconnectNext_stored] at stored
    exact Or.inl stored
  | disconnected _ outcome own =>
    rw [Server.disconnectNext_stored, OrderedMap.get?_delete] at stored
    exact Or.inl (Table.erase_eq_some.mp stored).2
  | commandWritten => exact Or.inl stored
  | stop => exact Or.inl stored

/-- What a step of a loop does to the transports, the loop being at the given
phase afterwards. -/
structure LoopOpens (s t : Server) (loop : PollingLoop) (phase : LoopPhase) : Prop where
  grows : s.created ≤ t.created
  replacing : ∀ transport, phase = .replacing transport → transport = s.created ∧ t.created = s.created + 1
  stored : ∀ session, t.sessions.get? loop.address = some session →
    s.sessions.get? loop.address = some session ∨ loop.phase = .replacing session.transport

theorem set_phase_injective {loops : List PollingLoop} {index : Nat} {loop : PollingLoop} {first second : LoopPhase}
    (current : loops[index]? = some loop)
    (same : loops.set index { loop with phase := first } = loops.set index { loop with phase := second }) :
    first = second := by
  have bound := (List.getElem?_eq_some_iff.mp current).1
  have entries := congrArg (·[index]?) same
  simp only [List.getElem?_set_self bound, Option.some.injEq] at entries
  exact congrArg PollingLoop.phase entries

theorem loopStep_opens {index : Nat} {loop : PollingLoop} {event : LoopEvent} {phase : LoopPhase}
    (current : s.loops[index]? = some loop) (run : s.loopStep index loop event = some t)
    (loops : t.loops = s.loops.set index { loop with phase := phase }) : LoopOpens s t loop phase := by
  have here {later : LoopPhase} (same : t.loops = s.loops.set index { loop with phase := later }) : phase = later :=
    set_phase_injective current (loops.symm.trans same)
  cases (loopStep_effect run).2 with
  | moved later _ calm _ accounts =>
    cases here accounts.loops
    refine ⟨accounts.created.ge, ?_, fun session stored => Or.inl (accounts.sessions ▸ stored)⟩
    rintro transport rfl
    cases calm
  | failed error _ _ _ _ _ _ accounts =>
    cases here accounts.loops
    exact ⟨accounts.created.ge, nofun, fun session stored => Or.inl (accounts.sessions ▸ stored)⟩
  | released existing _ _ accounts =>
    cases here accounts.loops
    exact ⟨accounts.created.ge, nofun, fun session stored => Or.inl (accounts.sessions ▸ stored)⟩
  | opened _ _ accounts =>
    cases here accounts.loops
    refine ⟨?_, ?_, fun session stored => Or.inl (accounts.sessions ▸ stored)⟩
    · rw [accounts.created]
      exact Nat.le_succ _
    · rintro transport ⟨⟩
      exact ⟨rfl, accounts.created⟩
  | swapped _ accounts =>
    cases here accounts.loops
    refine ⟨?_, ?_, fun session stored => ?_⟩
    · rw [accounts.created]
      exact Nat.le_succ _
    · rintro transport ⟨⟩
      exact ⟨rfl, accounts.created⟩
    · rw [accounts.sessions] at stored
      change (s.sessions.delete loop.address).get? loop.address = _ at stored
      rw [OrderedMap.get?_delete] at stored
      exact absurd rfl (Table.erase_eq_some.mp stored).1
  | replaced transport name before accounts =>
    cases here accounts.loops
    refine ⟨accounts.created.ge, nofun, fun session stored => Or.inr ?_⟩
    rw [accounts.sessions] at stored
    change (s.sessions.set loop.address _).get? loop.address = _ at stored
    rw [OrderedMap.get?_set, Table.insert_self] at stored
    cases stored
    exact before
  | unreplaced transport _ accounts =>
    cases here accounts.loops
    exact ⟨accounts.created.ge, nofun, fun session stored => Or.inl (accounts.sessions ▸ stored)⟩

end Server

namespace DeviceHandler

variable {h t : DeviceHandler} {event : HandlerEvent} {work transport : Nat}

/-- The call of a work by the queue: `began` is the handler in which it runs. -/
structure Starts (h began : DeviceHandler) (work : Nat) (source : WorkSource) (record : Work Failure Unit) : Prop where
  record_at : h.queue.works work = some record
  waiting : record.phase = .waiting
  ready : h.queue.fulfilled record.previous = true
  entry : ∃ progress, h.works work = some ⟨source, progress⟩
  queue : began.queue = h.queue.begin work record
  works : began.works = h.works
  sessions : began.sessions = h.sessions
  frames : began.frames = h.frames
  stored : began.server.sessions = h.server.sessions
  created : began.server.created = h.server.created
  phase : began.server.phase = h.server.phase
  addresses : began.server.loops.map PollingLoop.address = h.server.loops.map PollingLoop.address

theorem startWork_created (s : Server) (index : Nat) (loop : PollingLoop) (cycle : PollingCycle) (task : LoopWork) :
    (s.startWork index loop cycle task).created = s.created := by
  unfold Server.startWork
  split <;> rfl

/-- The command that a work from the given source hands to `perform`. -/
def Asks (h : DeviceHandler) : WorkSource → DeviceCommand → Prop
  | .handleCommand own, command => command = own
  | .loop index task, command => ∃ loop : PollingLoop, h.server.loops[index]? = some loop ∧
      h.server.request loop task = .ok command

/-- The effect of a step. The call of a work is one case, whoever has put the
work on the queue. -/
inductive Outline (h : DeviceHandler) : HandlerEvent → DeviceHandler → Prop
  | stopped : Outline h (.server .stop) { h with server := h.server.stop }
  | entered {event : ServerEvent} {server : Server} (other : event ≠ .stop) (lone : ∀ index e, event ≠ .loop index e)
      (allowed : h.allows event = true) (run : h.server.step event = some server) :
      Outline h (.server event) (h.entered server)
  | moved {index work : Nat} {event : LoopEvent} {loop : PollingLoop} {server : Server} {phase : LoopPhase}
      {calls : List ServerOperation} {cycles : Nat} {t : DeviceHandler}
      (current : h.server.loops[index]? = some loop) (allowed : h.continues index loop event = true)
      (run : h.server.loopStep index loop event = some server)
      (move : Server.LoopMove h.server loop loop.phase event phase calls cycles)
      (arrives : Server.Arrives h.server index loop phase calls cycles server)
      (advanced : h.advanced index loop.address server work phase = some t) : Outline h (.loop index event work) t
  | called {work : Nat} {address : String} {command : DeviceCommand} (fresh : h.queue.works work = none) :
      Outline h (.handleCommand work address command)
        ({ h with queue := h.queue.enqueue work address }.setProgress work (.handleCommand command) .waiting)
  | started {work : Nat} {began : DeviceHandler} {source : WorkSource} {record : Work Failure Unit}
      {request : Except Failure DeviceCommand} (starts : Starts h began work source record)
      (awaited : began.awaited = h.awaited) (asks : ∀ command, request = .ok command → h.Asks source command) :
      Outline h (.start work) (began.begin work source record.address request)
  | settled {work : Nat} {record : Work Failure Unit} {entry : HandlerWork} {outcome : Settlement Failure Unit}
      (record_at : h.queue.works work = some record) (running : record.phase = .running)
      (entry_at : h.works work = some entry) (allowed : h.settles work entry outcome = true) :
      Outline h (.settle work outcome) { h with queue := h.queue.workEnded work outcome }
  | finished {work : Nat} {record : Work Failure Unit} {outcome : Settlement Failure Unit}
      (record_at : h.queue.works work = some record) (finishing : record.phase = .finishing outcome) :
      Outline h (.finish work) { h with queue := h.queue.finish work record outcome }
  | session {transport : Nat} {event : SessionEvent} {session : DeviceSession}
      (outer : event.isCall = false) (run : (h.sessions transport).step event = some session) :
      Outline h (.session transport event) { h with sessions := Function.update h.sessions transport session }

theorem Starts.ofCommand {record : Work Failure Unit} {command : DeviceCommand} {progress : WorkProgress}
    (record_at : h.queue.works work = some record) (entry : h.works work = some ⟨.handleCommand command, progress⟩)
    (waiting : record.phase = .waiting) (ready : h.queue.fulfilled record.previous = true)
    (telemetry : Table String DeviceTelemetry) :
    Starts h { h with
      queue := h.queue.begin work record
      server := { h.server with telemetry := telemetry } } work (.handleCommand command) record :=
  ⟨record_at, waiting, ready, ⟨progress, entry⟩, rfl, rfl, rfl, rfl, rfl, rfl, rfl, rfl⟩

theorem Starts.ofLoop {index : Nat} {record : Work Failure Unit} {task : LoopWork} {progress : WorkProgress}
    {loop : PollingLoop} (record_at : h.queue.works work = some record)
    (entry : h.works work = some ⟨.loop index task, progress⟩) (waiting : record.phase = .waiting)
    (ready : h.queue.fulfilled record.previous = true) (current : h.server.loops[index]? = some loop)
    (cycle : PollingCycle) (queued : LoopWork) :
    Starts h { h with
      queue := h.queue.begin work record
      server := h.server.startWork index loop cycle queued } work (.loop index task) record := by
  have arrives := h.server.startWork_arrives index loop cycle queued
  refine ⟨record_at, waiting, ready, ⟨progress, entry⟩, rfl, rfl, rfl, rfl, ?_, ?_, arrives.frame.phase, ?_⟩
  · exact startWork_sessions h.server index loop cycle queued
  · exact startWork_created h.server index loop cycle queued
  · exact (congrArg (List.map PollingLoop.address) arrives.loops).trans (Server.addresses_setLoop current)

theorem Effect.outline (effect : Effect h event t) : Outline h event t := by
  cases effect with
  | stopped => exact .stopped
  | entered other lone allowed run => exact .entered other lone allowed run
  | moved current allowed run move arrives advanced => exact .moved current allowed run move arrives advanced
  | called fresh => exact .called fresh
  | @commandStarted work record command progress telemetry record_at entry waiting ready =>
    exact .started (.ofCommand record_at entry waiting ready telemetry) rfl fun _ asked => (Except.ok.inj asked).symm
  | @loopStarted work index record task queued progress loop cycle record_at entry waiting ready current place =>
    exact .started (.ofLoop record_at entry waiting ready current cycle queued) rfl fun command asked =>
      ⟨loop, current, asked⟩
  | settled record_at running entry_at allowed => exact .settled record_at running entry_at allowed
  | finished record_at finishing => exact .finished record_at finishing
  | session outer run => exact .session outer run

theorem Effect.starts (effect : Effect h (.start work) t) : ∃ began source record request,
    Starts h began work source record ∧ t = began.begin work source record.address request ∧
      ∀ command, request = .ok command → h.Asks source command := by
  cases effect.outline with
  | started starts _ asks => exact ⟨_, _, _, _, starts, rfl, asks⟩

/-- What a step may do to the session of a transport. -/
inductive SessionMove (h t : DeviceHandler) (transport : Nat) : Prop
  | kept (same : t.sessions transport = h.sessions transport)
  | opened (address : String) (fresh : transport = h.server.created) (next : t.server.created = h.server.created + 1)
      (same : t.sessions transport = MultiDeviceManager.openSession address 0)
  | stepped (event : SessionEvent) (outer : event.isCall = false)
      (run : (h.sessions transport).step event = some (t.sessions transport))
  | released (call : CallId) (same : t.sessions transport = (h.sessions transport).disconnect call)
  | performed {began : DeviceHandler} (work : Nat) {source : WorkSource} {record : Work Failure Unit}
      (starts : Starts h began work source record) {managed : ManagedSession}
      (stored : h.server.sessions.get? record.address = some managed) (own : managed.transport = transport)
      (command : DeviceCommand) (entry : t.works work = some ⟨source, .performing transport⟩)
      (queue : t.queue = h.queue.begin work record) (same : t.sessions transport = (h.sessions transport).perform work command)

theorem update_cases (sessions : Nat → DeviceSession) (session : DeviceSession) (transport other : Nat) :
    Function.update sessions transport session other = sessions other ∧ other ≠ transport ∨
      other = transport ∧ Function.update sessions transport session other = session := by
  by_cases here : other = transport
  · subst here
    exact Or.inr ⟨rfl, Function.update_self other session sessions⟩
  · exact Or.inl ⟨Function.update_of_ne here session sessions, here⟩

theorem SessionMove.update_opened {server : Server} {address : String} {other : Nat}
    (server_ : t.server = server) (fresh : other = h.server.created) (next : server.created = h.server.created + 1)
    (sessions : t.sessions = Function.update h.sessions other (MultiDeviceManager.openSession address 0)) :
    SessionMove h t transport := by
  rcases update_cases h.sessions (MultiDeviceManager.openSession address 0) other transport
    with ⟨same, _⟩ | ⟨here, same⟩
  · exact .kept ((congrFun sessions transport).trans same)
  · exact .opened address (here.trans fresh) (server_ ▸ next) ((congrFun sessions transport).trans same)

theorem SessionMove.update_released {other : Nat} {call : CallId}
    (sessions : t.sessions = Function.update h.sessions other ((h.sessions other).disconnect call)) :
    SessionMove h t transport := by
  rcases update_cases h.sessions ((h.sessions other).disconnect call) other transport
    with ⟨same, _⟩ | ⟨here, same⟩
  · exact .kept ((congrFun sessions transport).trans same)
  · exact .released call ((congrFun sessions transport).trans (here ▸ same))

theorem Starts.session {began : DeviceHandler} {source : WorkSource} {record : Work Failure Unit}
    (starts : Starts h began work source record) (request : Except Failure DeviceCommand) :
    SessionMove h (began.begin work source record.address request) transport := by
  rcases began.begin_cases work source record.address request with ⟨error, same, _⟩ |
    ⟨command, managed, _, stored, same⟩
  · rw [same]
    exact .kept (congrFun starts.sessions transport)
  · rw [same]
    rw [starts.stored] at stored
    rcases update_cases began.sessions ((began.sessions managed.transport).perform work command) managed.transport
      transport
      with ⟨kept, _⟩ | ⟨here, performed⟩
    · exact .kept (kept.trans (congrFun starts.sessions transport))
    · refine .performed work starts stored here.symm command ?_ starts.queue ?_
      · rw [here]
        exact Table.insert_self _ _ _
      · refine performed.trans ?_
        rw [starts.sessions, here]

theorem unwritten_of_allows {event : ServerEvent} (allowed : h.allows event = true) (address : String) :
    event ≠ .commandWritten address := by
  rintro rfl
  cases allowed

theorem Effect.sessionMove (effect : Effect h event t) (transport : Nat) : SessionMove h t transport := by
  cases effect.outline with
  | stopped => exact .kept rfl
  | @entered event server other lone allowed run =>
    have opens := Server.step_opens lone other (unwritten_of_allows allowed) run
    unfold DeviceHandler.entered
    split
    · rename_i address rest opened place
      obtain ⟨fresh, next⟩ := opens.connecting address rest opened place
      exact .update_opened rfl fresh next rfl
    · split
      · exact .update_released rfl
      · exact .kept rfl
    · exact .kept rfl
  | @moved index work event loop server phase calls cycles _ current allowed run move arrives advanced =>
    have opens := Server.loopStep_opens current run arrives.loops
    cases phase with
    | queued cycle task =>
      obtain ⟨queue, _, rfl⟩ := Option.map_eq_some_iff.mp advanced
      exact .kept rfl
    | replacing opened =>
      cases advanced
      obtain ⟨fresh, next⟩ := opens.replacing opened rfl
      exact .update_opened rfl fresh next rfl
    | releasing =>
      simp only [DeviceHandler.advanced] at advanced
      split at advanced
      · cases advanced
        exact .update_released rfl
      · cases advanced
        exact .kept rfl
    | _ =>
      cases advanced
      exact .kept rfl
  | called => exact .kept rfl
  | started starts => exact starts.session _
  | settled => exact .kept rfl
  | finished => exact .kept rfl
  | @session other event session outer run =>
    rcases update_cases h.sessions session other transport with ⟨same, _⟩ | ⟨rfl, same⟩
    · exact .kept same
    · exact .stepped event outer (run.trans (congrArg some same.symm))

/-- The call of a work hands a command to a transport when the session of its
address is ready. -/
structure Writes (h t : DeviceHandler) (work : Nat) (source : WorkSource) (record : Work Failure Unit)
    (managed : ManagedSession) (command : DeviceCommand) : Prop where
  starts : ∃ began, Starts h began work source record
  stored : h.server.sessions.get? record.address = some managed
  ready : (h.sessions managed.transport).isReady = true
  asks : h.Asks source command
  frames : t.frames = h.frames ++ [⟨record.address, source, command⟩]

theorem begin_frames (h : DeviceHandler) (work : Nat) (source : WorkSource) (address : String)
    (request : Except Failure DeviceCommand) : (h.begin work source address request).frames = h.frames ∨
    ∃ command managed, request = .ok command ∧ h.server.sessions.get? address = some managed ∧
      (h.sessions managed.transport).isReady = true ∧
      (h.begin work source address request).frames = h.frames ++ [⟨address, source, command⟩] := by
  rcases h.begin_cases work source address request with ⟨error, same, _⟩ | ⟨command, managed, asked, stored, same⟩
  · rw [same]
    exact Or.inl rfl
  · rw [same]
    cases ready : (h.sessions managed.transport).isReady with
    | true => exact Or.inr ⟨command, managed, asked, stored, ready, by simp only [perform, ready, if_true]⟩
    | false => exact Or.inl (by simp only [perform, ready, Bool.false_eq_true, if_false, setProgress])

theorem Effect.frames (effect : Effect h event t) : t.frames = h.frames ∨ ∃ work source record managed command,
    event = .start work ∧ Writes h t work source record managed command := by
  cases effect.outline with
  | stopped => exact Or.inl rfl
  | @entered event server =>
    obtain ⟨sessions, same⟩ := h.entered_frame server
    rw [same]
    exact Or.inl rfl
  | moved current allowed run move arrives advanced =>
    rcases advanced_cases advanced with ⟨cycle, task, _, fresh, rfl⟩ | ⟨_, sessions, rfl⟩
    · exact Or.inl rfl
    · exact Or.inl rfl
  | called => exact Or.inl rfl
  | @started work began source record request starts _ asks =>
    rcases began.begin_frames work source record.address request with same | ⟨command, managed, asked, stored, ready, same⟩
    · exact Or.inl (same.trans starts.frames)
    · rw [starts.stored] at stored
      rw [starts.sessions] at ready
      rw [starts.frames] at same
      exact Or.inr ⟨work, source, record, managed, command, rfl, ⟨began, starts⟩, stored, ready, asks command asked, same⟩
  | settled => exact Or.inl rfl
  | finished => exact Or.inl rfl
  | session => exact Or.inl rfl

end DeviceHandler

end BluettiMqtt
