import BluettiMqtt.App.DeviceSeparation

namespace BluettiMqtt
open Promise Transition

namespace Server

variable {s : Server} {loop : PollingLoop} {cycle : PollingCycle} {phase : LoopPhase} {calls : List ServerOperation}
  {begun : Nat} {thrown : Option Failure} {published : Bool} {message : String} {now finishedAt : ℚ}

/-- A loop that has lost its connection replaces it. -/
theorem Loses.reconnecting (move : Loses s loop phase calls) (lasting : s.runOnce = false)
    (running : s.stopRequested = false) : phase.reconnecting = true := by
  cases move with
  | ended once => cases lasting.symm.trans once
  | reconnects _ move =>
    cases move with
    | ended stopped => cases running.symm.trans stopped
    | releasing => rfl
    | replacing => rfl

theorem PackMove.of_phase {other : LoopPhase} {pack : Nat}
    (move : PackMove { loop with phase := other } cycle pack phase) : PackMove loop cycle pack phase := by
  cases move with
  | done => exact .done
  | selects bound selecting => exact .selects bound selecting
  | reads bound command rest plain => exact @PackMove.reads loop cycle pack bound command rest plain

/-- A read of a session that is not ready ends its command set. -/
theorem LoopMove.read_refused {set : CommandSet} {command : ReadHoldingRegisters} {rest : List ReadHoldingRegisters}
    {saw : Bool} {startedAt : ℚ}
    (move : LoopMove s loop (.working cycle (.read set command rest saw startedAt) thrown)
      (.workSettled published (.rejected (.badConnectionError message)) now finishedAt) phase calls begun) :
    SetMove s loop cycle set .connectionError phase calls := by
  cases move with
  | fails _ _ _ _ unclassified => cases unclassified
  | returned _ _ _ _ _ classified _ final same _ move =>
    cases classified
    rwa [same (Or.inr rfl)] at move
  | nextRead _ _ _ _ result classified good =>
    cases classified
    rcases good with absurd | absurd <;> cases absurd

theorem LoopMove.select_refused {pack : Nat}
    (move : LoopMove s loop (.working cycle (.selectPack pack) thrown)
      (.workSettled published (.rejected (.badConnectionError message)) now finishedAt) phase calls begun) :
    Loses s loop phase calls := by
  cases move with
  | fails _ _ _ _ unclassified => cases unclassified
  | skipped _ _ _ _ classified => cases classified
  | busy _ _ _ _ classified => cases classified
  | lost _ _ _ _ _ loses => exact loses

end Server

namespace DeviceHandler

variable {h t : DeviceHandler} {event : HandlerEvent} {index cycles : Nat} {loop : PollingLoop}
  {managed : ManagedSession} {address : String}

/-- Steps taken for the device alone can bring its loop to call `reconnect`. -/
def Reconnects (h : DeviceHandler) (address : String) : Prop :=
  ∃ trace t, Reach step (fun r event => r.Concerns address event) h trace t ∧ t.server.phase = .polling ∧
    h.server.reconnectCount address < t.server.reconnectCount address

theorem Reconnects.cons (concerns : h.Concerns address event) (run : h.step event = some t)
    (counted : t.server.reconnectCount address = h.server.reconnectCount address) (rest : t.Reconnects address) :
    h.Reconnects address := by
  obtain ⟨trace, u, reach, polling, more⟩ := rest
  exact ⟨event :: trace, u, .cons concerns run reach, polling, counted ▸ more⟩

/-- Every running work of the device can settle. -/
def Draining (h : DeviceHandler) (address : String) : Prop :=
  ∀ work record, h.queue.works work = some record → record.address = address → record.phase = .running →
    ∃ entry outcome, h.works work = some entry ∧ h.settles work entry outcome = true

/-- A work runs on, or the step has called it. -/
theorem Effect.ran (effect : Effect h event t) {work : Nat} {record : Work Failure Unit}
    (record_at : t.queue.works work = some record) (running : record.phase = .running) :
    h.queue.works work = some record ∨ ∃ began source old request, Starts h began work source old ∧
      old.address = record.address ∧ t = began.begin work source old.address request := by
  have enqueued {other : Nat} {address : String}
      (found : (h.queue.enqueue other address).works work = some record) : h.queue.works work = some record := by
    rcases Table.insert_eq_some.mp found with ⟨_, rfl⟩ | ⟨_, found⟩
    · cases running
    · exact found
  have ended {other : Nat} {later : Work Failure Unit} (idle : later.phase ≠ .running)
      (found : h.queue.works.insert other later work = some record) : h.queue.works work = some record := by
    rcases Table.insert_eq_some.mp found with ⟨_, rfl⟩ | ⟨_, found⟩
    · exact absurd running idle
    · exact found
  cases effect.outline with
  | stopped => exact Or.inl record_at
  | @entered event server =>
    obtain ⟨sessions, same⟩ := h.entered_frame server
    rw [same] at record_at
    exact Or.inl record_at
  | moved current allowed run move arrives advanced =>
    rcases advanced_cases advanced with ⟨cycle, task, _, fresh, rfl⟩ | ⟨_, sessions, rfl⟩
    · exact Or.inl (enqueued record_at)
    · exact Or.inl record_at
  | called => exact Or.inl (enqueued record_at)
  | @started other began source old request starts =>
    rw [begin_queue, starts.queue, begin_works starts.record_at] at record_at
    rcases Table.insert_eq_some.mp record_at with ⟨rfl, rfl⟩ | ⟨_, found⟩
    · exact Or.inr ⟨began, source, old, request, starts, rfl, rfl⟩
    · exact Or.inl found
  | @settled other old entry result old_at =>
    change (h.queue.workEnded other result).works work = some record at record_at
    rw [workEnded_works old_at] at record_at
    exact Or.inl (ended (by rintro ⟨⟩) record_at)
  | finished => exact Or.inl (ended (by rintro ⟨⟩) record_at)
  | session => exact Or.inl record_at

/-- A work that is called after the session has been lost settles at once. -/
theorem Draining.step (draining : h.Draining loop.address) (breaking : h.Breaking index cycles loop managed)
    (sound : h.Sound) (effect : Effect h event t) : t.Draining loop.address := by
  intro work record record_at here running
  rcases effect.ran record_at running with old_at | ⟨began, source, old, request, starts, same, rfl⟩
  · obtain ⟨entry, outcome, entry_at, settles⟩ := draining work record old_at here running
    exact ⟨entry, outcome, effect.settles_lasts sound.booked sound.served entry_at settles⟩
  · rcases began.begin_cases work source old.address request with ⟨error, same, _⟩ | ⟨command, found, _, stored, same⟩
    · rw [same]
      exact ⟨⟨source, .thrown error⟩, .rejected error, Table.insert_self _ _ _, decide_eq_true rfl⟩
    · rw [starts.stored, ‹old.address = record.address›, here] at stored
      cases stored.symm.trans breaking.stored
      obtain ⟨message, refused⟩ := DeviceSession.perform_refused breaking.lost.refuses work command
      refine ⟨⟨source, .performing managed.transport⟩, .rejected (.badConnectionError message), ?_, ?_⟩
      · rw [same]
        exact Table.insert_self _ _ _
      · have settled : ((began.perform work source old.address managed.transport command).sessions
            managed.transport).phaseOf work = some (.settled (.rejected (.badConnectionError message))) := by
          change (Function.update began.sessions managed.transport _ managed.transport).phaseOf work = _
          rw [Function.update_self, starts.sessions]
          exact refused
        rw [same]
        simp only [DeviceHandler.settles, settled, decide_true]

/-- The device has lost its session, no stop has been requested, and the loop has
not called `reconnect`. -/
structure Awaiting (addresses : List String) (options : PollingOptions) (h : DeviceHandler) (index cycles : Nat)
    (loop : PollingLoop) (managed : ManagedSession) : Prop where
  distinct : addresses.Nodup
  reach : ∃ trace, Reach step (fun _ _ => True) (create addresses false options) trace h
  polling : h.server.phase = .polling
  running : h.server.stopRequested = false
  breaking : h.Breaking index cycles loop managed
  draining : h.Draining loop.address

section Awaiting

variable {addresses : List String} {options : PollingOptions} {cycle : PollingCycle} {task : LoopWork}
  {thrown : Option Failure}

theorem Awaiting.sound (awaiting : Awaiting addresses options h index cycles loop managed) : h.Sound :=
  sound_of_reach awaiting.reach.choose_spec

theorem Awaiting.proper (awaiting : Awaiting addresses options h index cycles loop managed) :
    Server.Proper h.server false := by
  obtain ⟨trace, reach⟩ := awaiting.reach
  obtain ⟨moves, moved⟩ := server_reach reach
  exact Server.proper_of_reach moved awaiting.distinct

/-- A step for the device calls `reconnect`, or the loop still has to. -/
theorem Awaiting.leads (awaiting : Awaiting addresses options h index cycles loop managed) (run : h.step event = some t)
    (concerns : h.Concerns loop.address event)
    (rest : ∀ later : PollingLoop, later.address = loop.address →
      Awaiting addresses options t index cycles later managed → t.Reconnects loop.address) :
    h.Reconnects loop.address := by
  have effect := step_effect run
  have spares := awaiting.breaking.spares awaiting.sound awaiting.proper effect concerns
  have polling := spares.phase.trans awaiting.polling
  rcases awaiting.breaking.step awaiting.sound awaiting.proper effect polling with calls | ⟨counted, later, same, breaking⟩
  · exact ⟨[event], t, .cons concerns run .start, polling, calls⟩
  · obtain ⟨trace, reach⟩ := awaiting.reach
    refine .cons concerns run counted (rest later same ⟨awaiting.distinct, ⟨_, .next reach trivial run⟩, polling,
      spares.stopRequested.trans awaiting.running, breaking, ?_⟩)
    rw [same]
    exact awaiting.draining.step awaiting.breaking awaiting.sound effect

/-- A step that leaves the loops alone. -/
theorem Awaiting.leads_on (awaiting : Awaiting addresses options h index cycles loop managed)
    (run : h.step event = some t) (concerns : h.Concerns loop.address event)
    (loops : t.server.loops = h.server.loops)
    (rest : Awaiting addresses options t index cycles loop managed → t.Reconnects loop.address) :
    h.Reconnects loop.address := by
  refine awaiting.leads run concerns fun later _ still => ?_
  have current := still.breaking.current
  rw [loops] at current
  cases current.symm.trans awaiting.breaking.current
  exact rest still

theorem advanced_some {work : Nat} (fresh : h.queue.works work = none) (index : Nat) (address : String)
    (server : Server) (phase : LoopPhase) : ∃ t, h.advanced index address server work phase = some t := by
  cases phase with
  | queued cycle task =>
    simp only [DeviceHandler.advanced, DeviceWorkQueue.step, fresh, Option.isNone_none, if_true, Option.map_some]
    exact ⟨_, rfl⟩
  | releasing =>
    simp only [DeviceHandler.advanced]
    split
    · exact ⟨_, rfl⟩
    · exact ⟨_, rfl⟩
  | _ => exact ⟨_, rfl⟩

/-- A step of the loop itself. -/
theorem Awaiting.moves (awaiting : Awaiting addresses options h index cycles loop managed) {e : LoopEvent}
    {server : Server} (allowed : h.continues index loop e = true) (run : h.server.loopStep index loop e = some server)
    (rest : ∀ phase calls begun t, Server.LoopMove h.server loop loop.phase e phase calls begun →
      Awaiting addresses options t index cycles { loop with phase := phase } managed → t.Reconnects loop.address) :
    h.Reconnects loop.address := by
  have current := awaiting.breaking.current
  obtain ⟨work, fresh⟩ := awaiting.sound.booked.fair.tidy.exists_fresh
  obtain ⟨phase, calls, begun, move, arrives⟩ := Server.loopStep_moves run
  obtain ⟨t, advanced⟩ := advanced_some fresh index loop.address server phase
  have moved : server.loops[index]? = some { loop with phase := phase } := by
    rw [arrives.loops, List.getElem?_set_self (List.getElem?_eq_some_iff.mp current).1]
  have stepped : h.step (.loop index e work) = some t := by
    simp only [DeviceHandler.step, current, allowed, if_true, Server.step, run, Option.bind_some, moved]
    exact advanced
  refine awaiting.leads stepped ⟨loop, current, rfl⟩ fun later _ still => rest phase calls begun t move ?_
  have place := still.breaking.current
  rw [(advanced_frame advanced).1, moved] at place
  cases place
  exact still

/-- The queue comes to the work of the loop, which the lost session refuses. -/
theorem Awaiting.called (awaiting : Awaiting addresses options h index cycles loop managed)
    (place : loop.phase = .queued cycle task)
    (rest : ∀ t thrown work transport message, t.Doomed index work transport (.badConnectionError message) →
      Awaiting addresses options t index cycles { loop with phase := .working cycle task thrown } managed →
      t.Reconnects loop.address) : h.Reconnects loop.address := by
  induction left : h.queue.backlog loop.address using Nat.strong_induction_on generalizing h with
  | _ left ih =>
    subst left
    have sound := awaiting.sound
    have fair := sound.booked.fair
    have current := awaiting.breaking.current
    obtain ⟨work, awaits⟩ := sound.placed.queued index loop cycle task current place
    obtain ⟨record, record_at, here⟩ := awaits.record
    obtain ⟨other, other_at, paired⟩ := rel_some sound.booked.paired awaits.entry
    cases record_at.symm.trans other_at
    rcases fair.progress record_at (paired.mp rfl) with ⟨ahead, found, found_at, same, active, _⟩ |
      ⟨first, found, found_at, same, waiting, _, starts⟩
    · -- another work of the device is before it and can end
      have own := same.trans here
      cases phase : found.phase with
      | waiting =>
        rw [phase] at active
        cases active
      | settled outcome =>
        rw [phase] at active
        cases active
      | running =>
        obtain ⟨entry, outcome, entry_at, settles⟩ := awaiting.draining ahead found found_at own phase
        have run : h.step (.settle ahead outcome) = some { h with queue := h.queue.workEnded ahead outcome } := by
          simp only [DeviceHandler.step, entry_at, settles, if_true, DeviceWorkQueue.step, found_at, phase,
            WorkPhase.isRunning, Option.map_some]
        refine awaiting.leads_on run ⟨found, found_at, own⟩ rfl fun still => ih _ ?_ still rfl
        exact own ▸ fair.workEnded_backlog found_at phase outcome
      | finishing outcome =>
        have run : h.step (.finish ahead) = some { h with queue := h.queue.finish ahead found outcome } := by
          simp only [DeviceHandler.step, DeviceWorkQueue.step, found_at, phase, Option.map_some]
        refine awaiting.leads_on run ⟨found, found_at, own⟩ rfl fun still => ih _ ?_ still rfl
        exact own ▸ fair.finish_backlog found_at phase
    · have own := same.trans here
      obtain ⟨queue, ran⟩ := Option.isSome_iff_exists.mp (starts none)
      obtain ⟨_, ready, rfl⟩ := start_run found_at ran
      obtain ⟨⟨source, progress⟩, entry_at, paired⟩ : ∃ entry, h.works first = some entry ∧ Paired entry found := by
        have related := sound.booked.paired first
        rw [found_at] at related
        cases entry_at : h.works first with
        | none =>
          rw [entry_at] at related
          cases related
        | some entry =>
          rw [entry_at] at related
          cases related with
          | some paired => exact ⟨entry, rfl, paired⟩
      cases paired.mpr waiting
      cases source with
      | handleCommand command =>
        have run : h.step (.start first) = some ({ h with
            queue := h.queue.begin first found
            server := (h.server.step (.commandWritten found.address)).getD h.server }.begin first
              (.handleCommand command) found.address (.ok command)) := by
          simp only [DeviceHandler.step, found_at, entry_at, ran, Option.bind_some, DeviceHandler.startWork]
        obtain ⟨telemetry, counted, _⟩ := commandWritten_cases h.server found.address
        rw [counted] at run
        refine awaiting.leads_on run ⟨found, found_at, own⟩ (by rw [begin_server]) fun still => ih _ ?_ still rfl
        rw [begin_queue]
        exact own ▸ fair.begin_backlog found_at waiting
      | loop number asked =>
        obtain ⟨_, mover, moving, at_, stands⟩ := sound.placed.alone first number asked entry_at
        obtain ⟨_, _, address⟩ := sound.placed.turn sound.booked found_at entry_at waiting at_ stands
        cases address_injective awaiting.proper.distinct current at_ (own.symm.trans address)
        cases current.symm.trans at_
        cases place.symm.trans stands
        have run : h.step (.start first) = some ({ h with
            queue := h.queue.begin first found
            server := h.server.startWork index loop cycle task }.begin first (.loop index task) found.address
              (h.server.request loop task)) := by
          simp only [DeviceHandler.step, found_at, entry_at, ran, Option.bind_some, DeviceHandler.startWork, current,
            Server.step, Server.loopStep, place, Option.map_some]
        obtain ⟨_, thrown, message, doomed, later⟩ := awaiting.breaking.started sound awaiting.proper found_at entry_at
          waiting ready place rfl
        refine awaiting.leads run ⟨found, found_at, own⟩ fun other _ still => rest _ thrown _ _ message doomed ?_
        cases still.breaking.current.symm.trans later.current
        exact still

/-- The work that the loop awaits ends with the error of its `perform`. -/
theorem Awaiting.answered (awaiting : Awaiting addresses options h index cycles loop managed)
    (place : loop.phase = .working cycle task thrown) {work transport : Nat} {error : Failure}
    (doomed : h.Doomed index work transport error)
    (rest : ∀ s phase calls begun t, s.runOnce = false → s.stopRequested = false →
      Server.LoopMove s loop (.working cycle task thrown) (.workSettled false (.rejected error) 0 0) phase calls begun →
      Awaiting addresses options t index cycles { loop with phase := phase } managed → t.Reconnects loop.address) :
    h.Reconnects loop.address := by
  induction left : h.queue.backlog loop.address using Nat.strong_induction_on generalizing h with
  | _ left ih =>
    subst left
    have sound := awaiting.sound
    have fair := sound.booked.fair
    have current := awaiting.breaking.current
    obtain ⟨own, progress, awaits, threw, _⟩ := sound.placed.working index loop cycle task thrown current place
    obtain ⟨source, entry⟩ := doomed.entry
    cases doomed.awaited.symm.trans awaits.awaited
    cases entry.symm.trans awaits.entry
    have calm : thrown = none := by
      cases thrown with
      | none => rfl
      | some reason => cases threw reason rfl
    obtain ⟨record, record_at, here⟩ := awaits.record
    obtain ⟨other, other_at, paired⟩ := rel_some sound.booked.paired entry
    cases record_at.symm.trans other_at
    cases phase : record.phase with
    | waiting => cases paired.mpr phase
    | running =>
      have run : h.step (.settle work (.rejected error)) = some { h with
          queue := h.queue.workEnded work (.rejected error) } := by
        simp only [DeviceHandler.step, entry, DeviceHandler.settles, doomed.settled, decide_true, if_true,
          DeviceWorkQueue.step, record_at, phase, WorkPhase.isRunning, Option.map_some]
      refine awaiting.leads_on run ⟨record, record_at, here⟩ rfl fun still => ih _ ?_ still
        (doomed.keep sound (step_effect run) rfl) rfl
      exact here ▸ fair.workEnded_backlog record_at phase _
    | finishing outcome =>
      have run : h.step (.finish work) = some { h with queue := h.queue.finish work record outcome } := by
        simp only [DeviceHandler.step, DeviceWorkQueue.step, record_at, phase, Option.map_some]
      refine awaiting.leads_on run ⟨record, record_at, here⟩ rfl fun still => ih _ ?_ still
        (doomed.keep sound (step_effect run) rfl) rfl
      exact here ▸ fair.finish_backlog record_at phase
    | settled outcome =>
      have read : h.outcome index = some outcome := by
        change ((h.awaited index).bind fun work => (h.queue.works work).bind fun record => _) = _
        rw [doomed.awaited, Option.bind_some, record_at, Option.bind_some]
        simp only [phase]
      cases doomed.outcome sound read
      have run : h.server.loopStep index loop (.workSettled false (.rejected error) 0 0) =
          some (h.server.workSettled index loop cycle false (.rejected error) 0 0 task) := by
        simp only [Server.loopStep, place, calm, Option.all_none, if_true]
      have allowed : h.continues index loop (.workSettled false (.rejected error) 0 0) = true := decide_eq_true read
      exact awaiting.moves allowed run fun phase calls begun t move later =>
        rest h.server phase calls begun t awaiting.proper.once awaiting.running (place ▸ move) later

theorem Awaiting.not_lost {s : Server} {phase : LoopPhase} {calls : List ServerOperation}
    (awaiting : Awaiting addresses options h index cycles { loop with phase := phase } managed)
    (loses : Server.Loses s loop phase calls) (lasting : s.runOnce = false) (running : s.stopRequested = false) : False := by
  have calm := awaiting.breaking.going.calm
  rw [show phase.reconnecting = true from loses.reconnecting lasting running] at calm
  cases calm

section Phases

variable {command : ReadHoldingRegisters} {rest : List ReadHoldingRegisters} {saw busy : Bool} {startedAt ms : ℚ}
  {delay : Option ℚ} {pack : Nat}

/-- The reads that a cycle begins with do not get past the first one. -/
theorem Awaiting.polls (awaiting : Awaiting addresses options h index cycles loop managed)
    (place : loop.phase = .command cycle .polling command rest saw delay) : h.Reconnects loop.address := by
  have run : h.server.loopStep index loop (.nextCommand 0) =
      some (h.server.nextCommand index loop cycle .polling command rest saw 0) := by
    simp only [Server.loopStep, place]
  refine awaiting.moves rfl run fun phase calls begun t move queued => ?_
  rw [place] at move
  cases move with
  | cuts _ stopped => cases awaiting.running.symm.trans stopped
  | enqueues =>
    refine queued.called rfl fun u thrown work transport message doomed called => ?_
    refine called.answered rfl doomed fun s phase calls begun v lasting running move answered => ?_
    cases move.read_refused with
    | lost loses => exact (answered.not_lost loses lasting running).elim
    | ended _ good => rcases good with absurd | absurd <;> cases absurd
    | packs _ good => rcases good with absurd | absurd <;> cases absurd

theorem Awaiting.due (awaiting : Awaiting addresses options h index cycles loop managed) (place : loop.phase = .head) :
    h.Reconnects loop.address := by
  let now := (h.server.getPollingState loop.address).nextFastPollAt
  have run : h.server.loopStep index loop (.turn now now) = some (h.server.turn index loop now now) := by
    simp only [Server.loopStep, place, if_true]
  have supported := awaiting.proper.registered.loops loop (List.mem_of_getElem? awaiting.breaking.current)
  refine awaiting.moves rfl run fun phase calls begun t move began => ?_
  rw [place] at move
  cases move with
  | stopped _ _ stopped => cases awaiting.running.symm.trans stopped
  | waits _ _ _ _ early => exact (lt_irrefl _ early).elim
  | begins => exact began.polls rfl
  | beginsEmpty _ _ _ _ nothing => exact absurd nothing (fastPollingCommands_ne_nil supported)

theorem Awaiting.ends (awaiting : Awaiting addresses options h index cycles loop managed)
    (place : loop.phase = .cycleEnd cycle busy) : h.Reconnects loop.address := by
  let clock : CycleClock := ⟨0, 0, 0, 0, 0⟩
  have run : h.server.loopStep index loop (.cycleEnded clock) =
      some (h.server.cycleEnded index loop cycle busy clock) := by
    simp only [Server.loopStep, place]
  refine awaiting.moves rfl run fun phase calls begun t move ended => ?_
  rw [place] at move
  cases move with
  | ends => exact ended.due rfl
  | leaves _ last =>
    rcases last with once | stopped
    · cases awaiting.proper.once.symm.trans once
    · cases awaiting.running.symm.trans stopped

/-- A pack is not selected. -/
theorem Awaiting.selects (awaiting : Awaiting addresses options h index cycles loop managed)
    (place : loop.phase = .queued cycle (.selectPack pack)) : h.Reconnects loop.address := by
  refine awaiting.called place fun t thrown work transport message doomed called => ?_
  refine called.answered rfl doomed fun s phase calls begun u lasting running move answered => ?_
  exact (answered.not_lost move.select_refused lasting running).elim

theorem Awaiting.queues_read (awaiting : Awaiting addresses options h index cycles loop managed)
    (place : loop.phase = .queued cycle (.read (.pack pack) command rest saw startedAt))
    (next : ∀ t phase, Server.PackMove loop cycle (pack + 1) phase →
      Awaiting addresses options t index cycles { loop with phase := phase } managed → t.Reconnects loop.address) :
    h.Reconnects loop.address := by
  refine awaiting.called place fun t thrown work transport message doomed called => ?_
  refine called.answered rfl doomed fun s phase calls begun u lasting running move answered => ?_
  cases move.read_refused with
  | next _ _ _ further => exact next u phase further.of_phase answered

/-- The loop goes on to the next pack after the first read of this one. -/
theorem Awaiting.reads_pack (awaiting : Awaiting addresses options h index cycles loop managed)
    (place : loop.phase = .command cycle (.pack pack) command rest saw delay)
    (next : ∀ t phase, Server.PackMove loop cycle (pack + 1) phase →
      Awaiting addresses options t index cycles { loop with phase := phase } managed → t.Reconnects loop.address) :
    h.Reconnects loop.address := by
  have run : h.server.loopStep index loop (.nextCommand 0) =
      some (h.server.nextCommand index loop cycle (.pack pack) command rest saw 0) := by
    simp only [Server.loopStep, place]
  refine awaiting.moves rfl run fun phase calls begun t move queued => ?_
  rw [place] at move
  cases move with
  | cuts _ stopped => cases awaiting.running.symm.trans stopped
  | enqueues => exact queued.queues_read rfl fun u phase further later => next u phase further.of_phase later

/-- By induction on the packs that are left. -/
theorem Awaiting.packs {phase : LoopPhase} (move : Server.PackMove loop cycle pack phase)
    (awaiting : Awaiting addresses options h index cycles { loop with phase := phase } managed) :
    h.Reconnects loop.address := by
  induction left : loop.device.packNumMax + 1 - pack using Nat.strong_induction_on generalizing h pack phase with
  | _ left ih =>
    cases move with
    | done => exact awaiting.ends rfl
    | selects => exact awaiting.selects rfl
    | reads bound =>
      refine awaiting.reads_pack rfl fun t phase further later => ih _ ?_ further.of_phase later rfl
      omega

theorem Awaiting.sets {s : Server} {set : CommandSet} {result : CommandResult} {phase : LoopPhase}
    {calls : List ServerOperation} (move : Server.SetMove s loop cycle set result phase calls)
    (lasting : s.runOnce = false) (running : s.stopRequested = false)
    (awaiting : Awaiting addresses options h index cycles { loop with phase := phase } managed) :
    h.Reconnects loop.address := by
  cases move with
  | lost loses => exact (awaiting.not_lost loses lasting running).elim
  | busy => exact awaiting.ends rfl
  | ended => exact awaiting.ends rfl
  | packs _ _ move => exact awaiting.packs move
  | next _ _ _ move => exact awaiting.packs move

/-- The error of the work that the loop awaits is one that it knows. -/
theorem Awaiting.ends_work (awaiting : Awaiting addresses options h index cycles loop managed)
    (place : loop.phase = .working cycle task thrown) : h.Reconnects loop.address := by
  obtain ⟨work, transport, error, doomed, known, _⟩ := awaiting.breaking.doomed cycle task thrown place
  refine awaiting.answered place doomed fun s phase calls begun t lasting running move later => ?_
  cases move with
  | fails _ _ _ _ unclassified => exact absurd unclassified known
  | returned _ _ _ _ _ _ _ _ _ _ move => exact later.sets move lasting running
  | @nextRead _ set =>
    cases set with
    | polling => exact later.polls rfl
    | pack pack => exact later.reads_pack rfl fun t phase move last => last.packs move
  | skipped _ _ _ _ _ move => exact later.packs move
  | busy => exact later.ends rfl
  | lost _ _ _ _ _ loses => exact (later.not_lost loses lasting running).elim

theorem Awaiting.settles_pack (awaiting : Awaiting addresses options h index cycles loop managed)
    (place : loop.phase = .settling cycle pack ms) : h.Reconnects loop.address := by
  have run : h.server.loopStep index loop .packSettled = some (h.server.runPackReads index loop cycle pack) := by
    simp only [Server.loopStep, place]
  refine awaiting.moves rfl run fun phase calls begun t move settled => ?_
  rw [place] at move
  cases move with
  | settled => exact settled.reads_pack rfl fun t phase move last => last.packs move
  | unread => exact settled.ends rfl

theorem Awaiting.wakes (awaiting : Awaiting addresses options h index cycles loop managed)
    (place : loop.phase = .waiting ms) : h.Reconnects loop.address := by
  have run : h.server.loopStep index loop .waited = some (h.server.setLoop index loop .head) := by
    simp only [Server.loopStep, place]
  refine awaiting.moves rfl run fun phase calls begun t move woken => ?_
  rw [place] at move
  cases move with
  | woke => exact woken.due rfl

end Phases

/-- Wherever the loop stands, it can go on until it calls `reconnect`. -/
theorem Awaiting.reconnects (awaiting : Awaiting addresses options h index cycles loop managed) :
    h.Reconnects loop.address := by
  have polls : loop.phase.polls = true := by
    rcases awaiting.breaking.going with polls | ⟨_, stopped⟩
    · exact polls
    · cases awaiting.running.symm.trans stopped
  cases place : loop.phase with
  | head => exact awaiting.due place
  | waiting ms => exact awaiting.wakes place
  | command cycle set command rest saw delay =>
    cases set with
    | polling => exact awaiting.polls place
    | pack pack => exact awaiting.reads_pack place fun t phase move later => later.packs move
  | queued cycle task =>
    refine awaiting.called place fun t thrown work transport message doomed later => ?_
    exact later.ends_work rfl
  | working cycle task thrown => exact awaiting.ends_work place
  | settling cycle pack ms => exact awaiting.settles_pack place
  | cycleEnd cycle busy => exact awaiting.ends place
  | _ =>
    rw [place] at polls
    cases polls

end Awaiting

end DeviceHandler

end BluettiMqtt
