import BluettiMqtt.App.DeviceHandler
import BluettiMqtt.App.LoopMoves
import BluettiMqtt.App.RunSettlement
import BluettiMqtt.App.WorkQueueOrder

namespace BluettiMqtt
open Promise Transition

/-- The loop waits for the queue to call its work. -/
def LoopPhase.isQueued : LoopPhase → Bool
  | .queued _ _ => true
  | _ => false

/-- The loop's work has been called. -/
def LoopPhase.isWorking : LoopPhase → Bool
  | .working _ _ _ => true
  | _ => false

namespace DeviceHandler

/-- Everything a step can do, by the part of the handler it goes through. -/
inductive Effect (h : DeviceHandler) : HandlerEvent → DeviceHandler → Prop
  | stopped : Effect h (.server .stop) { h with server := h.server.stop }
  | entered {event : ServerEvent} {server : Server} (other : event ≠ .stop) (lone : ∀ index e, event ≠ .loop index e)
      (allowed : h.allows event = true) (run : h.server.step event = some server) :
      Effect h (.server event) (h.entered server)
  | moved {index work : Nat} {event : LoopEvent} {loop : PollingLoop} {server : Server} {phase : LoopPhase}
      {calls : List ServerOperation} {cycles : Nat} {t : DeviceHandler}
      (current : h.server.loops[index]? = some loop) (allowed : h.continues index loop event = true)
      (run : h.server.loopStep index loop event = some server)
      (move : Server.LoopMove h.server loop loop.phase event phase calls cycles)
      (arrives : Server.Arrives h.server index loop phase calls cycles server)
      (advanced : h.advanced index loop.address server work phase = some t) : Effect h (.loop index event work) t
  | called {work : Nat} {address : String} {command : DeviceCommand} (fresh : h.queue.works work = none) :
      Effect h (.handleCommand work address command)
        ({ h with queue := h.queue.enqueue work address }.setProgress work (.handleCommand command) .waiting)
  | commandStarted {work : Nat} {record : Work Failure Unit} {command : DeviceCommand} {progress : WorkProgress}
      {telemetry : Table String DeviceTelemetry} (record_at : h.queue.works work = some record)
      (entry : h.works work = some ⟨.handleCommand command, progress⟩) (waiting : record.phase = .waiting)
      (ready : h.queue.fulfilled record.previous = true)
      (counts : telemetry = h.server.telemetry ∨
        h.server.step (.commandWritten record.address) = some { h.server with telemetry := telemetry }) :
      Effect h (.start work) ({ h with
        queue := h.queue.begin work record
        server := { h.server with telemetry := telemetry } }.begin work (.handleCommand command) record.address
          (.ok command))
  | loopStarted {work index : Nat} {record : Work Failure Unit} {task queued : LoopWork} {progress : WorkProgress}
      {loop : PollingLoop} {cycle : PollingCycle} (record_at : h.queue.works work = some record)
      (entry : h.works work = some ⟨.loop index task, progress⟩) (waiting : record.phase = .waiting)
      (ready : h.queue.fulfilled record.previous = true) (current : h.server.loops[index]? = some loop)
      (place : loop.phase = .queued cycle queued) :
      Effect h (.start work) ({ h with
        queue := h.queue.begin work record
        server := h.server.startWork index loop cycle queued }.begin work (.loop index task) record.address
          (h.server.request loop task))
  | settled {work : Nat} {record : Work Failure Unit} {entry : HandlerWork} {outcome : Settlement Failure Unit}
      (record_at : h.queue.works work = some record) (running : record.phase = .running)
      (entry_at : h.works work = some entry) (allowed : h.settles work entry outcome = true) :
      Effect h (.settle work outcome) { h with queue := h.queue.workEnded work outcome }
  | finished {work : Nat} {record : Work Failure Unit} {outcome : Settlement Failure Unit}
      (record_at : h.queue.works work = some record) (finishing : record.phase = .finishing outcome) :
      Effect h (.finish work) { h with queue := h.queue.finish work record outcome }
  | session {transport : Nat} {event : SessionEvent} {session : DeviceSession}
      (outer : event.isCall = false) (run : (h.sessions transport).step event = some session) :
      Effect h (.session transport event) { h with sessions := Function.update h.sessions transport session }

variable {h t : DeviceHandler}

theorem enqueue_run {q r : DeviceWorkQueue Failure Unit} {work : Nat} {address : String}
    (run : q.step (.enqueue work address) = some r) : q.works work = none ∧ r = q.enqueue work address := by
  obtain ⟨fresh, same⟩ := Option.ite_none_right_eq_some.mp run
  exact ⟨Option.isNone_iff_eq_none.mp fresh, (Option.some.inj same).symm⟩

theorem start_run {q r : DeviceWorkQueue Failure Unit} {work : Nat} {record : Work Failure Unit}
    (entry : q.works work = some record) (run : q.step (.start work none) = some r) :
    record.phase = .waiting ∧ q.fulfilled record.previous = true ∧ r = q.begin work record := by
  simp only [DeviceWorkQueue.step, entry] at run
  obtain ⟨turn, same⟩ := Option.ite_none_right_eq_some.mp run
  obtain ⟨waiting, ready⟩ := Bool.and_eq_true_iff.mp turn
  exact ⟨DeviceWorkQueue.WorkPhase.isWaiting_iff.mp waiting, ready, (Option.some.inj same).symm⟩

/-- A command that is written is counted in the telemetry and nowhere else. -/
theorem commandWritten_cases (s : Server) (address : String) : ∃ telemetry,
    (s.step (.commandWritten address)).getD s = { s with telemetry := telemetry } ∧
      (telemetry = s.telemetry ∨ s.step (.commandWritten address) = some { s with telemetry := telemetry }) := by
  cases stored : s.sessions.has address with
  | true =>
    have run : s.step (.commandWritten address) =
        some (s.setTelemetry address (s.getTelemetry address).countWrite) := if_pos stored
    exact ⟨_, congrArg (Option.getD · s) run, Or.inr run⟩
  | false =>
    have refused : s.step (.commandWritten address) = none := if_neg (by simp [stored])
    exact ⟨s.telemetry, congrArg (Option.getD · s) refused, Or.inl rfl⟩

/-- A command that is written begins no cycle. -/
theorem cycleCount_of_counts {s : Server} {address : String} {telemetry : Table String DeviceTelemetry}
    (counts : telemetry = s.telemetry ∨ s.step (.commandWritten address) = some { s with telemetry := telemetry })
    (other : String) : ({ s with telemetry := telemetry } : Server).cycleCount other = s.cycleCount other := by
  rcases counts with rfl | run
  · rfl
  · obtain ⟨_, same⟩ := Option.ite_none_right_eq_some.mp run
    rw [← Option.some.inj same]
    exact Server.Accounts.cycleCount_setTelemetry s (DeviceTelemetry.countWrite_cycleCount _) other

theorem step_effect {event : HandlerEvent} (run : h.step event = some t) : Effect h event t := by
  cases event with
  | server event =>
    by_cases stop : event = .stop
    · subst stop
      cases run
      exact .stopped
    · have shape : h.step (.server event) =
          if h.allows event then (h.server.step event).map h.entered else none := by
        cases event <;> first | rfl | exact absurd rfl stop
      rw [shape] at run
      obtain ⟨allowed, run⟩ := Option.ite_none_right_eq_some.mp run
      obtain ⟨server, ran, rfl⟩ := Option.map_eq_some_iff.mp run
      refine .entered stop ?_ allowed ran
      rintro index e rfl
      cases allowed
  | loop index event work =>
    simp only [step] at run
    split at run
    · rename_i loop current
      obtain ⟨allowed, run⟩ := Option.ite_none_right_eq_some.mp run
      obtain ⟨server, ran, rest⟩ := Option.bind_eq_some_iff.mp run
      obtain ⟨moved, at_, advanced⟩ := Option.bind_eq_some_iff.mp rest
      simp only [Server.step, current] at ran
      obtain ⟨phase, calls, cycles, move, arrives⟩ := Server.loopStep_moves ran
      have bound := (List.getElem?_eq_some_iff.mp current).1
      rw [arrives.loops, List.getElem?_set_self bound] at at_
      cases at_
      exact .moved current allowed ran move arrives advanced
    · cases run
  | handleCommand work address command =>
    obtain ⟨queue, ran, rfl⟩ := Option.map_eq_some_iff.mp run
    obtain ⟨fresh, rfl⟩ := enqueue_run ran
    exact .called fresh
  | start work =>
    simp only [step] at run
    split at run
    · rename_i record entry record_at entry_at
      obtain ⟨queue, ran, rest⟩ := Option.bind_eq_some_iff.mp run
      obtain ⟨waiting, ready, rfl⟩ := start_run record_at ran
      obtain ⟨source, progress⟩ := entry
      cases source with
      | handleCommand command =>
        cases rest
        have counts := commandWritten_cases h.server record.address
        generalize (h.server.step (.commandWritten record.address)).getD h.server = server at counts ⊢
        obtain ⟨telemetry, rfl, counts⟩ := counts
        exact .commandStarted record_at entry_at waiting ready counts
      | loop index task =>
        simp only [startWork] at rest
        split at rest
        · rename_i loop current
          obtain ⟨server, moved, rfl⟩ := Option.map_eq_some_iff.mp rest
          simp only [Server.step, current, Server.loopStep] at moved
          split at moved
          · rename_i cycle queued place
            cases moved
            exact .loopStarted record_at entry_at waiting ready current place
          · cases moved
        · cases rest
    · cases run
  | settle work outcome =>
    simp only [step] at run
    split at run
    · rename_i entry entry_at
      obtain ⟨allowed, run⟩ := Option.ite_none_right_eq_some.mp run
      obtain ⟨queue, ended, rfl⟩ := Option.map_eq_some_iff.mp run
      simp only [DeviceWorkQueue.step] at ended
      split at ended
      · rename_i record record_at
        obtain ⟨running, same⟩ := Option.ite_none_right_eq_some.mp ended
        cases same
        exact .settled record_at (DeviceWorkQueue.WorkPhase.isRunning_iff.mp running) entry_at allowed
      · cases ended
    · cases run
  | finish work =>
    obtain ⟨queue, ended, rfl⟩ := Option.map_eq_some_iff.mp run
    simp only [DeviceWorkQueue.step] at ended
    split at ended
    · rename_i record record_at
      split at ended
      · rename_i outcome finishing
        cases ended
        exact .finished record_at finishing
      · cases ended
    · cases ended
  | session transport event =>
    obtain ⟨outer, run⟩ := Option.ite_none_left_eq_some.mp run
    obtain ⟨session, ran, rfl⟩ := Option.map_eq_some_iff.mp run
    exact .session (Bool.eq_false_iff.mpr outer) ran

/-- What the call of a work does: it throws, or it calls `perform` on the session
of its address. -/
theorem begin_cases (h : DeviceHandler) (work : Nat) (source : WorkSource) (address : String)
    (request : Except Failure DeviceCommand) :
    (∃ error, h.begin work source address request = h.setProgress work source (.thrown error) ∧
      (request = .error error ∨ (∃ command, request = .ok command) ∧ h.server.sessions.get? address = none)) ∨
    ∃ command session, request = .ok command ∧ h.server.sessions.get? address = some session ∧
      h.begin work source address request = h.perform work source address session.transport command := by
  cases request with
  | error error => exact Or.inl ⟨error, rfl, Or.inl rfl⟩
  | ok command =>
    cases current : h.server.sessions.get? address with
    | none =>
      refine Or.inl ⟨.error s!"No active session for {address}", ?_, Or.inr ⟨⟨command, rfl⟩, rfl⟩⟩
      simp only [begin, current]
    | some session =>
      refine Or.inr ⟨command, session, rfl, rfl, ?_⟩
      simp only [begin, current]

section Begin

variable (h : DeviceHandler) (work : Nat) (source : WorkSource) (address : String)
  (request : Except Failure DeviceCommand)

@[simp] theorem begin_server : (h.begin work source address request).server = h.server := by
  rcases h.begin_cases work source address request with ⟨_, same, _⟩ | ⟨_, _, _, _, same⟩
  · rw [same]
    rfl
  · rw [same]
    rfl

@[simp] theorem begin_queue : (h.begin work source address request).queue = h.queue := by
  rcases h.begin_cases work source address request with ⟨_, same, _⟩ | ⟨_, _, _, _, same⟩
  · rw [same]
    rfl
  · rw [same]
    rfl

@[simp] theorem begin_awaited : (h.begin work source address request).awaited = h.awaited := by
  rcases h.begin_cases work source address request with ⟨_, same, _⟩ | ⟨_, _, _, _, same⟩
  · rw [same]
    rfl
  · rw [same]
    rfl

/-- What has come of the work. -/
theorem begin_progress :
    ∃ progress, progress ≠ .waiting ∧ (∀ error, request = .error error → progress = .thrown error) ∧
      (∀ command session, request = .ok command → h.server.sessions.get? address = some session →
        progress = .performing session.transport) ∧
      (h.begin work source address request).works = h.works.insert work ⟨source, progress⟩ := by
  rcases h.begin_cases work source address request with ⟨error, same, reason⟩ | ⟨command, session, asked, current, same⟩
  · rw [same]
    refine ⟨.thrown error, nofun, fun other failed => ?_, fun command session asked current => ?_, rfl⟩
    · rcases reason with thrown | ⟨⟨command, asked⟩, _⟩
      · cases thrown.symm.trans failed
        rfl
      · cases asked.symm.trans failed
    · rcases reason with thrown | ⟨_, missing⟩
      · cases thrown.symm.trans asked
      · cases missing.symm.trans current
  · rw [same]
    refine ⟨.performing session.transport, nofun, fun error failed => ?_, fun _ found _ held => ?_, rfl⟩
    · cases asked.symm.trans failed
    · cases current.symm.trans held
      rfl

end Begin

section Tables

variable {α β : Type} {R : α → β → Prop} {a : Table Nat α} {b : Table Nat β} {work : Nat}

theorem rel_insert (related : ∀ key, Option.Rel R (a key) (b key)) {x : α} {y : β} (here : R x y) (key : Nat) :
    Option.Rel R (a.insert work x key) (b.insert work y key) := by
  by_cases same : key = work
  · rw [same, Table.insert_self, Table.insert_self]
    exact .some here
  · rw [Table.insert_of_ne _ _ same, Table.insert_of_ne _ _ same]
    exact related key

theorem rel_insert_right (related : ∀ key, Option.Rel R (a key) (b key)) {y z : β} (entry : b work = some y)
    (here : ∀ x, R x y → R x z) (key : Nat) : Option.Rel R (a key) (b.insert work z key) := by
  by_cases same : key = work
  · have at_ := related work
    rw [same, Table.insert_self]
    cases found : a work with
    | none =>
      rw [found, entry] at at_
      cases at_
    | some x =>
      rw [found, entry] at at_
      cases at_ with
      | some before => exact .some (here _ before)
  · rw [Table.insert_of_ne _ _ same]
    exact related key

theorem rel_some (related : ∀ key, Option.Rel R (a key) (b key)) {x : α} (entry : a work = some x) :
    ∃ y, b work = some y ∧ R x y := by
  have at_ := related work
  rw [entry] at at_
  cases other : b work with
  | none =>
    rw [other] at at_
    cases at_
  | some y =>
    rw [other] at at_
    cases at_ with
    | some here => exact ⟨y, rfl, here⟩

end Tables

/-- A work waits on the queue until it is called. -/
def Paired (entry : HandlerWork) (record : Work Failure Unit) : Prop :=
  entry.progress = .waiting ↔ record.phase = .waiting

/-- The works are those of the queue. -/
structure Booked (h : DeviceHandler) : Prop where
  fair : h.queue.Fair
  paired : ∀ work, Option.Rel Paired (h.works work) (h.queue.works work)

theorem advanced_cases {index work : Nat} {address : String} {server : Server} {phase : LoopPhase}
    (advanced : h.advanced index address server work phase = some t) :
    (∃ cycle task, phase = .queued cycle task ∧ h.queue.works work = none ∧ t = { h with
      server := server
      queue := h.queue.enqueue work address
      works := h.works.insert work ⟨.loop index task, .waiting⟩
      awaited := h.awaited.insert index work }) ∨
    (∀ cycle task, phase ≠ .queued cycle task) ∧ ∃ sessions, t = { h with server := server, sessions := sessions } := by
  cases phase with
  | queued cycle task =>
    obtain ⟨queue, ran, rfl⟩ := Option.map_eq_some_iff.mp advanced
    obtain ⟨fresh, rfl⟩ := enqueue_run ran
    exact Or.inl ⟨cycle, task, rfl, fresh, rfl⟩
  | releasing =>
    refine Or.inr ⟨by rintro _ _ ⟨⟩, ?_⟩
    simp only [DeviceHandler.advanced] at advanced
    split at advanced
    · cases advanced
      exact ⟨_, rfl⟩
    · cases advanced
      exact ⟨_, rfl⟩
  | _ =>
    cases advanced
    exact Or.inr ⟨by rintro _ _ ⟨⟩, _, rfl⟩

theorem entered_frame (h : DeviceHandler) (server : Server) :
    ∃ sessions, h.entered server = { h with server := server, sessions := sessions } := by
  unfold DeviceHandler.entered
  split
  · exact ⟨_, rfl⟩
  · split
    · exact ⟨_, rfl⟩
    · exact ⟨_, rfl⟩
  · exact ⟨_, rfl⟩

theorem begin_works {q : DeviceWorkQueue Failure Unit} {work : Nat} {record : Work Failure Unit}
    (entry : q.works work = some record) :
    (q.begin work record).works = q.works.insert work { record with phase := .running } :=
  Table.adjust_eq_insert _ entry

theorem workEnded_works {q : DeviceWorkQueue Failure Unit} {work : Nat} {record : Work Failure Unit}
    (entry : q.works work = some record) (outcome : Settlement Failure Unit) :
    (q.workEnded work outcome).works = q.works.insert work { record with phase := .finishing outcome } :=
  Table.adjust_eq_insert _ entry

theorem Booked.begin (booked : h.Booked) {work : Nat} {record : Work Failure Unit} (server : Server)
    (source : WorkSource) (address : String) (request : Except Failure DeviceCommand)
    (entry : h.queue.works work = some record) (waiting : record.phase = .waiting)
    (ready : h.queue.fulfilled record.previous = true) :
    ({ h with queue := h.queue.begin work record, server := server }.begin work source address request).Booked := by
  obtain ⟨progress, called, _, _, works⟩ :=
    begin_progress { h with queue := h.queue.begin work record, server := server } work source address request
  refine ⟨?_, ?_⟩
  · rw [begin_queue]
    exact booked.fair.begin entry waiting ready
  · rw [works, begin_queue]
    change ∀ key, Option.Rel Paired (h.works.insert work _ key) ((h.queue.begin work record).works key)
    rw [begin_works entry]
    exact rel_insert booked.paired ⟨fun absurd => (called absurd).elim, nofun⟩

theorem Booked.enqueue (booked : h.Booked) {work : Nat} (address : String) (source : WorkSource) (server : Server)
    (awaited : Table Nat Nat) (fresh : h.queue.works work = none) :
    Booked { h with
      server := server
      queue := h.queue.enqueue work address
      works := h.works.insert work ⟨source, .waiting⟩
      awaited := awaited } :=
  ⟨booked.fair.enqueue fresh address, rel_insert booked.paired (iff_of_true rfl rfl)⟩

theorem Booked.step {event : HandlerEvent} (booked : h.Booked) (effect : Effect h event t) : t.Booked := by
  cases effect with
  | stopped => exact ⟨booked.fair, booked.paired⟩
  | @entered event server =>
    obtain ⟨sessions, same⟩ := h.entered_frame server
    rw [same]
    exact ⟨booked.fair, booked.paired⟩
  | moved current allowed run move arrives advanced =>
    rcases advanced_cases advanced with ⟨cycle, task, _, fresh, rfl⟩ | ⟨_, sessions, rfl⟩
    · exact booked.enqueue _ _ _ _ fresh
    · exact ⟨booked.fair, booked.paired⟩
  | called fresh => exact booked.enqueue _ _ h.server h.awaited fresh
  | commandStarted record_at entry waiting ready => exact booked.begin _ _ _ _ record_at waiting ready
  | loopStarted record_at entry waiting ready current place => exact booked.begin _ _ _ _ record_at waiting ready
  | @settled work record entry outcome record_at running entry_at allowed =>
    refine ⟨booked.fair.workEnded record_at running outcome, ?_⟩
    change ∀ key, Option.Rel Paired (h.works key) ((h.queue.workEnded work outcome).works key)
    rw [workEnded_works record_at]
    refine rel_insert_right booked.paired record_at fun entry paired => ?_
    exact ⟨fun waiting => absurd (running.symm.trans (paired.mp waiting)) nofun, nofun⟩
  | @finished work record outcome record_at finishing =>
    refine ⟨booked.fair.finish record_at finishing, ?_⟩
    refine rel_insert_right booked.paired record_at fun entry paired => ?_
    exact ⟨fun waiting => absurd (finishing.symm.trans (paired.mp waiting)) nofun, nofun⟩
  | session outer run => exact ⟨booked.fair, booked.paired⟩

/-- The call of `enqueue` that a loop of the given address awaits. -/
structure Awaits (h : DeviceHandler) (index : Nat) (address : String) (task : LoopWork) (work : Nat)
    (progress : WorkProgress) : Prop where
  awaited : h.awaited index = some work
  entry : h.works work = some ⟨.loop index task, progress⟩
  record : ∃ record, h.queue.works work = some record ∧ record.address = address

/-- The loops and their works belong together. -/
structure Placed (h : DeviceHandler) : Prop where
  unstarted : h.server.phase.beforeLoops = true → h.server.loops = []
  queued : ∀ index loop cycle task, h.server.loops[index]? = some loop → loop.phase = .queued cycle task →
    ∃ work, h.Awaits index loop.address task work .waiting
  working : ∀ index loop cycle task thrown, h.server.loops[index]? = some loop →
    loop.phase = .working cycle task thrown → ∃ work progress, h.Awaits index loop.address task work progress ∧
      (∀ error, thrown = some error → progress = .thrown error) ∧
      (thrown = none → ∃ transport, progress = .performing transport)
  alone : ∀ work index task, h.works work = some ⟨.loop index task, .waiting⟩ → h.awaited index = some work ∧
    ∃ loop cycle, h.server.loops[index]? = some loop ∧ loop.phase = .queued cycle task

theorem Awaits.keep {index work : Nat} {address : String} {task : LoopWork} {progress : WorkProgress}
    (awaits : h.Awaits index address task work progress) (awaited : t.awaited index = h.awaited index)
    (works : t.works work = h.works work)
    (records : ∀ record, h.queue.works work = some record →
      ∃ later, t.queue.works work = some later ∧ later.address = record.address) :
    t.Awaits index address task work progress := by
  obtain ⟨record, found, here⟩ := awaits.record
  obtain ⟨later, found, same⟩ := records record found
  exact ⟨awaited.trans awaits.awaited, works.trans awaits.entry, later, found, same.trans here⟩

/-- A step that changes no loop and no work of a loop keeps the loops placed. -/
theorem Placed.keep (placed : h.Placed) (unstarted : t.server.phase.beforeLoops = true → t.server.loops = [])
    (loops : t.server.loops = h.server.loops) (awaited : t.awaited = h.awaited)
    (works : ∀ work index task progress, h.works work = some ⟨.loop index task, progress⟩ →
      t.works work = h.works work)
    (waiting : ∀ work index task, t.works work = some ⟨.loop index task, .waiting⟩ →
      h.works work = some ⟨.loop index task, .waiting⟩)
    (records : ∀ work record, h.queue.works work = some record →
      ∃ later, t.queue.works work = some later ∧ later.address = record.address) : t.Placed where
  unstarted := unstarted
  queued index loop cycle task current place := by
    rw [loops] at current
    obtain ⟨work, awaits⟩ := placed.queued index loop cycle task current place
    exact ⟨work, awaits.keep (congrFun awaited index) (works work index task _ awaits.entry) (records work)⟩
  working index loop cycle task thrown current place := by
    rw [loops] at current
    obtain ⟨work, progress, awaits, rest⟩ := placed.working index loop cycle task thrown current place
    exact ⟨work, progress, awaits.keep (congrFun awaited index) (works work index task _ awaits.entry) (records work), rest⟩
  alone work index task entry := by
    rw [awaited, loops]
    exact placed.alone work index task (waiting work index task entry)

section Moves

variable {index : Nat} {loop : PollingLoop} {phase : LoopPhase}

theorem loops_set {loops : List PollingLoop} {other : Nat} {found : PollingLoop}
    (current : loops[index]? = some loop)
    (entry : (loops.set index { loop with phase := phase })[other]? = some found) :
    other = index ∧ found = { loop with phase := phase } ∨ other ≠ index ∧ loops[other]? = some found := by
  by_cases here : other = index
  · subst here
    rw [List.getElem?_set_self (List.getElem?_eq_some_iff.mp current).1] at entry
    exact Or.inl ⟨rfl, (Option.some.inj entry).symm⟩
  · rw [List.getElem?_set_ne (Ne.symm here)] at entry
    exact Or.inr ⟨here, entry⟩

theorem Reconnects.idle {s : Server} {calls : List ServerOperation} (move : Server.Reconnects s loop phase calls) :
    phase.isWorking = false := by
  cases move <;> rfl

theorem Loses.idle {s : Server} {calls : List ServerOperation} (move : Server.Loses s loop phase calls) :
    phase.isWorking = false := by
  cases move with
  | ended => rfl
  | reconnects _ move => exact Reconnects.idle move

theorem PackMove.idle {cycle : PollingCycle} {pack : Nat} (move : Server.PackMove loop cycle pack phase) : phase.isWorking = false := by
  cases move <;> rfl

theorem SetMove.idle {s : Server} {cycle : PollingCycle} {set : CommandSet} {result : CommandResult}
    {calls : List ServerOperation} (move : Server.SetMove s loop cycle set result phase calls) :
    phase.isWorking = false := by
  cases move with
  | lost move => exact Loses.idle move
  | busy => rfl
  | ended => rfl
  | packs _ _ move => exact PackMove.idle move
  | next _ _ _ move => exact PackMove.idle move

/-- A loop that takes a step of its own was not waiting on the queue, and is not
called by it. -/
theorem LoopMove.own {s : Server} {event : LoopEvent} {calls : List ServerOperation} {cycles : Nat}
    {before : LoopPhase} (move : Server.LoopMove s loop before event phase calls cycles) (own : event ≠ .workStarted) :
    before.isQueued = false ∧ phase.isWorking = false := by
  cases move with
  | starts => exact absurd rfl own
  | beginsEmpty _ _ _ _ _ move => exact ⟨rfl, SetMove.idle move⟩
  | cuts _ _ move => exact ⟨rfl, SetMove.idle move⟩
  | returned _ _ _ _ _ _ _ _ _ _ move => exact ⟨rfl, SetMove.idle move⟩
  | skipped _ _ _ _ _ move => exact ⟨rfl, PackMove.idle move⟩
  | lost _ _ _ _ _ move => exact ⟨rfl, Loses.idle move⟩
  | retries move => exact ⟨rfl, Reconnects.idle move⟩
  | _ => exact ⟨rfl, rfl⟩

end Moves

/-- Only the start of the loops changes them, and there are none before it. -/
theorem step_loops {s t : Server} {event : ServerEvent} (lone : ∀ index e, event ≠ .loop index e)
    (unstarted : s.phase.beforeLoops = true → s.loops = []) (run : s.step event = some t) :
    (t.loops = s.loops ∨ s.loops = [] ∧ ∀ loop ∈ t.loops, loop.phase = .head) ∧
      (t.phase.beforeLoops = true → t.loops = []) := by
  have kept (loops : t.loops = s.loops) (early : s.phase.beforeLoops = true) :
      (t.loops = s.loops ∨ s.loops = [] ∧ ∀ loop ∈ t.loops, loop.phase = .head) ∧
        (t.phase.beforeLoops = true → t.loops = []) :=
    ⟨Or.inl loops, fun _ => loops.trans (unstarted early)⟩
  have late (loops : t.loops = s.loops) (settled : t.phase.handlerSettled = true) :
      (t.loops = s.loops ∨ s.loops = [] ∧ ∀ loop ∈ t.loops, loop.phase = .head) ∧
        (t.phase.beforeLoops = true → t.loops = []) := by
    refine ⟨Or.inl loops, fun early => ?_⟩
    rw [ServerPhase.beforeLoops_of_settled settled] at early
    cases early
  cases Server.step_effect run with
  | moved phase move =>
    rcases move.settling with early | ⟨_, settled⟩
    · exact kept rfl early
    · exact late rfl settled
  | entered place =>
    exact kept (Server.connectAllWithRecovery_loops { s with stopRequested := false }).1 (by rw [place]; rfl)
  | initialized address rest transport place result =>
    cases result with
    | fulfilled name => exact kept (Server.connectNext_loops _ rest).1 (by rw [place]; rfl)
    | rejected error => exact kept rfl (by rw [place]; rfl)
  | connectAllReturned result place phase after accounts => exact kept accounts.loops (by rw [place]; rfl)
  | retried place => exact kept (Server.connectAllWithRecovery_loops s).1 (by rw [place]; rfl)
  | started place =>
    refine ⟨Or.inr ⟨unstarted (by rw [place]; rfl), fun loop member => ?_⟩, nofun⟩
    obtain ⟨address, _, found⟩ := List.mem_filterMap.mp member
    obtain ⟨device, _, rfl⟩ := Option.map_eq_some_iff.mp found
    rfl
  | loop index e => exact absurd rfl (lone index e)
  | joined place outcome cause => exact late rfl rfl
  | cleanup outcome place =>
    obtain ⟨settled, loops, _⟩ := s.disconnectNext_settled outcome
    exact late loops settled
  | disconnected result outcome address place =>
    obtain ⟨settled, loops, _⟩ :=
      Server.disconnectNext_settled { s with sessions := s.sessions.delete address } outcome
    exact late loops settled
  | commandWritten => exact ⟨Or.inl rfl, unstarted⟩
  | stop => exact ⟨Or.inl rfl, unstarted⟩

theorem Placed.started (placed : h.Placed) (empty : h.server.loops = []) {server : Server}
    {sessions : Nat → DeviceSession} (heads : ∀ loop ∈ server.loops, loop.phase = .head)
    (unstarted : server.phase.beforeLoops = true → server.loops = []) :
    Placed { h with server := server, sessions := sessions } where
  unstarted := unstarted
  queued index loop cycle task current place := by
    rw [heads loop (List.mem_of_getElem? current)] at place
    cases place
  working index loop cycle task thrown current place := by
    rw [heads loop (List.mem_of_getElem? current)] at place
    cases place
  alone work index task entry := by
    obtain ⟨_, loop, _, current, _⟩ := placed.alone work index task entry
    rw [empty] at current
    cases current

theorem Booked.fresh (booked : h.Booked) {work other index : Nat} {task : LoopWork}
    {progress : WorkProgress} (fresh : h.queue.works work = none) (entry : h.works other = some ⟨.loop index task, progress⟩) :
    other ≠ work := by
  rintro rfl
  obtain ⟨record, found, _⟩ := rel_some booked.paired entry
  cases fresh.symm.trans found

theorem Placed.moved (placed : h.Placed) (booked : h.Booked) {event : LoopEvent} {index work : Nat} {loop : PollingLoop}
    {server : Server} {phase : LoopPhase} {calls : List ServerOperation} {cycles : Nat}
    (current : h.server.loops[index]? = some loop) (own : event ≠ .workStarted)
    (move : Server.LoopMove h.server loop loop.phase event phase calls cycles)
    (arrives : Server.Arrives h.server index loop phase calls cycles server)
    (advanced : h.advanced index loop.address server work phase = some t) : t.Placed := by
  obtain ⟨unqueued, idle⟩ := LoopMove.own move own
  have others {other : Nat} {found : PollingLoop} (entry : server.loops[other]? = some found) :
      other = index ∧ found = { loop with phase := phase } ∨ other ≠ index ∧ h.server.loops[other]? = some found :=
    loops_set current (arrives.loops ▸ entry)
  have still {other : Nat} {found : PollingLoop} {cycle : PollingCycle} {task : LoopWork}
      (entry : h.server.loops[other]? = some found) (place : found.phase = .queued cycle task) : other ≠ index := by
    rintro rfl
    cases current.symm.trans entry
    rw [place] at unqueued
    cases unqueued
  have unstarted : server.phase.beforeLoops = true → server.loops = [] := by
    intro early
    rw [arrives.frame.phase] at early
    rw [placed.unstarted early] at current
    cases current
  rcases advanced_cases advanced with ⟨cycle, task, rfl, fresh, rfl⟩ | ⟨elsewhere, sessions, rfl⟩
  · have keep {other place : Nat} {address : String} {old : LoopWork} {progress : WorkProgress} (different : other ≠ index)
        (awaits : h.Awaits other address old place progress) : Awaits { h with
          server := server
          queue := h.queue.enqueue work loop.address
          works := h.works.insert work ⟨.loop index task, .waiting⟩
          awaited := h.awaited.insert index work } other address old place progress := by
      have old_ := booked.fresh fresh awaits.entry
      exact awaits.keep (Table.insert_of_ne _ _ different) (Table.insert_of_ne _ _ old_) fun record found =>
        ⟨record, (Table.insert_of_ne _ _ old_).trans found, rfl⟩
    refine ⟨unstarted, ?_, ?_, ?_⟩
    · intro other found otherCycle old entry place
      rcases others entry with ⟨rfl, rfl⟩ | ⟨different, entry⟩
      · cases place
        exact ⟨work, Table.insert_self _ _ _, Table.insert_self _ _ _, _, Table.insert_self _ _ _, rfl⟩
      · obtain ⟨earlier, awaits⟩ := placed.queued other found otherCycle old entry place
        exact ⟨earlier, keep different awaits⟩
    · intro other found otherCycle old thrown entry place
      rcases others entry with ⟨rfl, rfl⟩ | ⟨different, entry⟩
      · cases place
      · obtain ⟨earlier, progress, awaits, rest⟩ := placed.working other found otherCycle old thrown entry place
        exact ⟨earlier, progress, keep different awaits, rest⟩
    · intro other place old entry
      rcases Table.insert_eq_some.mp entry with ⟨rfl, same⟩ | ⟨different, entry⟩
      · cases same
        refine ⟨Table.insert_self _ _ _, { loop with phase := .queued cycle task }, cycle, ?_, rfl⟩
        change server.loops[index]? = _
        rw [arrives.loops, List.getElem?_set_self (List.getElem?_eq_some_iff.mp current).1]
      · obtain ⟨awaited, found, otherCycle, atFound, waits⟩ := placed.alone other place old entry
        have apart := still atFound waits
        refine ⟨(Table.insert_of_ne _ _ apart).trans awaited, found, otherCycle, ?_, waits⟩
        change server.loops[place]? = _
        rw [arrives.loops, List.getElem?_set_ne (Ne.symm apart), atFound]
  · refine ⟨unstarted, ?_, ?_, ?_⟩
    · intro other found cycle task entry place
      rcases others entry with ⟨rfl, rfl⟩ | ⟨_, entry⟩
      · exact absurd place (elsewhere cycle task)
      · obtain ⟨earlier, awaits⟩ := placed.queued other found cycle task entry place
        exact ⟨earlier, awaits.awaited, awaits.entry, awaits.record⟩
    · intro other found cycle task thrown entry place
      rcases others entry with ⟨rfl, rfl⟩ | ⟨_, entry⟩
      · change phase = .working cycle task thrown at place
        rw [place] at idle
        cases idle
      · obtain ⟨earlier, progress, awaits, rest⟩ := placed.working other found cycle task thrown entry place
        exact ⟨earlier, progress, ⟨awaits.awaited, awaits.entry, awaits.record⟩, rest⟩
    · intro other place old entry
      obtain ⟨awaited, found, cycle, atFound, waits⟩ := placed.alone other place old entry
      refine ⟨awaited, found, cycle, ?_, waits⟩
      change server.loops[place]? = _
      rw [arrives.loops, List.getElem?_set_ne (Ne.symm (still atFound waits)), atFound]

theorem continues_own {index : Nat} {loop : PollingLoop} {event : LoopEvent}
    (allowed : h.continues index loop event = true) : event ≠ .workStarted := by
  rintro rfl
  cases allowed

/-- The work that the queue calls is the one its loop waits for. -/
theorem Placed.turn (placed : h.Placed) (booked : h.Booked) {work index : Nat} {record : Work Failure Unit}
    {task queued : LoopWork} {progress : WorkProgress} {loop : PollingLoop} {cycle : PollingCycle}
    (record_at : h.queue.works work = some record) (entry : h.works work = some ⟨.loop index task, progress⟩)
    (waiting : record.phase = .waiting) (current : h.server.loops[index]? = some loop)
    (place : loop.phase = .queued cycle queued) :
    queued = task ∧ h.Awaits index loop.address task work .waiting ∧ record.address = loop.address := by
  obtain ⟨found, at_, paired⟩ := rel_some booked.paired entry
  cases record_at.symm.trans at_
  cases paired.mpr waiting
  obtain ⟨awaited, other, otherCycle, atOther, waits⟩ := placed.alone work index task entry
  cases current.symm.trans atOther
  cases place.symm.trans waits
  obtain ⟨own, awaits⟩ := placed.queued index loop cycle _ current place
  cases awaited.symm.trans awaits.awaited
  obtain ⟨same, found, here⟩ := awaits.record
  cases record_at.symm.trans found
  exact ⟨rfl, awaits, here⟩

theorem begin_records {q : DeviceWorkQueue Failure Unit} {work other : Nat} {record old : Work Failure Unit}
    (entry : q.works work = some record) (found : q.works other = some old) :
    ∃ later, (q.begin work record).works other = some later ∧ later.address = old.address := by
  rw [begin_works entry]
  by_cases same : other = work
  · subst same
    cases entry.symm.trans found
    exact ⟨_, Table.insert_self _ _ _, rfl⟩
  · exact ⟨old, (Table.insert_of_ne _ _ same).trans found, rfl⟩

theorem Placed.begin (placed : h.Placed) {work : Nat} {record : Work Failure Unit} {command : DeviceCommand}
    {progress : WorkProgress} (record_at : h.queue.works work = some record)
    (entry : h.works work = some ⟨.handleCommand command, progress⟩) (telemetry : Table String DeviceTelemetry)
    (address : String) (request : Except Failure DeviceCommand) : ({ h with
      queue := h.queue.begin work record
      server := { h.server with telemetry := telemetry } }.begin work (.handleCommand command) address
        request).Placed := by
  obtain ⟨later, _, _, _, works⟩ := begin_progress { h with
    queue := h.queue.begin work record
    server := { h.server with telemetry := telemetry } } work (.handleCommand command) address request
  refine placed.keep (by rw [begin_server]; exact placed.unstarted) (by rw [begin_server])
    (begin_awaited _ _ _ _ _) ?_ ?_ ?_
  · intro other index task old found
    rw [works, Table.insert_of_ne _ _ ?_]
    rintro rfl
    cases entry.symm.trans found
  · intro other index task found
    rw [works] at found
    rcases Table.insert_eq_some.mp found with ⟨_, absurd⟩ | ⟨_, found⟩
    · cases absurd
    · exact found
  · intro other old found
    rw [begin_queue]
    exact begin_records record_at found

theorem request_ok {s : Server} {loop : PollingLoop} {task : LoopWork} {command : DeviceCommand}
    (requested : s.request loop task = .ok command) : ∃ session, s.sessions.get? loop.address = some session := by
  have known : s.sessions.has loop.address = true := by
    by_contra missing
    cases task with
    | read set read rest saw startedAt =>
      simp [Server.request, missing, bind, Except.bind, throw, throwThe, MonadExceptOf.throw] at requested
    | selectPack pack =>
      cases built : loop.device.buildSetterCommand "pack_num" (.number (.ofInt pack)) <;>
        simp [Server.request, built, missing, bind, Except.bind, Functor.map, Except.map, throw, throwThe,
          MonadExceptOf.throw] at requested
  exact Option.isSome_iff_exists.mp known

theorem startWork_sessions (s : Server) (index : Nat) (loop : PollingLoop) (cycle : PollingCycle) (task : LoopWork) :
    (s.startWork index loop cycle task).sessions = s.sessions := by
  unfold Server.startWork
  split <;> rfl

theorem Placed.startLoop (placed : h.Placed) (booked : h.Booked) {work index : Nat} {record : Work Failure Unit}
    {task queued : LoopWork} {progress : WorkProgress} {loop : PollingLoop} {cycle : PollingCycle}
    (record_at : h.queue.works work = some record) (entry : h.works work = some ⟨.loop index task, progress⟩)
    (waiting : record.phase = .waiting) (current : h.server.loops[index]? = some loop)
    (place : loop.phase = .queued cycle queued) :
    ({ h with
      queue := h.queue.begin work record
      server := h.server.startWork index loop cycle queued }.begin work (.loop index task) record.address
        (h.server.request loop task)).Placed := by
  obtain ⟨rfl, awaits, here⟩ := placed.turn booked record_at entry waiting current place
  let began : DeviceHandler := { h with
    queue := h.queue.begin work record
    server := h.server.startWork index loop cycle queued }
  change (began.begin work (.loop index queued) record.address (h.server.request loop queued)).Placed
  have arrives := h.server.startWork_arrives index loop cycle queued
  obtain ⟨later, called, thrown, performing, works⟩ :=
    began.begin_progress work (.loop index queued) record.address (h.server.request loop queued)
  have loops : (began.begin work (.loop index queued) record.address (h.server.request loop queued)).server.loops =
      h.server.loops.set index { loop with phase := .working cycle queued (h.server.startFailure loop queued) } := by
    rw [begin_server]
    exact arrives.loops
  have keep {other place : Nat} {address : String} {old : LoopWork} {progress : WorkProgress} (different : place ≠ index)
      (theirs : h.Awaits place address old other progress) :
      (began.begin work (.loop index queued) record.address (h.server.request loop queued)).Awaits
        place address old other progress := by
    refine theirs.keep (congrFun (began.begin_awaited _ _ _ _) place) ?_ fun record found => ?_
    · rw [works]
      refine Table.insert_of_ne _ _ ?_
      rintro rfl
      cases entry.symm.trans theirs.entry
      exact different rfl
    · rw [begin_queue]
      exact begin_records record_at found
  refine ⟨?_, ?_, ?_, ?_⟩
  · intro early
    rw [begin_server] at early
    rw [placed.unstarted (arrives.frame.phase.symm ▸ early)] at current
    cases current
  · intro other found otherCycle old at_ waits
    rw [loops] at at_
    rcases loops_set current at_ with ⟨_, rfl⟩ | ⟨different, at_⟩
    · cases waits
    · obtain ⟨earlier, awaits⟩ := placed.queued other found otherCycle old at_ waits
      exact ⟨earlier, keep different awaits⟩
  · intro other found otherCycle old thrown at_ works_
    rw [loops] at at_
    rcases loops_set current at_ with ⟨rfl, rfl⟩ | ⟨different, at_⟩
    · cases works_
      refine ⟨work, later, ⟨?_, ?_, ?_⟩, ?_⟩
      · rw [begin_awaited]
        exact awaits.awaited
      · rw [works]
        exact Table.insert_self _ _ _
      · rw [begin_queue]
        obtain ⟨record, found, here⟩ := awaits.record
        obtain ⟨later, found, same⟩ := begin_records record_at found
        exact ⟨later, found, same.trans here⟩
      · unfold Server.startFailure
        cases requested : h.server.request loop queued with
        | error error =>
          refine ⟨fun other same => ?_, nofun⟩
          cases same
          exact thrown error requested
        | ok command =>
          obtain ⟨session, stored⟩ := request_ok requested
          refine ⟨nofun, fun _ => ⟨session.transport, performing command session requested ?_⟩⟩
          rw [here]
          exact (congrArg (·.get? loop.address) (startWork_sessions h.server other loop cycle queued)).trans stored
    · obtain ⟨earlier, progress, awaits, rest⟩ := placed.working other found otherCycle old thrown at_ works_
      exact ⟨earlier, progress, keep different awaits, rest⟩
  · intro other place_ old found
    rw [works] at found
    rcases Table.insert_eq_some.mp found with ⟨_, same⟩ | ⟨different, found⟩
    · cases same
      exact absurd rfl called
    · obtain ⟨held, other_, otherCycle, at_, waits⟩ := placed.alone other place_ old found
      have apart : place_ ≠ index := by
        rintro rfl
        cases held.symm.trans awaits.awaited
        exact different rfl
      refine ⟨(congrFun (began.begin_awaited _ _ _ _) place_).trans held, other_, otherCycle, ?_, waits⟩
      rw [loops, List.getElem?_set_ne (Ne.symm apart), at_]

theorem insert_records {works : Table Nat (Work Failure Unit)} {work : Nat} {record later : Work Failure Unit}
    (entry : works work = some record) (address : later.address = record.address) (other : Nat)
    (found : Work Failure Unit) (at_ : works other = some found) :
    ∃ after, works.insert work later other = some after ∧ after.address = found.address := by
  by_cases same : other = work
  · subst same
    cases entry.symm.trans at_
    exact ⟨later, Table.insert_self _ _ _, address⟩
  · exact ⟨found, (Table.insert_of_ne _ _ same).trans at_, rfl⟩

theorem Placed.step {event : HandlerEvent} (placed : h.Placed) (booked : h.Booked) (effect : Effect h event t) :
    t.Placed := by
  cases effect with
  | stopped =>
    exact placed.keep placed.unstarted rfl rfl (fun _ _ _ _ _ => rfl) (fun _ _ _ found => found)
      fun _ record found => ⟨record, found, rfl⟩
  | @entered event server other lone allowed run =>
    obtain ⟨loops, unstarted⟩ := step_loops lone placed.unstarted run
    obtain ⟨sessions, same⟩ := h.entered_frame server
    rw [same]
    rcases loops with kept | ⟨empty, heads⟩
    · exact placed.keep unstarted kept rfl (fun _ _ _ _ _ => rfl) (fun _ _ _ found => found)
        fun _ record found => ⟨record, found, rfl⟩
    · exact placed.started empty heads unstarted
  | moved current allowed run move arrives advanced =>
    exact placed.moved booked current (continues_own allowed) move arrives advanced
  | @called work address command fresh =>
    refine placed.keep placed.unstarted rfl rfl ?_ ?_ ?_
    · intro other index task progress found
      exact Table.insert_of_ne _ _ (booked.fresh fresh found)
    · intro other index task found
      rcases Table.insert_eq_some.mp found with ⟨_, same⟩ | ⟨_, found⟩
      · cases same
      · exact found
    · intro other record found
      exact ⟨record, (DeviceWorkQueue.enqueue_old (DeviceWorkQueue.known_ne fresh found)).trans found, rfl⟩
  | commandStarted record_at entry waiting ready => exact placed.begin record_at entry _ _ _
  | loopStarted record_at entry waiting ready current place =>
    exact placed.startLoop booked record_at entry waiting current place
  | @settled work record entry outcome record_at running entry_at allowed =>
    refine placed.keep placed.unstarted rfl rfl (fun _ _ _ _ _ => rfl) (fun _ _ _ found => found) ?_
    change ∀ other found, _ → ∃ after, (h.queue.workEnded work outcome).works other = some after ∧ _
    rw [workEnded_works record_at]
    exact insert_records record_at rfl
  | @finished work record outcome record_at finishing =>
    exact placed.keep placed.unstarted rfl rfl (fun _ _ _ _ _ => rfl) (fun _ _ _ found => found)
      (insert_records record_at rfl)
  | session outer run =>
    exact placed.keep placed.unstarted rfl rfl (fun _ _ _ _ _ => rfl) (fun _ _ _ found => found)
      fun _ record found => ⟨record, found, rfl⟩

end DeviceHandler

end BluettiMqtt
