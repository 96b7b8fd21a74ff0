import BluettiMqtt.App.RegisteredDevices
import BluettiMqtt.App.ServedSessions

namespace BluettiMqtt
open Promise Transition

/-- The loop goes on and is not replacing its session. -/
def LoopPhase.polls : LoopPhase → Bool
  | .releasing => false
  | .replacing _ => false
  | .reconnectDelay => false
  | .ended => false
  | .failed _ => false
  | _ => true

/-- The loop is at the reads that a cycle begins with. -/
def LoopPhase.opens : LoopPhase → Bool
  | .command _ .polling _ _ _ _ => true
  | .queued _ (.read .polling _ _ _ _) => true
  | .working _ (.read .polling _ _ _ _) _ => true
  | _ => false

namespace Server

section Moves

variable {s : Server} {loop : PollingLoop} {before phase : LoopPhase} {event : LoopEvent} {cycle : PollingCycle}
  {calls : List ServerOperation} {begun : Nat}

/-- The phases in which a loop awaits its `reconnect` or has not called it. -/
def GoesOn (s : Server) (phase : LoopPhase) : Prop :=
  phase.polls = true ∨ phase = .ended ∧ s.stopRequested = true

theorem Reconnects.goesOn (move : Reconnects s loop phase calls) :
    calls = [.reconnect loop.address] ∨ calls = [] ∧ GoesOn s phase := by
  cases move with
  | ended stopped => exact Or.inr ⟨rfl, Or.inr ⟨rfl, stopped⟩⟩
  | releasing => exact Or.inl rfl
  | replacing => exact Or.inl rfl

theorem Loses.goesOn (move : Loses s loop phase calls) (lasting : s.runOnce = false) :
    calls = [.reconnect loop.address] ∨ calls = [] ∧ GoesOn s phase := by
  cases move with
  | ended once => cases lasting.symm.trans once
  | reconnects _ move => exact move.goesOn

theorem PackMove.polls {pack : Nat} (move : PackMove loop cycle pack phase) : phase.polls = true := by
  cases move <;> rfl

theorem SetMove.goesOn {set : CommandSet} {result : CommandResult} (move : SetMove s loop cycle set result phase calls)
    (lasting : s.runOnce = false) : calls = [.reconnect loop.address] ∨ calls = [] ∧ GoesOn s phase := by
  cases move with
  | lost move => exact move.goesOn lasting
  | busy => exact Or.inr ⟨rfl, Or.inl rfl⟩
  | ended => exact Or.inr ⟨rfl, Or.inl rfl⟩
  | packs _ _ move => exact Or.inr ⟨rfl, Or.inl move.polls⟩
  | next _ _ _ move => exact Or.inr ⟨rfl, Or.inl move.polls⟩

/-- A loop whose works fail with errors it knows does not fail. -/
theorem LoopMove.goesOn (move : LoopMove s loop before event phase calls begun) (own : event ≠ .workStarted)
    (going : GoesOn s before) (lasting : s.runOnce = false)
    (known : ∀ published result now finishedAt, event = .workSettled published result now finishedAt →
      ∃ error, result = .rejected error ∧ CommandResult.ofFailure error ≠ none) :
    calls = [.reconnect loop.address] ∨ calls = [] ∧ GoesOn s phase := by
  have polls : before = .ended ∨ before.polls = true := by
    rcases going with polls | ⟨ended, _⟩
    · exact Or.inr polls
    · exact Or.inl ended
  cases move with
  | starts => exact absurd rfl own
  | stopped _ _ stopped => exact Or.inr ⟨rfl, Or.inr ⟨rfl, stopped⟩⟩
  | beginsEmpty _ _ _ _ _ move => exact move.goesOn lasting
  | cuts _ _ move => exact move.goesOn lasting
  | fails _ error _ _ unclassified =>
    obtain ⟨other, same, classified⟩ := known _ _ _ _ rfl
    cases same
    exact absurd unclassified classified
  | returned _ _ _ _ _ _ _ _ _ _ move => exact move.goesOn lasting
  | skipped _ _ _ _ _ move => exact Or.inr ⟨rfl, Or.inl move.polls⟩
  | lost _ _ _ _ _ move => exact move.goesOn lasting
  | leaves _ last =>
    rcases last with once | stopped
    · cases lasting.symm.trans once
    · exact Or.inr ⟨rfl, Or.inr ⟨rfl, stopped⟩⟩
  | released => rcases polls with same | same <;> cases same
  | replaced => rcases polls with same | same <;> cases same
  | unreplaced => rcases polls with same | same <;> cases same
  | retries => rcases polls with same | same <;> cases same
  | _ => exact Or.inr ⟨rfl, Or.inl rfl⟩

/-- A loop does not get past the first reads of a cycle that fail with a
connection error. -/
theorem LoopMove.opens (move : LoopMove s loop before event phase calls begun) (own : event ≠ .workStarted)
    (opening : before.opens = true) (lasting : s.runOnce = false) (running : s.stopRequested = false)
    (lost : ∀ published result now finishedAt, event = .workSettled published result now finishedAt →
      ∃ error, result = .rejected error ∧ CommandResult.ofFailure error = some .connectionError) :
    calls = [.reconnect loop.address] ∨ phase.opens = true := by
  cases move with
  | starts => exact absurd rfl own
  | @enqueues _ set => cases set <;> first | exact Or.inr rfl | cases opening
  | cuts _ stopped => cases running.symm.trans stopped
  | fails _ error _ _ unclassified =>
    obtain ⟨other, same, classified⟩ := lost _ _ _ _ rfl
    cases same
    cases unclassified.symm.trans classified
  | @returned _ set _ _ _ _ _ _ outcome _ _ result classified _ final same _ _ _ move =>
    obtain ⟨error, rfl, known⟩ := lost _ _ _ _ rfl
    simp only [classify, known, Except.ok.injEq] at classified
    cases set with
    | pack pack => cases opening
    | polling =>
      rw [same (Or.inr classified.symm), ← classified] at move
      cases move with
      | lost loses =>
        rcases loses.goesOn lasting with reconnects | ⟨_, goes⟩
        · exact Or.inl reconnects
        · cases loses with
          | ended once => cases lasting.symm.trans once
          | reconnects _ move =>
            cases move with
            | ended stopped => cases running.symm.trans stopped
            | releasing => exact Or.inl rfl
            | replacing => exact Or.inl rfl
      | ended _ good => rcases good with absurd | absurd <;> cases absurd
      | packs _ good => rcases good with absurd | absurd <;> cases absurd
  | nextRead _ outcome _ _ result classified good =>
    obtain ⟨error, rfl, known⟩ := lost _ _ _ _ rfl
    simp only [classify, known, Except.ok.injEq] at classified
    subst classified
    rcases good with absurd | absurd <;> cases absurd
  | _ => cases opening

/-- Where a cycle begins. -/
theorem LoopMove.begins_cycle (move : LoopMove s loop before event phase calls begun)
    (fast : loop.device.fastPollingCommands ≠ []) :
    begun = 0 ∨ begun = 1 ∧ before = .head ∧ s.stopRequested = false ∧ phase.opens = true := by
  cases move with
  | begins _ _ running => exact Or.inr ⟨rfl, rfl, running, rfl⟩
  | beginsEmpty _ _ _ _ nothing => exact absurd nothing fast
  | _ => exact Or.inl rfl

/-- The calls a loop makes are for its own address. -/
theorem LoopMove.calls_own (move : LoopMove s loop before event phase calls begun) :
    calls = [] ∨ calls = [.reconnect loop.address] ∨ ∃ command, calls = [.perform loop.address command] := by
  have reconnects {later : LoopPhase} {made : List ServerOperation} (move : Reconnects s loop later made) :
      made = [] ∨ made = [.reconnect loop.address] := by
    cases move with
    | ended => exact Or.inl rfl
    | releasing => exact Or.inr rfl
    | replacing => exact Or.inr rfl
  have loses {later : LoopPhase} {made : List ServerOperation} (move : Loses s loop later made) :
      made = [] ∨ made = [.reconnect loop.address] := by
    cases move with
    | ended => exact Or.inl rfl
    | reconnects _ move => exact reconnects move
  have sets {set : CommandSet} {result : CommandResult} {at_ : PollingCycle} {later : LoopPhase}
      {made : List ServerOperation} (move : SetMove s loop at_ set result later made) :
      made = [] ∨ made = [.reconnect loop.address] := by
    cases move with
    | lost move => exact loses move
    | _ => exact Or.inl rfl
  have own {made : List ServerOperation} (either : made = [] ∨ made = [.reconnect loop.address]) :
      made = [] ∨ made = [.reconnect loop.address] ∨ ∃ command, made = [.perform loop.address command] :=
    either.imp id Or.inl
  cases move with
  | @starts cycle work =>
    unfold startedCalls
    split
    · exact Or.inr (Or.inr ⟨_, rfl⟩)
    · exact Or.inl rfl
  | beginsEmpty _ _ _ _ _ move => exact own (sets move)
  | cuts _ _ move => exact own (sets move)
  | returned _ _ _ _ _ _ _ _ _ _ move => exact own (sets move)
  | lost _ _ _ _ _ move => exact own (loses move)
  | retries move => exact own (reconnects move)
  | _ => exact Or.inl rfl

end Moves

/-- How often `reconnect` has been called for an address. -/
def reconnectCount (s : Server) (address : String) : Nat :=
  s.operations.count (.reconnect address)

theorem Arrives.reconnectCount {s t : Server} {index : Nat} {loop : PollingLoop} {phase : LoopPhase}
    {calls : List ServerOperation} {cycles : Nat} (arrives : Arrives s index loop phase calls cycles t)
    (address : String) :
    t.reconnectCount address = s.reconnectCount address + calls.count (.reconnect address) := by
  unfold Server.reconnectCount
  rw [arrives.operations, List.count_append]

/-- A step of a loop that does not reconnect leaves the manager's map alone. -/
theorem loopStep_sessions {s t : Server} {index : Nat} {loop : PollingLoop} {event : LoopEvent} {phase : LoopPhase}
    (current : s.loops[index]? = some loop) (run : s.loopStep index loop event = some t)
    (loops : t.loops = s.loops.set index { loop with phase := phase }) (before : loop.phase.reconnecting = false)
    (after : phase.reconnecting = false) : t.sessions = s.sessions := by
  have here {later : LoopPhase} (same : t.loops = s.loops.set index { loop with phase := later }) : phase = later :=
    set_phase_injective current (loops.symm.trans same)
  cases (loopStep_effect run).2 with
  | moved _ _ _ _ accounts => exact accounts.sessions
  | failed _ _ _ _ _ _ _ accounts => exact accounts.sessions
  | released _ _ _ accounts =>
    rw [here accounts.loops] at after
    cases after
  | opened _ _ accounts =>
    rw [here accounts.loops] at after
    cases after
  | swapped place =>
    rw [place] at before
    cases before
  | replaced _ _ place =>
    rw [place] at before
    cases before
  | unreplaced _ place =>
    rw [place] at before
    cases before

theorem request_ready {s : Server} {loop : PollingLoop} {cycle : PollingCycle} {task : LoopWork} {managed : ManagedSession}
    (registered : Registered s) (member : loop ∈ s.loops) (place : loop.phase = .queued cycle task)
    (stored : s.sessions.get? loop.address = some managed) : ∃ command, s.request loop task = .ok command := by
  have known : s.sessions.has loop.address = true := Option.isSome_iff_exists.mpr ⟨managed, stored⟩
  cases task with
  | read set command rest saw startedAt =>
    exact ⟨.readHoldingRegisters command, by simp only [request, bind, Except.bind, known, if_true]; rfl⟩
  | selectPack pack =>
    obtain ⟨bound, selecting⟩ := registered.selecting loop member cycle pack place
    obtain ⟨command, built⟩ := packSelector_ok (registered.loops loop member) selecting bound
    exact ⟨.writeSingleRegister command, by
      simp only [request, bind, Except.bind, built, Functor.map, Except.map, known, if_true]; rfl⟩

theorem step_polling {s t : Server} {event : ServerEvent} (lone : ∀ index e, event ≠ .loop index e)
    (lasting : event ≠ .stop) (unwritten : ∀ address, event ≠ .commandWritten address) (run : s.step event = some t) (polling : t.phase = .polling) : s.phase = .connected := by
  have connecting {addresses : List String} {u : Server} (place : (u.connectNext addresses).phase = .polling) : False := by
    rcases u.connectNext_cases addresses with same | ⟨_, _, _, same⟩ <;> rw [same] at place <;> cases place
  have recovering {u : Server} (place : u.connectAllWithRecovery.phase = .polling) : False := by
    unfold connectAllWithRecovery at place
    split at place
    · cases place
    · exact connecting place
  have leaving {outcome : Settlement Failure Unit} {u : Server} (place : (u.disconnectNext outcome).phase = .polling) :
      False := by
    rcases u.disconnectNext_cases outcome with ⟨_, same⟩ | ⟨_, _, _, same⟩ <;> rw [same] at place <;> cases place
  cases step_effect run with
  | moved phase move =>
    change phase = _ at polling
    subst polling
    generalize s.phase = before at move
    cases move
  | entered => exact (recovering polling).elim
  | initialized address rest transport place result =>
    cases result with
    | fulfilled name => exact (connecting polling).elim
    | rejected error => cases polling
  | connectAllReturned result place phase after accounts =>
    rw [accounts.phase] at polling
    change phase = _ at polling
    subst polling
    rcases after with same | same | ⟨error, same⟩ <;> cases same
  | retried => exact (recovering polling).elim
  | started place => exact place
  | loop index e => exact absurd rfl (lone index e)
  | joined => cases polling
  | cleanup => exact (leaving polling).elim
  | disconnected => exact (leaving polling).elim
  | commandWritten address => exact absurd rfl (unwritten address)
  | stop => exact absurd rfl lasting

/-- A loop that goes on is not reconnecting. -/
theorem GoesOn.calm {s : Server} {phase : LoopPhase} (going : GoesOn s phase) : phase.reconnecting = false := by
  rcases going with polls | ⟨rfl, _⟩
  · cases phase <;> first | rfl | cases polls
  · rfl

end Server

namespace DeviceHandler

variable {h t : DeviceHandler} {event : HandlerEvent} {index cycles : Nat} {loop : PollingLoop}
  {managed : ManagedSession}

/-- The frames that have been written for one device. -/
def framesFor (h : DeviceHandler) (address : String) : List Frame :=
  h.frames.filter fun frame => frame.address = address

/-- The work that a loop awaits has got an error from its `perform`. -/
structure Doomed (h : DeviceHandler) (index work transport : Nat) (error : Failure) : Prop where
  awaited : h.awaited index = some work
  entry : ∃ source, h.works work = some ⟨source, .performing transport⟩
  settled : (h.sessions transport).phaseOf work = some (.settled (.rejected error))

theorem Doomed.keep {work transport : Nat} {error : Failure} (doomed : h.Doomed index work transport error)
    (sound : h.Sound) (effect : Effect h event t) (awaited : t.awaited index = h.awaited index) :
    t.Doomed index work transport error := by
  obtain ⟨source, entry⟩ := doomed.entry
  have known := (sound.served.performing work source transport entry).1
  exact ⟨awaited.trans doomed.awaited, ⟨source, (effect.workMove sound.booked work).performing entry⟩,
    (effect.sessionMove transport).settled known sound.booked sound.served doomed.settled⟩

theorem Sound.settles_outcome (sound : h.Sound) {result : Settlement Failure Unit}
    (read : h.outcome index = some result) : ∃ work entry, h.awaited index = some work ∧
      h.works work = some entry ∧ h.settles work entry result = true := by
  obtain ⟨work, awaited, read⟩ := Option.bind_eq_some_iff.mp read
  obtain ⟨record, record_at, read⟩ := Option.bind_eq_some_iff.mp read
  split at read
  · rename_i outcome place
    cases read
    obtain ⟨entry, entry_at, settles⟩ := sound.answered work record result record_at (by rw [place]; rfl)
    exact ⟨work, entry, awaited, entry_at, settles⟩
  · cases read

theorem Doomed.outcome {work transport : Nat} {error : Failure} (doomed : h.Doomed index work transport error)
    (sound : h.Sound) {result : Settlement Failure Unit} (read : h.outcome index = some result) :
    result = .rejected error := by
  obtain ⟨other, entry, awaited, entry_at, settles⟩ := sound.settles_outcome read
  cases awaited.symm.trans doomed.awaited
  obtain ⟨source, found⟩ := doomed.entry
  cases found.symm.trans entry_at
  simpa only [DeviceHandler.settles, doomed.settled, decide_eq_true_eq] using settles

/-- A lost session stays lost. -/
theorem SessionMove.lost {transport : Nat} (move : SessionMove h t transport) (known : transport < h.server.created)
    (sound : h.Sound) (lost : (h.sessions transport).Lost) : (t.sessions transport).Lost := by
  cases move with
  | kept same =>
    rw [same]
    exact lost
  | opened address fresh => exact absurd fresh (Nat.ne_of_lt known)
  | stepped event outer run => exact lost.step (outer_event outer).2.1 run
  | released call same =>
    rw [same]
    exact lost.disconnect call
  | performed own starts stored _ command entry queue same =>
    rw [same]
    exact lost.perform (Option.map_eq_none_iff.mp (starts.unperformed sound.served sound.booked transport)) command

/-- The session of a device has been lost and its loop has not called
`reconnect` yet. It may begin one more cycle, of which every read fails. -/
structure Breaking (h : DeviceHandler) (index cycles : Nat) (loop : PollingLoop) (managed : ManagedSession) : Prop where
  current : h.server.loops[index]? = some loop
  stored : h.server.sessions.get? loop.address = some managed
  lost : (h.sessions managed.transport).Lost
  going : Server.GoesOn h.server loop.phase
  bound : h.server.cycleCount loop.address = cycles ∨ h.server.cycleCount loop.address = cycles + 1 ∧
    (loop.phase.opens = true ∨ h.server.stopRequested = true)
  doomed : ∀ cycle task thrown, loop.phase = .working cycle task thrown → ∃ work transport error,
    h.Doomed index work transport error ∧ CommandResult.ofFailure error ≠ none ∧
      (h.server.cycleCount loop.address ≠ cycles → CommandResult.ofFailure error = some .connectionError)

/-- What a step that is not the loop's own keeps. -/
theorem Breaking.keep (breaking : h.Breaking index cycles loop managed) (sound : h.Sound) (effect : Effect h event t)
    (current : t.server.loops[index]? = some loop) (stored : t.server.sessions.get? loop.address = some managed)
    (stopping : h.server.stopRequested = true → t.server.stopRequested = true)
    (counted : t.server.cycleCount loop.address = h.server.cycleCount loop.address)
    (awaited : t.awaited index = h.awaited index) : t.Breaking index cycles loop managed where
  current := current
  stored := stored
  lost := (effect.sessionMove managed.transport).lost (sound.served.stored _ _ breaking.stored).1.known sound breaking.lost
  going := breaking.going.imp id fun ⟨ended, stopped⟩ => ⟨ended, stopping stopped⟩
  bound := by
    rw [counted]
    exact breaking.bound.imp id fun ⟨more, reason⟩ => ⟨more, reason.imp id stopping⟩
  doomed cycle task thrown place := by
    rw [counted]
    obtain ⟨work, transport, error, doomed, known⟩ := breaking.doomed cycle task thrown place
    exact ⟨work, transport, error, doomed.keep sound effect awaited, known⟩

/-- No frame is written for a device whose session has been lost. -/
theorem Breaking.silent (breaking : h.Breaking index cycles loop managed) (effect : Effect h event t) :
    t.framesFor loop.address = h.framesFor loop.address := by
  unfold framesFor
  rcases effect.frames with same | ⟨work, source, record, other, command, _, writes⟩
  · rw [same]
  · have elsewhere : record.address ≠ loop.address := by
      intro same
      have stored := writes.stored
      rw [same] at stored
      cases stored.symm.trans breaking.stored
      cases breaking.lost.refuses.symm.trans writes.ready
    rw [writes.frames, List.filter_append, List.filter_cons_of_neg (by simpa using elsewhere), List.filter_nil,
      List.append_nil]

theorem advanced_frame {work : Nat} {address : String} {server : Server} {phase : LoopPhase}
    (advanced : h.advanced index address server work phase = some t) :
    t.server = server ∧ ∀ other, other ≠ index → t.awaited other = h.awaited other := by
  rcases advanced_cases advanced with ⟨cycle, task, _, _, rfl⟩ | ⟨_, sessions, rfl⟩
  · exact ⟨rfl, fun other different => Table.insert_of_ne _ _ different⟩
  · exact ⟨rfl, fun _ _ => rfl⟩

/-- A step of the loop itself. -/
theorem Breaking.moved (breaking : h.Breaking index cycles loop managed) (sound : h.Sound)
    (proper : Server.Proper h.server false) {work : Nat} {e : LoopEvent} {server : Server} {phase : LoopPhase}
    {calls : List ServerOperation} {begun : Nat} (effect : Effect h event t)
    (allowed : h.continues index loop e = true) (run : h.server.loopStep index loop e = some server)
    (move : Server.LoopMove h.server loop loop.phase e phase calls begun)
    (arrives : Server.Arrives h.server index loop phase calls begun server)
    (advanced : h.advanced index loop.address server work phase = some t) :
    calls = [.reconnect loop.address] ∨ calls = [] ∧ t.Breaking index cycles { loop with phase := phase } managed := by
  have own := continues_own allowed
  have bound := (List.getElem?_eq_some_iff.mp breaking.current).1
  have supported := proper.registered.loops loop (List.mem_of_getElem? breaking.current)
  have failing (published : Bool) (result : Settlement Failure Unit) (now finishedAt : ℚ)
      (same : e = .workSettled published result now finishedAt) : ∃ error, result = .rejected error ∧
        CommandResult.ofFailure error ≠ none ∧ (h.server.cycleCount loop.address ≠ cycles →
          CommandResult.ofFailure error = some .connectionError) := by
    subst same
    have working : ∃ cycle task thrown, loop.phase = .working cycle task thrown := by
      generalize loop.phase = before at move
      cases move <;> exact ⟨_, _, _, rfl⟩
    obtain ⟨cycle, task, thrown, place⟩ := working
    obtain ⟨own_, transport, error, doomed, known⟩ := breaking.doomed cycle task thrown place
    exact ⟨error, doomed.outcome sound (of_decide_eq_true allowed), known⟩
  rcases move.goesOn own breaking.going proper.once fun published result now finishedAt same => by
      obtain ⟨error, rejected, known, _⟩ := failing published result now finishedAt same
      exact ⟨error, rejected, known⟩ with reconnects | ⟨quiet, going⟩
  · exact Or.inl reconnects
  · refine Or.inr ⟨quiet, ?_⟩
    obtain ⟨server_, _⟩ := advanced_frame advanced
    have sessions := Server.loopStep_sessions breaking.current run arrives.loops breaking.going.calm going.calm
    refine ⟨?_, ?_, ?_, ?_, ?_, ?_⟩
    · rw [server_, arrives.loops, List.getElem?_set_self bound]
    · rw [server_, sessions]
      exact breaking.stored
    · exact (effect.sessionMove managed.transport).lost (sound.served.stored _ _ breaking.stored).1.known sound
        breaking.lost
    · rw [server_]
      exact going.imp id fun ⟨ended, stopped⟩ => ⟨ended, arrives.frame.stopRequested.trans stopped⟩
    · rw [server_, arrives.frame.stopRequested]
      change server.cycleCount loop.address = cycles ∨ server.cycleCount loop.address = cycles + 1 ∧ _
      rw [arrives.cycles]
      rcases move.begins_cycle (fastPollingCommands_ne_nil supported) with rfl | ⟨rfl, head, running, opens⟩
      · rcases breaking.bound with same | ⟨more, reason⟩
        · exact Or.inl same
        · refine Or.inr ⟨more, ?_⟩
          cases stopped : h.server.stopRequested with
          | true => exact Or.inr rfl
          | false =>
            rw [stopped] at reason
            rcases reason with opening | absurd
            · rcases move.opens own opening proper.once stopped fun published result now finishedAt same => by
                  obtain ⟨error, rejected, _, lost⟩ := failing published result now finishedAt same
                  exact ⟨error, rejected, lost (by omega)⟩ with reconnects | opens
              · cases quiet.symm.trans reconnects
              · exact Or.inl opens
            · cases absurd
      · rcases breaking.bound with same | ⟨_, reason⟩
        · exact Or.inr ⟨by rw [same], Or.inl opens⟩
        · rw [head, running] at reason
          rcases reason with absurd | absurd <;> cases absurd
    · intro cycle task thrown place
      have idle := (LoopMove.own move own).2
      change phase = _ at place
      rw [place] at idle
      cases idle

theorem opens_started (cycle : PollingCycle) (task : LoopWork) (thrown : Option Failure) :
    (LoopPhase.working cycle task thrown).opens = (LoopPhase.queued cycle task).opens := by
  cases task with
  | read set => cases set <;> rfl
  | selectPack => rfl

/-- The queue calls the loop's work, which the lost session refuses. -/
theorem Breaking.started (breaking : h.Breaking index cycles loop managed) (sound : h.Sound)
    (proper : Server.Proper h.server false) {work : Nat} {record : Work Failure Unit} {task queued : LoopWork}
    {progress : WorkProgress} {cycle : PollingCycle} (record_at : h.queue.works work = some record)
    (entry : h.works work = some ⟨.loop index task, progress⟩) (waiting : record.phase = .waiting)
    (ready : h.queue.fulfilled record.previous = true) (place : loop.phase = .queued cycle queued)
    (same : t = { h with
      queue := h.queue.begin work record
      server := h.server.startWork index loop cycle queued }.begin work (.loop index task) record.address
        (h.server.request loop task)) :
    t.server.reconnectCount loop.address = h.server.reconnectCount loop.address ∧
      ∃ thrown message, t.Doomed index work managed.transport (.badConnectionError message) ∧
        t.Breaking index cycles { loop with phase := .working cycle queued thrown } managed := by
  have effect : Effect h (.start work) t :=
    same ▸ .loopStarted record_at entry waiting ready breaking.current place
  obtain ⟨rfl, awaits, here⟩ := sound.placed.turn sound.booked record_at entry waiting breaking.current place
  obtain ⟨command, asked⟩ := Server.request_ready proper.registered (List.mem_of_getElem? breaking.current) place
    breaking.stored
  have bound := (List.getElem?_eq_some_iff.mp breaking.current).1
  have arrives := h.server.startWork_arrives index loop cycle queued
  have sessions := startWork_sessions h.server index loop cycle queued
  rw [asked, here] at same
  have performed : t = ({ h with
      queue := h.queue.begin work record
      server := h.server.startWork index loop cycle queued } : DeviceHandler).perform work (.loop index queued)
        loop.address managed.transport command := by
    rw [same]
    unfold DeviceHandler.begin
    simp only [sessions, breaking.stored]
  have server : t.server = h.server.startWork index loop cycle queued := by rw [performed]; rfl
  have counted : t.server.cycleCount loop.address = h.server.cycleCount loop.address := by
    rw [server, arrives.cycles, Nat.add_zero]
  obtain ⟨message, refused⟩ := DeviceSession.perform_refused breaking.lost.refuses work command
  have doomed : t.Doomed index work managed.transport (.badConnectionError message) := by
    refine ⟨?_, ⟨.loop index queued, ?_⟩, ?_⟩
    · rw [performed]
      exact awaits.awaited
    · rw [performed]
      exact Table.insert_self _ _ _
    · rw [performed]
      change (Function.update h.sessions managed.transport _ managed.transport).phaseOf work = _
      rw [Function.update_self]
      exact refused
  refine ⟨?_, h.server.startFailure loop queued, message, doomed, ?_, ?_, ?_, ?_, ?_, fun _ _ _ _ =>
    ⟨work, managed.transport, .badConnectionError message, doomed, by rintro ⟨⟩, fun _ => rfl⟩⟩
  · rw [server, arrives.reconnectCount]
    have calls : (h.server.startedCalls loop queued).count (.reconnect loop.address) = 0 := by
      simp only [Server.startedCalls, asked]
      exact List.count_eq_zero.mpr (by simp)
    rw [calls, Nat.add_zero]
  · rw [server, arrives.loops, List.getElem?_set_self bound]
  · rw [server, sessions]
    exact breaking.stored
  · exact (effect.sessionMove managed.transport).lost (sound.served.stored _ _ breaking.stored).1.known sound breaking.lost
  · exact Or.inl rfl
  · change t.server.cycleCount loop.address = cycles ∨ t.server.cycleCount loop.address = cycles + 1 ∧ _
    rw [counted, opens_started, ← place, server, arrives.frame.stopRequested]
    exact breaking.bound

theorem address_injective {loops : List PollingLoop} (distinct : (loops.map PollingLoop.address).Nodup) {i j : Nat}
    {one other : PollingLoop} (left : loops[i]? = some one) (right : loops[j]? = some other)
    (same : one.address = other.address) : i = j := by
  have first : (loops.map PollingLoop.address)[i]? = some one.address := by rw [List.getElem?_map, left]; rfl
  have second : (loops.map PollingLoop.address)[j]? = some one.address := by rw [List.getElem?_map, right, same]; rfl
  exact (List.getElem?_inj (List.getElem?_eq_some_iff.mp first).1 distinct).mp (first.trans second.symm)

/-- A step of the loop of another device. -/
theorem Breaking.elsewhere (breaking : h.Breaking index cycles loop managed) (sound : h.Sound) (effect : Effect h event t)
    {own begun : Nat} {other : PollingLoop} {phase : LoopPhase} {calls : List ServerOperation} {server : Server}
    (here : own ≠ index) (apart : loop.address ≠ other.address)
    (arrives : Server.Arrives h.server own other phase calls begun server) (same : t.server = server)
    (none_ : calls.count (.reconnect loop.address) = 0) (awaited : t.awaited index = h.awaited index) :
    t.server.reconnectCount loop.address = h.server.reconnectCount loop.address ∧
      ∃ later, later.address = loop.address ∧ t.Breaking index cycles later managed := by
  refine ⟨?_, loop, rfl, breaking.keep sound effect ?_ ?_ ?_ ?_ awaited⟩
  · rw [same, arrives.reconnectCount, none_, Nat.add_zero]
  · rw [same, arrives.loops, List.getElem?_set_ne here]
    exact breaking.current
  · rw [same, arrives.frame.sessions _ apart]
    exact breaking.stored
  · rw [same, arrives.frame.stopRequested]
    exact id
  · rw [same]
    simp only [Server.cycleCount, Server.getTelemetry, arrives.frame.telemetry _ apart]

theorem Breaking.step (breaking : h.Breaking index cycles loop managed) (sound : h.Sound)
    (proper : Server.Proper h.server false) (effect : Effect h event t) (polling : t.server.phase = .polling) :
    h.server.reconnectCount loop.address < t.server.reconnectCount loop.address ∨
      t.server.reconnectCount loop.address = h.server.reconnectCount loop.address ∧
        ∃ later, later.address = loop.address ∧ t.Breaking index cycles later managed := by
  have still {telemetry : Table String DeviceTelemetry} (server : t.server = { h.server with telemetry := telemetry })
      (counts : ({ h.server with telemetry := telemetry } : Server).cycleCount loop.address =
        h.server.cycleCount loop.address) (awaited : t.awaited = h.awaited) :
      t.server.reconnectCount loop.address = h.server.reconnectCount loop.address ∧
        ∃ later, later.address = loop.address ∧ t.Breaking index cycles later managed := by
    refine ⟨by rw [server]; rfl, loop, rfl, breaking.keep sound effect ?_ ?_ ?_ ?_ (congrFun awaited index)⟩
    · rw [server]
      exact breaking.current
    · rw [server]
      exact breaking.stored
    · rw [server]
      exact id
    · rw [server, counts]
  cases effect with
  | stopped => exact Or.inr ⟨rfl, loop, rfl, breaking.keep sound .stopped breaking.current breaking.stored (fun _ => rfl) rfl rfl⟩
  | @entered event server other lone allowed run =>
    obtain ⟨sessions, same⟩ := h.entered_frame server
    rw [same] at polling
    have place := Server.step_polling lone other (unwritten_of_allows allowed) run polling
    have empty := sound.placed.unstarted (by rw [place]; rfl)
    have current := breaking.current
    rw [empty] at current
    cases current
  | @moved own work e before server phase calls begun _ current allowed run move arrives advanced =>
    have effect : Effect h (.loop own e work) t := .moved current allowed run move arrives advanced
    obtain ⟨server_, awaited⟩ := advanced_frame advanced
    by_cases here : own = index
    · subst here
      cases breaking.current.symm.trans current
      rcases breaking.moved sound proper effect allowed run move arrives advanced with rfl | ⟨rfl, later⟩
      · left
        rw [server_, arrives.reconnectCount]
        simp
      · refine Or.inr ⟨?_, { loop with phase := phase }, rfl, later⟩
        rw [server_, arrives.reconnectCount]
        simp
    · have apart : loop.address ≠ before.address := fun same =>
        here (address_injective proper.distinct current breaking.current same.symm)
      have none_ : calls.count (.reconnect loop.address) = 0 := by
        rcases move.calls_own with rfl | rfl | ⟨command, rfl⟩
        · rfl
        · exact List.count_eq_zero.mpr (by simpa using apart)
        · exact List.count_eq_zero.mpr (by simp)
      exact Or.inr (breaking.elsewhere sound effect here apart arrives server_ none_ (awaited index (Ne.symm here)))
  | called => exact Or.inr (still rfl rfl rfl)
  | commandStarted record_at entry waiting ready counts =>
    exact Or.inr (still (begin_server _ _ _ _ _) (cycleCount_of_counts counts _) (begin_awaited _ _ _ _ _))
  | @loopStarted work own record task queued progress before cycle record_at entry waiting ready current place =>
    by_cases here : own = index
    · subst here
      cases breaking.current.symm.trans current
      obtain ⟨counted, thrown, message, _, later⟩ := breaking.started sound proper record_at entry waiting ready place rfl
      exact Or.inr ⟨counted, { loop with phase := .working cycle queued thrown }, rfl, later⟩
    · have apart : loop.address ≠ before.address := fun same =>
        here (address_injective proper.distinct current breaking.current same.symm)
      have effect := Effect.loopStarted record_at entry waiting ready current place
      have arrives := h.server.startWork_arrives own before cycle queued
      have none_ : (h.server.startedCalls before queued).count (.reconnect loop.address) = 0 := by
        unfold Server.startedCalls
        split
        · exact List.count_eq_zero.mpr (by simp)
        · rfl
      exact Or.inr (breaking.elsewhere sound effect here apart arrives (begin_server _ _ _ _ _) none_
        (congrFun (begin_awaited _ _ _ _ _) index))
  | settled => exact Or.inr (still rfl rfl rfl)
  | finished => exact Or.inr (still rfl rfl rfl)
  | session => exact Or.inr (still rfl rfl rfl)

/-- The work that a loop awaits has called the session that the manager has for
its device. -/
def Holding (h : DeviceHandler) : Prop :=
  h.server.phase = .polling → ∀ (index : Nat) (loop : PollingLoop) (cycle : PollingCycle) (task : LoopWork)
    (thrown : Option Failure) (work : Nat) (source : WorkSource) (transport : Nat),
    h.server.loops[index]? = some loop → loop.phase = .working cycle task thrown → h.awaited index = some work →
    h.works work = some ⟨source, .performing transport⟩ →
    ∃ managed, h.server.sessions.get? loop.address = some managed ∧ managed.transport = transport

theorem Placed.called (placed : h.Placed) {cycle : PollingCycle} {task : LoopWork} {thrown : Option Failure} {work : Nat}
    (current : h.server.loops[index]? = some loop) (place : loop.phase = .working cycle task thrown)
    (awaited : h.awaited index = some work) :
    ∃ progress, progress ≠ .waiting ∧ h.works work = some ⟨.loop index task, progress⟩ := by
  obtain ⟨own, progress, awaits, threw, performs⟩ := placed.working index loop cycle task thrown current place
  cases awaited.symm.trans awaits.awaited
  refine ⟨progress, ?_, awaits.entry⟩
  rintro rfl
  cases thrown with
  | none =>
    obtain ⟨transport, absurd⟩ := performs rfl
    cases absurd
  | some error => cases threw error rfl

theorem Holding.step (holding : h.Holding) (sound : h.Sound) (distinct : (h.server.loops.map PollingLoop.address).Nodup)
    (effect : Effect h event t) : t.Holding := by
  intro polling index loop cycle task thrown work source transport current place awaited entry
  have keep (before : h.server.phase = .polling) (found : h.server.loops[index]? = some loop)
      (waits : h.awaited index = some work) : ∃ managed, h.server.sessions.get? loop.address = some managed ∧
        managed.transport = transport := by
    obtain ⟨progress, called, at_⟩ := sound.placed.called found place waits
    have same : h.works work = t.works work := by
      cases effect.workMove sound.booked work with
      | kept same => exact same.symm
      | called fresh => cases fresh.symm.trans at_
      | began _ waiting =>
        cases waiting.symm.trans at_
        exact absurd rfl called
    exact holding before index loop cycle task thrown work source transport found place waits (same.trans entry)
  cases effect with
  | stopped => exact keep polling current awaited
  | @entered event server other lone allowed run =>
    obtain ⟨sessions, same⟩ := h.entered_frame server
    rw [same] at polling current
    have before := Server.step_polling lone other (unwritten_of_allows allowed) run polling
    have empty := sound.placed.unstarted (by rw [before]; rfl)
    rcases (step_loops lone sound.placed.unstarted run).1 with kept | ⟨_, heads⟩
    · rw [show server.loops = [] from kept.trans empty] at current
      cases current
    · rw [heads loop (List.mem_of_getElem? current)] at place
      cases place
  | @moved own made e before server phase calls begun _ found allowed run move arrives advanced =>
    obtain ⟨server_, others⟩ := advanced_frame advanced
    rw [server_] at polling current ⊢
    rw [arrives.loops] at current
    rcases loops_set found current with ⟨rfl, rfl⟩ | ⟨different, current⟩
    · have idle := (LoopMove.own move (continues_own allowed)).2
      change phase = _ at place
      rw [place] at idle
      cases idle
    · have apart : loop.address ≠ before.address := fun same =>
        different (address_injective distinct current found same)
      rw [arrives.frame.sessions _ apart]
      exact keep (arrives.frame.phase.symm.trans polling) current ((others index different).symm.trans awaited)
  | called => exact keep polling current awaited
  | commandStarted =>
    rw [begin_awaited] at awaited
    rw [begin_server] at polling current ⊢
    exact keep polling current awaited
  | @loopStarted own other record old queued progress before at_ record_at entry_at waiting ready found waits =>
    let began : DeviceHandler := { h with
      queue := h.queue.begin own record
      server := h.server.startWork other before at_ queued }
    have arrives := h.server.startWork_arrives other before at_ queued
    have stored_ := startWork_sessions h.server other before at_ queued
    have waits_ : h.awaited index = some work := by rwa [begin_awaited] at awaited
    rw [begin_server] at polling current ⊢
    change (h.server.startWork other before at_ queued).loops[index]? = _ at current
    change ∃ managed, (h.server.startWork other before at_ queued).sessions.get? _ = _ ∧ _
    rw [stored_]
    rw [arrives.loops] at current
    rcases loops_set found current with ⟨rfl, rfl⟩ | ⟨different, current⟩
    · obtain ⟨rfl, awaits, here⟩ := sound.placed.turn sound.booked record_at entry_at waiting found waits
      cases waits_.symm.trans awaits.awaited
      rcases began.begin_cases work (.loop index queued) record.address (h.server.request before queued) with
        ⟨error, same, _⟩ | ⟨command, managed, _, stored, same⟩
      · rw [same] at entry
        cases (Table.insert_self _ _ _).symm.trans entry
      · rw [same] at entry
        cases (Table.insert_self _ _ _).symm.trans entry
        refine ⟨managed, ?_, rfl⟩
        rw [here] at stored
        exact (congrArg (·.get? before.address) stored_).symm.trans stored
    · exact keep (arrives.frame.phase.symm.trans polling) current waits_
  | settled => exact keep polling current awaited
  | finished => exact keep polling current awaited
  | session => exact keep polling current awaited

theorem holding_of_reach {addresses : List String} {runOnce : Bool} {options : PollingOptions}
    {trace : List HandlerEvent} (reach : Reach step (fun _ _ => True) (create addresses runOnce options) trace h)
    (distinct : addresses.Nodup) : h.Holding := by
  induction reach with
  | start => exact nofun
  | next before _ run ih =>
    obtain ⟨moves, moved⟩ := server_reach before
    exact ih.step (sound_of_reach before) (Server.proper_of_reach moved distinct).distinct (step_effect run)

end DeviceHandler

end BluettiMqtt
