import BluettiMqtt.App.ReconnectProgress

namespace BluettiMqtt
open Promise Transition

namespace DeviceHandler

variable {h t : DeviceHandler} {event : HandlerEvent} {index cycles : Nat} {loop : PollingLoop}
  {managed : ManagedSession}

theorem polling_step {s u : Server} {e : ServerEvent} (polling : s.phase = .polling) (run : s.step e = some u) :
    u.phase = .polling ∨ u.phase.handlerSettled = true := by
  have impossible {phase : ServerPhase} (place : s.phase = phase) (other : phase ≠ .polling) : False :=
    other (place.symm.trans polling)
  cases Server.step_effect run with
  | moved phase move =>
    rw [polling] at move
    cases move
  | entered place => exact (impossible place nofun).elim
  | initialized _ _ _ place => exact (impossible place nofun).elim
  | connectAllReturned _ place => exact (impossible place nofun).elim
  | retried place => exact (impossible place nofun).elim
  | started place => exact (impossible place nofun).elim
  | loop index event loop current active effect => exact Or.inl (effect.frame.2.1.trans polling)
  | joined => exact Or.inr rfl
  | cleanup _ place => exact (impossible place nofun).elim
  | disconnected _ _ _ place => exact (impossible place nofun).elim
  | commandWritten => exact Or.inl polling
  | stop => exact Or.inl polling

theorem Effect.polling (effect : Effect h event t) (polling : h.server.phase = .polling) :
    t.server.phase = .polling ∨ t.server.phase.handlerSettled = true := by
  rcases effect.server with same | ⟨e, run⟩
  · exact Or.inl (same ▸ polling)
  · exact polling_step polling run

theorem Effect.settled_lasts (effect : Effect h event t) (settled : h.server.phase.handlerSettled = true) :
    t.server.phase.handlerSettled = true := by
  rcases effect.server with same | ⟨e, run⟩
  · rwa [same]
  · exact (Server.step_settled run settled).1

theorem Effect.reconnects (effect : Effect h event t) (before : h.server.phase = .polling)
    (after : t.server.phase = .polling) (address : String) :
    h.server.reconnectCount address ≤ t.server.reconnectCount address := by
  cases effect with
  | stopped => exact Nat.le_refl _
  | @entered event server other lone allowed run =>
    obtain ⟨sessions, same⟩ := h.entered_frame server
    rw [same] at after
    cases before.symm.trans (Server.step_polling lone other (unwritten_of_allows allowed) run after)
  | moved current allowed run move arrives advanced =>
    rw [(advanced_frame advanced).1, arrives.reconnectCount]
    exact Nat.le_add_right _ _
  | called => exact Nat.le_refl _
  | commandStarted =>
    rw [begin_server]
    exact Nat.le_refl _
  | @loopStarted work index record task queued progress loop cycle =>
    rw [begin_server, (h.server.startWork_arrives index loop cycle queued).reconnectCount]
    exact Nat.le_add_right _ _
  | settled => exact Nat.le_refl _
  | finished => exact Nat.le_refl _
  | session => exact Nat.le_refl _

/-- How the device stands that has lost its session in the state `q`, as long as
its loop has not called `reconnect`: nothing more is written for it, its loop goes
on, begins at most one more cycle and comes to call `reconnect` by steps of this
device alone, and nothing done for it touches the others. -/
structure Recovering (q r : DeviceHandler) (index : Nat) (address : String) : Prop where
  silent : r.framesFor address = q.framesFor address
  refuses : ∃ managed, r.server.sessions.get? address = some managed ∧ (r.sessions managed.transport).isReady = false
  survives : ∃ loop : PollingLoop, r.server.loops[index]? = some loop ∧ loop.address = address ∧
    (∀ error, loop.phase ≠ .failed error) ∧ (r.server.stopRequested = false → loop.phase.isActive = true)
  soon : r.server.cycleCount address ≤ q.server.cycleCount address + 1
  reconnects : r.server.stopRequested = false → r.Reconnects address
  spares : ∀ event t, r.step event = some t → r.Concerns address event → Spares r t address

/-- In every run on from the state, until the loop of the device calls
`reconnect` or the run of the loops ends for another reason. -/
def Recovers (q : DeviceHandler) (index : Nat) (address : String) : Prop :=
  ∀ trace r, Reach step (fun _ _ => True) q trace r → r.server.phase = .polling →
    r.server.reconnectCount address = q.server.reconnectCount address → Recovering q r index address

theorem Breaking.recovering {q r : DeviceHandler} (breaking : r.Breaking index (q.server.cycleCount loop.address) loop managed)
    (sound : r.Sound) (proper : Server.Proper r.server false)
    (silent : r.framesFor loop.address = q.framesFor loop.address)
    (reconnects : r.server.stopRequested = false → r.Reconnects loop.address) : Recovering q r index loop.address where
  silent := silent
  refuses := ⟨managed, breaking.stored, breaking.lost.refuses⟩
  survives := by
    refine ⟨loop, breaking.current, rfl, fun error failed => ?_, fun running => ?_⟩
    · rcases breaking.going with polls | ⟨ended, _⟩
      · rw [failed] at polls
        cases polls
      · cases failed.symm.trans ended
    · rcases breaking.going with polls | ⟨_, stopped⟩
      · cases place : loop.phase <;> rw [place] at polls <;> first | rfl | cases polls
      · cases running.symm.trans stopped
  soon := by
    rcases breaking.bound with same | ⟨more, _⟩
    · omega
    · omega
  reconnects := reconnects
  spares event t run concerns := breaking.spares sound proper (step_effect run) concerns

section Runs

variable {addresses : List String} {options : PollingOptions} {trace : List HandlerEvent} {p q : DeviceHandler}

/-- The run on from a state in which the session of a device has been lost. -/
theorem Breaking.recovers (breaking : q.Breaking index (q.server.cycleCount loop.address) loop managed)
    (draining : q.Draining loop.address) (distinct : addresses.Nodup)
    (reach : Reach DeviceHandler.step (fun _ _ => True) (create addresses false options) trace q)
    (polling : q.server.phase = .polling) : q.Recovers index loop.address := by
  have facts {later : List HandlerEvent} {r : DeviceHandler} (after : Reach DeviceHandler.step (fun _ _ => True) q later r) :
      r.Sound ∧ Server.Proper r.server false := by
    have whole := reach.trans after
    obtain ⟨moves, moved⟩ := server_reach whole
    exact ⟨sound_of_reach whole, Server.proper_of_reach moved distinct⟩
  have run {later : List HandlerEvent} {r : DeviceHandler} (after : Reach DeviceHandler.step (fun _ _ => True) q later r) :
      r.server.phase.handlerSettled = true ∨ r.server.phase = .polling ∧
        (q.server.reconnectCount loop.address < r.server.reconnectCount loop.address ∨
          r.server.reconnectCount loop.address = q.server.reconnectCount loop.address ∧
          r.framesFor loop.address = q.framesFor loop.address ∧ ∃ other, other.address = loop.address ∧
            r.Breaking index (q.server.cycleCount loop.address) other managed ∧ r.Draining other.address) := by
    induction after with
    | start => exact Or.inr ⟨polling, Or.inr ⟨rfl, rfl, loop, rfl, breaking, draining⟩⟩
    | next before _ ran ih =>
      have effect := step_effect ran
      obtain ⟨sound, proper⟩ := facts before
      rcases ih with settled | ⟨place, stands⟩
      · exact Or.inl (effect.settled_lasts settled)
      · rcases effect.polling place with still | settled
        · refine Or.inr ⟨still, ?_⟩
          rcases stands with called | ⟨count, silent, other, here, breaks, drains⟩
          · exact Or.inl (Nat.lt_of_lt_of_le called (effect.reconnects place still _))
          · have later := breaks.step sound proper effect still
            have quiet := breaks.silent effect
            have drained := drains.step breaks sound effect
            rw [here] at later quiet drained
            rcases later with calls | ⟨same, next, address, further⟩
            · exact Or.inl (count ▸ calls)
            · exact Or.inr ⟨same.trans count, quiet.trans silent, next, address, further, address ▸ drained⟩
        · exact Or.inl settled
  intro later r after still uncalled
  obtain ⟨sound, proper⟩ := facts after
  rcases run after with settled | ⟨_, called | ⟨_, silent, other, here, breaks, drains⟩⟩
  · rw [still] at settled
    cases settled
  · omega
  · rw [← here] at silent breaks ⊢
    refine breaks.recovering sound proper silent fun running => ?_
    exact (Awaiting.mk distinct ⟨_, reach.trans after⟩ still running breaks drains).reconnects

/-- A polling loop awaits a work whose write is outstanding, and the transport
rejects the write. -/
structure WriteFails (p q : DeviceHandler) (index work transport : Nat) (loop : PollingLoop) (error : Failure) :
    Prop where
  polling : p.server.phase = .polling
  current : p.server.loops[index]? = some loop
  working : ∃ cycle task thrown, loop.phase = .working cycle task thrown
  awaited : p.awaited index = some work
  run : p.step (.session transport (.writeSettled work (.rejected error))) = some q

theorem WriteFails.rejected {work transport : Nat} {error : Failure}
    (fails : WriteFails p q index work transport loop error) :
    (p.sessions transport).phaseOf work = some .writing ∧ q = { p with
      sessions := Function.update p.sessions transport ((p.sessions transport).writeSettled work (.rejected error)) } := by
  cases step_effect fails.run with
  | session outer run =>
    obtain ⟨writing, same⟩ := Option.ite_none_right_eq_some.mp run
    cases Option.some.inj same
    exact ⟨writing, rfl⟩

theorem WriteFails.doomed {work transport : Nat} {error : Failure} (fails : WriteFails p q index work transport loop error)
    (sound : p.Sound) : q.Doomed index work transport error := by
  obtain ⟨writing, rfl⟩ := fails.rejected
  obtain ⟨source, entry⟩ := sound.served.performed transport work .writing writing
  refine ⟨fails.awaited, ⟨source, entry⟩, ?_⟩
  change (Function.update p.sessions transport _ transport).phaseOf work = _
  have settled := ((p.sessions transport).concluded (.rejected error) .disconnecting).setPhase_phaseOf work work
    (.settled (.rejected error))
  rw [if_pos rfl, DeviceSession.concluded_phaseOf, writing] at settled
  rw [Function.update_self]
  exact settled

/-- The session of the device is lost. -/
theorem WriteFails.breaking {work transport : Nat} {error : Failure} (fails : WriteFails p q index work transport loop error)
    (sound : p.Sound) (holding : p.Holding) (known : CommandResult.ofFailure error ≠ none) :
    ∃ managed, q.Breaking index (q.server.cycleCount loop.address) loop managed := by
  have doomed := fails.doomed sound
  obtain ⟨writing, rfl⟩ := fails.rejected
  obtain ⟨cycle, task, thrown, place⟩ := fails.working
  obtain ⟨source, entry⟩ := sound.served.performed transport work .writing writing
  obtain ⟨managed, stored, rfl⟩ :=
    holding fails.polling index loop cycle task thrown work source transport fails.current place fails.awaited entry
  obtain ⟨lost, _⟩ := (sound.served.orderly managed.transport).lost_of_writeFailed
    (sound.served.stored loop.address managed stored).2 writing error
  refine ⟨managed, fails.current, stored, ?_, Or.inl (by rw [place]; rfl), Or.inl rfl, fun _ _ _ _ =>
    ⟨work, managed.transport, error, doomed, known, fun absurd => absurd rfl |>.elim⟩⟩
  change (Function.update p.sessions managed.transport _ managed.transport).Lost
  rw [Function.update_self]
  exact lost

/-- No other work of the device is running. -/
theorem WriteFails.draining {work transport : Nat} {error : Failure} (fails : WriteFails p q index work transport loop error)
    (sound : p.Sound) : q.Draining loop.address := by
  have doomed := fails.doomed sound
  obtain ⟨writing, rfl⟩ := fails.rejected
  obtain ⟨cycle, task, thrown, place⟩ := fails.working
  obtain ⟨record, record_at, running, _⟩ := sound.served.running transport work .writing writing rfl
  obtain ⟨own, progress, awaits, _⟩ := sound.placed.working index loop cycle task thrown fails.current place
  cases fails.awaited.symm.trans awaits.awaited
  obtain ⟨same, same_at, here⟩ := awaits.record
  cases record_at.symm.trans same_at
  intro other found found_at place busy
  cases sound.booked.fair.one_active found_at record_at (place.trans here.symm) (by rw [busy]; rfl) (by rw [running]; rfl)
  obtain ⟨source, entry⟩ := doomed.entry
  refine ⟨_, .rejected error, entry, ?_⟩
  simp only [DeviceHandler.settles, doomed.settled, decide_true]

/-- An error that no `catch` block knows ends the loop. -/
theorem loopStep_fails (s : Server) (index : Nat) {cycle : PollingCycle} {task : LoopWork} {error : Failure}
    (place : loop.phase = .working cycle task none) (unknown : CommandResult.ofFailure error = none) :
    ∃ u, s.loopStep index loop (.workSettled false (.rejected error) 0 0) = some u ∧
      Server.Arrives s index loop (.failed error) [] 0 u := by
  obtain ⟨u, run⟩ : ∃ u, s.loopStep index loop (.workSettled false (.rejected error) 0 0) = some u :=
    ⟨_, by simp only [Server.loopStep, place, Option.all_none, if_true]; rfl⟩
  obtain ⟨phase, calls, begun, move, arrives⟩ := Server.loopStep_moves run
  rw [place] at move
  cases move with
  | fails => exact ⟨u, run, arrives⟩
  | returned _ _ _ _ result classified =>
    simp only [Server.classify, unknown] at classified
    cases classified
  | nextRead _ _ _ _ result classified =>
    simp only [Server.classify, unknown] at classified
    cases classified
  | skipped _ _ _ _ classified => cases unknown.symm.trans classified
  | busy _ _ _ _ classified => cases unknown.symm.trans classified
  | lost _ _ _ _ classified => cases unknown.symm.trans classified

theorem WriteFails.loop_fails {work transport : Nat} {error : Failure}
    (fails : WriteFails p q index work transport loop error) (sound : p.Sound)
    (unknown : CommandResult.ofFailure error = none) :
    ∃ trace r, Reach step (fun _ _ => True) q trace r ∧ r.server.phase = .polling ∧
      r.server.operations = q.server.operations ∧ r.server.loops[index]? = some { loop with phase := .failed error } := by
  have doomed := fails.doomed sound
  obtain ⟨writing, rfl⟩ := fails.rejected
  obtain ⟨cycle, task, thrown, place⟩ := fails.working
  obtain ⟨source, entry⟩ := sound.served.performed transport work .writing writing
  obtain ⟨record, record_at, running, _⟩ := sound.served.running transport work .writing writing rfl
  have calm : thrown = none := by
    obtain ⟨own, progress, awaits, threw, _⟩ := sound.placed.working index loop cycle task thrown fails.current place
    cases fails.awaited.symm.trans awaits.awaited
    cases entry.symm.trans awaits.entry
    cases thrown with
    | none => rfl
    | some reason => cases threw reason rfl
  subst calm
  obtain ⟨u, ran, arrives⟩ := loopStep_fails p.server index place unknown
  let q : DeviceHandler := { p with
    sessions := Function.update p.sessions transport ((p.sessions transport).writeSettled work (.rejected error)) }
  let ended : DeviceHandler := { q with queue := p.queue.workEnded work (.rejected error) }
  let freed : DeviceHandler := { ended with
    queue := ended.queue.finish work { record with phase := .finishing (.rejected error) } (.rejected error) }
  have allowed : q.settles work ⟨source, .performing transport⟩ (.rejected error) = true := by
    simp only [DeviceHandler.settles, q, doomed.settled, decide_true]
  have ending : q.step (.settle work (.rejected error)) = some ended := by
    simp only [DeviceHandler.step, q, entry, allowed, if_true, DeviceWorkQueue.step, record_at, running,
      WorkPhase.isRunning]
    rfl
  have finishing : ended.queue.works work = some { record with phase := .finishing (.rejected error) } := by
    change (p.queue.workEnded work (.rejected error)).works work = _
    rw [workEnded_works record_at]
    exact Table.insert_self _ _ _
  have freeing : ended.step (.finish work) = some freed := by
    simp only [DeviceHandler.step, DeviceWorkQueue.step, finishing]
    rfl
  have outcome : freed.outcome index = some (.rejected error) := by
    have last : freed.queue.works work = some { record with released := true, phase := .settled (.rejected error) } :=
      Table.insert_self _ _ _
    change ((p.awaited index).bind fun work => (freed.queue.works work).bind fun record => _) = _
    rw [fails.awaited, Option.bind_some, last]
    rfl
  have failing : freed.step (.loop index (.workSettled false (.rejected error) 0 0) 0) = some { freed with server := u } := by
    have bound := (List.getElem?_eq_some_iff.mp fails.current).1
    have moved : u.loops[index]? = some { loop with phase := .failed error } := by
      rw [arrives.loops, List.getElem?_set_self bound]
    have at_ : freed.server.loops[index]? = some loop := fails.current
    have continues : freed.continues index loop (.workSettled false (.rejected error) 0 0) = true := by
      simp only [DeviceHandler.continues, outcome, decide_true]
    have stepped : freed.server.step (.loop index (.workSettled false (.rejected error) 0 0)) = some u := by
      simp only [Server.step, at_]
      exact ran
    simp only [DeviceHandler.step, at_, continues, if_true, stepped, Option.bind_some, moved, DeviceHandler.advanced]
  refine ⟨_, { freed with server := u }, .cons trivial ending (.cons trivial freeing (.cons trivial failing .start)), ?_, ?_, ?_⟩
  · exact arrives.frame.phase.trans fails.polling
  · exact arrives.operations.trans (List.append_nil _)
  · exact (congrArg (·[index]?) arrives.loops).trans (List.getElem?_set_self (List.getElem?_eq_some_iff.mp fails.current).1)

theorem WriteFails.not_recovers {work transport : Nat} {error : Failure}
    (fails : WriteFails p q index work transport loop error) (sound : p.Sound)
    (unknown : CommandResult.ofFailure error = none) : ¬q.Recovers index loop.address := by
  intro recovers
  obtain ⟨later, r, after, still, operations, failed⟩ := fails.loop_fails sound unknown
  have uncalled : r.server.reconnectCount loop.address = q.server.reconnectCount loop.address := by
    unfold Server.reconnectCount
    rw [operations]
  obtain ⟨other, at_, _, survives, _⟩ := (recovers later r after still uncalled).survives
  cases failed.symm.trans at_
  exact survives error rfl

/-- A device whose polling write is rejected recovers exactly when the error is
one that the `catch` blocks of the executor know. -/
theorem transport_failure_recovered_iff (distinct : addresses.Nodup)
    (reach : Reach step (fun _ _ => True) (create addresses false options) trace p) {work transport : Nat}
    {error : Failure} (fails : WriteFails p q index work transport loop error) :
    q.Recovers index loop.address ↔ CommandResult.ofFailure error ≠ none := by
  have sound := sound_of_reach reach
  have further : Reach step (fun _ _ => True) (create addresses false options) _ q := .next reach trivial fails.run
  have polling : q.server.phase = .polling := by
    obtain ⟨_, rfl⟩ := fails.rejected
    exact fails.polling
  refine ⟨fun recovers unknown => fails.not_recovers sound unknown recovers, fun known => ?_⟩
  · obtain ⟨managed, breaking⟩ := fails.breaking sound (holding_of_reach reach distinct) known
    exact breaking.recovers (fails.draining sound) distinct further polling

end Runs

/-- A new transport is connected to a device of the given name. -/
def deviceOpens (transport : Nat) (name : String) : List HandlerEvent :=
  [.session transport (.connectSettled 0 (.fulfilled ())),
   .session transport (.nameSettled 0 (.fulfilled (name.toList.map fun character => BitVec.ofNat 8 character.toNat))),
   .session transport (.subscribeSettled 0 (.fulfilled ())),
   .server (.initialized (.fulfilled name))]

def twoStations : DeviceHandler :=
  create ["24:4C:AB:2C:24:8E", "24:4C:AB:2C:24:8F"] false DEFAULT_POLLING_OPTIONS

/-- The two stations are connected and the first one gets its first read. -/
def firstRead : List HandlerEvent :=
  [.server (.mqttConnected (.fulfilled ())), .server (.mqttSubscribed (.fulfilled ())), .server .startPolling] ++
    deviceOpens 0 Server.STATION_NAME ++ deviceOpens 1 Server.STATION_NAME ++
    [.server .connectAllReturned, .server .startLoops, .loop 0 (.turn 1000 1000) 0, .loop 0 (.nextCommand 1000) 0,
     .start 0]

/-- The first read can be rejected with the given error, after which the test holds. -/
def rejectsRead (error : Failure) (test : DeviceHandler → Bool) (p : DeviceHandler) : Bool :=
  p.server.phase = .polling && p.awaited 0 = some 0 &&
    (p.server.loops[0]?.any fun loop => loop.phase matches .working _ _ _) &&
    (p.step (.session 0 (.writeSettled 0 (.rejected error)))).any test

theorem writeFails_of_rejectsRead {p : DeviceHandler} {error : Failure} {test : DeviceHandler → Bool}
    (rejects : rejectsRead error test p = true) :
    ∃ q loop, WriteFails p q 0 0 0 loop error ∧ test q = true := by
  simp only [rejectsRead, Bool.and_eq_true, decide_eq_true_eq, Option.any_eq_true] at rejects
  obtain ⟨⟨⟨polling, awaited⟩, loop, current, place⟩, q, run, passed⟩ := rejects
  refine ⟨q, loop, ⟨polling, current, ?_, awaited, run⟩, passed⟩
  split at place
  · next cycle task thrown working => exact ⟨cycle, task, thrown, working⟩
  · cases place

theorem disposed_read_recovers : ∃ trace p q loop,
    Reach step (fun _ _ => True) twoStations trace p ∧
      WriteFails p q 0 0 0 loop (.badConnectionError "command_failed: Cannot access a disposed object.") ∧
      q.Recovers 0 loop.address := by
  let error : Failure := .badConnectionError "command_failed: Cannot access a disposed object."
  have run : (firstRead.foldlM step twoStations).any (rejectsRead error fun _ => true) = true := by decide +kernel
  obtain ⟨p, reach, rejects⟩ := Reach.of_foldlM (fun _ _ _ => trivial) run
  obtain ⟨q, loop, fails, _⟩ := writeFails_of_rejectsRead rejects
  exact ⟨_, p, q, loop, reach, fails, (transport_failure_recovered_iff (by decide) reach fails).mpr nofun⟩

/-- A write that Windows denies ends the run of both stations. -/
theorem denied_read_ends_run : ∃ trace p q loop later r,
    Reach step (fun _ _ => True) twoStations trace p ∧
      WriteFails p q 0 0 0 loop (createHelperError HELPER_ERROR_COMMAND_FAILED
        "Failed to write characteristic 0000ff02-0000-1000-8000-00805f9b34fb: AccessDenied.") ∧
      ¬q.Recovers 0 loop.address ∧ Reach step (fun _ _ => True) q later r ∧
      r.server.phase = .settled (.rejected (createHelperError HELPER_ERROR_COMMAND_FAILED
        "Failed to write characteristic 0000ff02-0000-1000-8000-00805f9b34fb: AccessDenied.")) ∧
      r.server.loops.map PollingLoop.phase = [.failed (createHelperError HELPER_ERROR_COMMAND_FAILED
        "Failed to write characteristic 0000ff02-0000-1000-8000-00805f9b34fb: AccessDenied."), .head] := by
  let error := createHelperError HELPER_ERROR_COMMAND_FAILED
    "Failed to write characteristic 0000ff02-0000-1000-8000-00805f9b34fb: AccessDenied."
  let later : List HandlerEvent :=
    [.settle 0 (.rejected error), .finish 0, .loop 0 (.workSettled false (.rejected error) 1100 1100) 0, .server .joined]
  have run : (firstRead.foldlM step twoStations).any (rejectsRead error fun q =>
      q.server.phase = .polling && (later.foldlM step q).any fun r =>
        r.server.phase = .settled (.rejected error) ∧ r.server.loops.map PollingLoop.phase = [.failed error, .head]) =
      true := by
    decide +kernel
  obtain ⟨p, reach, rejects⟩ := Reach.of_foldlM (fun _ _ _ => trivial) run
  obtain ⟨q, loop, fails, passed⟩ := writeFails_of_rejectsRead rejects
  obtain ⟨r, after, found⟩ := Reach.of_foldlM (fun _ _ _ => trivial) (Bool.and_eq_true_iff.mp passed).2
  obtain ⟨settled, phases⟩ := of_decide_eq_true found
  refine ⟨_, p, q, loop, later, r, reach, fails, fun recovers => ?_, after, settled, phases⟩
  have unknown : CommandResult.ofFailure error = none := by decide +kernel
  exact fails.not_recovers (sound_of_reach reach) unknown recovers

end DeviceHandler

end BluettiMqtt
