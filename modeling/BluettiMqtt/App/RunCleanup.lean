import BluettiMqtt.App.TransportOwnership

namespace BluettiMqtt
open Promise Transition

namespace Server

variable {s t : Server} {addresses : List String} {runOnce : Bool} {options : PollingOptions}
  {trace : List ServerEvent}

theorem owned_of_reach (reach : Reach Server.step FailsLast (create addresses runOnce options) trace s)
    (distinct : addresses.Nodup) : Joined s ∧ Owned s := by
  apply reach.invariant (P := fun s => Joined s ∧ Owned s)
  · exact ⟨.of_no_loops rfl rfl, .create distinct⟩
  · intro s event t invariant allowed run
    obtain ⟨joined, owned⟩ := invariant
    exact ⟨joined.step allowed run, owned.step (fun unstarted => (joined.unstarted unstarted).1) joined.settled
      (fun _ failed => joined.failed failed) run⟩

/-- At the end of the run nobody is left to own a transport. -/
theorem Owned.released {outcome : Settlement Failure Unit} (owned : Owned s) (joined : Joined s)
    (done : s.phase = .done outcome) (transport : Nat) (status : TransportStatus)
    (entry : s.transports transport = some status) : status = .released := by
  cases status with
  | released => rfl
  | connected =>
    have empty : s.sessions.entries = [] := owned.vacated (by rw [done]; rfl)
    have returned : AllReturned s := joined.settled (by rw [done]; rfl)
    cases owned.owned transport entry with
    | session address session current holds =>
      have member := OrderedMap.get?_eq_some.mp current
      rw [empty] at member
      cases member
    | connecting address rest place =>
      rw [done] at place
      cases place
    | loop loop member place =>
      have inactive := returned loop member
      rw [place] at inactive
      cases inactive

/-- An unclassified error that reaches one of two active loops settles
`DeviceHandler.run` while the other is active. -/
theorem early_failure_escapes {index other : Nat} {loop : PollingLoop} {error : Failure}
    {published : Bool} {now finishedAt : ℚ} (joined : Joined s)
    (run : s.step (.loop index (.workSettled published (.rejected error) now finishedAt)) = some t)
    (unclassified : CommandResult.ofFailure error = none) (apart : other ≠ index)
    (running : s.loops[other]? = some loop) (active : loop.phase.isActive = true) :
    ∃ u, t.step .joined = some u ∧ u.phase.handlerSettled = true ∧ ¬AllReturned u := by
  have place := joined.polling_of_active running active
  have unfailed := (joined.open_of_active running active).1
  have failed : t.phase = .polling ∧ t.failure = some error ∧ t.loops[other]? = s.loops[other]? := by
    simp only [Server.step] at run
    split at run
    · simp only [loopStep] at run
      split at run
      · obtain ⟨_, run⟩ := Option.ite_none_right_eq_some.mp run
        cases run
        unfold workSettled
        split
        · simp [classify, unclassified, readReturned, failLoop, setLoop, setTelemetry, place, unfailed, apart.symm]
        · simp [classify, unclassified, selectReturned, failLoop, setLoop, place, unfailed, apart.symm]
      · cases run
    · cases run
  obtain ⟨polling, failure, same⟩ := failed
  refine ⟨{ t with phase := .settled (.rejected error) }, ?_, rfl, fun returned => ?_⟩
  · simp only [Server.step, if_pos polling, Server.joined, failure]
  · rw [returned loop (List.mem_of_getElem? (same.trans running))] at active
    cases active

/-- Nothing outlives the run as long as an unclassified error reaches a loop
only after the others have returned: once `DeviceHandler.run` has settled no
loop is active, and nothing is read, selected or reconnected later. At the end
every transport has been disconnected, if no address is configured twice. Any
other unclassified error settles the run before its loops. -/
theorem settled_run_is_final (reach : Reach Server.step FailsLast (create addresses runOnce options) trace s) :
    (s.phase.handlerSettled = true →
      AllReturned s ∧
        (∀ later t, Reach Server.step (fun _ _ => True) s later t →
          AllReturned t ∧ t.operations = s.operations) ∧
        (addresses.Nodup → ∀ outcome, s.phase = .done outcome → ∀ transport status,
          s.transports transport = some status → status = .released)) ∧
      ∀ event t, s.step event = some t → ¬FailsLast s event →
        ∃ u, t.step .joined = some u ∧ u.phase.handlerSettled = true ∧ ¬AllReturned u := by
  have joined : Joined s := joined_of_reach reach
  refine ⟨fun settled => ?_, fun event t run early => ?_⟩
  · have returned : AllReturned s := joined.settled settled
    have finished : Finished s := ⟨settled, returned⟩
    refine ⟨returned, fun later t more => ?_, fun distinct outcome done => ?_⟩
    · obtain ⟨still, _, operations⟩ := finished.reach more
      exact ⟨still.returned, operations⟩
    · exact (owned_of_reach reach distinct).2.released joined done
  · simp only [FailsLast, not_forall] at early
    obtain ⟨index, published, error, now, finishedAt, same, unclassified, other, loop, running, apart, active⟩ :=
      early
    rw [same] at run
    exact early_failure_escapes joined run unclassified apart running (by simpa using active)

def twoStations : Server :=
  create ["24:4C:AB:2C:24:8E", "24:4C:AB:2C:24:8F"] false DEFAULT_POLLING_OPTIONS

/-- Both stations are connected and their loops read. -/
def bothReading : List ServerEvent :=
  [.mqttConnected (.fulfilled ()), .mqttSubscribed (.fulfilled ()), .startPolling,
   .initialized (.fulfilled "AC602237000003358"), .initialized (.fulfilled "AC602237000003359"),
   .connectAllReturned, .startLoops, .loop 0 (.turn 1000 1000), .loop 1 (.turn 1000 1000),
   .loop 0 (.nextCommand 1000), .loop 0 .workStarted, .loop 1 (.nextCommand 1000), .loop 1 .workStarted]

theorem settled_run_is_final_stopped : ∃ trace s,
    Reach Server.step FailsLast twoStations trace s ∧ s.phase = .done (.fulfilled ()) ∧
      s.transports 0 = some .released ∧ AllReturned s ∧
      (∀ later t, Reach Server.step (fun _ _ => True) s later t →
        AllReturned t ∧ t.operations = s.operations) ∧
      ∀ transport status, s.transports transport = some status → status = .released := by
  let clock : CycleClock := ⟨1200, 1200, 1200, 1200, 1200⟩
  let trace : List ServerEvent := bothReading ++
    [.stop, .loop 0 (.workSettled true (.fulfilled ()) 1100 1100), .loop 0 (.cycleEnded clock),
     .loop 1 (.workSettled true (.fulfilled ()) 1100 1100), .loop 1 (.cycleEnded clock), .joined, .cleanup,
     .disconnected (.fulfilled ()), .disconnected (.fulfilled ()), .mqttStopped]
  have run : (trace.foldlM Server.step twoStations).any (fun s =>
      s.phase = .done (.fulfilled ()) ∧ s.transports 0 = some .released) = true := by
    decide +kernel
  have classified : ∀ event ∈ trace, ∀ s, FailsLast s event := by
    rintro event member s index published error now finishedAt rfl
    simp [trace, bothReading] at member
  obtain ⟨s, reach, found⟩ := Reach.of_foldlM classified run
  obtain ⟨done, released⟩ := of_decide_eq_true found
  obtain ⟨returned, later, transports⟩ := (settled_run_is_final reach).1 (by rw [done]; rfl)
  exact ⟨trace, s, reach, done, released, returned, later, transports (by decide) _ done⟩

/-- A read of the first station fails with an error that no `catch` block
classifies while the second reconnects. The run is over and cleaned up, the
replacement is connected after that, and the second loop reads on. -/
theorem loop_outlives_run : ∃ trace s later t error,
    Reach Server.step (fun _ _ => True) twoStations trace s ∧ s.phase = .done (.rejected error) ∧
      ¬AllReturned s ∧ s.transports 2 = some .connected ∧
      Reach Server.step (fun _ _ => True) s later t ∧ t.transports 2 = some .connected ∧
      t.operations =
        s.operations ++ [.perform "24:4C:AB:2C:24:8F" (.readHoldingRegisters (.of 100 62))] := by
  let error : Failure := .error "command_failed: Access is denied."
  let trace : List ServerEvent := bothReading ++
    [.loop 1 (.workSettled false (.rejected (.badConnectionError "Bluetooth session is not ready")) 1100 1100),
     .loop 1 (.oldReleased (.fulfilled ())), .loop 0 (.workSettled false (.rejected error) 1100 1100), .joined,
     .cleanup, .disconnected (.fulfilled ()), .mqttStopped]
  let later : List ServerEvent :=
    [.loop 1 (.replaced (.fulfilled "AC602237000003359") 2000), .loop 1 (.turn 60000 60000),
     .loop 1 (.nextCommand 60000), .loop 1 .workStarted]
  have run : (trace.foldlM Server.step twoStations).any (fun s =>
      s.phase = .done (.rejected error) ∧ (s.loops.all fun loop => !loop.phase.isActive) = false ∧
        s.transports 2 = some .connected ∧
        (later.foldlM Server.step s).any (fun t => t.transports 2 = some .connected ∧ t.operations =
          s.operations ++ [.perform "24:4C:AB:2C:24:8F" (.readHoldingRegisters (.of 100 62))])) = true := by
    decide +kernel
  obtain ⟨s, reach, found⟩ := Reach.of_foldlM (fun _ _ _ => trivial) run
  obtain ⟨done, active, connected, goesOn⟩ := of_decide_eq_true found
  obtain ⟨t, more, found⟩ := Reach.of_foldlM (fun _ _ _ => trivial) goesOn
  obtain ⟨still, operations⟩ := of_decide_eq_true found
  have outlives : ¬AllReturned s := fun returned => by
    have all : (s.loops.all fun loop => !loop.phase.isActive) = true := by simpa [AllReturned] using returned
    rw [active] at all
    cases all
  exact ⟨trace, s, later, t, error, reach, done, outlives, connected, more, still, operations⟩

end Server

end BluettiMqtt
