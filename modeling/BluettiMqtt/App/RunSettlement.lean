import BluettiMqtt.App.ServerSteps

namespace BluettiMqtt
open Promise Transition

/-- The promise of `DeviceHandler.run` has settled, or `run` of the server has
failed before it. -/
def ServerPhase.handlerSettled : ServerPhase → Bool
  | .settled _ => true
  | .disconnecting _ _ => true
  | .mqttStopping _ => true
  | .done _ => true
  | _ => false

/-- The polling loops have not been started. -/
def ServerPhase.beforeLoops : ServerPhase → Bool
  | .polling => false
  | phase => !phase.handlerSettled

theorem ServerPhase.beforeLoops_of_settled {phase : ServerPhase} (settled : phase.handlerSettled = true) :
    phase.beforeLoops = false := by
  cases phase with
  | polling => rfl
  | _ => simp [beforeLoops, settled]

namespace Server

def AllReturned (s : Server) : Prop :=
  ∀ loop ∈ s.loops, loop.phase.isActive = false

/-- An error that no `catch` block classifies reaches a loop only when every
other loop has returned. -/
def FailsLast (s : Server) (event : ServerEvent) : Prop :=
  ∀ index published error now finishedAt,
    event = .loop index (.workSettled published (.rejected error) now finishedAt) →
    CommandResult.ofFailure error = none →
    ∀ other loop, s.loops[other]? = some loop → other ≠ index → loop.phase.isActive = false

/-- The join of the loops is sound: once it has settled, or is about to be
rejected, no loop is active. -/
structure Joined (s : Server) : Prop where
  unstarted : s.phase.beforeLoops = true → s.loops = [] ∧ s.failure = none
  failed : s.failure ≠ none → AllReturned s
  settled : s.phase.handlerSettled = true → AllReturned s

variable {s t : Server}

theorem Joined.of_no_loops (loops : s.loops = []) (failure : s.failure = none) : Joined s where
  unstarted _ := ⟨loops, failure⟩
  failed failed := absurd failure failed
  settled _ := by
    intro loop member
    rw [loops] at member
    cases member

theorem Joined.of_returned (returned : AllReturned s) (settled : s.phase.handlerSettled = true) : Joined s where
  unstarted unstarted := by
    rw [ServerPhase.beforeLoops_of_settled settled] at unstarted
    cases unstarted
  failed _ := returned
  settled _ := returned

/-- A step that leaves the loops alone and moves between settled phases. -/
theorem Joined.of_settled (joined : Joined s) (before : s.phase.handlerSettled = true)
    (after : t.phase.handlerSettled = true) (loops : t.loops = s.loops) : Joined t := by
  have returned : AllReturned t := by
    unfold AllReturned
    rw [loops]
    exact joined.settled before
  exact .of_returned returned after

theorem connectNext_loops (s : Server) (addresses : List String) :
    (s.connectNext addresses).loops = s.loops ∧ (s.connectNext addresses).failure = s.failure := by
  rcases s.connectNext_cases addresses with same | ⟨address, rest, _, same⟩
  · rw [same]
    exact ⟨rfl, rfl⟩
  · rw [same]
    exact ⟨rfl, rfl⟩

theorem connectAllWithRecovery_loops (s : Server) :
    s.connectAllWithRecovery.loops = s.loops ∧ s.connectAllWithRecovery.failure = s.failure := by
  unfold connectAllWithRecovery
  split
  · exact ⟨rfl, rfl⟩
  · exact connectNext_loops _ _

theorem disconnectNext_settled (s : Server) (outcome : Settlement Failure Unit) :
    (s.disconnectNext outcome).phase.handlerSettled = true ∧ (s.disconnectNext outcome).loops = s.loops ∧
      (s.disconnectNext outcome).operations = s.operations := by
  rcases s.disconnectNext_cases outcome with ⟨_, same⟩ | ⟨address, session, _, same⟩
  · rw [same]
    exact ⟨rfl, rfl, rfl⟩
  · rw [same]
    exact ⟨rfl, rfl, rfl⟩

/-- A loop that takes a step has not returned, so the join is still open. -/
theorem Joined.open_of_active (joined : Joined s) {index : Nat} {loop : PollingLoop}
    (current : s.loops[index]? = some loop) (active : loop.phase.isActive = true) :
    s.failure = none ∧ s.phase.handlerSettled = false ∧ s.phase.beforeLoops = false := by
  have member := List.mem_of_getElem? current
  have running : ¬AllReturned s := fun returned => by
    rw [returned loop member] at active
    cases active
  refine ⟨?_, ?_, ?_⟩
  · by_contra failed
    exact running (joined.failed failed)
  · rw [← Bool.not_eq_true]
    exact fun settled => running (joined.settled settled)
  · rw [← Bool.not_eq_true]
    intro unstarted
    rw [(joined.unstarted unstarted).1] at member
    cases member

/-- Only a started run that has not settled has active loops. -/
theorem polling_of_active (unstarted : s.phase.beforeLoops = true → s.loops = [])
    (settled : s.phase.handlerSettled = true → AllReturned s) {index : Nat} {loop : PollingLoop}
    (current : s.loops[index]? = some loop) (active : loop.phase.isActive = true) : s.phase = .polling := by
  have member := List.mem_of_getElem? current
  have running : s.phase.handlerSettled = false := by
    rw [← Bool.not_eq_true]
    intro finished
    rw [settled finished loop member] at active
    cases active
  have started : s.phase.beforeLoops = false := by
    rw [← Bool.not_eq_true]
    intro early
    rw [unstarted early] at member
    cases member
  cases place : s.phase with
  | polling => rfl
  | _ =>
    rw [place] at running started
    simp [ServerPhase.beforeLoops, running] at started

theorem Joined.polling_of_active (joined : Joined s) {index : Nat} {loop : PollingLoop}
    (current : s.loops[index]? = some loop) (active : loop.phase.isActive = true) : s.phase = .polling :=
  Server.polling_of_active (fun unstarted => (joined.unstarted unstarted).1) joined.settled current active

theorem Joined.of_open (failure : t.failure = none) (unsettled : t.phase.handlerSettled = false)
    (started : t.phase.beforeLoops = false) : Joined t where
  unstarted unstarted := by rw [started] at unstarted; cases unstarted
  failed failed := absurd failure failed
  settled settled := by rw [unsettled] at settled; cases settled

theorem failLoop_returned {index : Nat} {loop : PollingLoop} {error : Failure}
    (others : ∀ other loop, s.loops[other]? = some loop → other ≠ index → loop.phase.isActive = false) :
    AllReturned (s.failLoop index loop error) := by
  intro one member
  obtain ⟨place, found⟩ := List.mem_iff_getElem?.mp member
  simp only [failLoop, setLoop] at found
  by_cases here : place = index
  · subst here
    rw [List.getElem?_set_self'] at found
    obtain ⟨_, _, rfl⟩ := Option.map_eq_some_iff.mp found
    rfl
  · rw [List.getElem?_set_ne (Ne.symm here)] at found
    exact others place one found here

theorem Joined.loop {index : Nat} {loop : PollingLoop} {event : LoopEvent} (joined : Joined s)
    (allowed : FailsLast s (.loop index event)) (current : s.loops[index]? = some loop)
    (active : loop.phase.isActive = true) (effect : LoopEffect s index loop event t) : Joined t := by
  obtain ⟨unfailed, unsettled, started⟩ := joined.open_of_active current active
  have samePhase : t.phase = s.phase := effect.frame.2.1
  rw [← samePhase] at unsettled started
  cases effect with
  | failed error published now finishedAt before cause unclassified accounts =>
    have others := allowed index published error now finishedAt (by rw [cause]) unclassified
    have returned : AllReturned t := by
      unfold AllReturned
      rw [accounts.loops]
      exact failLoop_returned others
    exact ⟨fun unstarted => (by rw [started] at unstarted; cases unstarted), fun _ => returned,
      fun _ => returned⟩
  | moved _ _ _ _ accounts => exact .of_open (accounts.failure.trans unfailed) unsettled started
  | released _ _ _ accounts => exact .of_open (accounts.failure.trans unfailed) unsettled started
  | opened _ _ accounts => exact .of_open (accounts.failure.trans unfailed) unsettled started
  | swapped _ accounts => exact .of_open (accounts.failure.trans unfailed) unsettled started
  | replaced _ _ _ accounts => exact .of_open (accounts.failure.trans unfailed) unsettled started
  | unreplaced _ _ accounts => exact .of_open (accounts.failure.trans unfailed) unsettled started

theorem PhaseMove.settling {event : ServerEvent} {before after : ServerPhase} (move : PhaseMove before event after) :
    before.beforeLoops = true ∨ before.handlerSettled = true ∧ after.handlerSettled = true := by
  cases move with
  | mqttStopped => exact Or.inr ⟨rfl, rfl⟩
  | _ => exact Or.inl rfl

theorem Joined.step {event : ServerEvent} (joined : Joined s) (allowed : FailsLast s event)
    (run : s.step event = some t) : Joined t := by
  cases step_effect run with
  | moved phase move =>
    rcases move.settling with unstarted | ⟨before, after⟩
    · obtain ⟨loops, failure⟩ := joined.unstarted unstarted
      exact .of_no_loops loops failure
    · exact joined.of_settled before after rfl
  | entered place =>
    obtain ⟨loops, failure⟩ := joined.unstarted (by rw [place]; rfl)
    have kept := connectAllWithRecovery_loops { s with stopRequested := false }
    exact .of_no_loops (kept.1.trans loops) (kept.2.trans failure)
  | initialized address rest transport place result =>
    obtain ⟨loops, failure⟩ := joined.unstarted (by rw [place]; rfl)
    cases result with
    | fulfilled name =>
      have kept := connectNext_loops { s with sessions := s.sessions.set address ⟨transport, name⟩ } rest
      exact .of_no_loops (kept.1.trans loops) (kept.2.trans failure)
    | rejected error => exact .of_no_loops loops failure
  | connectAllReturned result place phase after accounts =>
    obtain ⟨loops, failure⟩ := joined.unstarted (by rw [place]; rfl)
    exact .of_no_loops (accounts.loops.trans loops) (accounts.failure.trans failure)
  | retried place =>
    obtain ⟨loops, failure⟩ := joined.unstarted (by rw [place]; rfl)
    have kept := connectAllWithRecovery_loops s
    exact .of_no_loops (kept.1.trans loops) (kept.2.trans failure)
  | started place => exact .of_open (joined.unstarted (by rw [place]; rfl)).2 rfl rfl
  | loop index event loop current active effect => exact joined.loop allowed current active effect
  | joined place outcome cause => exact .of_returned (cause.elim joined.failed id) rfl
  | cleanup outcome place =>
    obtain ⟨after, loops, _⟩ := s.disconnectNext_settled outcome
    exact joined.of_settled (by rw [place]; rfl) after loops
  | disconnected result outcome address place =>
    obtain ⟨after, loops, _⟩ :=
      disconnectNext_settled { s with sessions := s.sessions.delete address } outcome
    exact joined.of_settled (by rw [place]; rfl) after loops
  | commandWritten => exact ⟨joined.unstarted, joined.failed, joined.settled⟩
  | stop => exact ⟨joined.unstarted, joined.failed, joined.settled⟩

theorem joined_of_reach {addresses : List String} {runOnce : Bool} {options : PollingOptions}
    {trace : List ServerEvent} (reach : Reach Server.step FailsLast (create addresses runOnce options) trace s) :
    Joined s :=
  reach.invariant (P := Joined) (.of_no_loops rfl rfl) fun _ _ _ joined allowed run => joined.step allowed run

/-- Once `DeviceHandler.run` has settled it stays settled, and only a loop that is
still active does anything. -/
theorem step_settled {event : ServerEvent} (run : s.step event = some t) (settled : s.phase.handlerSettled = true) :
    t.phase.handlerSettled = true ∧ (t.loops = s.loops ∧ t.operations = s.operations ∨
      ∃ loop ∈ s.loops, loop.phase.isActive = true) := by
  have impossible (phase : ServerPhase) (place : s.phase = phase) (unsettled : phase.handlerSettled = false) :
      False := by
    rw [place, unsettled] at settled
    cases settled
  cases step_effect run with
  | moved phase move =>
    rcases move.settling with unstarted | ⟨_, after⟩
    · rw [ServerPhase.beforeLoops_of_settled settled] at unstarted
      cases unstarted
    · exact ⟨after, Or.inl ⟨rfl, rfl⟩⟩
  | entered place => exact (impossible _ place rfl).elim
  | initialized _ _ _ place => exact (impossible _ place rfl).elim
  | connectAllReturned _ place => exact (impossible _ place rfl).elim
  | retried place => exact (impossible _ place rfl).elim
  | started place => exact (impossible _ place rfl).elim
  | loop index event loop current active effect =>
    refine ⟨?_, Or.inr ⟨loop, List.mem_of_getElem? current, active⟩⟩
    rw [effect.frame.2.1]
    exact settled
  | joined place => exact (impossible _ place rfl).elim
  | cleanup outcome place =>
    obtain ⟨after, loops, operations⟩ := s.disconnectNext_settled outcome
    exact ⟨after, Or.inl ⟨loops, operations⟩⟩
  | disconnected result outcome address place =>
    obtain ⟨after, loops, operations⟩ :=
      disconnectNext_settled { s with sessions := s.sessions.delete address } outcome
    exact ⟨after, Or.inl ⟨loops, operations⟩⟩
  | commandWritten => exact ⟨settled, Or.inl ⟨rfl, rfl⟩⟩
  | stop => exact ⟨settled, Or.inl ⟨rfl, rfl⟩⟩

/-- `DeviceHandler.run` has settled and no loop is active. -/
structure Finished (s : Server) : Prop where
  settled : s.phase.handlerSettled = true
  returned : AllReturned s

/-- Nothing is read, selected or reconnected any more. -/
theorem Finished.step {event : ServerEvent} (finished : Finished s) (run : s.step event = some t) :
    Finished t ∧ t.loops = s.loops ∧ t.operations = s.operations := by
  obtain ⟨after, ⟨loops, operations⟩ | ⟨loop, member, active⟩⟩ := step_settled run finished.settled
  · exact ⟨⟨after, fun loop member => finished.returned loop (loops ▸ member)⟩, loops, operations⟩
  · rw [finished.returned loop member] at active
    cases active

theorem Finished.reach {guard : Server → ServerEvent → Prop} {trace : List ServerEvent} (finished : Finished s)
    (reach : Reach Server.step guard s trace t) :
    Finished t ∧ t.loops = s.loops ∧ t.operations = s.operations := by
  induction reach with
  | start => exact ⟨finished, rfl, rfl⟩
  | next _ _ run ih =>
    obtain ⟨still, loops, operations⟩ := ih.1.step run
    exact ⟨still, loops.trans ih.2.1, operations.trans ih.2.2⟩

end Server

end BluettiMqtt
