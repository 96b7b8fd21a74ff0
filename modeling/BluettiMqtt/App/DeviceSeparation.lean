import BluettiMqtt.App.LostSession

namespace BluettiMqtt
open Promise Transition

namespace DeviceHandler

variable {h t : DeviceHandler} {event : HandlerEvent} {index cycles : Nat} {loop : PollingLoop}
  {managed : ManagedSession}

/-- The steps taken for one device. -/
def Concerns (h : DeviceHandler) (address : String) : HandlerEvent → Prop
  | .server _ => False
  | .loop index _ _ => ∃ loop : PollingLoop, h.server.loops[index]? = some loop ∧ loop.address = address
  | .handleCommand _ other _ => other = address
  | .start work => ∃ record, h.queue.works work = some record ∧ record.address = address
  | .settle work _ => ∃ record, h.queue.works work = some record ∧ record.address = address
  | .finish work => ∃ record, h.queue.works work = some record ∧ record.address = address
  | .session transport _ => (h.sessions transport).address = address

/-- The step leaves the loops, sessions, works and schedules of the other
devices as they are, and the run too. -/
structure Spares (h t : DeviceHandler) (address : String) : Prop where
  loops : ∀ (index : Nat) (loop : PollingLoop), h.server.loops[index]? = some loop → loop.address ≠ address →
    t.server.loops[index]? = some loop
  stored : ∀ other, other ≠ address → t.server.sessions.get? other = h.server.sessions.get? other
  sessions : ∀ other managed, other ≠ address → h.server.sessions.get? other = some managed →
    t.sessions managed.transport = h.sessions managed.transport
  works : ∀ work record, h.queue.works work = some record → record.address ≠ address →
    t.queue.works work = some record
  schedule : ∀ other, other ≠ address → t.server.pollingState other = h.server.pollingState other
  phase : t.server.phase = h.server.phase
  stopRequested : t.server.stopRequested = h.server.stopRequested
  failure : t.server.failure = h.server.failure

theorem Served.apart (served : h.Served) {address other : String} (different : other ≠ address) {transport : Nat}
    (here : (h.sessions transport).address = address) (stored : h.server.sessions.get? other = some managed) :
    managed.transport ≠ transport := by
  rintro rfl
  exact different ((served.stored other managed stored).1.address.symm.trans here)

/-- A step after which the server is the same, its telemetry apart. -/
theorem Spares.of_server {address : String} {telemetry : Table String DeviceTelemetry}
    (server : t.server = { h.server with telemetry := telemetry })
    (sessions : ∀ other managed, other ≠ address → h.server.sessions.get? other = some managed →
      t.sessions managed.transport = h.sessions managed.transport)
    (works : ∀ work record, h.queue.works work = some record → record.address ≠ address →
      t.queue.works work = some record) : Spares h t address where
  loops _ _ current _ := by rwa [server]
  stored _ _ := by rw [server]
  sessions := sessions
  works := works
  schedule _ _ := by rw [server]
  phase := by rw [server]
  stopRequested := by rw [server]
  failure := by rw [server]

/-- A step of the loop of the device. -/
theorem Spares.of_arrives {begun : Nat} {phase : LoopPhase} {calls : List ServerOperation} {server : Server}
    (current : h.server.loops[index]? = some loop)
    (arrives : Server.Arrives h.server index loop phase calls begun server) (server_ : t.server = server)
    (unfailed : ∀ error, phase ≠ .failed error)
    (sessions : ∀ other managed, other ≠ loop.address → h.server.sessions.get? other = some managed →
      t.sessions managed.transport = h.sessions managed.transport)
    (works : ∀ work record, h.queue.works work = some record → record.address ≠ loop.address →
      t.queue.works work = some record) : Spares h t loop.address where
  loops other found at_ different := by
    have apart : index ≠ other := by
      rintro rfl
      cases current.symm.trans at_
      exact different rfl
    rw [server_, arrives.loops, List.getElem?_set_ne apart]
    exact at_
  stored other different := by
    rw [server_]
    exact arrives.frame.sessions other different
  sessions := sessions
  works := works
  schedule other different := by
    rw [server_]
    exact arrives.frame.pollingState other different
  phase := by
    rw [server_]
    exact arrives.frame.phase
  stopRequested := by
    rw [server_]
    exact arrives.frame.stopRequested
  failure := by
    rw [server_]
    exact arrives.failure unfailed

theorem insert_elsewhere {works : Table Nat (Work Failure Unit)} {work : Nat} {record later : Work Failure Unit}
    {address : String} (entry : works work = some record) (here : record.address = address) (other : Nat)
    (found : Work Failure Unit) (at_ : works other = some found) (different : found.address ≠ address) :
    works.insert work later other = some found := by
  refine (Table.insert_of_ne _ _ ?_).trans at_
  rintro rfl
  cases entry.symm.trans at_
  exact different here

theorem Starts.elsewhere {began : DeviceHandler} {work : Nat} {source : WorkSource} {record : Work Failure Unit}
    (starts : Starts h began work source record) (served : h.Served) (request : Except Failure DeviceCommand) :
    (∀ other managed, other ≠ record.address → h.server.sessions.get? other = some managed →
      (began.begin work source record.address request).sessions managed.transport = h.sessions managed.transport) ∧
    ∀ other found, h.queue.works other = some found → found.address ≠ record.address →
      (began.begin work source record.address request).queue.works other = some found := by
  refine ⟨fun other managed different stored => ?_, fun other found at_ different => ?_⟩
  · rcases began.begin_cases work source record.address request with ⟨error, same, _⟩ | ⟨command, own, _, at_, same⟩
    · rw [same]
      exact congrFun starts.sessions managed.transport
    · rw [same]
      rw [starts.stored] at at_
      have apart := served.apart different (served.stored _ _ at_).1.address stored
      exact (Function.update_of_ne apart _ _).trans (congrFun starts.sessions managed.transport)
  · rw [begin_queue, starts.queue, begin_works starts.record_at]
    exact insert_elsewhere starts.record_at rfl other found at_ different

theorem LoopMove.failed {s : Server} {before : LoopPhase} {e : LoopEvent} {calls : List ServerOperation} {begun : Nat}
    {error : Failure} (move : Server.LoopMove s loop before e (.failed error) calls begun) :
    ∃ published now finishedAt, e = .workSettled published (.rejected error) now finishedAt ∧
      (∃ cycle task thrown, before = .working cycle task thrown) ∧ CommandResult.ofFailure error = none := by
  have loses {made : List ServerOperation} (move : Server.Loses s loop (.failed error) made) : False := by
    cases move with
    | reconnects _ move => cases move
  have packs {cycle : PollingCycle} {pack : Nat} (move : Server.PackMove loop cycle pack (.failed error)) : False := by
    cases move
  have sets {cycle : PollingCycle} {set : CommandSet} {result : CommandResult} {made : List ServerOperation}
      (move : Server.SetMove s loop cycle set result (.failed error) made) : False := by
    cases move with
    | lost move => exact loses move
    | packs _ _ move => exact packs move
    | next _ _ _ move => exact packs move
  cases move with
  | beginsEmpty _ _ _ _ _ move => exact (sets move).elim
  | cuts _ _ move => exact (sets move).elim
  | fails published _ now finishedAt unclassified => exact ⟨published, now, finishedAt, rfl, ⟨_, _, _, rfl⟩, unclassified⟩
  | returned _ _ _ _ _ _ _ _ _ _ move => exact (sets move).elim
  | skipped _ _ _ _ _ move => exact (packs move).elim
  | lost _ _ _ _ _ move => exact (loses move).elim
  | retries move => cases move

/-- What is done for a device that has lost its session does not touch the others. -/
theorem Breaking.spares (breaking : h.Breaking index cycles loop managed) (sound : h.Sound)
    (proper : Server.Proper h.server false) (effect : Effect h event t) (concerns : h.Concerns loop.address event) :
    Spares h t loop.address := by
  cases effect with
  | stopped => exact concerns.elim
  | entered => exact concerns.elim
  | @moved own work e before server phase calls begun _ found allowed run move arrives advanced =>
    obtain ⟨other, at_, here⟩ := concerns
    cases found.symm.trans at_
    cases address_injective proper.distinct breaking.current found here.symm
    cases breaking.current.symm.trans found
    have opens := Server.loopStep_opens found run arrives.loops
    refine .of_arrives found arrives (advanced_frame advanced).1 ?_ ?_ ?_
    · rintro error rfl
      obtain ⟨published, now, finishedAt, rfl, ⟨cycle, task, thrown, place⟩, unclassified⟩ := LoopMove.failed move
      obtain ⟨_, _, failure, doomed, known, _⟩ := breaking.doomed cycle task thrown place
      cases doomed.outcome sound (of_decide_eq_true allowed)
      exact known unclassified
    · intro other held different stored
      cases phase with
      | queued cycle task =>
        obtain ⟨queue, _, rfl⟩ := Option.map_eq_some_iff.mp advanced
        rfl
      | replacing opened =>
        cases advanced
        have fresh := (opens.replacing opened rfl).1
        exact Function.update_of_ne (fresh ▸ Nat.ne_of_lt (sound.served.stored other held stored).1.known) _ _
      | releasing =>
        simp only [DeviceHandler.advanced, breaking.stored] at advanced
        cases advanced
        exact Function.update_of_ne
          (sound.served.apart different (sound.served.stored _ _ breaking.stored).1.address stored) _ _
      | _ =>
        cases advanced
        rfl
    · intro other record at_ different
      rcases advanced_cases advanced with ⟨cycle, task, _, fresh, rfl⟩ | ⟨_, sessions, rfl⟩
      · exact (DeviceWorkQueue.enqueue_old (DeviceWorkQueue.known_ne fresh at_)).trans at_
      · exact at_
  | called fresh =>
    exact .of_server rfl (fun _ _ _ _ => rfl) fun _ _ at_ _ =>
      (DeviceWorkQueue.enqueue_old (DeviceWorkQueue.known_ne fresh at_)).trans at_
  | @commandStarted work record command progress telemetry record_at entry waiting ready =>
    obtain ⟨found, at_, here⟩ := concerns
    cases record_at.symm.trans at_
    have starts := Starts.ofCommand record_at entry waiting ready telemetry
    obtain ⟨sessions, works⟩ := starts.elsewhere sound.served (.ok command)
    rw [← here]
    exact .of_server (begin_server _ _ _ _ _) sessions works
  | @loopStarted work own record task queued progress before cycle record_at entry waiting ready found place =>
    obtain ⟨record_, at_, here⟩ := concerns
    cases record_at.symm.trans at_
    obtain ⟨rfl, awaits, same⟩ := sound.placed.turn sound.booked record_at entry waiting found place
    cases address_injective proper.distinct breaking.current found (here.symm.trans same)
    cases breaking.current.symm.trans found
    have arrives := h.server.startWork_arrives index loop cycle queued
    have starts := Starts.ofLoop record_at entry waiting ready found cycle queued
    obtain ⟨sessions, works⟩ := starts.elsewhere sound.served (h.server.request loop queued)
    rw [here] at sessions works
    exact .of_arrives found arrives (begin_server _ _ _ _ _) (by rintro _ ⟨⟩) (here ▸ sessions) (here ▸ works)
  | @settled work record entry outcome record_at running entry_at allowed =>
    obtain ⟨found, at_, here⟩ := concerns
    cases record_at.symm.trans at_
    refine .of_server rfl (fun _ _ _ _ => rfl) fun other found at_ different => ?_
    change (h.queue.workEnded work outcome).works other = some found
    rw [workEnded_works record_at]
    exact insert_elsewhere record_at here other found at_ different
  | @finished work record outcome record_at finishing =>
    obtain ⟨found, at_, here⟩ := concerns
    cases record_at.symm.trans at_
    exact .of_server rfl (fun _ _ _ _ => rfl) fun other found at_ different =>
      insert_elsewhere record_at here other found at_ different
  | session outer run =>
    exact .of_server rfl (fun other held different stored =>
      Function.update_of_ne (sound.served.apart different concerns stored) _ _) fun _ _ at_ _ => at_

end DeviceHandler

end BluettiMqtt
