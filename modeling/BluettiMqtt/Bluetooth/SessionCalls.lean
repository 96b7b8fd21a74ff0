import BluettiMqtt.Bluetooth.SessionOrderly
import BluettiMqtt.Bluetooth.SessionTransport

namespace BluettiMqtt
open Promise

def PerformPhase.isSettled : PerformPhase → Bool
  | .settled _ => true
  | .writing => false
  | .awaitingResponse => false

/-- What may become of a call of `perform`: once it has settled it stays as it is. -/
inductive PhaseKept : Option PerformPhase → Option PerformPhase → Prop
  | same (phase : Option PerformPhase) : PhaseKept phase phase
  | moved {before : PerformPhase} (after : PerformPhase) (outstanding : before.isSettled = false) :
      PhaseKept (some before) (some after)

theorem PhaseKept.settled {before after : Option PerformPhase} (kept : PhaseKept before after)
    {outcome : Settlement Failure (List Byte)} (settled : before = some (.settled outcome)) :
    after = some (.settled outcome) := by
  cases kept with
  | same => exact settled
  | moved after outstanding =>
    cases settled
    cases outstanding

theorem PhaseKept.outstanding {before after : Option PerformPhase} (kept : PhaseKept before after)
    {phase : PerformPhase} (at_ : after = some phase) (open_ : phase.isSettled = false) :
    ∃ old, before = some old ∧ old.isSettled = false := by
  cases kept with
  | same => exact ⟨phase, at_, open_⟩
  | moved after outstanding => exact ⟨_, rfl, outstanding⟩

theorem PhaseKept.known {before after : Option PerformPhase} (kept : PhaseKept before after) :
    before = none ↔ after = none := by
  cases kept with
  | same => rfl
  | moved after outstanding => exact ⟨nofun, nofun⟩

theorem PerformCall.isSettled_eq (call : PerformCall) : call.isSettled = call.phase.isSettled := by
  unfold PerformCall.isSettled
  cases call.phase <;> rfl

namespace DeviceSession

variable {s t : DeviceSession}

theorem phaseOf_adjust (key : Option CallId) (f : PerformCall → PerformCall)
    (performs : t.performs = s.performs.adjust key f) (phase : ∀ record, (f record).phase = record.phase)
    (call : CallId) : t.phaseOf call = s.phaseOf call := by
  unfold phaseOf
  rw [performs, Table.adjust]
  split
  · cases s.performs call with
    | none => rfl
    | some record => exact congrArg some (phase record)
  · rfl

theorem clearTimeout_phaseOf (s : DeviceSession) (timeout : Option CallId) (call : CallId) :
    (s.clearTimeout timeout).phaseOf call = s.phaseOf call :=
  phaseOf_adjust timeout (fun record => { record with timerArmed := false }) rfl (fun _ => rfl) call

theorem clearPendingState_phaseOf (s : DeviceSession) (call : CallId) :
    s.clearPendingState.phaseOf call = s.phaseOf call :=
  s.clearTimeout_phaseOf s.pendingTimeout call

theorem settleResponse_phaseOf (s : DeviceSession) (outcome : Settlement Failure (List Byte)) (call : CallId) :
    (s.settleResponse outcome).phaseOf call = s.phaseOf call :=
  phaseOf_adjust s.pendingResponse (fun record => { record with settlements := record.settlements ++ [outcome] }) rfl
    (fun _ => rfl) call

theorem concluded_phaseOf (s : DeviceSession) (outcome : Settlement Failure (List Byte))
    (state : DeviceSessionState) (call : CallId) : (s.concluded outcome state).phaseOf call = s.phaseOf call :=
  ((s.settleResponse outcome).clearPendingState_phaseOf call).trans (s.settleResponse_phaseOf outcome call)

theorem setPhase_phaseOf (s : DeviceSession) (call other : CallId) (phase : PerformPhase) :
    (s.setPhase call phase).phaseOf other =
      if call = other then (s.phaseOf other).map fun _ => phase else s.phaseOf other := by
  unfold phaseOf setPhase Table.adjust
  by_cases here : call = other
  · simp only [here, if_true, Option.map_map]
    rfl
  · simp only [Option.some.injEq, here, if_false]

theorem setPhase_kept {call : CallId} {before : PerformPhase} (phases : ∀ other, t.phaseOf other = s.phaseOf other)
    (at_ : s.phaseOf call = some before) (outstanding : before.isSettled = false) (after : PerformPhase)
    (other : CallId) : PhaseKept (s.phaseOf other) ((t.setPhase call after).phaseOf other) := by
  rw [setPhase_phaseOf, phases]
  by_cases here : call = other
  · subst here
    rw [if_pos rfl, at_]
    exact .moved after outstanding
  · rw [if_neg here]
    exact .same _

/-- No step but a call of `perform` begins one, and none touches a settled one. -/
theorem step_phaseKept {e : SessionEvent} (unperformed : ∀ call command, e ≠ .perform call command)
    (run : s.step e = some t) (call : CallId) : PhaseKept (s.phaseOf call) (t.phaseOf call) := by
  have kept {u : DeviceSession} (phases : u.phaseOf call = s.phaseOf call) :
      PhaseKept (s.phaseOf call) (u.phaseOf call) := by
    rw [phases]
    exact .same _
  cases step_effect run with
  | started => exact absurd rfl (unperformed _ _)
  | refused => exact absurd rfl (unperformed _ _)
  | wrote writing => exact setPhase_kept (fun _ => rfl) writing rfl _ call
  | writeFailed writing => exact setPhase_kept (s.concluded_phaseOf _ _) writing rfl _ call
  | @finished other outcome awaiting settled =>
    cases outcome with
    | fulfilled response => exact setPhase_kept s.clearPendingState_phaseOf awaiting rfl _ call
    | rejected error => exact setPhase_kept s.clearPendingState_phaseOf awaiting rfl _ call
  | ignored => exact .same _
  | buffered => exact .same _
  | notified => exact kept (s.concluded_phaseOf _ _ call)
  | timedOut => exact kept ((concluded_phaseOf _ _ _ call).trans (s.clearTimeout_phaseOf _ call))
  | disconnected => exact kept (s.clearPendingState_phaseOf call)
  | attemptFailed => exact kept (s.clearPendingState_phaseOf call)
  | subscribed => exact .same _
  | initializing => exact .same _
  | progressed => exact .same _

theorem disconnect_phaseOf (s : DeviceSession) (call other : CallId) :
    (s.disconnect call).phaseOf other = s.phaseOf other :=
  s.clearPendingState_phaseOf other

theorem perform_phaseOf (s : DeviceSession) (call : CallId) (command : DeviceCommand) (other : CallId) :
    (s.perform call command).phaseOf other =
      if other = call then some (if s.isReady then .writing
        else .settled (.rejected (.badConnectionError s!"Device {s.address} is not ready")))
      else s.phaseOf other := by
  unfold DeviceSession.perform phaseOf
  by_cases ready : s.isReady = true
  · by_cases here : other = call <;> simp [ready, here, Table.insert]
  · by_cases here : other = call <;> simp [ready, here, Table.insert]

theorem perform_refused (refuses : s.isReady = false) (call : CallId) (command : DeviceCommand) :
    ∃ message, (s.perform call command).phaseOf call = some (.settled (.rejected (.badConnectionError message))) := by
  refine ⟨s!"Device {s.address} is not ready", ?_⟩
  rw [perform_phaseOf, if_pos rfl, refuses]
  rfl

/-- The session refuses every command, nobody waits in it, and nothing is going
to make it ready again. -/
structure Lost (s : DeviceSession) : Prop where
  refuses : s.isReady = false
  quiet : s.Quiet
  done : s.Over
  orderly : s.Orderly

theorem quiet_iff : s.Quiet ↔ ∀ call phase, s.phaseOf call = some phase → phase.isSettled = true := by
  refine ⟨fun quiet call phase at_ => ?_, fun settled call record entry => ?_⟩
  · obtain ⟨record, entry, rfl⟩ := Option.map_eq_some_iff.mp at_
    exact record.isSettled_eq.symm.trans (quiet call record entry)
  · rw [record.isSettled_eq]
    exact settled call record.phase (by rw [phaseOf, entry]; rfl)

theorem Lost.disconnect (lost : s.Lost) (call : CallId) : (s.disconnect call).Lost where
  refuses := rfl
  quiet := by
    rw [quiet_iff]
    intro other phase at_
    exact quiet_iff.mp lost.quiet other phase ((s.disconnect_phaseOf call other).symm.trans at_)
  done := lost.done
  orderly := by
    have cleared := lost.orderly.cleared
    exact ⟨cleared.single, cleared.timeout, cleared.pending, cleared.armed⟩

theorem Lost.perform (lost : s.Lost) {call : CallId} (fresh : s.performs call = none) (command : DeviceCommand) :
    (s.perform call command).Lost := by
  refine ⟨?_, ?_, ?_, lost.orderly.refused fresh lost.refuses command⟩
  · unfold DeviceSession.perform
    rw [if_neg (by simp [lost.refuses])]
    exact lost.refuses
  · rw [quiet_iff]
    intro other phase at_
    rw [perform_phaseOf, lost.refuses] at at_
    by_cases here : other = call
    · rw [if_pos here] at at_
      cases at_
      rfl
    · rw [if_neg here] at at_
      exact quiet_iff.mp lost.quiet other phase at_
  · unfold DeviceSession.perform
    rw [if_neg (by simp [lost.refuses])]
    exact lost.done

/-- No session that is lost comes back by itself. -/
theorem Lost.step {e : SessionEvent} (lost : s.Lost) (uninitialized : ∀ call, e ≠ .connectAndInitialize call)
    (run : s.step e = some t) : t.Lost := by
  have idle := lost.orderly.pendingResponse_of_quiet lost.quiet
  have settled {call : CallId} {phase : PerformPhase} (at_ : s.phaseOf call = some phase)
      (open_ : phase.isSettled = false) : t.Lost := by
    rw [quiet_iff.mp lost.quiet call phase at_] at open_
    cases open_
  have initialized {call : CallId} (initializing : s.Initializing call) : t.Lost := by
    obtain ⟨phase, place, progress⟩ := initializing
    rw [lost.done call phase place] at progress
    cases progress
  cases step_effect run with
  | started ready =>
    rw [lost.refuses] at ready
    cases ready
  | refused _ fresh => exact lost.perform fresh _
  | wrote writing => exact settled writing rfl
  | writeFailed writing => exact settled writing rfl
  | finished awaiting => exact settled awaiting rfl
  | ignored => exact lost
  | buffered pending => exact absurd (idle.symm.trans pending) nofun
  | notified pending => exact absurd (idle.symm.trans pending) nofun
  | timedOut fired =>
    obtain ⟨record, entry, armed⟩ := Option.map_eq_some_iff.mp fired
    have timed := (lost.orderly.armed _ record entry).mp armed
    rw [lost.orderly.timeout, idle] at timed
    cases timed
  | disconnected => exact lost.disconnect _
  | attemptFailed _ initializing => exact initialized initializing
  | subscribed place => exact initialized ⟨_, place, rfl⟩
  | initializing => exact absurd rfl (uninitialized _)
  | progressed _ states initializations =>
    have orderly := lost.orderly
    refine ⟨?_, lost.quiet, ?_, orderly.single, orderly.timeout, orderly.pending, orderly.armed⟩
    · have refuses := lost.refuses
      simp only [List.mem_cons, List.not_mem_nil, or_false] at states
      rcases states with rfl | rfl | rfl
      · exact refuses
      · rfl
      · rfl
    · intro call phase place
      by_contra progress
      obtain ⟨before, entry, open_⟩ := initializations call phase place (Bool.eq_false_iff.mpr progress)
      rw [lost.done call before entry] at open_
      cases open_

/-- A write that the transport rejects moves the session out of `Ready` for good. -/
theorem Orderly.lost_of_writeFailed (orderly : s.Orderly) (done : s.Over) {call : CallId}
    (writing : s.phaseOf call = some .writing) (error : Failure) :
    (s.writeSettled call (.rejected error)).Lost ∧
      (s.writeSettled call (.rejected error)).phaseOf call = some (.settled (.rejected error)) := by
  have busy := isSettled_of_phaseOf writing (Or.inl rfl)
  have concluded := orderly.concluded (.rejected error) .disconnecting
  have outstanding := orderly.concluded_outstanding (.rejected error) .disconnecting busy
  refine ⟨⟨rfl, concluded.quiet_of_settled outstanding _, done, concluded.setPhase (Or.inl rfl) outstanding⟩, ?_⟩
  have same := (s.concluded (.rejected error) .disconnecting).setPhase_phaseOf call call (.settled (.rejected error))
  rw [if_pos rfl, concluded_phaseOf, writing] at same
  exact same

end DeviceSession

end BluettiMqtt
