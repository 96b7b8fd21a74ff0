import BluettiMqtt.Bluetooth.LinkExchange

namespace BluettiMqtt
open Promise Transition

namespace DeviceSession

/-- Calls stay and keep their commands. -/
def KeepsCommands (s t : DeviceSession) : Prop :=
  ∀ call old, s.performs call = some old → ∃ new, t.performs call = some new ∧ new.command = old.command

variable {s t u : DeviceSession}

theorem KeepsCommands.same (performs : t.performs = s.performs) : s.KeepsCommands t := by
  intro call old entry
  exact ⟨old, by rw [performs, entry], rfl⟩

theorem KeepsCommands.trans (first : s.KeepsCommands t) (second : t.KeepsCommands u) : s.KeepsCommands u := by
  intro call old entry
  obtain ⟨middle, found, same⟩ := first call old entry
  obtain ⟨new, place, kept⟩ := second call middle found
  exact ⟨new, place, kept.trans same⟩

theorem KeepsCommands.adjust {key : Option CallId} {f : PerformCall → PerformCall}
    (performs : t.performs = s.performs.adjust key f) (command : ∀ record, (f record).command = record.command) :
    s.KeepsCommands t := by
  intro call old entry
  refine ⟨_, by rw [performs]; exact Table.adjust_eq_some.mpr ⟨old, entry, rfl⟩, ?_⟩
  split
  · exact command old
  · rfl

theorem KeepsCommands.insert {call : CallId} {record : PerformCall} (fresh : s.performs call = none)
    (performs : t.performs = s.performs.insert call record) : s.KeepsCommands t := by
  intro other old entry
  have different : other ≠ call := by
    rintro rfl
    cases fresh.symm.trans entry
  exact ⟨old, by rw [performs, Table.insert_of_ne _ _ different, entry], rfl⟩

theorem setPhase_keepsCommands (s : DeviceSession) (call : CallId) (phase : PerformPhase) :
    s.KeepsCommands (s.setPhase call phase) :=
  .adjust rfl fun _ => rfl

theorem clearPendingState_keepsCommands (s : DeviceSession) : s.KeepsCommands s.clearPendingState :=
  .adjust rfl fun _ => rfl

theorem concluded_keepsCommands (s : DeviceSession) (outcome : Settlement Failure (List Byte))
    (state : DeviceSessionState) : s.KeepsCommands (s.concluded outcome state) :=
  have settled : s.KeepsCommands (s.settleResponse outcome) := .adjust rfl fun _ => rfl
  settled.trans (clearPendingState_keepsCommands _)

theorem step_keepsCommands {event : SessionEvent} (run : s.step event = some t) : s.KeepsCommands t := by
  cases step_effect run with
  | started ready fresh => exact .insert fresh (by rw [DeviceSession.perform, if_pos ready])
  | refused refuses fresh => exact .insert fresh (by rw [DeviceSession.perform, if_neg (by simp [refuses])])
  | wrote => exact s.setPhase_keepsCommands _ _
  | writeFailed => exact (s.concluded_keepsCommands _ _).trans (setPhase_keepsCommands _ _ _)
  | @finished call outcome =>
    cases outcome with
    | fulfilled => exact s.clearPendingState_keepsCommands.trans (setPhase_keepsCommands _ _ _)
    | rejected => exact s.clearPendingState_keepsCommands.trans (setPhase_keepsCommands _ _ _)
  | ignored => exact .same rfl
  | buffered => exact .same rfl
  | notified => exact s.concluded_keepsCommands _ _
  | timedOut =>
    have disarmed {call : CallId} : s.KeepsCommands (s.clearTimeout (some call)) := .adjust rfl fun _ => rfl
    exact disarmed.trans (concluded_keepsCommands _ _ _)
  | disconnected => exact s.clearPendingState_keepsCommands
  | attemptFailed => exact s.clearPendingState_keepsCommands
  | subscribed => exact .same rfl
  | initializing => exact .same rfl
  | progressed => exact .same rfl

end DeviceSession

namespace DeviceLink

open DeviceSession

variable {initial : RegisterImage} {start s t : DeviceLink} {trace : List LinkEvent}

/-- A session that has just been initialized, before a device with these registers. -/
theorem coherent_create {fresh : DeviceSession} (initialized : fresh.Initialized) (image : RegisterImage) :
    (create fresh image).Coherent image := by
  obtain ⟨orderly, idle, unused⟩ := initialized.fresh
  refine ⟨orderly, rfl, .idle idle rfl rfl, fun call record entry => ?_, fun _ member => ?_⟩
  · rw [create, unused call] at entry
    cases entry
  · cases member

/-- A step of the session, as a step of the link. -/
theorem step_session {event : SessionEvent} (silent : ∀ data, event ≠ .notification data)
    (run : s.step (.session event) = some t) :
    ∃ session, s.session.step event = some session ∧
      { s with session := session, requests := s.requests ++ written event s.session session } = t := by
  cases event with
  | notification data => exact absurd rfl (silent data)
  | _ => exact Option.map_eq_some_iff.mp run

/-- A session whose call has just ended is quiet. -/
theorem Coherent.quiet_of_responseSettled {t : DeviceLink} (coherent : s.Coherent initial)
    (run : s.step (.session (.responseSettled call)) = some t) : t.session.Quiet := by
  obtain ⟨session, moved, rfl⟩ := step_session (by rintro data ⟨⟩) run
  simp only [DeviceSession.step] at moved
  split at moved
  · next outcome awaiting settled =>
    cases Option.some.inj moved
    have busy := isSettled_of_phaseOf awaiting (Or.inr rfl)
    cases outcome with
    | fulfilled => exact coherent.orderly.cleared.quiet_of_settled (coherent.orderly.cleared_outstanding busy) (.fulfilled _)
    | rejected => exact coherent.orderly.cleared.quiet_of_settled (coherent.orderly.cleared_outstanding busy) (.rejected _)
  · cases moved

theorem Coherent.step {e : LinkEvent} (coherent : s.Coherent initial) (used : s.InUse e) (run : s.step e = some t) :
    t.Coherent initial := by
  cases e with
  | serve refused => exact coherent.serve run
  | notify count =>
    cases Option.some.inj run
    exact coherent.notify count
  | session event =>
    by_cases notified : ∃ data, event = .notification data
    · obtain ⟨data, rfl⟩ := notified
      obtain ⟨control, same⟩ := Option.ite_none_right_eq_some.mp run
      cases Option.some.inj same
      exact coherent.control control
    · obtain ⟨session, moved, rfl⟩ := step_session (fun data same => notified ⟨data, same⟩) run
      by_cases performed : ∃ call command, event = .perform call command
      · obtain ⟨call, command, rfl⟩ := performed
        exact coherent.perform used moved
      · rw [written_other fun call command same => performed ⟨call, command, same⟩, List.append_nil]
        exact coherent.moved used moved (fun call command same => performed ⟨call, command, same⟩)
          fun data same => notified ⟨data, same⟩

/-- The frames are written in the order of the calls and carry their commands, and
the device has taken a first part of them. -/
structure InOrder (start : DeviceLink) (trace : List LinkEvent) (s : DeviceLink) : Prop where
  order : accepted start trace = s.served.map Served.call ++ s.requests.map Prod.fst
  distinct : (accepted start trace).Nodup
  asked : ∀ served ∈ s.served, ∃ record, s.session.performs served.call = some record ∧
    record.command = served.command
  written : ∀ entry ∈ s.requests, ∃ record, s.session.performs entry.1 = some record ∧
    entry.2 = record.command.frame

theorem InOrder.known (inOrder : InOrder start trace s) {call : CallId} (member : call ∈ accepted start trace) :
    s.session.performs call ≠ none := by
  intro unknown
  rw [inOrder.order] at member
  rcases List.mem_append.mp member with done | waiting
  · obtain ⟨served, place, rfl⟩ := List.mem_map.mp done
    obtain ⟨record, entry, _⟩ := inOrder.asked served place
    cases unknown.symm.trans entry
  · obtain ⟨request, place, rfl⟩ := List.mem_map.mp waiting
    obtain ⟨record, entry, _⟩ := inOrder.written request place
    cases unknown.symm.trans entry

/-- A step that neither writes nor serves. -/
theorem InOrder.keep {e : LinkEvent} (inOrder : InOrder start trace s)
    (listed : accepted start (trace ++ [e]) = accepted start trace) (served : t.served = s.served)
    (requests : t.requests = s.requests) (keeps : s.session.KeepsCommands t.session) :
    InOrder start (trace ++ [e]) t where
  order := by rw [listed, served, requests, inOrder.order]
  distinct := listed ▸ inOrder.distinct
  asked := by
    intro entry member
    obtain ⟨old, found, same⟩ := inOrder.asked entry (served ▸ member)
    obtain ⟨new, place, kept⟩ := keeps _ old found
    exact ⟨new, place, kept.trans same⟩
  written := by
    intro entry member
    obtain ⟨old, found, same⟩ := inOrder.written entry (requests ▸ member)
    obtain ⟨new, place, kept⟩ := keeps _ old found
    exact ⟨new, place, by rw [same, kept]⟩

/-- The device takes the oldest frame. -/
theorem InOrder.serve {refused : Option Byte} (inOrder : InOrder start trace s)
    (listed : accepted start (trace ++ [.serve refused]) = accepted start trace) {call : CallId}
    {command : DeviceCommand} {rest : List (CallId × List Byte)} (requests : s.requests = (call, command.frame) :: rest) :
    InOrder start (trace ++ [.serve refused]) (s.serving ⟨call, command, refused⟩ rest) where
  order := by
    rw [listed, inOrder.order, requests]
    simp [serving]
  distinct := listed ▸ inOrder.distinct
  asked := by
    intro served member
    rcases List.mem_append.mp member with old | new
    · exact inOrder.asked served old
    · obtain ⟨record, entry, frame⟩ := inOrder.written (call, command.frame) (by rw [requests]; exact List.mem_cons_self)
      rw [List.mem_singleton.mp new]
      refine ⟨record, entry, ?_⟩
      have decoded := congrArg decodeRequest frame
      rw [DeviceCommand.decodeRequest_frame, DeviceCommand.decodeRequest_frame] at decoded
      exact (Option.some.inj decoded).symm
  written := fun entry member => inOrder.written entry (by rw [requests]; exact List.mem_cons_of_mem _ member)

/-- A call whose frame is written. -/
theorem InOrder.perform (inOrder : InOrder start trace s) {call : CallId} {command : DeviceCommand}
    (fresh : s.session.performs call = none) (ready : s.session.isReady = true)
    (listed : accepted start (trace ++ [.session (.perform call command)]) = accepted start trace ++ [call]) :
    InOrder start (trace ++ [.session (.perform call command)]) { s with
      session := s.session.perform call command
      requests := s.requests ++ [(call, command.frame)] } := by
  have performs : (s.session.perform call command).performs = s.session.performs.insert call
      { command := command, phase := .writing, settlements := [], timerArmed := true } := by
    rw [DeviceSession.perform, if_pos ready]
  have keeps : s.session.KeepsCommands (s.session.perform call command) := .insert fresh performs
  refine ⟨?_, ?_, fun served member => ?_, fun entry member => ?_⟩
  · rw [listed, inOrder.order]
    simp
  · rw [listed]
    refine List.nodup_append.mpr ⟨inOrder.distinct, List.nodup_singleton call, fun other member one single => ?_⟩
    rintro rfl
    exact inOrder.known member (List.mem_singleton.mp single ▸ fresh)
  · obtain ⟨old, found, same⟩ := inOrder.asked served member
    obtain ⟨new, place, kept⟩ := keeps _ old found
    exact ⟨new, place, kept.trans same⟩
  · rcases List.mem_append.mp member with waiting | new
    · obtain ⟨old, found, same⟩ := inOrder.written entry waiting
      obtain ⟨new, place, kept⟩ := keeps _ old found
      exact ⟨new, place, by rw [same, kept]⟩
    · rw [List.mem_singleton.mp new]
      exact ⟨_, by rw [performs, Table.insert_self], rfl⟩

theorem inOrder_of_reach (initially : start.requests = [] ∧ start.served = [])
    (coherent : start.Coherent initial) (reach : Reach step InUse start trace s) :
    InOrder start trace s ∧ s.Coherent initial := by
  induction reach with
  | start =>
    refine ⟨⟨?_, List.nodup_nil, ?_, ?_⟩, coherent⟩
    · rw [initially.1, initially.2]
      rfl
    · rw [initially.2]
      rintro _ ⟨⟩
    · rw [initially.1]
      rintro _ ⟨⟩
  | @next trace s e t reach used run ih =>
    obtain ⟨inOrder, coherent⟩ := ih
    refine ⟨?_, coherent.step used run⟩
    have listed : accepted start (trace ++ [e]) = accepted start trace ++ admits s e := reach.observed_next e
    have unlisted (silent : admits s e = []) : accepted start (trace ++ [e]) = accepted start trace := by
      rw [listed, silent, List.append_nil]
    cases e with
    | serve refused =>
      obtain ⟨call, command, rest, requests, rfl⟩ := step_serve_cases coherent.framed run
      exact inOrder.serve (unlisted rfl) requests
    | notify count =>
      have notified : s.session.step (.notification (s.notifying.take count)) = some _ := rfl
      cases Option.some.inj run
      exact inOrder.keep (unlisted rfl) rfl rfl (step_keepsCommands notified)
    | session event =>
      by_cases performed : ∃ call command, event = .perform call command
      · obtain ⟨call, command, rfl⟩ := performed
        obtain ⟨session, moved, rfl⟩ := step_session (by rintro data ⟨⟩) run
        obtain ⟨fresh, same⟩ := Option.ite_none_right_eq_some.mp moved
        cases Option.some.inj same
        rw [written_perform]
        by_cases ready : s.session.isReady = true
        · rw [admits, if_pos ready] at listed
          rw [if_pos ready]
          exact inOrder.perform (Option.isNone_iff_eq_none.mp fresh) ready listed
        · rw [admits, if_neg ready, List.append_nil] at listed
          rw [if_neg ready, List.append_nil]
          exact inOrder.keep listed rfl rfl (step_keepsCommands moved)
      · have unperformed : ∀ call command, event ≠ .perform call command :=
          fun call command same => performed ⟨call, command, same⟩
        have silent : admits s (.session event) = [] := by
          cases event with
          | perform call command => exact absurd rfl (unperformed call command)
          | _ => rfl
        by_cases notified : ∃ data, event = .notification data
        · obtain ⟨data, rfl⟩ := notified
          have notified : s.session.step (.notification data) = some _ := rfl
          obtain ⟨_, same⟩ := Option.ite_none_right_eq_some.mp run
          cases Option.some.inj same
          exact inOrder.keep (unlisted silent) rfl rfl (step_keepsCommands notified)
        · obtain ⟨session, moved, rfl⟩ := step_session (fun data same => notified ⟨data, same⟩) run
          refine inOrder.keep (unlisted silent) rfl ?_ (step_keepsCommands moved)
          rw [written_other unperformed, List.append_nil]

/-- The session makes an atomic register store of its device. The device takes the
commands that were asked for, each at most once and in the order of the calls; a
fulfilled call has the
response that the device gave to this very request on the registers as the earlier
requests had left them, and a MODBUS error means that the device refused the
request and left its registers alone. -/
theorem device_is_register_store {fresh : DeviceSession} {image : RegisterImage} (initialized : fresh.Initialized)
    (reach : Reach step InUse (create fresh image) trace s) :
    s.image = Served.after image s.served ∧
    accepted (create fresh image) trace = s.served.map Served.call ++ s.requests.map Prod.fst ∧
    (accepted (create fresh image) trace).Nodup ∧
    (∀ served ∈ s.served, ∃ record, s.session.performs served.call = some record ∧ record.command = served.command) ∧
    ∀ call record, s.session.performs call = some record →
      (∀ response, record.phase = .settled (.fulfilled response) → ∃ earlier later,
        s.served = earlier ++ ⟨call, record.command, none⟩ :: later ∧
        response = record.command.success (Served.after image earlier)) ∧
      ∀ error, record.phase = .settled (.rejected error) → error.isModbus = true → ∃ earlier later code,
        s.served = earlier ++ ⟨call, record.command, some code⟩ :: later ∧
        error = if code = 5#8 then .deviceBusyError (exceptionMessage record.command 5) 5
          else .modbusError (exceptionMessage record.command code.toNat) code.toNat := by
  obtain ⟨inOrder, coherent⟩ := inOrder_of_reach ⟨rfl, rfl⟩ (coherent_create initialized image) reach
  refine ⟨coherent.image, inOrder.order, inOrder.distinct, inOrder.asked, fun call record entry => ⟨fun response settled => ?_,
    fun error settled modbus => ?_⟩⟩
  · have explains := (coherent.explained call record entry).2 _ settled
    generalize told : Settlement.fulfilled response = outcome at explains
    cases explains with
    | @answered earlier later refused place =>
      cases refused with
      | none =>
        rw [Served.outcome_executed rfl] at told
        exact ⟨earlier, later, place, Settlement.fulfilled.inj told⟩
      | some code =>
        rw [Served.outcome_refused rfl] at told
        cases told
    | failed => cases told
  · have explains := (coherent.explained call record entry).2 _ settled
    generalize told : Settlement.rejected error = outcome at explains
    cases explains with
    | @answered earlier later refused place =>
      cases refused with
      | none =>
        rw [Served.outcome_executed rfl] at told
        cases told
      | some code =>
        rw [Served.outcome_refused rfl] at told
        exact ⟨earlier, later, code, place, Settlement.rejected.inj told⟩
    | failed foreign =>
      cases told
      rw [foreign] at modbus
      cases modbus

theorem inUse_of_other {event : SessionEvent} (other : ∀ call command, event ≠ .perform call command)
    (used : event.initializes = false)
    (acknowledged : ∀ call error, event ≠ .writeSettled call (.rejected error)) (s : DeviceLink) :
    s.InUse (.session event) :=
  ⟨fun call command same => absurd same (other call command), used,
    fun call error same => absurd same (acknowledged call error)⟩

/-- A switch command whose echo arrives in two parts, the first before the write is
acknowledged. -/
theorem device_is_register_store_switch :
    let switch : DeviceCommand := .writeSingleRegister ⟨3007#16, 1#16⟩
    ∃ s : DeviceLink, s.image = Served.after (fun _ => 0) s.served ∧
      ∃ earlier later, s.served = earlier ++ ⟨0, switch, none⟩ :: later ∧
        switch.frame = switch.success (Served.after (fun _ => 0) earlier) := by
  intro switch
  have initialized := initialized_opened "AA:BB:CC:DD:EE:FF" 10000 []
  have first : (create (opened "AA:BB:CC:DD:EE:FF" 10000 []) (fun _ => 0)).InUse (.session (.perform 0 switch)) :=
    ⟨fun _ _ _ => quiet_opened _ _ _, rfl, by rintro _ _ ⟨⟩⟩
  let writing : DeviceLink := { create (opened "AA:BB:CC:DD:EE:FF" 10000 []) (fun _ => 0) with
    session := (opened "AA:BB:CC:DD:EE:FF" 10000 []).perform 0 switch, requests := [(0, switch.frame)] }
  let trace : List LinkEvent := [.serve none, .notify 3, .session (.writeSettled 0 (.fulfilled ())), .notify 5,
    .session (.responseSettled 0)]
  have allowed : ∀ e ∈ trace, ∀ s, InUse s e := by
    simp only [trace, List.mem_cons, List.not_mem_nil, or_false, forall_eq_or_imp, forall_eq]
    exact ⟨fun _ => trivial, fun _ => trivial, inUse_of_other (by rintro _ _ ⟨⟩) rfl (by rintro _ _ ⟨⟩),
      fun _ => trivial, inUse_of_other (by rintro _ _ ⟨⟩) rfl (by rintro _ _ ⟨⟩)⟩
  have run : (trace.foldlM step writing).any (fun s => (s.session.performs 0).map (fun record =>
      (record.command, record.phase)) = some (switch, .settled (.fulfilled switch.frame))) = true := by
    decide +kernel
  obtain ⟨s, rest, settled⟩ := Reach.of_foldlM allowed run
  obtain ⟨record, entry, same⟩ := Option.map_eq_some_iff.mp (of_decide_eq_true settled)
  obtain ⟨command, phase⟩ := Prod.mk.inj same
  obtain ⟨image, _, _, _, calls⟩ := device_is_register_store initialized (.cons first rfl rest)
  obtain ⟨earlier, later, place, response⟩ := (calls 0 record entry).1 _ phase
  rw [command] at place response
  exact ⟨s, image, earlier, later, place, response⟩

end DeviceLink

end BluettiMqtt
