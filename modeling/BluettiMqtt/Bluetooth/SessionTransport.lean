import BluettiMqtt.Bluetooth.SessionInitialization

namespace BluettiMqtt
open Promise

def TransportCall.isWrite : TransportCall → Bool
  | .writeCharacteristic _ _ => true
  | _ => false

/-- `disconnect` has been called after the last `connect`. -/
def Released (calls : List TransportCall) : Prop :=
  ∃ before after, calls = before ++ .disconnect :: after ∧ ∀ address, .connect address ∉ after

theorem released_concat (calls : List TransportCall) : Released (calls ++ [.disconnect]) :=
  ⟨calls, [], rfl, fun _ => List.not_mem_nil⟩

theorem Released.append {calls more : List TransportCall} (released : Released calls)
    (writes : ∀ one ∈ more, one.isWrite = true) : Released (calls ++ more) := by
  obtain ⟨before, after, rfl, last⟩ := released
  refine ⟨before, after ++ more, by simp, fun address member => ?_⟩
  rcases List.mem_append.mp member with inside | added
  · exact last address inside
  · cases writes _ added

namespace DeviceSession

/-- What a step does to a session that its owner does not cause: either one call
of `connectAndInitialize` goes on, or the session at most writes and settles a
call of `disconnect`. -/
inductive Course (s t : DeviceSession) : Prop
  | quiet (more : List TransportCall) : t.address = s.address → t.initializations = s.initializations →
      (t.disconnects = s.disconnects ∨ ∃ call result, s.disconnects call = some .disconnecting ∧
        t.disconnects = s.disconnects.insert call (.settled result)) →
      t.transportCalls = s.transportCalls ++ more → (∀ one ∈ more, one.isWrite = true) → Course s t
  | moved (call : CallId) (before after : InitializePhase) : t.address = s.address →
      s.initializations call = some before → before.isSettled = false →
      t.initializations = s.initializations.insert call after → t.disconnects = s.disconnects →
      (after.cleaned = true → t.transportCalls = s.transportCalls ++ [.disconnect] ∨
        before.cleaned = true ∧ t.transportCalls = s.transportCalls) → Course s t

variable {s t : DeviceSession}

/-- A step after which only the pending command differs. -/
theorem Course.still (address : t.address = s.address) (initializations : t.initializations = s.initializations)
    (disconnects : t.disconnects = s.disconnects) (transportCalls : t.transportCalls = s.transportCalls) :
    Course s t :=
  .quiet [] address initializations (Or.inl disconnects) (by rw [transportCalls, List.append_nil])
    fun _ member => nomatch member

theorem handleNotification_course (s : DeviceSession) (data : List Byte) : Course s (s.handleNotification data) := by
  unfold handleNotification
  split
  · split
    · exact .still rfl rfl rfl rfl
    · dsimp only
      split
      · exact .still rfl rfl rfl rfl
      · split
        · split <;> exact .still rfl rfl rfl rfl
        · split <;> exact .still rfl rfl rfl rfl
  · exact .still rfl rfl rfl rfl

theorem attemptFailed_course (call : CallId) {phase : InitializePhase}
    (place : s.initializations call = some phase) (progress : phase.isSettled = false) (attempt : Nat)
    (error : Failure) : Course s (s.attemptFailed call attempt error) :=
  .moved call phase (.cleaningUp attempt error) rfl place progress rfl rfl fun _ => Or.inl rfl

theorem perform_course (s : DeviceSession) (call : CallId) (command : DeviceCommand) :
    Course s (s.perform call command) := by
  unfold DeviceSession.perform
  split
  · refine .quiet [.writeCharacteristic WRITE_UUID command.toBytes] rfl rfl (Or.inl rfl) rfl fun one member => ?_
    rw [List.mem_singleton.mp member]
    rfl
  · exact .still rfl rfl rfl rfl

theorem step_course {e : SessionEvent} (uninitialized : ∀ call, e ≠ .connectAndInitialize call)
    (undisconnected : ∀ call, e ≠ .disconnect call) (run : s.step e = some t) : Course s t := by
  cases e with
  | perform call command =>
    obtain ⟨_, same⟩ := Option.ite_none_right_eq_some.mp run
    cases Option.some.inj same
    exact s.perform_course call command
  | writeSettled call result =>
    obtain ⟨_, same⟩ := Option.ite_none_right_eq_some.mp run
    cases Option.some.inj same
    cases result <;> exact .still rfl rfl rfl rfl
  | responseSettled call =>
    simp only [DeviceSession.step] at run
    split at run
    · rename_i outcome _ _
      cases Option.some.inj run
      cases outcome <;> exact .still rfl rfl rfl rfl
    · cases run
  | notification data =>
    cases Option.some.inj run
    exact s.handleNotification_course data
  | commandTimer call =>
    obtain ⟨_, same⟩ := Option.ite_none_right_eq_some.mp run
    cases Option.some.inj same
    exact .still rfl rfl rfl rfl
  | connectAndInitialize call => exact absurd rfl (uninitialized call)
  | connectSettled call result =>
    simp only [DeviceSession.step] at run
    split at run
    · rename_i attempt place
      cases Option.some.inj run
      cases result with
      | fulfilled => exact .moved call _ (.readingName attempt) rfl place rfl rfl rfl (by rintro ⟨⟩)
      | rejected error => exact attemptFailed_course call place rfl attempt error
    · cases run
  | nameSettled call result =>
    simp only [DeviceSession.step] at run
    split at run
    · rename_i attempt place
      cases Option.some.inj run
      cases result with
      | fulfilled => exact .moved call _ (.subscribing attempt) rfl place rfl rfl rfl (by rintro ⟨⟩)
      | rejected error => exact attemptFailed_course call place rfl attempt error
    · cases run
  | subscribeSettled call result =>
    simp only [DeviceSession.step] at run
    split at run
    · rename_i attempt place
      cases Option.some.inj run
      cases result with
      | fulfilled => exact .moved call _ (.settled (.fulfilled ())) rfl place rfl rfl rfl (by rintro ⟨⟩)
      | rejected error => exact attemptFailed_course call place rfl attempt error
    · cases run
  | cleanupSettled call result =>
    simp only [DeviceSession.step] at run
    split at run
    · rename_i attempt error place
      cases Option.some.inj run
      unfold cleanupSettled
      split
      · exact .moved call _ (.retryDelay attempt) rfl place rfl rfl rfl fun _ => Or.inr ⟨rfl, rfl⟩
      · exact .moved call _ (.settled (.rejected error)) rfl place rfl rfl rfl fun _ => Or.inr ⟨rfl, rfl⟩
    · cases run
  | retryElapsed call =>
    simp only [DeviceSession.step] at run
    split at run
    · rename_i attempt place
      cases Option.some.inj run
      exact .moved call _ (.connecting (attempt + 1)) rfl place rfl rfl rfl (by rintro ⟨⟩)
    · cases run
  | disconnect call => exact absurd rfl (undisconnected call)
  | disconnectSettled call result =>
    obtain ⟨place, same⟩ := Option.ite_none_right_eq_some.mp run
    cases Option.some.inj same
    exact .quiet [] rfl rfl (Or.inr ⟨call, result, place, rfl⟩) (List.append_nil _).symm (by rintro _ ⟨⟩)

/-- Every call of `connectAndInitialize` has settled. -/
def Over (s : DeviceSession) : Prop :=
  ∀ call phase, s.initializations call = some phase → phase.isSettled = true

/-- `connectAndInitialize` has been called once, by the given call, and whenever
an attempt of it has failed the transport is released. -/
structure StartedBy (s : DeviceSession) (call : CallId) : Prop where
  own : ∀ other phase, s.initializations other = some phase → other = call
  begun : ∃ phase, s.initializations call = some phase
  cleaned : ∀ phase, s.initializations call = some phase → phase.cleaned = true → Released s.transportCalls

/-- Nothing the owner does not cause reopens a session that is over. -/
theorem Over.course (done : s.Over) (course : Course s t) :
    t.Over ∧ t.initializations = s.initializations ∧
      (t.disconnects = s.disconnects ∨ ∃ call result, s.disconnects call = some .disconnecting ∧
        t.disconnects = s.disconnects.insert call (.settled result)) ∧
      ∃ more, t.transportCalls = s.transportCalls ++ more ∧ ∀ one ∈ more, one.isWrite = true := by
  cases course with
  | quiet more _ initializations disconnects transportCalls writes =>
    refine ⟨?_, initializations, disconnects, more, transportCalls, writes⟩
    rw [Over, initializations]
    exact done
  | moved call before after _ place progress _ _ _ =>
    rw [done call before place] at progress
    cases progress

theorem StartedBy.course {call : CallId} (started : s.StartedBy call) (course : Course s t) : t.StartedBy call := by
  obtain ⟨own, ⟨phase, place⟩, cleaned⟩ := started
  cases course with
  | quiet more _ initializations _ transportCalls writes =>
    refine ⟨?_, ⟨phase, ?_⟩, ?_⟩ <;> rw [initializations]
    · exact own
    · exact place
    · intro found entry failed
      rw [transportCalls]
      exact (cleaned found entry failed).append writes
  | moved other before after _ entry _ initializations _ released =>
    cases own other before entry
    refine ⟨fun one found held => ?_, ⟨after, ?_⟩, fun found held failed => ?_⟩
    · rw [initializations] at held
      rcases Table.insert_eq_some.mp held with ⟨same, _⟩ | ⟨_, held⟩
      · exact same
      · exact own one found held
    · rw [initializations, Table.insert_self]
    · rw [initializations, Table.insert_self] at held
      cases held
      rcases released failed with last | ⟨already, same⟩
      · rw [last]
        exact released_concat _
      · rw [same]
        exact cleaned before entry already

theorem Course.address (course : Course s t) : t.address = s.address := by
  cases course <;> assumption

/-- A call that has settled is over, and so is its session. -/
theorem StartedBy.over {call : CallId} {outcome : Settlement Failure Unit} (started : s.StartedBy call)
    (settled : s.initializations call = some (.settled outcome)) : s.Over := by
  intro other phase entry
  cases started.own other phase entry
  cases entry.symm.trans settled
  rfl

end DeviceSession

end BluettiMqtt
