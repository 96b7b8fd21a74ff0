import BluettiMqtt.Bluetooth.SessionFrames
import Mathlib.Data.List.Induction

namespace BluettiMqtt
open Promise

namespace DeviceSession

variable {s : DeviceSession} {call : CallId} {command : DeviceCommand} {frame chunk : List Byte}
  {before chunks : List (List Byte)}

/-- The command has not been rejected with a connection error, and the session
is not on its way to be disconnected. -/
structure Connected (s : DeviceSession) (call : CallId) : Prop where
  state : s.state ≠ .disconnecting
  unrejected : ∀ record, s.performs call = some record →
    ∀ message, .rejected (.badConnectionError message) ∉ record.settlements

theorem control_ne_nil (control : isAsciiControlMessage chunk = true) : chunk ≠ [] := by
  rintro rfl
  cases control

/-- The session after a control message within a frame. -/
theorem foldl_control (awaits : s.Awaits call command) (empty : s.responseBuffer = [])
    (accepted : command.Accepts frame) (modbus : ∀ piece ∈ before, isAsciiControlMessage piece = false)
    (control : isAsciiControlMessage chunk = true) (initial : (before ++ [chunk]).flatten <+: frame) :
    (before ++ [chunk]).foldl handleNotification s = { s with responseBuffer := before.flatten }.concluded
      (.rejected (.badConnectionError "Received AT control notification instead of MODBUS response")) .disconnecting := by
  have start : before.flatten <+: frame := by
    rw [List.flatten_append] at initial
    exact (List.prefix_append _ _).trans initial
  have incomplete : before.flatten ≠ frame := by
    intro whole
    have long := initial.length_le
    have some_ := List.length_pos_iff.mpr (control_ne_nil control)
    rw [← whole] at long
    simp only [List.flatten_append, List.flatten_cons, List.flatten_nil, List.append_nil, List.length_append] at long
    omega
  have buffered := handleNotification_chunks awaits accepted modbus (by simpa [empty] using start)
    (by simpa [empty] using incomplete)
  have last := awaits.buffering before.flatten
  rw [List.foldl_append, buffered, empty, List.nil_append, List.foldl_cons, List.foldl_nil,
    handleNotification_verdict last.pendingResponse last.currentCommand, notificationVerdict, if_pos control]

theorem flatten_prefix (initial : before <+: chunks) : before.flatten <+: chunks.flatten := by
  obtain ⟨rest, rfl⟩ := initial
  rw [List.flatten_append]
  exact List.prefix_append _ _

/-- The chunk with which a frame is complete. -/
theorem completing_chunk (some_ : frame ≠ []) (whole : before.flatten = frame) :
    ∃ early chunk late, before = early ++ chunk :: late ∧ early.flatten ≠ frame ∧
      (early ++ [chunk]).flatten = frame := by
  induction before using List.reverseRec with
  | nil => exact absurd whole.symm some_
  | append_singleton init last ih =>
    by_cases sooner : init.flatten = frame
    · obtain ⟨early, chunk, late, rfl, incomplete, complete⟩ := ih sooner
      exact ⟨early, chunk, late ++ [last], by simp, incomplete, complete⟩
    · exact ⟨init, last, [], rfl, sooner, whole⟩

theorem Awaits.connected (awaits : s.Awaits call command) (performing : s.state = .performingCommand)
    (buffer : List Byte) : { s with responseBuffer := buffer }.Connected call where
  state := by
    change s.state ≠ _
    rw [performing]
    nofun
  unrejected record found message member := by
    have none_ := awaits.unanswered
    rw [show s.performs call = some record from found] at none_
    cases Option.some.inj none_ ▸ member

theorem Answered.connected (answered : s.Answered call (.fulfilled frame)) :
    s.Connected call where
  state := by
    rw [answered.state]
    nofun
  unrejected record found message member := by
    have only := answered.settlements
    rw [found] at only
    cases List.mem_singleton.mp (Option.some.inj only ▸ member)

/-- Chunks of which none reads as a control message leave the session connected. -/
theorem foldl_connected (awaits : s.Awaits call command) (empty : s.responseBuffer = [])
    (performing : s.state = .performingCommand) (valid : command.isValidResponse frame = true)
    (modbus : ∀ chunk ∈ before, isAsciiControlMessage chunk = false) (initial : before.flatten <+: frame) :
    (before.foldl handleNotification s).Connected call := by
  by_cases whole : before.flatten = frame
  · have some_ : frame ≠ [] := by
      rintro rfl
      have size := (DeviceCommand.hasValidIdentity_iff.mp (DeviceCommand.isValidResponse_identity valid)).1
      have long := command.exceptionFrame_lt_responseSize
      rw [← size] at long
      exact absurd long (Nat.not_lt_zero _)
    obtain ⟨early, chunk, late, rfl, incomplete, complete⟩ := completing_chunk some_ whole
    have settled := handleNotification_completes awaits empty (Or.inl valid) (DeviceCommand.verdict_valid valid)
      (fun piece member => modbus piece (by
        simp only [List.mem_append, List.mem_cons] at member ⊢
        tauto)) incomplete complete
    have answered := awaits.answered (.fulfilled frame)
    rw [List.append_cons, List.foldl_append, settled, foldl_handleNotification_idle answered.pendingResponse]
    exact answered.connected
  · rw [handleNotification_chunks awaits (Or.inl valid) modbus (by simpa [empty] using initial)
      (by simpa [empty] using whole)]
    exact awaits.connected performing _

/-- A frame leaves the session connected at every chunk exactly when no chunk
reads as a control message. -/
theorem frame_connected_iff (awaits : s.Awaits call command) (empty : s.responseBuffer = [])
    (performing : s.state = .performingCommand) (valid : command.isValidResponse frame = true)
    (split : chunks.flatten = frame) :
    (∀ before, before <+: chunks → (before.foldl handleNotification s).Connected call) ↔
      ∀ chunk ∈ chunks, isAsciiControlMessage chunk = false := by
  constructor
  · intro connected chunk member
    by_contra found
    have some_ : (chunks.find? isAsciiControlMessage).isSome = true :=
      List.find?_isSome.mpr ⟨chunk, member, Bool.not_eq_false _ ▸ found⟩
    obtain ⟨first, found⟩ := Option.isSome_iff_exists.mp some_
    obtain ⟨control, before, after, rfl, modbus⟩ := List.find?_eq_some_iff_append.mp found
    have initial : before ++ [first] <+: before ++ first :: after := ⟨after, by simp⟩
    have early : (before ++ [first]).flatten <+: frame := by
      rw [← split]
      exact flatten_prefix initial
    have lost := foldl_control awaits empty (Or.inl valid) (fun piece member => by simpa using modbus piece member)
      control early
    have state := (connected _ initial).state
    rw [lost] at state
    exact state rfl
  · intro modbus before initial
    refine foldl_connected awaits empty performing valid (fun chunk member => modbus chunk (initial.subset member)) ?_
    rw [← split]
    exact flatten_prefix initial

/-- The registers of a read may spell a control message. -/
def spellingFrame : List Byte :=
  appendModbusCrc ([0x01#8, 0x03#8, 0x0a#8] ++ AT_CONTROL_NAME_MESSAGE.map (fun character => BitVec.ofNat 8 character.toNat) ++
    [0x00#8])

/-- An echo in two chunks leaves the session connected. -/
theorem echo_connected :
    ([[1#8, 6#8, 11#8], [191#8, 0#8, 1#8, 123#8, 202#8]].foldl handleNotification
      ((opened "AA:BB:CC:DD:EE:FF" 10000 []).perform 0 (.writeSingleRegister ⟨3007#16, 1#16⟩))).Connected 0 := by
  have valid : (DeviceCommand.writeSingleRegister ⟨3007#16, 1#16⟩).isValidResponse
      [1#8, 6#8, 11#8, 191#8, 0#8, 1#8, 123#8, 202#8] = true := by decide +kernel
  obtain ⟨awaits, empty⟩ := perform_awaits (s := opened "AA:BB:CC:DD:EE:FF" 10000 []) rfl 0
    (.writeSingleRegister ⟨3007#16, 1#16⟩)
  exact (frame_connected_iff awaits empty rfl valid rfl).mpr (by decide) _ (List.prefix_refl _)

/-- A read of five registers that hold `AT+NAME?` and a carriage return, in three
chunks of which the second is this text, is rejected at the second. -/
theorem spelling_frame_rejected :
    let read : DeviceCommand := .readHoldingRegisters ⟨10#16, 5, by decide, by decide⟩
    let s := (opened "AA:BB:CC:DD:EE:FF" 10000 []).perform 0 read
    let chunks := [spellingFrame.take 3, (spellingFrame.drop 3).take 9, spellingFrame.drop 12]
    read.isValidResponse spellingFrame = true ∧ chunks.flatten = spellingFrame ∧
      (((chunks.take 2).foldl handleNotification s).performs 0).map PerformCall.settlements =
        some [.rejected (.badConnectionError "Received AT control notification instead of MODBUS response")] ∧
      ((chunks.take 2).foldl handleNotification s).state = .disconnecting ∧
      ¬∀ before, before <+: chunks → (before.foldl handleNotification s).Connected 0 := by
  refine ⟨by decide +kernel, by decide +kernel, by decide +kernel, by decide +kernel, fun connected => ?_⟩
  exact (connected _ (List.take_prefix 2 _)).state (by decide +kernel)

end DeviceSession

end BluettiMqtt
