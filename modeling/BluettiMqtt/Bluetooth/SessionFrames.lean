import BluettiMqtt.Bluetooth.DeviceSession

namespace BluettiMqtt
open Promise

/-- What `handleNotification` decides about the accumulated bytes: nothing yet,
or how the response promise is settled and which state the session enters. -/
def DeviceCommand.verdict (command : DeviceCommand) (received : List Byte) :
    Option (Settlement Failure (List Byte) × DeviceSessionState) :=
  if command.isExceptionResponse received then
    some (.rejected (DeviceSession.buildModbusException command received), .ready)
  else if received.length = command.responseSize then
    if command.isValidResponse received then
      some (.fulfilled received, .ready)
    else
      some (.rejected (.parseError "Response CRC validation failed"), .commandErrorWait)
  else if command.responseSize < received.length then
    some (.rejected (.parseError "Notification payload exceeded expected response size"),
      .commandErrorWait)
  else
    none

/-- A frame the command accepts, as a success or as an exception. -/
def DeviceCommand.Accepts (command : DeviceCommand) (frame : List Byte) : Prop :=
  command.isValidResponse frame = true ∨ command.isExceptionResponse frame = true

/-- No strict prefix of an accepted frame is mistaken for an exception, a
corrupt response or an overlong one. -/
theorem DeviceCommand.verdict_prefix {command : DeviceCommand} {frame received : List Byte}
    (accepted : command.Accepts frame) (initial : received <+: frame) (shorter : received ≠ frame) :
    command.verdict received = none := by
  have below : received.length < frame.length :=
    lt_of_le_of_ne initial.length_le fun same => shorter (initial.eq_of_length same)
  have size := command.exceptionFrame_lt_responseSize
  have decided : command.isExceptionResponse received = false ∧ frame.length ≤ command.responseSize := by
    rcases accepted with valid | exception
    · exact ⟨isValidResponse_prefix_not_exception valid initial,
        (hasValidIdentity_iff.mp (isValidResponse_identity valid)).1.le⟩
    · have length := (isExceptionResponse_iff.mp exception).1
      refine ⟨Bool.eq_false_iff.mpr fun again => ?_, by omega⟩
      have same := (isExceptionResponse_iff.mp again).1
      omega
  unfold verdict
  rw [decided.1, if_neg Bool.false_ne_true, if_neg (by omega), if_neg (by omega)]

theorem DeviceCommand.verdict_valid {command : DeviceCommand} {frame : List Byte}
    (valid : command.isValidResponse frame = true) :
    command.verdict frame = some (.fulfilled frame, .ready) := by
  have plain := isValidResponse_prefix_not_exception valid (List.prefix_refl frame)
  have length := (hasValidIdentity_iff.mp (isValidResponse_identity valid)).1
  simp [verdict, plain, length, valid]

theorem DeviceCommand.verdict_exception {command : DeviceCommand} {frame : List Byte}
    (exception : command.isExceptionResponse frame = true) :
    command.verdict frame =
      some (.rejected (DeviceSession.buildModbusException command frame), .ready) := by
  simp [verdict, exception]

namespace DeviceSession

/-- What every conclusion of a pending command has in common: the response
promise is settled, the pending fields are cleared and the state is set. -/
def concluded (s : DeviceSession) (outcome : Settlement Failure (List Byte))
    (state : DeviceSessionState) : DeviceSession :=
  { (s.settleResponse outcome).clearPendingState with state := state }

@[simp] theorem concluded_initializations (s : DeviceSession) (outcome : Settlement Failure (List Byte))
    (state : DeviceSessionState) : (s.concluded outcome state).initializations = s.initializations := by
  simp [concluded]

@[simp] theorem concluded_lifecycle (s : DeviceSession) (outcome : Settlement Failure (List Byte))
    (state : DeviceSessionState) : (s.concluded outcome state).lifecycle = s.lifecycle := by
  simp [concluded]

/-- A command in flight whose response promise nothing has settled yet. -/
structure Awaits (s : DeviceSession) (call : CallId) (command : DeviceCommand) : Prop where
  pendingResponse : s.pendingResponse = some call
  currentCommand : s.currentCommand = some command
  unanswered : (s.performs call).map PerformCall.settlements = some []

theorem perform_awaits {s : DeviceSession} (ready : s.isReady = true) (call : CallId)
    (command : DeviceCommand) :
    (s.perform call command).Awaits call command ∧ (s.perform call command).responseBuffer = [] := by
  unfold perform
  rw [if_pos ready]
  exact ⟨⟨rfl, rfl, by simp⟩, rfl⟩

theorem handleNotification_idle {s : DeviceSession}
    (idle : s.pendingResponse = none ∨ s.currentCommand = none) (data : List Byte) :
    s.handleNotification data = s := by
  unfold handleNotification
  split
  next pending current => rcases idle with none | none <;> simp [none] at pending current
  next => rfl

/-- The verdict on one more chunk, the control message included. -/
def notificationVerdict (command : DeviceCommand) (buffer data : List Byte) :
    Option (Settlement Failure (List Byte) × DeviceSessionState) :=
  if isAsciiControlMessage data then
    some (.rejected (.badConnectionError
      "Received AT control notification instead of MODBUS response"), .disconnecting)
  else command.verdict (concatBytes buffer data)

theorem notificationVerdict_modbus {data : List Byte} (modbus : isAsciiControlMessage data = false)
    (command : DeviceCommand) (buffer : List Byte) :
    notificationVerdict command buffer data = command.verdict (concatBytes buffer data) := by
  simp [notificationVerdict, modbus]

theorem handleNotification_verdict {s : DeviceSession} {call : CallId} {command : DeviceCommand}
    (pending : s.pendingResponse = some call) (current : s.currentCommand = some command)
    (data : List Byte) :
    s.handleNotification data =
      match notificationVerdict command s.responseBuffer data with
      | none => { s with responseBuffer := concatBytes s.responseBuffer data }
      | some (outcome, state) => s.concluded outcome state := by
  unfold handleNotification notificationVerdict DeviceCommand.verdict
  split
  next _ other _ found =>
    cases Option.some.inj (current.symm.trans found)
    by_cases control : isAsciiControlMessage data = true
    · rw [if_pos control, if_pos control]
      rfl
    rw [if_neg control, if_neg control]
    by_cases exception : command.isExceptionResponse (concatBytes s.responseBuffer data) = true
    · rw [if_pos exception, if_pos exception]
      rfl
    rw [if_neg exception, if_neg exception]
    by_cases sized : (concatBytes s.responseBuffer data).length = command.responseSize
    · rw [if_pos sized, if_pos sized]
      by_cases valid : command.isValidResponse (concatBytes s.responseBuffer data) = true
      · rw [if_pos valid, if_pos valid]
        rfl
      · rw [if_neg valid, if_neg valid]
        rfl
    rw [if_neg sized, if_neg sized]
    by_cases beyond : command.responseSize < (concatBytes s.responseBuffer data).length
    · rw [if_pos beyond, if_pos beyond]
      rfl
    · rw [if_neg beyond, if_neg beyond]
  next absent => exact absurd current (absent call command pending)

theorem Awaits.buffering {s : DeviceSession} {call : CallId} {command : DeviceCommand}
    (awaits : s.Awaits call command) (buffer : List Byte) :
    { s with responseBuffer := buffer }.Awaits call command :=
  ⟨awaits.pendingResponse, awaits.currentCommand, awaits.unanswered⟩

/-- Chunks that have not yet delivered the whole frame are only buffered. -/
theorem handleNotification_chunks {s : DeviceSession} {call : CallId} {command : DeviceCommand}
    {frame : List Byte} {chunks : List (List Byte)} (awaits : s.Awaits call command)
    (accepted : command.Accepts frame) (modbus : ∀ chunk ∈ chunks, isAsciiControlMessage chunk = false)
    (initial : s.responseBuffer ++ chunks.flatten <+: frame)
    (incomplete : s.responseBuffer ++ chunks.flatten ≠ frame) :
    chunks.foldl handleNotification s =
      { s with responseBuffer := s.responseBuffer ++ chunks.flatten } := by
  induction chunks generalizing s with
  | nil => simp
  | cons chunk rest ih =>
    simp only [List.flatten_cons, ← List.append_assoc] at initial incomplete
    have earlier : s.responseBuffer ++ chunk <+: frame :=
      (List.prefix_append _ rest.flatten).trans initial
    have shorter : s.responseBuffer ++ chunk ≠ frame := by
      intro whole
      rw [whole] at initial incomplete
      exact incomplete (initial.eq_of_length_le (by simp))
    have undecided := DeviceCommand.verdict_prefix accepted earlier shorter
    have first : s.handleNotification chunk = { s with responseBuffer := s.responseBuffer ++ chunk } := by
      rw [handleNotification_verdict awaits.pendingResponse awaits.currentCommand,
        notificationVerdict_modbus (modbus chunk (List.mem_cons_self ..)), concatBytes, undecided]
    rw [List.foldl_cons, first, ih (awaits.buffering _)
      (fun other member => modbus other (List.mem_cons_of_mem _ member)) initial incomplete]
    simp only [List.flatten_cons, List.append_assoc]

/-- The chunk that completes a frame settles the command by the verdict on the
frame, exactly once, and nothing received later changes the session. -/
theorem handleNotification_completes {s : DeviceSession} {call : CallId} {command : DeviceCommand}
    {frame chunk : List Byte} {before : List (List Byte)} {outcome : Settlement Failure (List Byte)}
    (awaits : s.Awaits call command) (empty : s.responseBuffer = [])
    (accepted : command.Accepts frame) (decided : command.verdict frame = some (outcome, .ready))
    (modbus : ∀ piece ∈ before ++ [chunk], isAsciiControlMessage piece = false)
    (incomplete : before.flatten ≠ frame) (complete : (before ++ [chunk]).flatten = frame) :
    (before ++ [chunk]).foldl handleNotification s = s.concluded outcome .ready := by
  have whole : before.flatten ++ chunk = frame := by simpa using complete
  have buffered := handleNotification_chunks awaits accepted
    (fun piece member => modbus piece (List.mem_append_left _ member))
    (by rw [empty, ← whole]; exact List.prefix_append _ _) (by simpa [empty] using incomplete)
  have last := awaits.buffering before.flatten
  rw [List.foldl_append, buffered, empty, List.nil_append, List.foldl_cons, List.foldl_nil,
    handleNotification_verdict last.pendingResponse last.currentCommand,
    notificationVerdict_modbus (modbus chunk (by simp)), concatBytes, whole, decided]
  rfl

theorem foldl_handleNotification_idle {s : DeviceSession} (idle : s.pendingResponse = none)
    (chunks : List (List Byte)) : chunks.foldl handleNotification s = s := by
  induction chunks with
  | nil => rfl
  | cons chunk rest ih => rw [List.foldl_cons, handleNotification_idle (Or.inl idle), ih]

/-- The session a completed frame leaves behind: the promise of the command was
settled once, by `outcome`, and the session is ready for another command. -/
structure Answered (s : DeviceSession) (call : CallId) (outcome : Settlement Failure (List Byte)) :
    Prop where
  settlements : (s.performs call).map PerformCall.settlements = some [outcome]
  state : s.state = .ready
  pendingResponse : s.pendingResponse = none
  currentCommand : s.currentCommand = none
  pendingTimeout : s.pendingTimeout = none
  responseBuffer : s.responseBuffer = []

theorem Awaits.answered {s : DeviceSession} {call : CallId} {command : DeviceCommand}
    (awaits : s.Awaits call command) (outcome : Settlement Failure (List Byte)) :
    (s.concluded outcome .ready).Answered call outcome := by
  obtain ⟨record, entry, unanswered⟩ := Option.map_eq_some_iff.mp awaits.unanswered
  refine ⟨?_, rfl, rfl, rfl, rfl, rfl⟩
  have settled := Table.adjust_self
    (fun record : PerformCall => { record with settlements := record.settlements ++ [outcome] }) entry
  simp only [concluded, clearPendingState, clearTimeout, settleResponse, awaits.pendingResponse]
  by_cases timed : s.pendingTimeout = some call
  · rw [timed, Table.adjust_self _ settled]
    simp [unanswered]
  · rw [Table.adjust_of_ne _ _ timed, settled]
    simp [unanswered]

/-- The exception code decides between the two error classes. -/
theorem buildModbusException_code {command : DeviceCommand} {frame : List Byte}
    (exception : command.isExceptionResponse frame = true) :
    ∃ code : Byte, frame[2]? = some code ∧
      buildModbusException command frame =
        if code = 5#8 then .deviceBusyError (exceptionMessage command 5) 5
        else .modbusError (exceptionMessage command code.toNat) code.toNat := by
  obtain ⟨length, _⟩ := DeviceCommand.isExceptionResponse_iff.mp exception
  have within : 2 < frame.length := by simp only [length, EXCEPTION_FRAME_SIZE]; omega
  have third := List.getElem?_eq_getElem within
  have code : exceptionCode frame = (frame[2].toNat : Int) := by simp [exceptionCode, third]
  refine ⟨frame[2], third, ?_⟩
  by_cases busy : frame[2] = 5#8
  · rw [if_pos busy, buildModbusException, code, busy]
    rfl
  · have other : (frame[2].toNat : Int) ≠ 5 := by
      intro five
      exact busy (BitVec.eq_of_toNat_eq (Int.ofNat.inj five))
    rw [if_neg busy, buildModbusException, code, if_neg other]

/-- How a frame the command accepts settles it. -/
def frameOutcome (command : DeviceCommand) (frame : List Byte) : Settlement Failure (List Byte) :=
  if command.isExceptionResponse frame then .rejected (buildModbusException command frame)
  else .fulfilled frame

theorem verdict_frameOutcome {command : DeviceCommand} {frame : List Byte}
    (accepted : command.Accepts frame) :
    command.verdict frame = some (frameOutcome command frame, .ready) := by
  by_cases exception : command.isExceptionResponse frame = true
  · rw [DeviceCommand.verdict_exception exception, frameOutcome, if_pos exception]
  · rw [DeviceCommand.verdict_valid (accepted.resolve_right exception), frameOutcome,
      if_neg exception]

/-- Reassembly under arbitrary chunking. While the chunks received so far do
not yet contain the whole frame they are buffered and nothing else changes; the
chunk that completes it settles the command once, with the frame itself or with
the error its exception code stands for; whatever arrives afterwards is
ignored. -/
theorem handleNotification_reassembles {s : DeviceSession} {call : CallId}
    {command : DeviceCommand} {frame : List Byte} {chunks : List (List Byte)}
    (awaits : s.Awaits call command) (empty : s.responseBuffer = [])
    (accepted : command.Accepts frame) (split : chunks.flatten = frame)
    (modbus : ∀ chunk ∈ chunks, isAsciiControlMessage chunk = false) :
    (∀ before after, chunks = before ++ after → before.flatten ≠ frame →
      before.foldl handleNotification s = { s with responseBuffer := before.flatten }) ∧
    (∀ before chunk after, chunks = before ++ chunk :: after → before.flatten ≠ frame →
      (before ++ [chunk]).flatten = frame →
      ((before ++ [chunk]).foldl handleNotification s).Answered call (frameOutcome command frame) ∧
      ∀ later : List (List Byte), later.foldl handleNotification
        ((before ++ [chunk]).foldl handleNotification s) =
          (before ++ [chunk]).foldl handleNotification s) ∧
    (command.isValidResponse frame = true → frameOutcome command frame = .fulfilled frame) ∧
    (command.isExceptionResponse frame = true → ∃ code : Byte, frame[2]? = some code ∧
      frameOutcome command frame = .rejected
        (if code = 5#8 then .deviceBusyError (exceptionMessage command 5) 5
         else .modbusError (exceptionMessage command code.toNat) code.toNat)) := by
  refine ⟨?_, ?_, ?_, ?_⟩
  · intro before after parts incomplete
    have initial : before.flatten <+: frame := by
      rw [← split, parts, List.flatten_append]
      exact List.prefix_append _ _
    have buffered := handleNotification_chunks awaits accepted
      (fun chunk member => modbus chunk (by rw [parts]; exact List.mem_append_left _ member))
      (by simpa [empty] using initial) (by simpa [empty] using incomplete)
    simpa [empty] using buffered
  · intro before chunk after parts incomplete complete
    have settled := handleNotification_completes awaits empty accepted (verdict_frameOutcome accepted)
      (fun piece member => modbus piece (by
        rw [parts]
        simp only [List.mem_append, List.mem_cons] at member ⊢
        tauto)) incomplete complete
    have answered := awaits.answered (frameOutcome command frame)
    rw [settled]
    exact ⟨answered, foldl_handleNotification_idle answered.pendingResponse⟩
  · intro valid
    have plain := DeviceCommand.isValidResponse_prefix_not_exception valid (List.prefix_refl frame)
    simp [frameOutcome, plain]
  · intro exception
    obtain ⟨code, third, error⟩ := buildModbusException_code exception
    exact ⟨code, third, by rw [frameOutcome, if_pos exception, error]⟩

/-- The echo of a switch command, delivered in three chunks of which one is
empty. -/
theorem handleNotification_reassembles_echo :
    ([[1#8, 6#8, 11#8], [], [191#8, 0#8, 1#8, 123#8, 202#8]].foldl handleNotification
      ((opened "AA:BB:CC:DD:EE:FF" 10000 []).perform 0 (.writeSingleRegister ⟨3007#16, 1#16⟩))).Answered 0
        (.fulfilled [1#8, 6#8, 11#8, 191#8, 0#8, 1#8, 123#8, 202#8]) := by
  have valid : (DeviceCommand.writeSingleRegister ⟨3007#16, 1#16⟩).isValidResponse
      [1#8, 6#8, 11#8, 191#8, 0#8, 1#8, 123#8, 202#8] = true := by decide +kernel
  obtain ⟨awaits, empty⟩ := perform_awaits
    (s := opened "AA:BB:CC:DD:EE:FF" 10000 []) rfl 0 (.writeSingleRegister ⟨3007#16, 1#16⟩)
  have split : [[1#8, 6#8, 11#8], [], [191#8, 0#8, 1#8, 123#8, 202#8]].flatten =
      [1#8, 6#8, 11#8, 191#8, 0#8, 1#8, 123#8, 202#8] := rfl
  obtain ⟨_, completes, resolves, _⟩ := handleNotification_reassembles awaits empty (Or.inl valid) split
    (by decide)
  rw [← resolves valid]
  exact (completes [[1#8, 6#8, 11#8], []] _ [] rfl (by decide) rfl).1

end DeviceSession

end BluettiMqtt
