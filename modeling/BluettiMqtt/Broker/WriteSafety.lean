import BluettiMqtt.Broker.MqttBridge
import BluettiMqtt.Broker.PayloadRoundTrip
import BluettiMqtt.Library.Transition
import Mathlib.Data.List.TakeDrop

namespace BluettiMqtt
open Promise Transition

/-- A write that is safe for the device: it goes to a writable register of a
field of that name, its word is the integer that the value stands for there, and
a boolean field gets a boolean word. -/
def SafeWrite (device : BluettiDevice) (fieldName : String) (value : CommandValue)
    (command : WriteSingleRegister) : Prop :=
  ∃ field ∈ device.struct.fields, field.name = fieldName ∧ field.address = command.address.toNat ∧
    isAddressWritable field.address device.writableRanges = true ∧
    (∃ number, BluettiDevice.encodedValue fieldName field value = .ok (.number number) ∧
      number.integer? = some (command.value.toNat : Int) ∧ command.value.toNat ≤ 0xffff) ∧
    (field.kind = .bool → command.value.toNat = 0 ∨ command.value.toNat = 1)

/-- A message that the topic asks for: the topic names the device by its key,
and the field, and the device has been seen in a parser message. -/
def Answers (b : MqttBridge) (topic : String) (payload : List Byte) (start : List Char → Prop)
    (message : CommandMessage) : Prop :=
  ∃ literal fieldName, start literal ∧
    topic = String.ofList literal ++ deviceKey message.device ++ "/" ++ fieldName ∧
    message.device ∈ b.seen ∧
    SafeWrite message.device fieldName
      (parseCommandValue (trim (String.ofList (utf8Text none (payload.map BitVec.toNat))))) message.command

theorem expectUint16_ok {value : Operand} {word : BitVec 16} (accepted : expectUint16 value = .ok word) :
    ∃ number, value = .number number ∧ number.integer? = some (word.toNat : Int) := by
  unfold expectUint16 at accepted
  split at accepted
  · rename_i number
    split at accepted
    · rename_i integer whole
      split at accepted
      · rename_i bounds
        cases accepted
        refine ⟨number, rfl, ?_⟩
        have small : integer.toNat < 2 ^ 16 := by omega
        rw [whole, BitVec.toNat_ofNat, Nat.mod_eq_of_lt small, Int.toNat_of_nonneg bounds.1]
      · cases accepted
    · cases accepted
  · cases accepted

theorem encodedValue_bool {fieldName : String} {field : DeviceField} {value : CommandValue} {encoded : Operand}
    (kind : field.kind = .bool) (encodes : BluettiDevice.encodedValue fieldName field value = .ok encoded) :
    encoded = .number (.ofInt 0) ∨ encoded = .number (.ofInt 1) := by
  unfold BluettiDevice.encodedValue at encodes
  rw [kind] at encodes
  cases value with
  | boolean flag =>
    cases encodes
    cases flag
    · exact Or.inl rfl
    · exact Or.inr rfl
  | number => cases encodes
  | string => cases encodes

/-- A setter command is safe, whatever value it is given. -/
theorem buildSetterCommand_safe {device : BluettiDevice} {fieldName : String} {value : CommandValue}
    {command : WriteSingleRegister} (built : device.buildSetterCommand fieldName value = .ok command) :
    SafeWrite device fieldName value command := by
  unfold BluettiDevice.buildSetterCommand at built
  split at built
  · cases built
  · rename_i field found
    have settable := List.find?_some found
    rw [BluettiDevice.settable, Bool.and_eq_true, decide_eq_true_eq] at settable
    cases encodes : BluettiDevice.encodedValue fieldName field value with
    | error error =>
      rw [encodes] at built
      cases built
    | ok encoded =>
      rw [encodes] at built
      simp only [bind, Except.bind, WriteSingleRegister.create] at built
      cases target : expectUint16 (.number (.ofInt field.address)) with
      | error error =>
        rw [target] at built
        cases built
      | ok address =>
        cases word : expectUint16 encoded with
        | error error =>
          rw [target, word] at built
          cases built
        | ok word' =>
          rw [target, word] at built
          cases built
          obtain ⟨number, same, whole⟩ := expectUint16_ok target
          cases same
          rw [Number.integer?_ofInt] at whole
          have address_eq : field.address = address.toNat := by exact_mod_cast Option.some.inj whole
          obtain ⟨number, rfl, whole⟩ := expectUint16_ok word
          have narrow : word'.toNat ≤ 0xffff := Nat.le_of_lt_succ word'.isLt
          refine ⟨field, List.mem_of_find?_eq_some found, settable.1, address_eq, settable.2,
            ⟨number, encodes, whole, narrow⟩, fun kind => ?_⟩
          rcases encodedValue_bool kind encodes with same | same
          · cases same
            rw [Number.integer?_ofInt] at whole
            left
            exact_mod_cast (Option.some.inj whole).symm
          · cases same
            rw [Number.integer?_ofInt] at whole
            right
            exact_mod_cast (Option.some.inj whole).symm

/-- What is published for a device is safe for it. -/
theorem incomingCommand_some {device : BluettiDevice} {fieldName text : String} {message : CommandMessage}
    (published : (do
      let command ← incomingCommand device fieldName text
      return command.map fun command => { device := device, command := command }) =
        (.ok (some message) : Except Failure (Option CommandMessage))) :
    ∃ command, SafeWrite device fieldName (parseCommandValue (trim text)) command ∧ message = { device := device, command := command } := by
  unfold incomingCommand at published
  split at published
  · cases built : device.buildSetterCommand fieldName (parseCommandValue (trim text)) with
    | error error =>
      rw [built] at published
      cases published
    | ok command =>
      rw [built] at published
      cases published
      exact ⟨command, buildSetterCommand_safe built, rfl⟩
  · cases published

theorem head_drop {c : Char} {text : List Char} (first : text.head? = some c) : c :: text.drop 1 = text := by
  cases text with
  | nil => cases first
  | cons other rest =>
    cases first
    rfl

/-- The groups of a matched topic make up the topic. -/
theorem COMMAND_TOPIC_eq {topic model serialNumber fieldName : String}
    (matched : COMMAND_TOPIC topic = some (model, serialNumber, fieldName)) :
    ∃ literal, literal.map Char.toLower = COMMAND_TOPIC_START ∧
      topic = String.ofList literal ++ (model ++ "-" ++ serialNumber) ++ "/" ++ fieldName := by
  unfold COMMAND_TOPIC at matched
  simp only [List.span_eq_takeWhile_dropWhile] at matched
  obtain ⟨⟨start, _, dash, _, slash, _, _⟩, groups⟩ := Option.ite_none_right_eq_some.mp matched
  simp only [Option.some.injEq, Prod.mk.injEq] at groups
  obtain ⟨rfl, rfl, rfl⟩ := groups
  refine ⟨_, start, String.ext ?_⟩
  simp only [String.toList_append, String.toList_ofList]
  generalize COMMAND_TOPIC_START.length = size at *
  have whole := List.take_append_drop size topic.toList
  have afterModel := List.takeWhile_append_dropWhile (p := Char.isAlphanum) (l := topic.toList.drop size)
  generalize (topic.toList.drop size).dropWhile Char.isAlphanum = rest at *
  have afterSerial := List.takeWhile_append_dropWhile (p := Char.isDigit) (l := rest.drop 1)
  generalize (rest.drop 1).dropWhile Char.isDigit = last at *
  have dashed := head_drop dash
  have slashed := head_drop slash
  calc topic.toList
      = topic.toList.take size ++ ((topic.toList.drop size).takeWhile Char.isAlphanum ++ rest) := by
        rw [afterModel, whole]
    _ = topic.toList.take size ++ ((topic.toList.drop size).takeWhile Char.isAlphanum ++
          '-' :: ((rest.drop 1).takeWhile Char.isDigit ++ '/' :: last.drop 1)) := by
        rw [slashed, afterSerial, dashed]
    _ = _ := by simp

section Reach

variable {b c : MqttBridge} {trace : List BridgeEvent}

/-- Every device in the map is filed under its own key and has been seen. -/
def Filed (b : MqttBridge) : Prop :=
  ∀ key device, b.devices key = some device → deviceKey device = key ∧ device ∈ b.seen

theorem handleIncomingCommand_devices (b : MqttBridge) (topic : String) (payload : List Byte) :
    (b.handleIncomingCommand topic payload).devices = b.devices ∧
      (b.handleIncomingCommand topic payload).seen = b.seen := by
  unfold MqttBridge.handleIncomingCommand
  split <;> exact ⟨rfl, rfl⟩

theorem handleIncomingCommands_devices (listeners : List Nat) (b : MqttBridge) (topic : String)
    (payload : List Byte) :
    (listeners.foldl (fun b _ => b.handleIncomingCommand topic payload) b).devices = b.devices ∧
      (listeners.foldl (fun b _ => b.handleIncomingCommand topic payload) b).seen = b.seen := by
  induction listeners generalizing b with
  | nil => exact ⟨rfl, rfl⟩
  | cons listener rest ih =>
    obtain ⟨devices, seen⟩ := handleIncomingCommand_devices b topic payload
    rw [List.foldl_cons, ← devices, ← seen]
    exact ih _

theorem subscribed_devices (b : MqttBridge) (call client : Nat) (onError offError : Option Failure)
    (result : Settlement Failure Unit) :
    (b.subscribed call client onError offError result).devices = b.devices ∧
      (b.subscribed call client onError offError result).seen = b.seen := by
  cases result with
  | fulfilled =>
    cases onError with
    | none => exact ⟨rfl, rfl⟩
    | some error => exact MqttBridge.cleanupClient_devices _ call client (some error) offError
  | rejected error => exact b.cleanupClient_devices call client (some error) offError

/-- What a step does to the map of devices. -/
theorem devices_step {event : BridgeEvent} (run : b.step event = some c) :
    c.devices = b.devices ∧ c.seen = b.seen ∨
      ∃ device, c.devices = b.devices.insert (deviceKey device) device ∧ c.seen = b.seen ++ [device] := by
  cases event with
  | run call =>
    obtain ⟨_, run⟩ := Option.ite_none_right_eq_some.mp run
    cases run
    left
    unfold MqttBridge.run
    split <;> exact ⟨rfl, rfl⟩
  | connected call result =>
    simp only [MqttBridge.step] at run
    split at run
    · obtain ⟨_, run⟩ := Option.ite_none_right_eq_some.mp run
      cases run
      exact Or.inl ⟨rfl, rfl⟩
    · cases run
      exact Or.inl ⟨rfl, rfl⟩
    · cases run
  | subscribed call result onError offError =>
    simp only [MqttBridge.step] at run
    split at run
    · cases run
      exact Or.inl (subscribed_devices b call _ onError offError result)
    · cases run
  | stop call offError =>
    obtain ⟨_, run⟩ := Option.ite_none_right_eq_some.mp run
    cases run
    left
    unfold MqttBridge.stop
    split
    · exact ⟨rfl, rfl⟩
    · exact b.cleanupClient_devices call _ none offError
  | ended call result =>
    simp only [MqttBridge.step] at run
    split at run
    · cases run
      exact Or.inl ⟨rfl, rfl⟩
    · cases run
  | parserMessage device =>
    cases run
    unfold MqttBridge.handleParserMessage
    split
    · exact Or.inr ⟨device, rfl, rfl⟩
    · exact Or.inl ⟨rfl, rfl⟩
  | message client topic payload =>
    simp only [MqttBridge.step] at run
    split at run
    · cases run
      exact Or.inl (handleIncomingCommands_devices _ b topic payload)
    · cases run

theorem Filed.step {event : BridgeEvent} (filed : Filed b) (run : b.step event = some c) : Filed c := by
  rcases devices_step run with ⟨devices, seen⟩ | ⟨added, devices, seen⟩
  · intro key device entry
    rw [devices] at entry
    rw [seen]
    exact filed key device entry
  · intro key device entry
    rw [devices] at entry
    rw [seen]
    rcases Table.insert_eq_some.mp entry with ⟨rfl, rfl⟩ | ⟨_, entry⟩
    · exact ⟨rfl, List.mem_append_right _ List.mem_cons_self⟩
    · obtain ⟨same, member⟩ := filed key device entry
      exact ⟨same, List.mem_append_left _ member⟩

theorem filed_of_reach (reach : Reach MqttBridge.step (fun _ _ => True) .create trace b) : Filed b :=
  reach.invariant (P := Filed) (fun _ _ entry => nomatch entry) fun _ _ _ filed _ run => filed.step run

/-- Whatever topic and payload arrive, at most one command is published, and
nothing else changes. The command is a safe write to the device and the field
that the topic names, whose literal part may be in either case. -/
theorem incoming_command_is_safe (reach : Reach MqttBridge.step (fun _ _ => True) .create trace b)
    (topic : String) (payload : List Byte) :
    b.handleIncomingCommand topic payload = b ∨
      ∃ message, b.handleIncomingCommand topic payload = { b with published := b.published ++ [message] } ∧
        Answers b topic payload (fun literal => literal.map Char.toLower = COMMAND_TOPIC_START) message := by
  have filed := filed_of_reach reach
  unfold MqttBridge.handleIncomingCommand
  split
  · rename_i message published
    refine Or.inr ⟨message, rfl, ?_⟩
    unfold MqttBridge.incomingMessage at published
    split at published
    · cases published
    · rename_i model serialNumber fieldName matched
      split at published
      · cases published
      · rename_i device entry
        obtain ⟨key, seen⟩ := filed _ device entry
        obtain ⟨literal, start, whole⟩ := COMMAND_TOPIC_eq matched
        obtain ⟨command, accepted, rfl⟩ := incomingCommand_some published
        rw [← key] at whole
        exact ⟨literal, fieldName, start, whole, seen, accepted⟩
  · exact Or.inl rfl
  · exact Or.inl rfl

end Reach

/-- The bridge runs and has seen a station of the model EB3A. -/
def stationSeen : List BridgeEvent :=
  [.run 0, .connected 0 (.fulfilled 0), .subscribed 0 (.fulfilled ()) none none, .parserMessage BluettiDevice.sampleEb3a]

theorem incoming_command_is_safe_on : ∃ b message, Reach MqttBridge.step (fun _ _ => True) .create stationSeen b ∧
    message.command = { address := 3007, value := 1 } ∧
    b.handleIncomingCommand "bluetti/command/EB3A-2237000003358/ac_output_on" [0x4f#8, 0x4e#8] =
      { b with published := b.published ++ [message] } ∧
    Answers b "bluetti/command/EB3A-2237000003358/ac_output_on" [0x4f#8, 0x4e#8]
      (fun literal => literal.map Char.toLower = COMMAND_TOPIC_START) message := by
  have run : (stationSeen.foldlM MqttBridge.step .create).any (fun b => b.published = [] ∧
      (b.handleIncomingCommand "bluetti/command/EB3A-2237000003358/ac_output_on" [0x4f#8, 0x4e#8]).published =
        [⟨BluettiDevice.sampleEb3a, { address := 3007, value := 1 }⟩]) = true := by
    decide +kernel
  obtain ⟨b, reach, found⟩ := Reach.of_foldlM (fun _ _ _ => trivial) run
  obtain ⟨before, after⟩ := of_decide_eq_true found
  rcases incoming_command_is_safe reach "bluetti/command/EB3A-2237000003358/ac_output_on" [0x4f#8, 0x4e#8] with
    same | ⟨message, published, answers⟩
  · rw [same, before] at after
    cases after
  · rw [published, before] at after
    cases after
    exact ⟨b, _, reach, rfl, published, answers⟩

/-- The literal part of the topic is not compared exactly. -/
theorem upper_case_topic_accepted : ¬∀ trace b topic payload,
    Reach MqttBridge.step (fun _ _ => True) .create trace b →
      b.handleIncomingCommand topic payload = b ∨
        ∃ message, b.handleIncomingCommand topic payload = { b with published := b.published ++ [message] } ∧
          Answers b topic payload (fun literal => literal = COMMAND_TOPIC_START) message := by
  intro exact
  have run : (stationSeen.foldlM MqttBridge.step .create).any (fun b => b.published = [] ∧
      (b.handleIncomingCommand "Bluetti/Command/EB3A-2237000003358/ac_output_on" [0x4f#8, 0x4e#8]).published ≠
        []) = true := by
    decide +kernel
  obtain ⟨b, reach, found⟩ := Reach.of_foldlM (fun _ _ _ => trivial) run
  obtain ⟨before, after⟩ := of_decide_eq_true found
  rcases exact _ b "Bluetti/Command/EB3A-2237000003358/ac_output_on" [0x4f#8, 0x4e#8] reach with
    same | ⟨message, _, literal, fieldName, start, whole, _⟩
  · rw [same] at after
    exact after before
  · have first := congrArg (fun text => text.toList.head?) whole
    subst start
    simp only [String.toList_append, String.toList_ofList] at first
    change _ = some 'b' at first
    exact absurd first (by decide)

end BluettiMqtt
