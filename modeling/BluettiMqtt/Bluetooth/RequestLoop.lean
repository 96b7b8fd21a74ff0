import BluettiMqtt.Bluetooth.OutputLock
import BluettiMqtt.Bluetooth.RequestLines

namespace BluettiMqtt
open Promise

namespace Native

/-- What a call of the system returns. -/
inductive SystemResult
  | devices (results : List ScanDevice)
  | opened (sessionId name : String)
  | data (bytes : List Byte)
  | done

/-- The response to a call, when the system has returned what it returns for such calls. -/
def NativeCall.answer : NativeCall → SystemResult → Option Answer
  | .ping, .done => some .ok
  | .scan _, .devices results => some (.devices results)
  | .connect addressText, .opened sessionId name => some (.connected sessionId addressText name)
  | .disconnect _, .done => some .ok
  | .readCharacteristic _ _, .data bytes => some (.data bytes)
  | .writeCharacteristic _ _ _ _, .done => some .ok
  | .subscribe _ _, .done => some .ok
  | _, _ => none

/-- The message of an exception; `text` is what the exceptions of .NET itself say. -/
def Exception.message (text : String) : Exception → String
  | .thrown message => message
  | .invalidOperation => text
  | .format => text

/-- What is written about a line that asks nothing of the system. -/
def Outcome.refusal (text : String) : Outcome → Option Message
  | .invalidJson => some (.error none "invalid_json" text)
  | .invalidRequest => some (.error none "invalid_request" "Request payload was empty.")
  | .unsupported id command =>
    let name := command.getD ""
    some (.error id "unsupported_command" s!"Unsupported command '{name}'.")
  | .failed id exception => some (.error id "command_failed" (exception.message text))
  | .call _ _ => none

/-- What has been done about a line: what it asked for, what the system returned or threw,
and the message that is written. -/
structure Service where
  outcome : Outcome
  result : Option (Settlement String SystemResult)
  message : Message

/-- The loop of `RunAsync` with the keys of `_connections`, and the call that it awaits.
`served` (oldest first) is a history variable. -/
structure RequestLoop where
  connections : List String
  current : Option (Option String × NativeCall)
  served : List Service

namespace RequestLoop

def create : RequestLoop where
  connections := []
  current := none
  served := []

/-- The message for a line is known. -/
def finish (h : RequestLoop) (service : Service) : RequestLoop :=
  { h with current := none, served := h.served ++ [service] }

/-- The loop on a line, up to its first `await`. -/
def read (h : RequestLoop) (text : String) (line : List Char) : RequestLoop :=
  let outcome := processLine (fun sessionId => sessionId ∈ h.connections) line
  match outcome with
  | .call id .ping => h.finish ⟨outcome, some (.fulfilled .done), .response id .ok⟩
  | .call id (.disconnect sessionId) =>
    if sessionId ∈ h.connections then
      { h with
        connections := h.connections.filter (· ≠ sessionId)
        current := some (id, .disconnect sessionId) }
    else h.finish ⟨outcome, some (.fulfilled .done), .response id .ok⟩
  | .call id call => { h with current := some (id, call) }
  | refused =>
    match refused.refusal text with
    | some message => h.finish ⟨outcome, none, message⟩
    | none => h

/-- `_connections` after a call has returned. -/
def connectionsAfter (connections : List String) (call : NativeCall) (result : SystemResult) : List String :=
  match call, result with
  | .connect _, .opened sessionId _ => if sessionId ∈ connections then connections else connections ++ [sessionId]
  | _, _ => connections

/-- The system returns or throws. -/
def returned (h : RequestLoop) : Settlement String SystemResult → Option RequestLoop
  | .fulfilled result =>
    match h.current with
    | some (id, call) =>
      (call.answer result).map fun answer =>
        { h with connections := connectionsAfter h.connections call result }.finish
          ⟨.call id call, some (.fulfilled result), .response id answer⟩
    | none => none
  | .rejected message =>
    h.current.map fun (id, call) =>
      h.finish ⟨.call id call, some (.rejected message), .error id "command_failed" message⟩

end RequestLoop

/-- What a service is to a line that came to this. -/
inductive Service.Serves (outcome : Outcome) : Service → Prop
  | refused {text message} : outcome.refusal text = some message → Serves outcome ⟨outcome, none, message⟩
  | answered {id call result answer} : outcome = .call id call → call.answer result = some answer →
      Serves outcome ⟨outcome, some (.fulfilled result), .response id answer⟩
  | failed {id call message} : outcome = .call id call →
      Serves outcome ⟨outcome, some (.rejected message), .error id "command_failed" message⟩

/-- The open sessions after a service. Disconnecting closes a session in any case. -/
def Service.sessions (known : List String) (service : Service) : List String :=
  match service.outcome, service.result with
  | .call _ (.disconnect sessionId), _ => known.filter (· ≠ sessionId)
  | .call _ call, some (.fulfilled result) => RequestLoop.connectionsAfter known call result
  | _, _ => known

def openSessions (served : List Service) : List String :=
  served.foldl Service.sessions []

theorem openSessions_append (served : List Service) (service : Service) :
    openSessions (served ++ [service]) = service.sessions (openSessions served) := by
  rw [openSessions, List.foldl_append]
  rfl

/-- Services of entries in order, each over the sessions that the earlier ones have left
open; `process` says what an entry comes to. -/
inductive History {α : Type*} (process : (String → Bool) → α → Outcome) : List α → List Service → Prop
  | start : History process [] []
  | next {entries served entry service} : History process entries served →
      service.Serves (process (fun sessionId => sessionId ∈ openSessions served) entry) →
      History process (entries ++ [entry]) (served ++ [service])

section Histories

variable {α β : Type*} {process : (String → Bool) → α → Outcome} {entries : List α} {served : List Service}

theorem History.length_eq (history : History process entries served) : entries.length = served.length := by
  induction history with
  | start => rfl
  | next _ _ ih => rw [List.length_append, List.length_append, ih, List.length_singleton, List.length_singleton]

/-- The service of an entry, after earlier ones. -/
theorem History.serves {service : Service} (history : History process entries served) (member : service ∈ served) :
    ∃ entry ∈ entries, ∃ earlier, earlier ++ [service] <+: served ∧
      service.Serves (process (fun sessionId => sessionId ∈ openSessions earlier) entry) := by
  induction history with
  | start => cases member
  | @next entries served entry last _ serves ih =>
    rcases List.mem_append.mp member with before | here
    · obtain ⟨other, among, earlier, initial, serves⟩ := ih before
      exact ⟨other, List.mem_append_left _ among, earlier, initial.trans (List.prefix_append _ _), serves⟩
    · cases List.mem_singleton.mp here
      exact ⟨entry, List.mem_append_right _ (List.mem_singleton.mpr rfl), served, List.prefix_refl _, serves⟩

/-- Entries that come to the same. -/
theorem History.of_map {other : (String → Bool) → β → Outcome} {f : β → α}
    (same : ∀ known entry, process known (f entry) = other known entry) {sources : List β}
    (history : History process (sources.map f) served) : History other sources served := by
  generalize mapped : sources.map f = entries at history
  induction history generalizing sources with
  | start =>
    cases List.map_eq_nil_iff.mp mapped
    exact .start
  | @next entries served entry service _ serves ih =>
    obtain ⟨first, last, rfl, earlier, final⟩ := List.map_eq_append_iff.mp mapped
    obtain ⟨source, rfl, rfl⟩ := List.map_eq_singleton_iff.mp final
    exact .next (ih earlier) (same _ source ▸ serves)

end Histories

section Messages

variable {id other : Option String} {asked : Except Exception NativeCall} {service : Service}

/-- A response to a request is for what the system has returned. -/
theorem Service.Serves.response (serves : service.Serves (.of id asked)) {answer : Answer}
    (message : service.message = .response other answer) : other = id ∧ ∃ call result, asked = .ok call ∧
      call.answer result = some answer ∧ service = ⟨.call id call, some (.fulfilled result), .response id answer⟩ := by
  cases asked with
  | ok call =>
    cases serves with
    | refused refusal => cases refusal
    | answered came answered =>
      cases came
      cases message
      exact ⟨rfl, call, _, rfl, answered, rfl⟩
    | failed came => cases message
  | error exception =>
    cases serves with
    | refused refusal =>
      cases refusal
      cases message
    | answered came answered => cases came
    | failed came => cases came

/-- An error for a request has its id. -/
theorem Service.Serves.error (serves : service.Serves (.of id asked)) {code text : String}
    (message : service.message = .error other code text) : other = id := by
  cases asked with
  | ok call =>
    cases serves with
    | refused refusal => cases refusal
    | answered came answered => cases message
    | failed came =>
      cases came
      cases message
      rfl
  | error exception =>
    cases serves with
    | refused refusal =>
      cases refusal
      cases message
      rfl
    | answered came answered => cases came
    | failed came => cases came

end Messages

namespace RequestLoop

/-- The sessions of a loop that has served so much and awaits a call. -/
def awaitingSessions (served : List Service) : Option (Option String × NativeCall) → List String
  | some (_, .disconnect sessionId) => (openSessions served).filter (· ≠ sessionId)
  | _ => openSessions served

/-- The loop serves the lines in order, and is about the next one if it awaits a call. -/
structure Sequential (lines : List (List Char)) (h : RequestLoop) : Prop where
  history : History processLine (lines.take h.served.length) h.served
  current : ∀ id call, h.current = some (id, call) → ∃ line, lines[h.served.length]? = some line ∧
    processLine (fun sessionId => sessionId ∈ openSessions h.served) line = .call id call
  connections : h.connections = awaitingSessions h.served h.current

variable {lines : List (List Char)} {h k : RequestLoop} {line : List Char}

theorem sequential_create (lines : List (List Char)) : create.Sequential lines where
  history := .start
  current := by simp [create]
  connections := rfl

theorem Sequential.longer (sequential : h.Sequential lines) {more : List (List Char)} (longer : lines <+: more) :
    h.Sequential more := by
  obtain ⟨rest, rfl⟩ := longer
  refine ⟨?_, fun id call awaited => ?_, sequential.connections⟩
  · have inside : h.served.length ≤ lines.length := by
      have length := sequential.history.length_eq
      rw [List.length_take] at length
      omega
    rw [List.take_append_of_le_length inside]
    exact sequential.history
  · obtain ⟨line, found, processed⟩ := sequential.current id call awaited
    obtain ⟨inside, _⟩ := List.getElem?_eq_some_iff.mp found
    exact ⟨line, (List.getElem?_append_left inside).trans found, processed⟩

theorem Sequential.finish (sequential : h.Sequential lines) {service : Service} (next : lines[h.served.length]? = some line)
    (serves : service.Serves (processLine (fun sessionId => sessionId ∈ openSessions h.served) line))
    {connections : List String} (sessions : connections = service.sessions (openSessions h.served)) :
    ({ h with connections := connections }.finish service).Sequential lines where
  history := by
    change History processLine (lines.take (h.served ++ [service]).length) (h.served ++ [service])
    rw [List.length_append, List.length_singleton, List.take_add_one, next]
    exact .next sequential.history serves
  current := by simp [RequestLoop.finish]
  connections := by
    change connections = openSessions (h.served ++ [service])
    rw [openSessions_append, sessions]

/-- The loop begins to await a call that leaves the sessions as they are. -/
theorem Sequential.await (sequential : h.Sequential lines) {id : Option String} {call : NativeCall}
    (next : lines[h.served.length]? = some line)
    (processed : processLine (fun sessionId => sessionId ∈ openSessions h.served) line = .call id call)
    {connections : List String} (sessions : connections = awaitingSessions h.served (some (id, call))) :
    Sequential lines { h with connections := connections, current := some (id, call) } where
  history := sequential.history
  current other asked awaited := by
    cases awaited
    exact ⟨line, next, processed⟩
  connections := sessions

theorem Sequential.read (sequential : h.Sequential lines) (idle : h.current = none) (text : String)
    (next : lines[h.served.length]? = some line) : (h.read text line).Sequential lines := by
  have known : h.connections = openSessions h.served := by
    have connections := sequential.connections
    rwa [idle] at connections
  have finish {service : Service}
      (serves : service.Serves (processLine (fun sessionId => sessionId ∈ openSessions h.served) line))
      (kept : service.sessions (openSessions h.served) = openSessions h.served) : (h.finish service).Sequential lines :=
    sequential.finish next serves (known.trans kept.symm)
  have refused {message : Message} {outcome : Outcome}
      (processed : processLine (fun sessionId => sessionId ∈ openSessions h.served) line = outcome)
      (refusal : outcome.refusal text = some message)
      (kept : (Service.mk outcome none message).sessions (openSessions h.served) = openSessions h.served) :
      (h.finish ⟨outcome, none, message⟩).Sequential lines :=
    finish (by rw [processed]; exact .refused refusal) kept
  rw [RequestLoop.read, known]
  cases processed : processLine (fun sessionId => sessionId ∈ openSessions h.served) line with
  | invalidJson => exact refused processed rfl rfl
  | invalidRequest => exact refused processed rfl rfl
  | unsupported id command => exact refused processed rfl rfl
  | failed id exception => exact refused processed rfl rfl
  | call id call =>
    have await (same : openSessions h.served = awaitingSessions h.served (some (id, call))) :
        Sequential lines { h with connections := openSessions h.served, current := some (id, call) } :=
      sequential.await next processed same
    cases call with
    | ping => exact finish (by rw [processed]; exact .answered rfl rfl) rfl
    | disconnect sessionId =>
      by_cases member : sessionId ∈ openSessions h.served
      · simp only [if_pos member]
        exact sequential.await next processed rfl
      · simp only [if_neg member]
        refine finish (by rw [processed]; exact .answered rfl rfl) (List.filter_eq_self.mpr fun other held => ?_)
        exact decide_eq_true fun same => member (same ▸ held)
    | scan timeoutMs => exact await rfl
    | connect addressText => exact await rfl
    | readCharacteristic sessionId uuid => exact await rfl
    | writeCharacteristic sessionId uuid data withoutResponse => exact await rfl
    | subscribe sessionId uuid => exact await rfl

/-- What the loop holds after a call is what the service says. -/
theorem sessions_returned (served : List Service) (id : Option String) (call : NativeCall) (result : SystemResult)
    (message : Message) : connectionsAfter (awaitingSessions served (some (id, call))) call result =
      (Service.mk (.call id call) (some (.fulfilled result)) message).sessions (openSessions served) := by
  cases call <;> rfl

theorem sessions_failed (served : List Service) (id : Option String) (call : NativeCall) (reason : String)
    (message : Message) : awaitingSessions served (some (id, call)) =
      (Service.mk (.call id call) (some (.rejected reason)) message).sessions (openSessions served) := by
  cases call <;> rfl

theorem Sequential.returned (sequential : h.Sequential lines) {result : Settlement String SystemResult}
    (run : h.returned result = some k) : k.Sequential lines := by
  cases result with
  | fulfilled result =>
    simp only [RequestLoop.returned] at run
    split at run
    · next id call awaited =>
      obtain ⟨answer, answered, rfl⟩ := Option.map_eq_some_iff.mp run
      obtain ⟨line, next, processed⟩ := sequential.current id call awaited
      refine sequential.finish next (by rw [processed]; exact .answered rfl answered) ?_
      rw [sequential.connections, awaited]
      exact sessions_returned ..
    · cases run
  | rejected message =>
    obtain ⟨⟨id, call⟩, awaited, rfl⟩ := Option.map_eq_some_iff.mp run
    obtain ⟨line, next, processed⟩ := sequential.current id call awaited
    have sessions : h.connections = (Service.mk (.call id call) (some (.rejected message))
        (.error id "command_failed" message)).sessions (openSessions h.served) := by
      rw [sequential.connections, awaited]
      exact sessions_failed ..
    exact sequential.finish next (by rw [processed]; exact .failed rfl) sessions

end RequestLoop

end Native

end BluettiMqtt
