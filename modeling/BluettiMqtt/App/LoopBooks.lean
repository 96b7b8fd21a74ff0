import BluettiMqtt.App.ServerSteps
import BluettiMqtt.Library.Transition

namespace BluettiMqtt
open Promise Transition

/-- What is entered in the books of a device: a command that is written, and by its
loop the start of a cycle, a read, the end of a cycle and the schedule after a
reconnect, with the readings of the clock. -/
inductive BookEntry
  | written
  | begun (full : Bool) (startedAt : ℚ)
  | read (published : Bool) (outcome : Except Failure CommandResult) (startedAt now finishedAt : ℚ)
  | closed (cycle : PollingCycle) (busy : Bool) (clock : CycleClock)
  | rescheduled (now : ℚ)

namespace BookEntry

/-- The telemetry after an entry. -/
def count (telemetry : DeviceTelemetry) : BookEntry → DeviceTelemetry
  | .written => telemetry.countWrite
  | .begun full startedAt => telemetry.countCycle full startedAt
  | .read published outcome startedAt now finishedAt =>
    Server.countRead telemetry published outcome startedAt now finishedAt
  | .closed cycle busy clock => Server.countCycleEnd telemetry cycle busy clock
  | .rescheduled _ => telemetry

/-- The polling state after an entry. -/
def schedule (options : PollingOptions) (state : DevicePollingState) : BookEntry → DevicePollingState
  | .written => state
  | .begun _ _ => state
  | .read _ _ _ _ _ => state
  | .closed cycle busy clock =>
    let adjusted := if busy then applyBusyBackoff state options else recoverPollingState state options
    { adjusted with
      nextFastPollAt := clock.nextAt + adjusted.fastIntervalMs
      nextFullPollAt :=
        if cycle.shouldRunFull then clock.nextAt + adjusted.fullIntervalMs else adjusted.nextFullPollAt }
  | .rescheduled now => scheduleNextPoll state now

/-- The readings of the clock that an entry is computed from, in order. -/
def readings : BookEntry → List ℚ
  | .written => []
  | .begun _ startedAt => [startedAt]
  | .read _ _ startedAt now finishedAt => [startedAt, now, finishedAt]
  | .closed cycle _ clock => [cycle.cycleStartedAt, clock.completedAt, clock.nextAt]
  | .rescheduled now => [now]

/-- The readings of an entry are among the given ones and in order. -/
structure Dated (among : List ℚ) (entry : BookEntry) : Prop where
  mem : ∀ reading ∈ entry.readings, reading ∈ among
  forward : entry.readings.Pairwise (· ≤ ·)

theorem filterMap_silent {f : BookEntry → Option ℚ} {entries : List BookEntry}
    {entry : BookEntry} (silent : f entry = none) :
    (entries ++ [entry]).filterMap f = entries.filterMap f := by
  simp [silent]

theorem filterMap_noted {f : BookEntry → Option ℚ} {entries : List BookEntry}
    {entry : BookEntry} {value : ℚ} (noted : f entry = some value) :
    (entries ++ [entry]).filterMap f = entries.filterMap f ++ [value] := by
  simp [noted]

end BookEntry

/-- The readings of the clock that an event makes, in order. -/
def LoopEvent.readings : LoopEvent → List ℚ
  | .turn now cycleStartedAt => [now, cycleStartedAt]
  | .nextCommand startedAt => [startedAt]
  | .workSettled _ _ now finishedAt => [now, finishedAt]
  | .cycleEnded clock => [clock.busyAt, clock.warningAt, clock.completedAt, clock.summaryAt, clock.nextAt]
  | .replaced _ now => [now]
  | _ => []

def ServerEvent.readings : ServerEvent → List ℚ
  | .loop _ event => event.readings
  | _ => []

def clockReadings (trace : List ServerEvent) : List ℚ :=
  trace.flatMap ServerEvent.readings

/-- `Date.now()` returns whole numbers of milliseconds and never goes back. -/
structure Clocked (trace : List ServerEvent) : Prop where
  whole : ∀ reading ∈ clockReadings trace, ∃ n : ℕ, reading = n
  forward : (clockReadings trace).Pairwise (· ≤ ·)

theorem Clocked.of_numbers {trace : List ServerEvent} (whole : ∀ reading ∈ clockReadings trace, reading = reading.num.toNat)
    (forward : (clockReadings trace).Pairwise (· ≤ ·)) : Clocked trace :=
  ⟨fun reading member => ⟨_, whole reading member⟩, forward⟩

namespace Server

/-- The entry that an event of a loop makes. -/
def loopEntry (s : Server) (loop : PollingLoop) : LoopEvent → Option BookEntry
  | .turn now cycleStartedAt =>
    let state := s.getPollingState loop.address
    let shouldRunFull := decide (state.nextFullPollAt ≤ now)
    if !s.stopRequested && (shouldRunFull || decide (state.nextFastPollAt ≤ now)) then
      some (.begun shouldRunFull cycleStartedAt)
    else none
  | .workSettled published result now finishedAt =>
    match loop.phase with
    | .working _ (.read _ _ _ _ startedAt) _ => some (.read published (classify result) startedAt now finishedAt)
    | _ => none
  | .cycleEnded clock =>
    match loop.phase with
    | .cycleEnd cycle busy => some (.closed cycle busy clock)
    | _ => none
  | .replaced (.fulfilled _) now => some (.rescheduled now)
  | _ => none

/-- The entry that an event makes, with the address whose books it is in. -/
def entries (s : Server) : ServerEvent → List (String × BookEntry)
  | .loop index event =>
    match s.loops[index]? with
    | some loop => ((s.loopEntry loop event).map fun entry => (loop.address, entry)).toList
    | none => []
  | .commandWritten address => [(address, .written)]
  | _ => []

/-- The books that a run has kept. -/
def bookkeeping (initial : Server) (trace : List ServerEvent) : List (String × BookEntry) :=
  observed step entries initial trace

/-- The books of one address in the server's tables. -/
def books (s : Server) (address : String) : DevicePollingState × DeviceTelemetry :=
  (s.getPollingState address, s.getTelemetry address)

end Server

def BookEntry.enter (options : PollingOptions) (books : DevicePollingState × DeviceTelemetry) (entry : BookEntry) :
    DevicePollingState × DeviceTelemetry :=
  (entry.schedule options books.1, entry.count books.2)

/-- The instants that a phase keeps, and the delay that it sleeps, are of the
given kinds. -/
def LoopPhase.Fits (instant delay : ℚ → Prop) : LoopPhase → Prop
  | .waiting ms => delay ms
  | .command cycle _ _ _ _ ms => instant cycle.cycleStartedAt ∧ ∀ d, ms = some d → delay d
  | .queued cycle (.read _ _ _ _ startedAt) => instant cycle.cycleStartedAt ∧ instant startedAt
  | .queued cycle (.selectPack _) => instant cycle.cycleStartedAt
  | .working cycle (.read _ _ _ _ startedAt) _ => instant cycle.cycleStartedAt ∧ instant startedAt
  | .working cycle (.selectPack _) _ => instant cycle.cycleStartedAt
  | .settling cycle _ ms => instant cycle.cycleStartedAt ∧ delay ms
  | .cycleEnd cycle _ => instant cycle.cycleStartedAt
  | _ => True

namespace Server

variable {s t u : Server} {instant delay : ℚ → Prop} {index : Nat} {loop : PollingLoop} {cycle : PollingCycle}

def LoopsFit (instant delay : ℚ → Prop) (s : Server) : Prop :=
  ∀ loop ∈ s.loops, loop.phase.Fits instant delay

/-- From the first state to the second no entry has been made, and the loops
have come to phases that fit. -/
structure Passes (instant delay : ℚ → Prop) (s t : Server) : Prop where
  options : t.defaultPollingOptions = s.defaultPollingOptions
  books : t.books = s.books
  loops : LoopsFit instant delay s → LoopsFit instant delay t

namespace Passes

theorem trans (first : Passes instant delay s t) (second : Passes instant delay t u) : Passes instant delay s u :=
  ⟨second.options.trans first.options, second.books.trans first.books, fun fit => second.loops (first.loops fit)⟩

theorem setLoop (s : Server) (index : Nat) (loop : PollingLoop) {phase : LoopPhase} (fits : phase.Fits instant delay) :
    Passes instant delay s (s.setLoop index loop phase) := by
  refine ⟨rfl, rfl, fun fit other member => ?_⟩
  rcases List.mem_or_eq_of_mem_set member with old | rfl
  · exact fit other old
  · exact fits

theorem failLoop (s : Server) (index : Nat) (loop : PollingLoop) (error : Failure) :
    Passes instant delay s (s.failLoop index loop error) := by
  have moved : Passes instant delay s (s.setLoop index loop (.failed error)) := setLoop s index loop trivial
  exact ⟨rfl, rfl, moved.loops⟩

theorem setSessions (s : Server) (sessions : OrderedMap String ManagedSession) :
    Passes instant delay s { s with sessions := sessions } :=
  ⟨rfl, rfl, id⟩

theorem replaceSession (s : Server) (index : Nat) (loop : PollingLoop) :
    Passes instant delay s (s.replaceSession index loop) :=
  (show Passes instant delay s s.openTransport from ⟨rfl, rfl, id⟩).trans (setLoop _ index loop trivial)

theorem reconnect (s : Server) (index : Nat) (loop : PollingLoop) :
    Passes instant delay s (s.reconnect index loop) := by
  unfold Server.reconnect
  split
  · exact (show Passes instant delay s (s.release _) from ⟨rfl, rfl, id⟩).trans (setLoop _ index loop trivial)
  · exact replaceSession s index loop

theorem recoverDeviceConnection (s : Server) (index : Nat) (loop : PollingLoop) :
    Passes instant delay s (s.recoverDeviceConnection index loop) := by
  unfold Server.recoverDeviceConnection
  split
  · exact setLoop s index loop trivial
  · exact (show Passes instant delay s (s.record _) from ⟨rfl, rfl, id⟩).trans (reconnect _ index loop)

theorem connectionLost (s : Server) (index : Nat) (loop : PollingLoop) :
    Passes instant delay s (s.connectionLost index loop) := by
  unfold Server.connectionLost
  split
  · exact setLoop s index loop trivial
  · exact recoverDeviceConnection s index loop

theorem startWork (s : Server) (index : Nat) (loop : PollingLoop) {work : LoopWork}
    (fits : (LoopPhase.queued cycle work).Fits instant delay) :
    Passes instant delay s (s.startWork index loop cycle work) := by
  have same (thrown : Option Failure) : (LoopPhase.working cycle work thrown).Fits instant delay := by
    cases work with
    | read => exact fits
    | selectPack => exact fits
  unfold Server.startWork
  split
  · exact (show Passes instant delay s (s.record _) from ⟨rfl, rfl, id⟩).trans (setLoop _ index loop (same none))
  · exact setLoop s index loop (same _)

variable (started : instant cycle.cycleStartedAt)
include started

theorem packsReturned (s : Server) (index : Nat) (loop : PollingLoop) (result : CommandResult) :
    Passes instant delay s (s.packsReturned index loop cycle result) := by
  cases result with
  | connectionError => exact connectionLost s index loop
  | busy => exact setLoop s index loop started
  | ok => exact setLoop s index loop started
  | expectedError => exact setLoop s index loop started

theorem runPackReads (s : Server) (index : Nat) (loop : PollingLoop) (pack : Nat) :
    Passes instant delay s (s.runPackReads index loop cycle pack) := by
  unfold Server.runPackReads
  split
  · exact packsReturned started s index loop .ok
  · exact setLoop s index loop ⟨started, nofun⟩

theorem nextPack (s : Server) (index : Nat) (loop : PollingLoop) (pack : Nat) :
    Passes instant delay s (s.nextPack index loop cycle pack) := by
  unfold Server.nextPack
  split
  · exact packsReturned started s index loop .ok
  · split
    · exact setLoop s index loop started
    · exact runPackReads started s index loop pack

theorem runPackCommands (s : Server) (index : Nat) (loop : PollingLoop) :
    Passes instant delay s (s.runPackCommands index loop cycle) := by
  unfold Server.runPackCommands
  split
  · exact packsReturned started s index loop .ok
  · exact nextPack started s index loop 1

theorem commandSetReturned (s : Server) (index : Nat) (loop : PollingLoop) (set : CommandSet) (result : CommandResult) :
    Passes instant delay s (s.commandSetReturned index loop cycle set result) := by
  unfold Server.commandSetReturned
  split
  · exact connectionLost s index loop
  · exact setLoop s index loop started
  · split
    · exact runPackCommands started s index loop
    · exact setLoop s index loop started
  · exact packsReturned started s index loop .busy
  · exact nextPack started s index loop _

theorem beginCycle (s : Server) (index : Nat) (loop : PollingLoop) :
    Passes instant delay s (s.beginCycle index loop cycle) := by
  unfold Server.beginCycle
  generalize (if cycle.shouldRunFull = true then loop.device.fastPollingCommands ++ loop.device.slowPollingCommands
    else loop.device.fastPollingCommands) = commands
  cases commands with
  | nil => exact commandSetReturned started s index loop .polling .ok
  | cons command rest => exact setLoop s index loop ⟨started, nofun⟩

theorem nextCommand (s : Server) (index : Nat) (loop : PollingLoop) (set : CommandSet) (command : ReadHoldingRegisters)
    (rest : List ReadHoldingRegisters) (saw : Bool) {startedAt : ℚ} (reading : instant startedAt) :
    Passes instant delay s (s.nextCommand index loop cycle set command rest saw startedAt) := by
  unfold Server.nextCommand
  split
  · exact commandSetReturned started s index loop set _
  · exact setLoop s index loop ⟨started, reading⟩

theorem readReturned (s : Server) (index : Nat) (loop : PollingLoop) (set : CommandSet) (rest : List ReadHoldingRegisters)
    (saw : Bool) (outcome : Except Failure CommandResult)
    (pause : 0 < (s.getPollingState loop.address).commandDelayMs → delay (s.getPollingState loop.address).commandDelayMs) :
    Passes instant delay s (s.readReturned index loop cycle set rest saw outcome) := by
  unfold Server.readReturned
  split
  · exact failLoop s index loop _
  · exact commandSetReturned started s index loop set .busy
  · exact commandSetReturned started s index loop set .connectionError
  · split
    · exact commandSetReturned started s index loop set _
    · refine setLoop s index loop ⟨started, fun d same => ?_⟩
      obtain ⟨positive, same⟩ := Option.ite_none_right_eq_some.mp same
      cases same
      exact pause positive

theorem selectReturned (s : Server) (index : Nat) (loop : PollingLoop) (pack : Nat) (outcome : Except Failure CommandResult)
    (pause : delay (max MIN_PACK_SWITCH_DELAY_MS (s.getPollingState loop.address).commandDelayMs)) :
    Passes instant delay s (s.selectReturned index loop cycle pack outcome) := by
  unfold Server.selectReturned
  split
  · exact failLoop s index loop _
  · exact setLoop s index loop ⟨started, pause⟩
  · exact nextPack started s index loop _
  · exact packsReturned started s index loop .busy
  · exact packsReturned started s index loop .connectionError

end Passes

/-- The entries that are made in the books of one address. -/
def entriesAt (address : String) (made : List (String × BookEntry)) : List BookEntry :=
  (made.filter fun entry => entry.1 = address).map Prod.snd

/-- From the first state to the second the given entries have been made. -/
structure Enters (instant delay : ℚ → Prop) (s : Server) (made : List (String × BookEntry)) (t : Server) : Prop where
  options : t.defaultPollingOptions = s.defaultPollingOptions
  books : ∀ address, t.books address = (entriesAt address made).foldl (BookEntry.enter s.defaultPollingOptions) (s.books address)
  loops : LoopsFit instant delay s → LoopsFit instant delay t

theorem Passes.enters (passes : Passes instant delay s t) : Enters instant delay s [] t :=
  ⟨passes.options, fun address => congrFun passes.books address, passes.loops⟩

/-- One entry is made before the loop moves on. -/
theorem Passes.enters_one {address : String} {entry : BookEntry} (passes : Passes instant delay t u)
    (options : t.defaultPollingOptions = s.defaultPollingOptions) (loops : t.loops = s.loops)
    (here : t.books address = entry.enter s.defaultPollingOptions (s.books address))
    (others : ∀ other ≠ address, t.books other = s.books other) : Enters instant delay s [(address, entry)] u := by
  refine ⟨passes.options.trans options, fun other => ?_, fun fit => passes.loops fun loop member => fit loop (loops ▸ member)⟩
  rw [passes.books]
  by_cases same : other = address
  · subst same
    rw [here]
    simp [entriesAt]
  · rw [others other same]
    simp [entriesAt, Ne.symm same]

theorem books_setTelemetry (s : Server) (address : String) (telemetry : DeviceTelemetry) :
    (s.setTelemetry address telemetry).books address = (s.getPollingState address, telemetry) := by
  simp [books, getPollingState, getTelemetry, setTelemetry]

theorem books_setTelemetry_of_ne (s : Server) {address other : String} (telemetry : DeviceTelemetry) (apart : other ≠ address) :
    (s.setTelemetry address telemetry).books other = s.books other := by
  simp [books, getPollingState, getTelemetry, setTelemetry, Table.insert_of_ne _ _ apart]

theorem books_setPollingState (s : Server) (address : String) (state : DevicePollingState) :
    (s.setPollingState address state).books address = (state, s.getTelemetry address) := by
  simp [books, getPollingState, getTelemetry, setPollingState]

theorem books_setPollingState_of_ne (s : Server) {address other : String} (state : DevicePollingState) (apart : other ≠ address) :
    (s.setPollingState address state).books other = s.books other := by
  simp [books, getPollingState, getTelemetry, setPollingState, Table.insert_of_ne _ _ apart]

/-- The delays that an event of a loop may sleep are of the given kind. -/
structure Paces (delay : ℚ → Prop) (state : DevicePollingState) (event : LoopEvent) : Prop where
  wait : ∀ now startedAt, event = .turn now startedAt → now < state.nextFullPollAt → now < state.nextFastPollAt →
    delay (max 0 (min state.nextFastPollAt state.nextFullPollAt - now))
  pause : 0 < state.commandDelayMs → delay state.commandDelayMs
  settle : delay (max MIN_PACK_SWITCH_DELAY_MS state.commandDelayMs)

theorem turn_enters (s : Server) (index : Nat) (loop : PollingLoop) {now cycleStartedAt : ℚ}
    (reading : instant cycleStartedAt) (paces : Paces delay (s.getPollingState loop.address) (.turn now cycleStartedAt)) :
    Enters instant delay s
      ((s.loopEntry loop (.turn now cycleStartedAt)).map fun entry => (loop.address, entry)).toList
      (s.turn index loop now cycleStartedAt) := by
  unfold turn loopEntry
  cases stopped : s.stopRequested with
  | true =>
    have moved : Passes instant delay s (s.setLoop index loop .ended) := Passes.setLoop s index loop trivial
    exact moved.enters
  | false =>
    simp only [Bool.not_false, Bool.true_and, Bool.false_eq_true, if_false]
    split
    · refine (Passes.beginCycle reading _ index loop).enters_one rfl rfl ?_ fun other apart => books_setTelemetry_of_ne _ _ apart
      exact books_setTelemetry _ _ _
    · next early =>
      rw [Bool.or_eq_true, decide_eq_true_eq, decide_eq_true_eq, not_or, not_le, not_le] at early
      have moved : Passes instant delay s (s.setLoop index loop (.waiting _)) :=
        Passes.setLoop s index loop (paces.wait now cycleStartedAt rfl early.1 early.2)
      exact moved.enters

theorem workSettled_enters (s : Server) (index : Nat) (loop : PollingLoop) {work : LoopWork} {thrown : Option Failure}
    (place : loop.phase = .working cycle work thrown) (fits : loop.phase.Fits instant delay) (published : Bool)
    (result : Settlement Failure Unit) (now finishedAt : ℚ)
    (paces : Paces delay (s.getPollingState loop.address) (.workSettled published result now finishedAt)) :
    Enters instant delay s
      ((s.loopEntry loop (.workSettled published result now finishedAt)).map fun entry => (loop.address, entry)).toList
      (s.workSettled index loop cycle published result now finishedAt work) := by
  simp only [loopEntry, place]
  rw [place] at fits
  cases work with
  | read set command rest saw startedAt =>
    let counted := s.setTelemetry loop.address
      (countRead (s.getTelemetry loop.address) published (classify result) startedAt now finishedAt)
    have returned : Passes instant delay counted (counted.readReturned index loop cycle set rest saw (classify result)) :=
      Passes.readReturned fits.1 counted index loop set rest saw (classify result) paces.pause
    exact returned.enters_one rfl rfl (books_setTelemetry _ _ _) fun other apart => books_setTelemetry_of_ne _ _ apart
  | selectPack pack => exact (Passes.selectReturned fits s index loop pack _ paces.settle).enters

theorem cycleEnded_enters (s : Server) (index : Nat) (loop : PollingLoop) (cycle : PollingCycle) (busy : Bool)
    (clock : CycleClock) : Enters instant delay s [(loop.address, .closed cycle busy clock)]
      (s.cycleEnded index loop cycle busy clock) := by
  have fits : (if s.runOnce || s.stopRequested then LoopPhase.ended else .head).Fits instant delay := by
    split
    · trivial
    · trivial
  refine (Passes.setLoop _ index loop fits).enters_one rfl rfl ?_ fun other apart => ?_
  · rw [books_setTelemetry]
    cases busy <;> simp [BookEntry.enter, BookEntry.schedule, BookEntry.count, adjustPollingState, getPollingState,
      setPollingState, books]
  · rw [books_setTelemetry_of_ne _ _ apart, books_setPollingState_of_ne _ _ apart]

theorem replaced_enters (s : Server) (index : Nat) (loop : PollingLoop) (transport : Nat)
    (result : Settlement Failure String) (now : ℚ) : Enters instant delay s
      ((s.loopEntry loop (.replaced result now)).map fun entry => (loop.address, entry)).toList
      (s.replaced index loop transport now result) := by
  cases result with
  | fulfilled name =>
    let scheduled := { s with sessions := s.sessions.set loop.address { transport := transport, name := name }
      }.setPollingState loop.address (scheduleNextPoll (s.getPollingState loop.address) now)
    have moved : Passes instant delay scheduled (scheduled.setLoop index loop .head) :=
      Passes.setLoop scheduled index loop trivial
    exact moved.enters_one rfl rfl (books_setPollingState _ _ _) fun other apart => books_setPollingState_of_ne _ _ apart
  | rejected error =>
    have released : Passes instant delay s (s.release transport) := ⟨rfl, rfl, id⟩
    have moved : Passes instant delay s ((s.release transport).setLoop index loop .reconnectDelay) :=
      released.trans (Passes.setLoop _ index loop trivial)
    exact moved.enters

/-- A step of a loop makes the entry of its event, if any. -/
theorem loopStep_enters {event : LoopEvent} (run : s.loopStep index loop event = some t) (fits : loop.phase.Fits instant delay)
    (readings : ∀ reading ∈ event.readings, instant reading) (paces : Paces delay (s.getPollingState loop.address) event) :
    Enters instant delay s ((s.loopEntry loop event).map fun entry => (loop.address, entry)).toList t := by
  cases event with
  | turn now cycleStartedAt =>
    obtain ⟨_, same⟩ := Option.ite_none_right_eq_some.mp run
    cases same
    exact turn_enters s index loop (readings cycleStartedAt (by simp [LoopEvent.readings])) paces
  | waited =>
    simp only [loopStep] at run
    split at run
    · cases run
      have moved : Passes instant delay s (s.setLoop index loop .head) := Passes.setLoop s index loop trivial
      exact moved.enters
    · cases run
  | nextCommand startedAt =>
    simp only [loopStep] at run
    split at run
    · next cycle set command rest saw pause place =>
      cases run
      rw [place] at fits
      exact (Passes.nextCommand fits.1 s index loop set command rest saw (readings startedAt (by simp [LoopEvent.readings]))).enters
    · cases run
  | workStarted =>
    simp only [loopStep] at run
    split at run
    · next cycle work place =>
      cases run
      rw [place] at fits
      exact (Passes.startWork s index loop fits).enters
    · cases run
  | workSettled published result now finishedAt =>
    simp only [loopStep] at run
    split at run
    · next cycle work thrown place =>
      obtain ⟨_, same⟩ := Option.ite_none_right_eq_some.mp run
      cases same
      exact workSettled_enters s index loop place fits published result now finishedAt paces
    · cases run
  | packSettled =>
    simp only [loopStep] at run
    split at run
    · next cycle pack ms place =>
      cases run
      rw [place] at fits
      exact (Passes.runPackReads fits.1 s index loop pack).enters
    · cases run
  | cycleEnded clock =>
    simp only [loopStep] at run
    split at run
    · next cycle busy place =>
      cases run
      simp only [loopEntry, place]
      exact cycleEnded_enters s index loop cycle busy clock
    · cases run
  | oldReleased result =>
    obtain ⟨_, same⟩ := Option.ite_none_right_eq_some.mp run
    cases same
    exact ((Passes.setSessions s _).trans (Passes.replaceSession _ index loop)).enters
  | replaced result now =>
    simp only [loopStep] at run
    split at run
    · next transport place =>
      cases run
      exact replaced_enters s index loop transport result now
    · cases run
  | reconnectDelayOver =>
    obtain ⟨_, same⟩ := Option.ite_none_right_eq_some.mp run
    cases same
    exact (Passes.recoverDeviceConnection s index loop).enters

namespace Passes

theorem connectNext (s : Server) (addresses : List String) : Passes instant delay s (s.connectNext addresses) := by
  induction addresses with
  | nil => exact ⟨rfl, rfl, id⟩
  | cons address rest ih =>
    unfold Server.connectNext
    split
    · exact ih
    · exact ⟨rfl, rfl, id⟩

theorem connectAllWithRecovery (s : Server) : Passes instant delay s s.connectAllWithRecovery := by
  unfold Server.connectAllWithRecovery
  split
  · exact ⟨rfl, rfl, id⟩
  · exact (show Passes instant delay s (s.record .connectAll) from ⟨rfl, rfl, id⟩).trans (connectNext _ _)

theorem initialized (s : Server) (address : String) (rest : List String) (transport : Nat)
    (result : Settlement Failure String) : Passes instant delay s (s.initialized address rest transport result) := by
  cases result with
  | fulfilled name =>
    exact (setSessions s _).trans (connectNext _ _)
  | rejected error => exact ⟨rfl, rfl, id⟩

theorem connectAllFailed (s : Server) (error : Failure) : Passes instant delay s (s.connectAllFailed error) := by
  unfold Server.connectAllFailed
  split
  · exact ⟨rfl, rfl, id⟩
  · exact ⟨rfl, rfl, id⟩

/-- Registering a device again keeps its books. -/
theorem register (s : Server) (address : String) (device : BluettiDevice) :
    Passes instant delay s (s.register address device) := by
  refine ⟨rfl, funext fun other => ?_, id⟩
  by_cases same : other = address
  · subst same
    simp [Server.books, getPollingState, getTelemetry, Server.register]
  · simp [Server.books, getPollingState, getTelemetry, Server.register, Table.insert_of_ne _ _ same]

theorem registerDevices (s : Server) (addresses : List String) : Passes instant delay s (s.registerDevices addresses) := by
  induction addresses generalizing s with
  | nil => exact ⟨rfl, rfl, id⟩
  | cons address rest ih =>
    unfold Server.registerDevices
    split
    · exact (register s address _).trans (ih _)
    · exact connectAllFailed s _

theorem startLoops (s : Server) : Passes instant delay s s.startLoops := by
  refine ⟨rfl, rfl, fun _ loop member => ?_⟩
  obtain ⟨address, _, made⟩ := List.mem_filterMap.mp member
  obtain ⟨device, _, rfl⟩ := Option.map_eq_some_iff.mp made
  trivial

theorem disconnectNext (s : Server) (outcome : Settlement Failure Unit) :
    Passes instant delay s (s.disconnectNext outcome) := by
  unfold Server.disconnectNext
  split
  · exact ⟨rfl, rfl, id⟩
  · exact ⟨rfl, rfl, id⟩

end Passes

/-- Which entry an event of a loop makes. -/
inductive Makes (s : Server) (loop : PollingLoop) : LoopEvent → BookEntry → Prop
  | begun (now cycleStartedAt : ℚ) (full : Bool)
      (due : (if full then (s.getPollingState loop.address).nextFullPollAt
        else (s.getPollingState loop.address).nextFastPollAt) ≤ now) :
      Makes s loop (.turn now cycleStartedAt) (.begun full cycleStartedAt)
  | read (published : Bool) (outcome : Settlement Failure Unit) (now finishedAt startedAt : ℚ) {cycle : PollingCycle}
      {set : CommandSet} {command : ReadHoldingRegisters} {rest : List ReadHoldingRegisters} {saw : Bool}
      {thrown : Option Failure} (place : loop.phase = .working cycle (.read set command rest saw startedAt) thrown) :
      Makes s loop (.workSettled published outcome now finishedAt) (.read published (classify outcome) startedAt now finishedAt)
  | closed (clock : CycleClock) (cycle : PollingCycle) (busy : Bool) (place : loop.phase = .cycleEnd cycle busy) :
      Makes s loop (.cycleEnded clock) (.closed cycle busy clock)
  | rescheduled (name : String) (now : ℚ) : Makes s loop (.replaced (.fulfilled name) now) (.rescheduled now)

theorem loopEntry_makes {event : LoopEvent} {entry : BookEntry} (enters : s.loopEntry loop event = some entry) :
    Makes s loop event entry := by
  cases event with
  | turn now cycleStartedAt =>
    obtain ⟨due, same⟩ := Option.ite_none_right_eq_some.mp enters
    cases same
    refine .begun now cycleStartedAt _ ?_
    simp only [Bool.and_eq_true, Bool.or_eq_true, decide_eq_true_eq] at due ⊢
    split
    · assumption
    · exact due.2.resolve_left ‹_›
  | workSettled published outcome now finishedAt =>
    simp only [loopEntry] at enters
    split at enters
    · next place =>
      cases enters
      exact .read published outcome now finishedAt _ place
    · cases enters
  | cycleEnded clock =>
    simp only [loopEntry] at enters
    split at enters
    · next cycle busy place =>
      cases enters
      exact .closed clock cycle busy place
    · cases enters
  | replaced result now =>
    cases result with
    | fulfilled name =>
      cases enters
      exact .rescheduled name now
    | rejected error => cases enters
  | _ => cases enters

theorem entries_makes {event : ServerEvent} {address : String} {entry : BookEntry} (member : (address, entry) ∈ s.entries event) :
    (event = .commandWritten address ∧ entry = .written) ∨
      ∃ index loop happened, event = .loop index happened ∧ s.loops[index]? = some loop ∧ loop.address = address ∧
        Makes s loop happened entry := by
  cases event with
  | loop index happened =>
    simp only [entries] at member
    split at member
    · next loop current =>
      simp only [Option.mem_toList, Option.map_eq_some_iff] at member
      obtain ⟨_, enters, same⟩ := member
      cases same
      exact Or.inr ⟨index, loop, happened, rfl, current, rfl, loopEntry_makes enters⟩
    · cases member
  | commandWritten written =>
    cases List.mem_singleton.mp member
    exact Or.inl ⟨rfl, rfl⟩
  | _ => cases member

theorem PhaseMove.silent {before after : ServerPhase} {event : ServerEvent} (move : PhaseMove before event after) (s : Server) :
    s.entries event = [] := by
  cases move <;> rfl

/-- A step makes the entries of its event and no others. -/
theorem step_enters {event : ServerEvent} (run : s.step event = some t) (fit : LoopsFit instant delay s)
    (readings : ∀ reading ∈ event.readings, instant reading)
    (paces : ∀ index loop happened, s.loops[index]? = some loop → event = .loop index happened →
      Paces delay (s.getPollingState loop.address) happened) :
    Enters instant delay s (s.entries event) t := by
  have phased (phase : ServerPhase) : Passes instant delay s { s with phase := phase } := ⟨rfl, rfl, id⟩
  cases step_effect run with
  | moved phase move =>
    rw [move.silent s]
    exact (phased phase).enters
  | entered =>
    have reset : Passes instant delay s { s with stopRequested := false } := ⟨rfl, rfl, id⟩
    exact (reset.trans (Passes.connectAllWithRecovery _)).enters
  | initialized address rest transport _ result => exact (Passes.initialized s address rest transport result).enters
  | connectAllReturned result place =>
    simp only [step, place] at run
    cases result with
    | fulfilled =>
      cases run
      exact (Passes.registerDevices s s.addresses).enters
    | rejected error =>
      cases run
      exact (Passes.connectAllFailed s error).enters
  | retried => exact (Passes.connectAllWithRecovery s).enters
  | started => exact (Passes.startLoops s).enters
  | loop index happened loop current =>
    simp only [step, current] at run
    simp only [entries, current]
    exact loopStep_enters run (fit loop (List.mem_of_getElem? current)) readings (paces index loop happened current rfl)
  | joined => exact (phased _).enters
  | cleanup outcome => exact (Passes.disconnectNext s outcome).enters
  | disconnected result outcome address => exact ((Passes.setSessions s _).trans (Passes.disconnectNext _ outcome)).enters
  | commandWritten address =>
    refine Passes.enters_one ⟨rfl, rfl, id⟩ rfl rfl ?_ fun other apart => books_setTelemetry_of_ne s _ apart
    exact books_setTelemetry s address _
  | stop => exact (show Passes instant delay s s.stop from ⟨rfl, rfl, id⟩).enters

end Server

theorem clockReadings_append (trace : List ServerEvent) (event : ServerEvent) :
    clockReadings (trace ++ [event]) = clockReadings trace ++ event.readings := by
  simp [clockReadings]

variable {trace : List ServerEvent} {event : ServerEvent} {address : String}

theorem clockReadings_old {reading : ℚ} (old : reading ∈ clockReadings trace) : reading ∈ clockReadings (trace ++ [event]) := by
  rw [clockReadings_append]
  exact List.mem_append_left _ old

theorem clockReadings_new {reading : ℚ} (new : reading ∈ event.readings) : reading ∈ clockReadings (trace ++ [event]) := by
  rw [clockReadings_append]
  exact List.mem_append_right _ new

theorem Clocked.initial (clocked : Clocked (trace ++ [event])) : Clocked trace := by
  have forward := clocked.forward
  rw [clockReadings_append, List.pairwise_append] at forward
  exact ⟨fun reading member => clocked.whole reading (clockReadings_old member), forward.1⟩

/-- What has been read before is not after what an event reads. -/
theorem Clocked.before (clocked : Clocked (trace ++ [event])) {earlier later : ℚ}
    (old : earlier ∈ clockReadings trace) (new : later ∈ event.readings) : earlier ≤ later := by
  have forward := clocked.forward
  rw [clockReadings_append, List.pairwise_append] at forward
  exact forward.2.2 earlier old later new

theorem Clocked.within (clocked : Clocked (trace ++ [event])) : event.readings.Pairwise (· ≤ ·) := by
  have forward := clocked.forward
  rw [clockReadings_append, List.pairwise_append] at forward
  exact forward.2.1

theorem LoopPhase.Fits.mono {instant instant' delay : ℚ → Prop} (wider : ∀ reading, instant reading → instant' reading)
    {phase : LoopPhase} (fits : phase.Fits instant delay) : phase.Fits instant' delay := by
  cases phase with
  | waiting => exact fits
  | command => exact fits.imp_left (wider _)
  | queued cycle work =>
    cases work with
    | read => exact fits.imp (wider _) (wider _)
    | selectPack => exact wider _ fits
  | working cycle work =>
    cases work with
    | read => exact fits.imp (wider _) (wider _)
    | selectPack => exact wider _ fits
  | settling => exact fits.imp_left (wider _)
  | cycleEnd => exact wider _ fits
  | _ => trivial

theorem BookEntry.Dated.mono {among among' : List ℚ} (wider : ∀ reading ∈ among, reading ∈ among') {entry : BookEntry}
    (dated : entry.Dated among) : entry.Dated among' :=
  ⟨fun reading member => wider reading (dated.mem reading member), dated.forward⟩

theorem BookEntry.foldl_enter (options : PollingOptions) (entries : List BookEntry) (state : DevicePollingState)
    (telemetry : DeviceTelemetry) : entries.foldl (enter options) (state, telemetry) =
      (entries.foldl (schedule options) state, entries.foldl count telemetry) := by
  induction entries generalizing state telemetry with
  | nil => rfl
  | cons entry rest ih => exact ih _ _

namespace Server

variable {s t initial : Server} {delay : ℚ → Prop}

/-- An entry is made from what its event reads and what has been read before. -/
theorem entries_dated (fit : LoopsFit (· ∈ clockReadings trace) delay s) (clocked : Clocked (trace ++ [event]))
    {made : String × BookEntry} (member : made ∈ s.entries event) : made.2.Dated (clockReadings (trace ++ [event])) := by
  obtain ⟨address, entry⟩ := made
  rcases entries_makes member with ⟨rfl, rfl⟩ | ⟨index, loop, happened, rfl, current, _, makes⟩
  · exact ⟨nofun, .nil⟩
  have fits := fit loop (List.mem_of_getElem? current)
  have forward := clocked.within
  cases makes with
  | begun now cycleStartedAt full =>
    have read : cycleStartedAt ∈ (ServerEvent.loop index (.turn now cycleStartedAt)).readings := by
      simp [ServerEvent.readings, LoopEvent.readings]
    exact ⟨List.forall_mem_singleton.mpr (clockReadings_new read), List.pairwise_singleton _ _⟩
  | read published outcome now finishedAt startedAt place =>
    rw [place] at fits
    have read : startedAt ∈ clockReadings trace := fits.2
    refine ⟨List.forall_mem_cons.mpr ⟨clockReadings_old read, fun reading settled => clockReadings_new settled⟩,
      List.pairwise_cons.mpr ⟨?_, forward⟩⟩
    exact fun reading settled => clocked.before read settled
  | closed clock cycle busy place =>
    rw [place] at fits
    have read : cycle.cycleStartedAt ∈ clockReadings trace := fits
    have kept : [clock.completedAt, clock.nextAt].Sublist (ServerEvent.loop index (.cycleEnded clock)).readings := by
      simp [ServerEvent.readings, LoopEvent.readings]
    refine ⟨List.forall_mem_cons.mpr ⟨clockReadings_old read, fun reading ended => clockReadings_new (kept.mem ended)⟩,
      List.pairwise_cons.mpr ⟨?_, forward.sublist kept⟩⟩
    exact fun reading ended => clocked.before read (kept.mem ended)
  | rescheduled name now =>
    have read : now ∈ (ServerEvent.loop index (.replaced (.fulfilled name) now)).readings := by
      simp [ServerEvent.readings, LoopEvent.readings]
    exact ⟨List.forall_mem_singleton.mpr (clockReadings_new read), List.pairwise_singleton _ _⟩

/-- What the books of a run are and what its loops keep. -/
structure Booked (delay : ℚ → Prop) (initial : Server) (trace : List ServerEvent) (s : Server) : Prop where
  options : s.defaultPollingOptions = initial.defaultPollingOptions
  books : ∀ address, s.books address =
    (entriesAt address (initial.bookkeeping trace)).foldl (BookEntry.enter initial.defaultPollingOptions) (initial.books address)
  loops : LoopsFit (· ∈ clockReadings trace) delay s
  dated : ∀ made ∈ initial.bookkeeping trace, made.2.Dated (clockReadings trace)

theorem entriesAt_append (address : String) (first second : List (String × BookEntry)) :
    entriesAt address (first ++ second) = entriesAt address first ++ entriesAt address second := by
  simp [entriesAt]

theorem mem_entriesAt {entry : BookEntry} {made : List (String × BookEntry)} :
    entry ∈ entriesAt address made ↔ (address, entry) ∈ made := by
  simp [entriesAt]

theorem Booked.next (booked : Booked delay initial trace s) (reach : Reach step (fun _ _ => True) initial trace s)
    (clocked : Clocked (trace ++ [event])) (run : s.step event = some t)
    (paces : ∀ index loop happened, s.loops[index]? = some loop → event = .loop index happened →
      Paces delay (s.getPollingState loop.address) happened) : Booked delay initial (trace ++ [event]) t := by
  have fit : LoopsFit (· ∈ clockReadings (trace ++ [event])) delay s := fun loop member =>
    (booked.loops loop member).mono fun _ => clockReadings_old
  have enters := step_enters run fit (fun _ => clockReadings_new) paces
  have history : initial.bookkeeping (trace ++ [event]) = initial.bookkeeping trace ++ s.entries event :=
    reach.observed_next event
  refine ⟨enters.options.trans booked.options, fun address => ?_, enters.loops fit, fun made member => ?_⟩
  · rw [enters.books, booked.books, booked.options, history, entriesAt_append, List.foldl_append]
  · rw [history] at member
    rcases List.mem_append.mp member with before | now
    · exact (booked.dated made before).mono fun _ => clockReadings_old
    · exact entries_dated booked.loops clocked now

/-- Along a run the books are what its entries amount to. -/
theorem booked_of_run (fresh : initial.loops = []) (reach : Reach step (fun _ _ => True) initial trace s)
    (clocked : Clocked trace) : Booked (fun _ => True) initial trace s := by
  induction reach with
  | start => exact ⟨rfl, fun _ => rfl, by simp [LoopsFit, fresh], by simp [bookkeeping, observed]⟩
  | next reach _ run ih =>
    exact (ih clocked.initial).next reach clocked run fun _ _ _ _ _ => ⟨fun _ _ _ _ _ => trivial, fun _ => trivial, trivial⟩

end Server

end BluettiMqtt
