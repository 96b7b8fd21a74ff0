import BluettiMqtt.App.LoopMoves

namespace BluettiMqtt
open Promise

/-- What a runner puts on a device's queue. -/
inductive RunnerWork
  | read (command : ReadHoldingRegisters)
  | selectPack (pack : Nat)
  deriving DecidableEq

/-- A read or a pack select that has been executed, with what its call has
returned or thrown. -/
structure ExecutedWork where
  work : RunnerWork
  result : Except Failure CommandResult

/-- The callbacks of a `DeviceCommandRunner`: how a work on the queue settles and
whether a stop is requested, both after the works executed so far. -/
structure DeviceCommandRunner where
  settles : List ExecutedWork → Settlement Failure Unit
  isStopRequested : List ExecutedWork → Bool

namespace DeviceCommandRunner

/-- The `try` statement of `executeReadCommand` and `trySelectPack`. -/
def execute (runner : DeviceCommandRunner) (log : List ExecutedWork) (work : RunnerWork) :
    Except Failure CommandResult × List ExecutedWork :=
  let result := Server.classify (runner.settles log)
  (result, log ++ [{ work := work, result := result }])

def executeReadCommand (runner : DeviceCommandRunner) (log : List ExecutedWork) (command : ReadHoldingRegisters) :
    Except Failure CommandResult × List ExecutedWork :=
  runner.execute log (.read command)

def trySelectPack (runner : DeviceCommandRunner) (log : List ExecutedWork) (pack : Nat) :
    Except Failure CommandResult × List ExecutedWork :=
  runner.execute log (.selectPack pack)

/-- The loop over the commands of a set. -/
def runCommands (runner : DeviceCommandRunner) (log : List ExecutedWork) (sawExpectedError : Bool) :
    List ReadHoldingRegisters → Except Failure CommandResult × List ExecutedWork
  | [] => (.ok (Server.setResult sawExpectedError), log)
  | command :: rest =>
    if runner.isStopRequested log then (.ok (Server.setResult sawExpectedError), log)
    else
      match runner.executeReadCommand log command with
      | (.error error, log) => (.error error, log)
      | (.ok .busy, log) => (.ok .busy, log)
      | (.ok .connectionError, log) => (.ok .connectionError, log)
      | (.ok .expectedError, log) => runner.runCommands log true rest
      | (.ok .ok, log) => runner.runCommands log sawExpectedError rest

def runCommandSet (runner : DeviceCommandRunner) (log : List ExecutedWork) (commands : List ReadHoldingRegisters) :
    Except Failure CommandResult × List ExecutedWork :=
  runner.runCommands log false commands

/-- The loop over the packs, of which `count` are left from the given one on. -/
def runPacks (runner : DeviceCommandRunner) (device : BluettiDevice) (log : List ExecutedWork) (pack : Nat) :
    Nat → Except Failure CommandResult × List ExecutedWork
  | 0 => (.ok .ok, log)
  | count + 1 =>
    let readPack (log : List ExecutedWork) :=
      match runner.runCommandSet log device.packPollingCommands with
      | (.error error, log) => (.error error, log)
      | (.ok .busy, log) => (.ok .busy, log)
      | (.ok _, log) => runner.runPacks device log (pack + 1) count
    if runner.isStopRequested log then (.ok .ok, log)
    else if Server.selectsPacks device then
      match runner.trySelectPack log pack with
      | (.error error, log) => (.error error, log)
      | (.ok .busy, log) => (.ok .busy, log)
      | (.ok .connectionError, log) => (.ok .connectionError, log)
      | (.ok .expectedError, log) => runner.runPacks device log (pack + 1) count
      | (.ok .ok, log) => readPack log
    else readPack log

def runPackCommands (runner : DeviceCommandRunner) (log : List ExecutedWork) (device : BluettiDevice) :
    Except Failure CommandResult × List ExecutedWork :=
  if device.packPollingCommands = [] then (.ok .ok, log)
  else runner.runPacks device log 1 device.packNumMax

end DeviceCommandRunner

/-- The device has been found busy or its connection lost. -/
def ExecutedWork.stops (executed : ExecutedWork) : Prop :=
  executed.result = .ok .busy ∨ executed.result = .ok .connectionError

def ExecutedWork.isRead (executed : ExecutedWork) : Prop :=
  ∃ command, executed.work = .read command

/-- A call returns that the device is busy or its connection lost exactly when a
work has found it so, and that work is the last one. -/
structure Heeds (result : Except Failure CommandResult) (executed : List ExecutedWork) : Prop where
  busy : result = .ok .busy ↔ ∃ work ∈ executed, work.result = .ok .busy
  connectionError : result = .ok .connectionError ↔ ∃ work ∈ executed, work.result = .ok .connectionError
  last : ∀ before work after, executed = before ++ work :: after → work.stops → after = []

variable {result : Except Failure CommandResult} {executed before : List ExecutedWork} {work : ExecutedWork}

/-- A call that executes nothing has nothing to heed. -/
theorem heeds_nil (busy : result ≠ .ok .busy) (lost : result ≠ .ok .connectionError) : Heeds result [] where
  busy := by simp [busy]
  connectionError := by simp [lost]
  last _ _ _ same := by simp at same

/-- The last work that a call executes may stop it. -/
theorem heeds_singleton (same : result = work.result) : Heeds result [work] where
  busy := by simp [same]
  connectionError := by simp [same]
  last before other after split _ := by
    have length := congrArg List.length split
    simp only [List.length_cons, List.length_nil, List.length_append] at length
    exact List.length_eq_zero_iff.mp (by omega)

/-- Works that do not stop a call may come before. -/
theorem heeds_append_iff (calm : ∀ work ∈ before, ¬work.stops) :
    Heeds result (before ++ executed) ↔ Heeds result executed := by
  have plain (outcome : CommandResult) (stopping : outcome = .busy ∨ outcome = .connectionError) :
      (∃ work ∈ before ++ executed, work.result = .ok outcome) ↔ ∃ work ∈ executed, work.result = .ok outcome := by
    constructor
    · rintro ⟨work, member, same⟩
      rcases List.mem_append.mp member with early | late
      · refine absurd ?_ (calm work early)
        rcases stopping with rfl | rfl
        · exact Or.inl same
        · exact Or.inr same
      · exact ⟨work, late, same⟩
    · rintro ⟨work, member, same⟩
      exact ⟨work, List.mem_append_right _ member, same⟩
  constructor
  · intro heeds
    refine ⟨heeds.busy.trans (plain _ (.inl rfl)), heeds.connectionError.trans (plain _ (.inr rfl)), ?_⟩
    intro first work after same
    exact heeds.last (before ++ first) work after (by rw [same, List.append_assoc])
  · intro heeds
    refine ⟨heeds.busy.trans (plain _ (.inl rfl)).symm, heeds.connectionError.trans (plain _ (.inr rfl)).symm, ?_⟩
    intro first work after same stops
    rcases List.append_eq_append_iff.mp same with ⟨middle, _, rest⟩ | ⟨middle, early, rest⟩
    · exact heeds.last middle work after rest stops
    · obtain _ | ⟨head, tail⟩ := middle
      · exact heeds.last [] work after rest.symm stops
      · cases rest
        exact absurd stops (calm work (by rw [early]; simp))

namespace DeviceCommandRunner

variable (runner : DeviceCommandRunner) (device : BluettiDevice)

/-- What a call has added to the log, and returned, meets the condition. -/
def Adds (log : List ExecutedWork) (call : Except Failure CommandResult × List ExecutedWork)
    (condition : Except Failure CommandResult → List ExecutedWork → Prop) : Prop :=
  ∃ executed, call.2 = log ++ executed ∧ condition call.1 executed

variable {runner device} {log : List ExecutedWork} {call : Except Failure CommandResult × List ExecutedWork}
  {condition : Except Failure CommandResult → List ExecutedWork → Prop}

theorem Adds.nothing {result : Except Failure CommandResult} (holds : condition result []) :
    Adds log (result, log) condition :=
  ⟨[], (List.append_nil log).symm, holds⟩

/-- A call that goes on after some works. -/
theorem Adds.after {early : List ExecutedWork}
    (adds : Adds (log ++ early) call fun result executed => condition result (early ++ executed)) :
    Adds log call condition := by
  obtain ⟨executed, same, holds⟩ := adds
  exact ⟨early ++ executed, by rw [same, List.append_assoc], holds⟩

/-- What a command set keeps to. -/
structure SetHeeds (saw : Bool) (result : Except Failure CommandResult) (executed : List ExecutedWork) : Prop where
  heeds : Heeds result executed
  reads : ∀ work ∈ executed, work.isRead
  idle : executed = [] → result = .ok (Server.setResult saw)

theorem setHeeds_nil (saw : Bool) : SetHeeds saw (.ok (Server.setResult saw)) [] where
  heeds := heeds_nil (by cases saw <;> nofun) (by cases saw <;> nofun)
  reads := nofun
  idle _ := rfl

/-- A command set heeds the outcomes of its reads. -/
theorem runCommands_heeds (saw : Bool) (commands : List ReadHoldingRegisters) :
    Adds log (runner.runCommands log saw commands) (SetHeeds saw) := by
  induction commands generalizing log saw with
  | nil => exact .nothing (setHeeds_nil saw)
  | cons command rest ih =>
    simp only [runCommands, executeReadCommand, execute]
    split_ifs
    · exact .nothing (setHeeds_nil saw)
    · generalize Server.classify (runner.settles log) = result
      let read : ExecutedWork := ⟨.read command, result⟩
      have isRead : ∀ work ∈ [read], work.isRead := fun work member => ⟨command, by rw [List.mem_singleton.mp member]⟩
      have ends : Adds log (result, log ++ [read]) (SetHeeds saw) :=
        ⟨[read], rfl, heeds_singleton rfl, isRead, nofun⟩
      have continues (next : Bool) (calm : ¬read.stops) :
          Adds log (runner.runCommands (log ++ [read]) next rest) (SetHeeds saw) := by
        obtain ⟨executed, same, heeds, reads, _⟩ := @ih (log ++ [read]) next
        refine .after ⟨executed, same, (heeds_append_iff fun work member => ?_).mpr heeds, fun work member => ?_, nofun⟩
        · rwa [List.mem_singleton.mp member]
        · exact (List.mem_append.mp member).elim (isRead work) (reads work)
      rcases result with error | _ | _ | _ | _
      · exact ends
      · exact continues saw (by rintro (stop | stop) <;> cases stop)
      · exact continues true (by rintro (stop | stop) <;> cases stop)
      · exact ends
      · exact ends

/-- No read of a pack ends with a connection error. -/
def ReadsConnected (executed : List ExecutedWork) : Prop :=
  ∀ work ∈ executed, work.isRead → work.result ≠ .ok .connectionError

/-- What a sweep over the packs keeps to. -/
structure SweepHeeds (result : Except Failure CommandResult) (executed : List ExecutedWork) : Prop where
  heeds_iff : Heeds result executed ↔ ReadsConnected executed
  idle : executed = [] → result = .ok .ok

theorem ReadsConnected.append_iff {early executed : List ExecutedWork} :
    ReadsConnected (early ++ executed) ↔ ReadsConnected early ∧ ReadsConnected executed :=
  List.forall_mem_append

theorem readsConnected_of_calm {early : List ExecutedWork} (calm : ∀ work ∈ early, ¬work.stops) :
    ReadsConnected early :=
  fun work member _ lost => calm work member (Or.inr lost)

/-- A sweep that goes on after works that do not stop it. -/
theorem SweepHeeds.after {early executed : List ExecutedWork} {result : Except Failure CommandResult}
    (sweep : SweepHeeds result executed) (calm : ∀ work ∈ early, ¬work.stops) : SweepHeeds result (early ++ executed) where
  heeds_iff := by
    rw [heeds_append_iff calm, sweep.heeds_iff, ReadsConnected.append_iff, and_iff_right (readsConnected_of_calm calm)]
  idle empty := sweep.idle (List.append_eq_nil_iff.mp empty).2

/-- A sweep that a work ends. -/
theorem SweepHeeds.of_heeds {executed : List ExecutedWork} {result : Except Failure CommandResult}
    (heeds : Heeds result executed) (other : result ≠ .ok .connectionError) (some_ : executed ≠ []) :
    SweepHeeds result executed where
  heeds_iff := iff_of_true heeds fun work member _ lost => other (heeds.connectionError.mpr ⟨work, member, lost⟩)
  idle empty := absurd empty some_

/-- A sweep that goes on although a read has found the connection lost. -/
theorem SweepHeeds.ignored {reads executed : List ExecutedWork} {result : Except Failure CommandResult}
    (lost : Heeds (.ok .connectionError) reads) (reading : ∀ work ∈ reads, work.isRead)
    (sweep : SweepHeeds result executed) : SweepHeeds result (reads ++ executed) where
  heeds_iff := by
    obtain ⟨work, member, found⟩ := lost.connectionError.mp rfl
    refine iff_of_false (fun heeds => ?_) fun connected =>
      connected work (List.mem_append_left _ member) (reading work member) found
    obtain ⟨before, after, rfl⟩ := List.append_of_mem member
    have split : before ++ work :: after ++ executed = before ++ work :: (after ++ executed) := by simp
    have nothing := heeds.last before work _ split (Or.inr found)
    have stopped := heeds.connectionError.mpr ⟨work, List.mem_append_left _ member, found⟩
    rw [sweep.idle (List.append_eq_nil_iff.mp nothing).2] at stopped
    cases stopped
  idle empty := by
    obtain ⟨work, member, _⟩ := lost.connectionError.mp rfl
    rw [(List.append_eq_nil_iff.mp empty).1] at member
    cases member

theorem runPacks_heeds_iff (pack count : Nat) : Adds log (runner.runPacks device log pack count) SweepHeeds := by
  have idle : SweepHeeds (.ok .ok) [] := ⟨⟨fun _ => nofun, fun _ => heeds_nil nofun nofun⟩, fun _ => rfl⟩
  induction count generalizing log pack with
  | zero => exact .nothing idle
  | succ count ih =>
    have readPack (log : List ExecutedWork) : Adds log
        (match runner.runCommandSet log device.packPollingCommands with
          | (.error error, log) => (.error error, log)
          | (.ok .busy, log) => (.ok .busy, log)
          | (.ok _, log) => runner.runPacks device log (pack + 1) count) SweepHeeds := by
      obtain ⟨reads, same, heeds, reading, none_⟩ : Adds log
          (runner.runCommands log false device.packPollingCommands) (SetHeeds false) :=
        runCommands_heeds false device.packPollingCommands
      have whole : runner.runCommandSet log device.packPollingCommands =
          ((runner.runCommandSet log device.packPollingCommands).1, log ++ reads) := Prod.ext rfl same
      rw [whole]
      change Heeds (runner.runCommandSet log device.packPollingCommands).1 reads at heeds
      change reads = [] → (runner.runCommandSet log device.packPollingCommands).1 = .ok .ok at none_
      generalize (runner.runCommandSet log device.packPollingCommands).1 = result at heeds none_
      obtain ⟨executed, added, sweep⟩ := @ih (log ++ reads) (pack + 1)
      have calm (busy : result ≠ .ok .busy) (lost : result ≠ .ok .connectionError) : ∀ work ∈ reads, ¬work.stops := by
        rintro work member (stop | stop)
        · exact busy (heeds.busy.mpr ⟨work, member, stop⟩)
        · exact lost (heeds.connectionError.mpr ⟨work, member, stop⟩)
      rcases result with error | _ | _ | _ | _
      · exact ⟨reads, rfl, .of_heeds heeds nofun fun empty => nomatch none_ empty⟩
      · exact .after ⟨executed, added, sweep.after (calm nofun nofun)⟩
      · exact .after ⟨executed, added, sweep.after (calm nofun nofun)⟩
      · exact ⟨reads, rfl, .of_heeds heeds nofun fun empty => nomatch none_ empty⟩
      · exact .after ⟨executed, added, .ignored heeds reading sweep⟩
    simp only [runPacks, trySelectPack, execute]
    split_ifs
    · exact .nothing idle
    · generalize Server.classify (runner.settles log) = result
      let select : ExecutedWork := ⟨.selectPack pack, result⟩
      have ends (other : result ≠ .ok .connectionError) : Adds log (result, log ++ [select]) SweepHeeds :=
        ⟨[select], rfl, .of_heeds (heeds_singleton rfl) other nofun⟩
      have continues {call : Except Failure CommandResult × List ExecutedWork}
          (calm : ¬select.stops) (adds : Adds (log ++ [select]) call SweepHeeds) : Adds log call SweepHeeds := by
        obtain ⟨executed, added, sweep⟩ := adds
        refine .after ⟨executed, added, sweep.after fun work member => ?_⟩
        rwa [List.mem_singleton.mp member]
      rcases result with error | _ | _ | _ | _
      · exact ends nofun
      · exact continues (by rintro (stop | stop) <;> cases stop) (readPack _)
      · exact continues (by rintro (stop | stop) <;> cases stop) (ih _)
      · exact ends nofun
      · have selected : ReadsConnected [select] := by
          rintro work member ⟨command, read⟩
          rw [List.mem_singleton.mp member] at read
          cases read
        exact ⟨[select], rfl, iff_of_true (heeds_singleton rfl) selected, nofun⟩
    · exact readPack log

/-- Command sets heed busy devices and lost connections. A sweep over the packs
does exactly when no read of a pack ends with a connection error. -/
theorem sweep_heeds_iff (runner : DeviceCommandRunner) (log : List ExecutedWork) (device : BluettiDevice) :
    (∀ commands, Adds log (runner.runCommandSet log commands) Heeds) ∧
      Adds log (runner.runPackCommands log device) fun result executed =>
        Heeds result executed ↔ ReadsConnected executed := by
  refine ⟨fun commands => ?_, ?_⟩
  · obtain ⟨executed, same, set⟩ : Adds log (runner.runCommands log false commands) (SetHeeds false) :=
      runCommands_heeds false commands
    exact ⟨executed, same, set.heeds⟩
  · unfold runPackCommands
    split_ifs
    · exact .nothing ⟨fun _ => nofun, fun _ => heeds_nil nofun nofun⟩
    · obtain ⟨executed, same, sweep⟩ : Adds log (runner.runPacks device log 1 device.packNumMax) SweepHeeds :=
        runPacks_heeds_iff 1 device.packNumMax
      exact ⟨executed, same, sweep.heeds_iff⟩

/-- The sweep of a station with one pack returns `ok` although the connection was
lost at its only read. -/
theorem lost_pack_read_swallowed : ∃ device executed,
    createDeviceFromAdvertisement "24:4C:AB:2C:24:8E" "EP5002237000003358" = .ok device ∧
      (⟨fun _ => .rejected (.badConnectionError "Device is not ready"), fun _ => false⟩ :
        DeviceCommandRunner).runPackCommands [] device = (.ok .ok, executed) ∧
      executed = [⟨.read (.of 91 37), .ok .connectionError⟩] ∧ ¬Heeds (.ok .ok) executed := by
  let definition : DeviceDefinition :=
    { type := "EP500"
      packNumMax := 1
      pollingCommands := [.of 10 40, .of 70 21, .of 3001 61]
      packPollingCommands := some [.of 91 37]
      writableRanges := some [{ start := 3000, endExclusive := 3062 }]
      buildStruct := buildEp500Struct }
  refine ⟨⟨"24:4C:AB:2C:24:8E", "2237000003358", definition⟩, _, ?_, rfl, rfl, fun heeds => ?_⟩
  · decide +kernel
  · cases heeds.connectionError.mpr ⟨_, List.mem_singleton_self _, rfl⟩

end DeviceCommandRunner

end BluettiMqtt
