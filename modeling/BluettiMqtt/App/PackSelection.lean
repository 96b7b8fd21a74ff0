import BluettiMqtt.App.TransportRecovery

namespace BluettiMqtt
open Promise Transition

/-- The command changes registers of the device. -/
def DeviceCommand.isWrite : DeviceCommand → Bool
  | .readHoldingRegisters _ => false
  | .writeSingleRegister _ => true
  | .writeMultipleRegisters _ => true

/-- The work writes when it is called. -/
def WorkSource.isWrite : WorkSource → Bool
  | .handleCommand command => command.isWrite
  | .loop _ (.read ..) => false
  | .loop _ (.selectPack _) => true

def HandlerEvent.isCommand : HandlerEvent → Bool
  | .handleCommand _ _ _ => true
  | _ => false

/-- The selection of a pack is on its way, and reads of the pack are still to be
put on the queue. -/
def LoopPhase.sweeps : LoopPhase → Bool
  | .queued _ (.selectPack _) => true
  | .working _ (.selectPack _) _ => true
  | .settling _ _ _ => true
  | .command _ (.pack _) _ _ _ _ => true
  | .queued _ (.read (.pack _) _ rest _ _) => rest ≠ []
  | .working _ (.read (.pack _) _ rest _ _) _ => rest ≠ []
  | _ => false

/-- The pack that has been selected, or is just being selected. -/
def LoopPhase.pack : LoopPhase → Option Nat
  | .working _ (.selectPack pack) _ => some pack
  | .settling _ pack _ => some pack
  | .command _ (.pack pack) _ _ _ _ => some pack
  | .queued _ (.read (.pack pack) _ _ _ _) => some pack
  | .working _ (.read (.pack pack) _ _ _ _) _ => some pack
  | _ => none

/-- The frame is the selection of a pack by the loop of a device. -/
structure Frame.Selects (frame : Frame) (index : Nat) (device : BluettiDevice) (address : String) (pack : Nat) :
    Prop where
  address : frame.address = address
  source : frame.source = .loop index (.selectPack pack)
  command : ∃ request, device.buildSetterCommand "pack_num" (.number (.ofInt pack)) = .ok request ∧
    frame.command = .writeSingleRegister request

/-- The pack is the one that the device was told to select last, and nothing has
been written to the device since. -/
def Selected (frames : List Frame) (index : Nat) (device : BluettiDevice) (address : String) (pack : Nat) : Prop :=
  ∃ earlier select reads, frames = earlier ++ select :: reads ∧ select.Selects index device address pack ∧
    ∀ other ∈ reads, other.address = address → other.command.isWrite = false

theorem Selected.append {frames : List Frame} {index pack : Nat} {device : BluettiDevice} {address : String}
    (selected : Selected frames index device address pack) {frame : Frame}
    (reads : frame.address = address → frame.command.isWrite = false) :
    Selected (frames ++ [frame]) index device address pack := by
  obtain ⟨earlier, select, since, rfl, selects, quiet⟩ := selected
  refine ⟨earlier, select, since ++ [frame], by simp, selects, fun other member => ?_⟩
  rcases List.mem_append.mp member with old | last
  · exact quiet other old
  · cases List.mem_singleton.mp last
    exact reads

theorem Selected.write_last {frames : List Frame} {index pack : Nat} {device : BluettiDevice} {address : String}
    {frame : Frame} (selected : Selected (frames ++ [frame]) index device address pack)
    (here : frame.address = address) (writes : frame.command.isWrite = true) :
    frame.Selects index device address pack := by
  obtain ⟨earlier, select, since, split, selects, quiet⟩ := selected
  rcases List.eq_nil_or_concat since with rfl | ⟨others, last, rfl⟩
  · cases (List.append_inj' split rfl).2
    exact selects
  · rw [List.concat_eq_append, ← List.cons_append, ← List.append_assoc] at split
    cases (List.append_inj' split rfl).2
    have quiet := quiet frame (by simp) here
    cases writes.symm.trans quiet

theorem Selected.last {frames : List Frame} {index pack : Nat} {device : BluettiDevice} {address : String}
    {frame : Frame} (selects : frame.Selects index device address pack) :
    Selected (frames ++ [frame]) index device address pack :=
  ⟨frames, frame, [], rfl, selects, nofun⟩

namespace Server

section Moves

variable {s : Server} {loop : PollingLoop} {before phase : LoopPhase} {event : LoopEvent} {cycle : PollingCycle}
  {calls : List ServerOperation} {begun : Nat}

theorem Loses.pack (move : Loses s loop phase calls) : phase.pack = none := by
  cases move with
  | ended => rfl
  | reconnects _ move => cases move <;> rfl

theorem PackMove.pack {next : Nat} (move : PackMove loop cycle next phase) (selecting : selectsPacks loop.device = true) :
    phase.pack = none := by
  cases move with
  | done => rfl
  | selects => rfl
  | reads _ _ _ plain => cases selecting.symm.trans plain

theorem SetMove.pack {set : CommandSet} {result : CommandResult} (move : SetMove s loop cycle set result phase calls)
    (selecting : selectsPacks loop.device = true) : phase.pack = none := by
  cases move with
  | lost move => exact move.pack
  | busy => rfl
  | ended => rfl
  | packs _ _ move => exact move.pack selecting
  | next _ _ _ move => exact move.pack selecting

/-- The steps that a loop takes while it has a pack selected; all others leave
it with none. -/
inductive PackStep : LoopPhase → LoopEvent → LoopPhase → Prop
  | outside {before : LoopPhase} {event : LoopEvent} {phase : LoopPhase} (none_ : phase.pack = none) :
      PackStep before event phase
  | enqueues {cycle : PollingCycle} {pack : Nat} {command : ReadHoldingRegisters} {rest : List ReadHoldingRegisters}
      {saw : Bool} {delay : Option ℚ} {startedAt : ℚ} :
      PackStep (.command cycle (.pack pack) command rest saw delay) (.nextCommand startedAt)
        (.queued cycle (.read (.pack pack) command rest saw startedAt))
  | nextRead {cycle : PollingCycle} {pack : Nat} {command next : ReadHoldingRegisters}
      {rest : List ReadHoldingRegisters} {saw later : Bool} {startedAt : ℚ} {thrown : Option Failure}
      {event : LoopEvent} {delay : Option ℚ} :
      PackStep (.working cycle (.read (.pack pack) command (next :: rest) saw startedAt) thrown) event
        (.command cycle (.pack pack) next rest later delay)
  | selected {cycle : PollingCycle} {pack : Nat} {thrown : Option Failure} {published : Bool} {now finishedAt ms : ℚ} :
      PackStep (.working cycle (.selectPack pack) thrown) (.workSettled published (.fulfilled ()) now finishedAt)
        (.settling cycle pack ms)
  | settled {cycle : PollingCycle} {pack : Nat} {ms : ℚ} {command : ReadHoldingRegisters}
      {rest : List ReadHoldingRegisters} :
      PackStep (.settling cycle pack ms) .packSettled (.command cycle (.pack pack) command rest false none)

theorem LoopMove.packStep (move : LoopMove s loop before event phase calls begun) (own : event ≠ .workStarted)
    (selecting : selectsPacks loop.device = true) : PackStep before event phase := by
  cases move with
  | starts => exact absurd rfl own
  | beginsEmpty _ _ _ _ _ move => exact .outside (move.pack selecting)
  | @enqueues _ set =>
    cases set with
    | polling => exact .outside rfl
    | pack pack => exact .enqueues
  | cuts _ _ move => exact .outside (move.pack selecting)
  | returned _ _ _ _ _ _ _ _ _ _ move => exact .outside (move.pack selecting)
  | @nextRead _ set =>
    cases set with
    | polling => exact .outside rfl
    | pack pack => exact .nextRead
  | selected => exact .selected
  | skipped _ _ _ _ _ move => exact .outside (move.pack selecting)
  | lost _ _ _ _ _ loses => exact .outside loses.pack
  | settled => exact .settled
  | retries move => exact .outside (by cases move <;> rfl)
  | _ => exact .outside rfl

end Moves

theorem request_selects {s : Server} {loop : PollingLoop} {pack : Nat} {command : DeviceCommand}
    (requested : s.request loop (.selectPack pack) = .ok command) :
    ∃ request, loop.device.buildSetterCommand "pack_num" (.number (.ofInt pack)) = .ok request ∧
      command = .writeSingleRegister request := by
  cases built : loop.device.buildSetterCommand "pack_num" (.number (.ofInt pack)) with
  | error error =>
    simp [Server.request, built, bind, Except.bind, Functor.map, Except.map] at requested
  | ok request =>
    refine ⟨request, rfl, ?_⟩
    cases known : s.sessions.has loop.address with
    | false =>
      simp [Server.request, built, known, bind, Except.bind, Functor.map, Except.map, throw, throwThe,
        MonadExceptOf.throw] at requested
    | true =>
      simpa [Server.request, built, known, bind, Except.bind, Functor.map, Except.map, pure, Except.pure, eq_comm]
        using requested

end Server

namespace DeviceHandler

variable {h t : DeviceHandler} {event : HandlerEvent} {index work : Nat} {address : String}

/-- Every read of a pack is made while that pack is the one the device was last
told to select. -/
def PackReadsSelected (h : DeviceHandler) : Prop :=
  ∀ (index : Nat) (loop : PollingLoop), h.server.loops[index]? = some loop → Server.selectsPacks loop.device = true →
    ∀ before frame after pack command rest saw startedAt, h.frames = before ++ frame :: after →
      frame.source = .loop index (.read (.pack pack) command rest saw startedAt) →
      frame.address = loop.address ∧ Selected before index loop.device loop.address pack

/-- No write is put on the queue of a device while its loop sweeps the packs. -/
def Undisturbed (h : DeviceHandler) : HandlerEvent → Prop
  | .handleCommand _ address command => command.isWrite = true → ∀ loop ∈ h.server.loops,
      loop.address = address → Server.selectsPacks loop.device = true → loop.phase.sweeps = false
  | _ => True

/-- A write waits on the queue of the address. -/
structure Pending (h : DeviceHandler) (address : String) (work : Nat) : Prop where
  listed : work ∈ lane h.queue.enqueued address
  writes : ∃ source, h.works work = some ⟨source, .waiting⟩ ∧ source.isWrite = true

def Unwritten (h : DeviceHandler) (address : String) : Prop :=
  ∀ work, ¬h.Pending address work

/-- Whatever else waits on the queue of the address was put there later. -/
def Leads (h : DeviceHandler) (address : String) (work : Nat) : Prop :=
  ∀ other source, other ∈ lane h.queue.enqueued address → h.works other = some ⟨source, .waiting⟩ →
    other = work ∨ [work, other].Sublist (lane h.queue.enqueued address)

theorem Asks.isWrite {source : WorkSource} {command : DeviceCommand} (asks : h.Asks source command)
    (writes : command.isWrite = true) : source.isWrite = true := by
  cases source with
  | handleCommand own =>
    cases asks
    exact writes
  | loop index task =>
    cases task with
    | selectPack pack => rfl
    | read set read rest saw startedAt =>
      obtain ⟨loop, _, asked⟩ := asks
      cases known : h.server.sessions.has loop.address with
      | false =>
        simp [Server.request, known, bind, Except.bind, throw, throwThe, MonadExceptOf.throw] at asked
      | true =>
        simp only [Server.request, known, bind, Except.bind, pure, Except.pure, if_true, Except.ok.injEq] at asked
        rw [← asked] at writes
        cases writes

theorem Starts.listed {began : DeviceHandler} {source : WorkSource} {record : Work Failure Unit}
    (starts : Starts h began work source record) (booked : h.Booked) : work ∈ lane h.queue.enqueued record.address :=
  mem_lane.mpr (booked.fair.tidy.known work record starts.record_at)

theorem Starts.leads {began : DeviceHandler} {source : WorkSource} {record : Work Failure Unit}
    (starts : Starts h began work source record) (booked : h.Booked) : h.Leads record.address work := by
  intro other others listed waits
  obtain ⟨later, later_at, paired⟩ := rel_some booked.paired waits
  obtain ⟨found, found_at, here⟩ := booked.fair.tidy.listed record.address other (mem_lane.mp listed)
  cases later_at.symm.trans found_at
  exact booked.fair.leads starts.record_at starts.waiting starts.ready later_at here (paired.mp rfl)

/-- A step that writes to a device calls the write that has waited longest. -/
theorem Effect.writes (effect : Effect h event t) (booked : h.Booked) (address : String) : t.frames = h.frames ∨
    ∃ frame work, t.frames = h.frames ++ [frame] ∧ (frame.address = address → frame.command.isWrite = true →
      h.Pending address work ∧ h.Leads address work) := by
  rcases effect.frames with same | ⟨work, source, record, managed, command, rfl, writes⟩
  · exact Or.inl same
  · obtain ⟨began, starts⟩ := writes.starts
    refine Or.inr ⟨_, work, writes.frames, ?_⟩
    rintro rfl changes
    exact ⟨⟨starts.listed booked, source, starts.waits booked, writes.asks.isWrite changes⟩, starts.leads booked⟩

/-- Who puts a work on the queue of an address. -/
inductive Enqueues (h : DeviceHandler) : HandlerEvent → Nat → String → WorkSource → Prop
  | command {work : Nat} {address : String} {command : DeviceCommand} :
      Enqueues h (.handleCommand work address command) work address (.handleCommand command)
  | loop {index work : Nat} {event : LoopEvent} {loop : PollingLoop} {task : LoopWork}
      (current : h.server.loops[index]? = some loop) :
      Enqueues h (.loop index event work) work loop.address (.loop index task)

theorem Effect.enqueued (effect : Effect h event t) : t.queue.enqueued = h.queue.enqueued ∨
    ∃ work address source, h.queue.works work = none ∧ Enqueues h event work address source ∧
      t.works work = some ⟨source, .waiting⟩ ∧ t.queue.enqueued = h.queue.enqueued ++ [(address, work)] := by
  cases effect.outline with
  | stopped => exact Or.inl rfl
  | @entered event server =>
    obtain ⟨sessions, same⟩ := h.entered_frame server
    rw [same]
    exact Or.inl rfl
  | moved current allowed run move arrives advanced =>
    rcases advanced_cases advanced with ⟨cycle, task, _, fresh, rfl⟩ | ⟨_, sessions, rfl⟩
    · exact Or.inr ⟨_, _, _, fresh, .loop current, Table.insert_self _ _ _, rfl⟩
    · exact Or.inl rfl
  | called fresh => exact Or.inr ⟨_, _, _, fresh, .command, Table.insert_self _ _ _, rfl⟩
  | @started work began source record request starts =>
    rw [begin_queue, starts.queue]
    exact Or.inl rfl
  | settled => exact Or.inl rfl
  | finished => exact Or.inl rfl
  | session => exact Or.inl rfl

theorem Effect.line (effect : Effect h event t) (address : String) :
    ∃ more, lane t.queue.enqueued address = lane h.queue.enqueued address ++ more := by
  rcases effect.enqueued with same | ⟨work, own, _, _, _, _, same⟩
  · exact ⟨[], by rw [same, List.append_nil]⟩
  · by_cases here : own = address
    · rw [same, here, lane_append_self]
      exact ⟨_, rfl⟩
    · rw [same, lane_append_of_ne _ _ here]
      exact ⟨[], (List.append_nil _).symm⟩

/-- A write that waits has waited before or is put on the queue by the step. -/
theorem Effect.pending (effect : Effect h event t) (booked : h.Booked) (pending : t.Pending address work) :
    h.Pending address work ∨ ∃ source, Enqueues h event work address source ∧ source.isWrite = true ∧
      lane t.queue.enqueued address = lane h.queue.enqueued address ++ [work] := by
  obtain ⟨source, waits, writes⟩ := pending.writes
  have old (listed : work ∈ lane h.queue.enqueued address) : h.Pending address work := by
    obtain ⟨record, record_at, _⟩ := booked.fair.tidy.listed address work (mem_lane.mp listed)
    refine ⟨listed, source, ?_, writes⟩
    cases effect.workMove booked work with
    | kept same => exact same.symm.trans waits
    | called fresh =>
      have absent := booked.paired work
      rw [fresh, record_at] at absent
      cases absent
    | began _ _ progress called after =>
      cases after.symm.trans waits
      exact absurd rfl called
  have listed := pending.listed
  rcases effect.enqueued with same | ⟨own, place, other, fresh, enqueues, entry, same⟩
  · exact Or.inl (old (same ▸ listed))
  · rw [same, mem_lane, List.mem_append, List.mem_singleton] at listed
    rcases listed with listed | here
    · exact Or.inl (old (mem_lane.mpr listed))
    · cases here
      cases entry.symm.trans waits
      exact Or.inr ⟨source, enqueues, writes, by rw [same, lane_append_self]⟩

/-- The work that a loop awaits has failed. -/
def Failed (h : DeviceHandler) (index : Nat) : Prop :=
  (∃ work source error, h.awaited index = some work ∧ h.works work = some ⟨source, .thrown error⟩) ∨
    ∃ work transport error, h.Doomed index work transport error

theorem Failed.keep (failed : h.Failed index) (sound : h.Sound) (effect : Effect h event t)
    (awaited : t.awaited index = h.awaited index) : t.Failed index := by
  rcases failed with ⟨work, source, error, waits, entry⟩ | ⟨work, transport, error, doomed⟩
  · exact Or.inl ⟨work, source, error, awaited.trans waits, (effect.workMove sound.booked work).lasts entry nofun⟩
  · exact Or.inr ⟨work, transport, error, doomed.keep sound effect awaited⟩

theorem Failed.rejected (failed : h.Failed index) (sound : h.Sound) {result : Settlement Failure Unit}
    (read : h.outcome index = some result) : ∃ error, result = .rejected error := by
  rcases failed with ⟨work, source, error, waits, entry⟩ | ⟨work, transport, error, doomed⟩
  · obtain ⟨other, found, awaited, entry_at, settles⟩ := sound.settles_outcome read
    cases waits.symm.trans awaited
    cases entry.symm.trans entry_at
    exact ⟨error, of_decide_eq_true settles⟩
  · exact ⟨error, doomed.outcome sound read⟩

/-- What holds while the loop of a device that selects packs is at the given
phase. A write may wait behind the last read of a pack and before the selection
of the next. -/
def Section (h : DeviceHandler) (index : Nat) (device : BluettiDevice) (address : String) : LoopPhase → Prop
  | .queued _ (.selectPack _) => ∀ work other, h.awaited index = some work → h.Pending address other →
      other = work ∨ [other, work].Sublist (lane h.queue.enqueued address)
  | .working _ (.selectPack pack) _ =>
      h.Unwritten address ∧ (Selected h.frames index device address pack ∨ h.Failed index)
  | .settling _ pack _ => h.Unwritten address ∧ Selected h.frames index device address pack
  | .command _ (.pack pack) _ _ _ _ => h.Unwritten address ∧ Selected h.frames index device address pack
  | .queued _ (.read (.pack pack) _ rest _ _) => Selected h.frames index device address pack ∧
      ∀ work other, h.awaited index = some work → h.Pending address other →
        rest = [] ∧ [work, other].Sublist (lane h.queue.enqueued address)
  | .working _ (.read (.pack pack) _ rest _ _) _ =>
      rest = [] ∨ h.Unwritten address ∧ Selected h.frames index device address pack
  | _ => True

theorem Effect.selected (effect : Effect h event t) (booked : h.Booked) {pack : Nat} {device : BluettiDevice}
    (selected : Selected h.frames index device address pack)
    (quiet : ∀ work, h.Pending address work → ¬h.Leads address work) :
    Selected t.frames index device address pack := by
  rcases effect.writes booked address with same | ⟨frame, work, same, cause⟩
  · exact same.symm ▸ selected
  · rw [same]
    refine selected.append fun here => Bool.eq_false_iff.mpr fun writes => ?_
    obtain ⟨pending, leads⟩ := cause here writes
    exact quiet work pending leads

theorem Awaits.listed {task : LoopWork} {progress : WorkProgress} (awaits : h.Awaits index address task work progress)
    (booked : h.Booked) : work ∈ lane h.queue.enqueued address := by
  obtain ⟨record, record_at, here⟩ := awaits.record
  exact mem_lane.mpr (here ▸ booked.fair.tidy.known work record record_at)

/-- A write behind the work that a loop awaits does not come first. -/
theorem Awaits.behind {task : LoopWork} (awaits : h.Awaits index address task work .waiting) (booked : h.Booked)
    {other : Nat} (behind : [work, other].Sublist (lane h.queue.enqueued address)) : ¬h.Leads address other := by
  intro leads
  have distinct := lane_nodup booked.fair.tidy.distinct address
  rcases leads work _ (awaits.listed booked) awaits.entry with rfl | before
  · exact FairMutex.not_both_orders distinct behind behind
  · exact FairMutex.not_both_orders distinct behind before

/-- A step that leaves the loop where it is. A write may be put on the queue
while the loop does not sweep. -/
theorem Section.keep {device : BluettiDevice} {phase : LoopPhase} (sec : h.Section index device address phase)
    (sound : h.Sound) (effect : Effect h event t) (awaited : t.awaited index = h.awaited index)
    (waits : ∀ cycle task, phase = .queued cycle task → ∃ work, h.Awaits index address task work .waiting)
    (pending : ∀ work, t.Pending address work → h.Pending address work ∨ phase.sweeps = false ∧
      lane t.queue.enqueued address = lane h.queue.enqueued address ++ [work]) :
    t.Section index device address phase := by
  have unwritten (unwritten : h.Unwritten address) (sweeps : phase.sweeps = true) : t.Unwritten address := by
    intro work waiting
    rcases pending work waiting with old | ⟨idle, _⟩
    · exact unwritten work old
    · cases sweeps.symm.trans idle
  have selected {pack : Nat} (unwritten : h.Unwritten address) (selected : Selected h.frames index device address pack) :
      Selected t.frames index device address pack :=
    effect.selected sound.booked selected fun work waiting => absurd waiting (unwritten work)
  obtain ⟨more, line⟩ := effect.line address
  have later {one other : Nat} (order : [one, other].Sublist (lane h.queue.enqueued address)) :
      [one, other].Sublist (lane t.queue.enqueued address) := by
    rw [line]
    exact order.trans (List.sublist_append_left _ _)
  cases phase with
  | queued cycle task =>
    obtain ⟨own, awaits⟩ := waits cycle task rfl
    cases task with
    | selectPack pack =>
      intro work other waiting written
      rcases pending other written with old | ⟨idle, _⟩
      · rcases sec work other (awaited ▸ waiting) old with here | before
        · exact Or.inl here
        · exact Or.inr (later before)
      · cases idle
    | read set command rest saw startedAt =>
      cases set with
      | polling => trivial
      | pack pack =>
        obtain ⟨chosen, behind⟩ := sec
        refine ⟨effect.selected sound.booked chosen fun other waiting => ?_, fun work other waiting written => ?_⟩
        · exact awaits.behind sound.booked (behind own other awaits.awaited waiting).2
        · rcases pending other written with old | ⟨idle, grown⟩
          · obtain ⟨last, order⟩ := behind work other (awaited ▸ waiting) old
            exact ⟨last, later order⟩
          · refine ⟨by simpa [LoopPhase.sweeps] using idle, ?_⟩
            cases awaits.awaited.symm.trans (awaited ▸ waiting)
            rw [grown]
            exact (List.singleton_sublist.mpr (awaits.listed sound.booked)).append (List.Sublist.refl _)
  | working cycle task thrown =>
    cases task with
    | selectPack pack =>
      obtain ⟨quiet, chosen | failed⟩ := sec
      · exact ⟨unwritten quiet rfl, Or.inl (selected quiet chosen)⟩
      · exact ⟨unwritten quiet rfl, Or.inr (failed.keep sound effect awaited)⟩
    | read set command rest saw startedAt =>
      cases set with
      | polling => trivial
      | pack pack =>
        rcases sec with last | ⟨quiet, chosen⟩
        · exact Or.inl last
        · by_cases last : rest = []
          · exact Or.inl last
          · exact Or.inr ⟨unwritten quiet (decide_eq_true last), selected quiet chosen⟩
  | settling cycle pack ms => exact ⟨unwritten sec.1 rfl, selected sec.1 sec.2⟩
  | command cycle set command rest saw delay =>
    cases set with
    | polling => trivial
    | pack pack => exact ⟨unwritten sec.1 rfl, selected sec.1 sec.2⟩
  | _ => trivial

section Loops

variable {loop : PollingLoop} {phase : LoopPhase}

/-- What a step of a loop puts on the queue. -/
theorem advanced_pending {server : Server} {e : LoopEvent} {place : String} {other : Nat}
    (effect : Effect h (.loop index e work) t) (booked : h.Booked)
    (advanced : h.advanced index address server work phase = some t) (pending : t.Pending place other) :
    h.Pending place other ∨ ∃ cycle pack, phase = .queued cycle (.selectPack pack) ∧ other = work := by
  rcases effect.pending booked pending with old | ⟨source, enqueues, writes, _⟩
  · exact Or.inl old
  · cases enqueues with
    | loop current =>
      obtain ⟨found, waits, writes⟩ := pending.writes
      rcases advanced_cases advanced with ⟨cycle, task, rfl, _, rfl⟩ | ⟨_, sessions, rfl⟩
      · cases (Table.insert_self _ _ _).symm.trans waits
        cases task with
        | read => cases writes
        | selectPack pack => exact Or.inr ⟨cycle, pack, rfl, rfl⟩
      · exact Or.inl ⟨pending.listed, found, waits, writes⟩

theorem advanced_frames {server : Server} (advanced : h.advanced index address server work phase = some t) :
    t.frames = h.frames := by
  rcases advanced_cases advanced with ⟨_, _, _, _, rfl⟩ | ⟨_, sessions, rfl⟩
  · rfl
  · rfl

/-- A loop that has no pack selected and does not wait to select one. -/
theorem Section.outside {device : BluettiDevice} (none_ : phase.pack = none)
    (calm : ∀ cycle pack, phase ≠ .queued cycle (.selectPack pack)) : h.Section index device address phase := by
  cases phase with
  | queued cycle task =>
    cases task with
    | selectPack pack => exact absurd rfl (calm cycle pack)
    | read set =>
      cases set with
      | polling => trivial
      | pack => cases none_
  | working cycle task =>
    cases task with
    | selectPack => cases none_
    | read set =>
      cases set with
      | polling => trivial
      | pack => cases none_
  | command cycle set =>
    cases set with
    | polling => trivial
    | pack => cases none_
  | settling => cases none_
  | _ => trivial

/-- The selection is put on the queue behind the writes that wait there. -/
theorem Section.asked {server : Server} {e : LoopEvent} {cycle : PollingCycle} {pack : Nat}
    (effect : Effect h (.loop index e work) t) (booked : h.Booked)
    (advanced : h.advanced index address server work (.queued cycle (.selectPack pack)) = some t)
    (device : BluettiDevice) : t.Section index device address (.queued cycle (.selectPack pack)) := by
  intro own other waiting written
  rcases advanced_cases advanced with ⟨_, _, _, _, rfl⟩ | ⟨elsewhere, _⟩
  · cases (Table.insert_self _ _ _).symm.trans waiting
    rcases advanced_pending effect booked advanced written with old | ⟨_, _, _, here⟩
    · right
      change [other, work].Sublist (lane (h.queue.enqueued ++ [(address, work)]) address)
      rw [lane_append_self]
      exact (List.singleton_sublist.mpr old.listed).append (List.Sublist.refl _)
    · exact Or.inl here
  · exact absurd rfl (elsewhere cycle _)

/-- A step of the loop itself. -/
theorem Section.moved {server : Server} {e : LoopEvent}
    (sec : h.Section index loop.device loop.address loop.phase) (sound : h.Sound)
    (effect : Effect h (.loop index e work) t) (allowed : h.continues index loop e = true)
    (move : Server.PackStep loop.phase e phase)
    (advanced : h.advanced index loop.address server work phase = some t) :
    t.Section index loop.device loop.address phase := by
  have frames := advanced_frames advanced
  have unwritten (quiet : h.Unwritten loop.address) (reads : ∀ cycle pack, phase ≠ .queued cycle (.selectPack pack)) :
      t.Unwritten loop.address := by
    intro other written
    rcases advanced_pending effect sound.booked advanced written with old | ⟨cycle, pack, place, _⟩
    · exact quiet other old
    · exact reads cycle pack place
  generalize at_ : loop.phase = before at sec move
  cases move with
  | outside none_ =>
    by_cases asks : ∃ cycle pack, phase = .queued cycle (.selectPack pack)
    · obtain ⟨cycle, pack, rfl⟩ := asks
      exact .asked effect sound.booked advanced loop.device
    · exact .outside none_ fun cycle pack place => asks ⟨cycle, pack, place⟩
  | enqueues =>
    obtain ⟨quiet, chosen⟩ := sec
    refine ⟨frames.symm ▸ chosen, fun own other _ written => ?_⟩
    exact absurd written (unwritten quiet nofun other)
  | nextRead =>
    rcases sec with last | ⟨quiet, chosen⟩
    · cases last
    · exact ⟨unwritten quiet nofun, frames.symm ▸ chosen⟩
  | selected =>
    obtain ⟨quiet, chosen | failed⟩ := sec
    · exact ⟨unwritten quiet nofun, frames.symm ▸ chosen⟩
    · obtain ⟨error, same⟩ := failed.rejected sound (of_decide_eq_true allowed)
      cases same
  | settled =>
    obtain ⟨quiet, chosen⟩ := sec
    exact ⟨unwritten quiet nofun, frames.symm ▸ chosen⟩

/-- The loop whose work is called waits for it. -/
theorem Starts.awaiting {began : DeviceHandler} {task : LoopWork} {record : Work Failure Unit}
    (starts : Starts h began work (.loop index task) record) (sound : h.Sound) : ∃ loop cycle,
      h.server.loops[index]? = some loop ∧ loop.phase = .queued cycle task ∧ h.awaited index = some work ∧
        record.address = loop.address := by
  have entry := starts.waits sound.booked
  obtain ⟨awaited, loop, cycle, current, place⟩ := sound.placed.alone work index task entry
  exact ⟨loop, cycle, current, place, awaited,
    (sound.placed.turn sound.booked starts.record_at entry starts.waiting current place).2.2⟩

theorem Effect.start_pending {place : String} {other : Nat} (effect : Effect h (.start work) t) (booked : h.Booked)
    (pending : t.Pending place other) : h.Pending place other := by
  rcases effect.pending booked pending with old | ⟨source, enqueues, _⟩
  · exact old
  · cases enqueues

theorem Effect.start_awaited (effect : Effect h (.start work) t) : t.awaited = h.awaited := by
  cases effect.outline with
  | started _ awaited => exact (begin_awaited _ _ _ _ _).trans awaited

/-- The selection that the queue calls is written, or has failed. -/
theorem begin_selects {began : DeviceHandler} {pack : Nat} {place : String} {request : Except Failure DeviceCommand}
    (awaited : (began.begin work (.loop index (.selectPack pack)) place request).awaited index = some work)
    (current : h.server.loops[index]? = some loop) (here : place = loop.address)
    (asks : ∀ command, request = .ok command → h.Asks (.loop index (.selectPack pack)) command) :
    Selected (began.begin work (.loop index (.selectPack pack)) place request).frames index loop.device
        loop.address pack ∨
      (began.begin work (.loop index (.selectPack pack)) place request).Failed index := by
  rcases began.begin_cases work (.loop index (.selectPack pack)) place request with
    ⟨error, same, _⟩ | ⟨command, managed, asked, _, same⟩
  · rw [same] at awaited ⊢
    exact Or.inr (Or.inl ⟨work, _, error, awaited, Table.insert_self _ _ _⟩)
  · rw [same] at awaited ⊢
    cases ready : (began.sessions managed.transport).isReady with
    | true =>
      obtain ⟨own, current_, requested⟩ := asks command asked
      cases current.symm.trans current_
      obtain ⟨setter, built, written⟩ := Server.request_selects requested
      simp only [perform, ready, if_true]
      exact Or.inl (.last ⟨here, rfl, setter, built, written⟩)
    | false =>
      obtain ⟨message, refused⟩ := DeviceSession.perform_refused ready work command
      refine Or.inr (Or.inr ⟨work, managed.transport, .badConnectionError message, awaited,
        ⟨_, Table.insert_self _ _ _⟩, ?_⟩)
      change (Function.update began.sessions managed.transport _ managed.transport).phaseOf work = _
      rw [Function.update_self]
      exact refused

/-- The queue calls the work of the loop. -/
theorem Section.started {began : DeviceHandler} {cycle : PollingCycle} {task : LoopWork} {thrown : Option Failure}
    {record : Work Failure Unit} {request : Except Failure DeviceCommand}
    (sec : h.Section index loop.device loop.address (.queued cycle task)) (sound : h.Sound)
    (effect : Effect h (.start work) t) (starts : Starts h began work (.loop index task) record)
    (same : t = began.begin work (.loop index task) record.address request)
    (asks : ∀ command, request = .ok command → h.Asks (.loop index task) command)
    (current : h.server.loops[index]? = some loop) (here : record.address = loop.address)
    (awaited : h.awaited index = some work) : t.Section index loop.device loop.address (.working cycle task thrown) := by
  have waits := (congrFun effect.start_awaited index).trans awaited
  cases task with
  | selectPack pack =>
    refine ⟨fun other written => ?_, ?_⟩
    · have distinct := lane_nodup sound.booked.fair.tidy.distinct loop.address
      have leads := here ▸ starts.leads sound.booked
      have old := effect.start_pending sound.booked written
      have called : other ≠ work := by
        rintro rfl
        obtain ⟨source, waiting, _⟩ := written.writes
        obtain ⟨progress, called, _, _, works⟩ :=
          began.begin_progress other (.loop index (.selectPack pack)) record.address request
        rw [same, works, Table.insert_self] at waiting
        cases waiting
        exact called rfl
      rcases sec work other awaited old with here | before
      · exact called here
      · obtain ⟨source, waiting, _⟩ := old.writes
        rcases leads other source old.listed waiting with here | behind
        · exact called here
        · exact FairMutex.not_both_orders distinct before behind
    · subst same
      exact begin_selects waits current here asks
  | read set command rest saw startedAt =>
    cases set with
    | polling => trivial
    | pack pack =>
      by_cases last : rest = []
      · exact Or.inl last
      · obtain ⟨chosen, behind⟩ := sec
        have quiet : h.Unwritten loop.address := fun other written => last (behind work other awaited written).1
        exact Or.inr ⟨fun other written => quiet other (effect.start_pending sound.booked written),
          effect.selected sound.booked chosen fun other written => absurd written (quiet other)⟩

end Loops

/-- The sweeps of the packs are atomic so far. -/
structure Atomic (h : DeviceHandler) : Prop where
  sections : ∀ (index : Nat) (loop : PollingLoop), h.server.loops[index]? = some loop →
    Server.selectsPacks loop.device = true → h.Section index loop.device loop.address loop.phase
  reads : ∀ before frame after index pack command rest saw startedAt, h.frames = before ++ frame :: after →
    frame.source = .loop index (.read (.pack pack) command rest saw startedAt) → ∃ loop : PollingLoop,
      h.server.loops[index]? = some loop ∧ frame.address = loop.address ∧
        (Server.selectsPacks loop.device = true → Selected before index loop.device loop.address pack)

theorem Effect.loop_kept (effect : Effect h event t) (placed : h.Placed) {loop : PollingLoop}
    (current : h.server.loops[index]? = some loop) :
    ∃ phase, t.server.loops[index]? = some { loop with phase := phase } := by
  have set {own : Nat} {found : PollingLoop} {phase : LoopPhase} {server : Server}
      (at_ : h.server.loops[own]? = some found)
      (loops : server.loops = h.server.loops.set own { found with phase := phase }) :
      ∃ phase, server.loops[index]? = some { loop with phase := phase } := by
    rw [loops]
    by_cases here : own = index
    · subst here
      cases current.symm.trans at_
      exact ⟨phase, List.getElem?_set_self (List.getElem?_eq_some_iff.mp at_).1⟩
    · exact ⟨loop.phase, (List.getElem?_set_ne here).trans current⟩
  cases effect with
  | stopped => exact ⟨loop.phase, current⟩
  | @entered event server other lone allowed run =>
    obtain ⟨sessions, same⟩ := h.entered_frame server
    rw [same]
    rcases (step_loops lone placed.unstarted run).1 with kept | ⟨empty, _⟩
    · exact ⟨loop.phase, (congrArg (·[index]?) kept).trans current⟩
    · rw [empty] at current
      cases current
  | moved found allowed run move arrives advanced =>
    rw [(advanced_frame advanced).1]
    exact set found arrives.loops
  | called => exact ⟨loop.phase, current⟩
  | commandStarted =>
    rw [begin_server]
    exact ⟨loop.phase, current⟩
  | @loopStarted work own record task queued progress before cycle _ _ _ _ found place =>
    rw [begin_server]
    exact set found (h.server.startWork_arrives own before cycle queued).loops
  | settled => exact ⟨loop.phase, current⟩
  | finished => exact ⟨loop.phase, current⟩
  | session => exact ⟨loop.phase, current⟩

theorem Atomic.reads_step (atomic : h.Atomic) (sound : h.Sound) (effect : Effect h event t)
    {before after : List Frame} {frame : Frame} {pack : Nat} {command : ReadHoldingRegisters}
    {rest : List ReadHoldingRegisters} {saw : Bool} {startedAt : ℚ} (split : t.frames = before ++ frame :: after)
    (source : frame.source = .loop index (.read (.pack pack) command rest saw startedAt)) : ∃ loop : PollingLoop,
      t.server.loops[index]? = some loop ∧ frame.address = loop.address ∧
        (Server.selectsPacks loop.device = true → Selected before index loop.device loop.address pack) := by
  have old {after : List Frame} (split : h.frames = before ++ frame :: after) : ∃ loop : PollingLoop,
      t.server.loops[index]? = some loop ∧ frame.address = loop.address ∧
        (Server.selectsPacks loop.device = true → Selected before index loop.device loop.address pack) := by
    obtain ⟨loop, current, here, selected⟩ := atomic.reads before frame after index pack command rest saw startedAt split
      source
    obtain ⟨phase, later⟩ := effect.loop_kept sound.placed current
    exact ⟨_, later, here, selected⟩
  rcases effect.frames with same | ⟨work, own, record, managed, asked, rfl, writes⟩
  · exact old (same.symm.trans split)
  · rw [writes.frames] at split
    rcases List.eq_nil_or_concat after with rfl | ⟨others, last, rfl⟩
    · obtain ⟨rfl, same⟩ := List.append_inj' split rfl
      cases same
      cases source
      obtain ⟨began, starts⟩ := writes.starts
      obtain ⟨loop, cycle, current, place, _, here⟩ := starts.awaiting sound
      obtain ⟨phase, later⟩ := effect.loop_kept sound.placed current
      refine ⟨_, later, here, fun selecting => ?_⟩
      have sec := atomic.sections index loop current selecting
      rw [place] at sec
      exact sec.1
    · refine @old others ?_
      rw [List.concat_eq_append, ← List.cons_append, ← List.append_assoc] at split
      exact (List.append_inj' split rfl).1

theorem Atomic.sections_step (atomic : h.Atomic) (sound : h.Sound)
    (distinct : (h.server.loops.map PollingLoop.address).Nodup) (effect : Effect h event t)
    (undisturbed : h.Undisturbed event) {loop : PollingLoop} (current : t.server.loops[index]? = some loop)
    (selecting : Server.selectsPacks loop.device = true) : t.Section index loop.device loop.address loop.phase := by
  have keep (before : h.server.loops[index]? = some loop) (awaited : t.awaited index = h.awaited index)
      (pending : ∀ work, t.Pending loop.address work → h.Pending loop.address work ∨ loop.phase.sweeps = false ∧
        lane t.queue.enqueued loop.address = lane h.queue.enqueued loop.address ++ [work]) :
      t.Section index loop.device loop.address loop.phase :=
    (atomic.sections index loop before selecting).keep sound effect awaited
      (fun cycle task place => sound.placed.queued index loop cycle task before place) pending
  have idle (calm : ∀ work place source, ¬Enqueues h event work place source) (work : Nat)
      (pending : t.Pending loop.address work) : h.Pending loop.address work ∨ loop.phase.sweeps = false ∧
        lane t.queue.enqueued loop.address = lane h.queue.enqueued loop.address ++ [work] := by
    rcases effect.pending sound.booked pending with old | ⟨source, enqueues, _⟩
    · exact Or.inl old
    · exact absurd enqueues (calm work _ source)
  cases effect with
  | stopped => exact keep current rfl (idle nofun)
  | @entered event server other lone allowed run =>
    obtain ⟨sessions, same⟩ := h.entered_frame server
    have awaited : (h.entered server).awaited index = h.awaited index := by rw [same]
    rw [same] at current
    rcases (step_loops lone sound.placed.unstarted run).1 with kept | ⟨_, heads⟩
    · exact keep ((congrArg (·[index]?) kept).symm.trans current) awaited (idle nofun)
    · rw [heads loop (List.mem_of_getElem? current)]
      trivial
  | @moved own work e before server phase calls begun _ found allowed run move arrives advanced =>
    have effect : Effect h (.loop own e work) t := .moved found allowed run move arrives advanced
    obtain ⟨server_, others⟩ := advanced_frame advanced
    rw [server_, arrives.loops] at current
    rcases loops_set found current with ⟨rfl, rfl⟩ | ⟨different, current⟩
    · exact (atomic.sections index before found selecting).moved sound effect allowed
        (move.packStep (continues_own allowed) selecting) advanced
    · refine keep current (others index different) fun other pending => ?_
      rcases effect.pending sound.booked pending with old | ⟨source, enqueues, _⟩
      · exact Or.inl old
      · generalize place_ : loop.address = place at enqueues
        cases enqueues with
        | loop found => exact absurd (address_injective distinct current found place_) different
  | @called work address command fresh =>
    refine keep current rfl fun other pending => ?_
    have effect : Effect h (.handleCommand work address command) _ := .called fresh
    rcases effect.pending sound.booked pending with old | ⟨source, enqueues, writes, grown⟩
    · exact Or.inl old
    · generalize place_ : loop.address = place at enqueues grown ⊢
      cases enqueues with
      | command => exact Or.inr ⟨undisturbed writes loop (List.mem_of_getElem? current) place_ selecting, grown⟩
  | @commandStarted work record command _ _ record_at entry waiting ready counts =>
    have effect := Effect.commandStarted record_at entry waiting ready counts
    rw [begin_server] at current
    exact keep current (congrFun effect.start_awaited index) (idle nofun)
  | @loopStarted work own record task queued progress before cycle record_at entry waiting ready found place =>
    have effect := Effect.loopStarted record_at entry waiting ready found place
    rw [begin_server] at current
    change (h.server.startWork own before cycle queued).loops[index]? = _ at current
    rw [(h.server.startWork_arrives own before cycle queued).loops] at current
    rcases loops_set found current with ⟨rfl, rfl⟩ | ⟨different, current⟩
    · obtain ⟨began, source, called, request, starts, same, asks⟩ := effect.starts
      obtain ⟨later, entry_⟩ := starts.entry
      cases entry.symm.trans entry_
      obtain ⟨other, otherCycle, found_, place_, awaited, here⟩ := starts.awaiting sound
      cases found.symm.trans found_
      cases place.symm.trans place_
      have sec := atomic.sections index before found selecting
      rw [place] at sec
      exact sec.started sound effect starts same asks found here awaited
    · exact keep current (congrFun effect.start_awaited index) (idle nofun)
  | settled => exact keep current rfl (idle nofun)
  | finished => exact keep current rfl (idle nofun)
  | session => exact keep current rfl (idle nofun)

theorem Atomic.create (addresses : List String) (runOnce : Bool) (options : PollingOptions) :
    (create addresses runOnce options).Atomic where
  sections _ _ current := nomatch current
  reads before frame after _ _ _ _ _ _ split := by
    cases before <;> cases split

theorem packs_atomic {addresses : List String} {runOnce : Bool} {options : PollingOptions}
    {trace : List HandlerEvent} (distinct : addresses.Nodup)
    (reach : Reach step Undisturbed (create addresses runOnce options) trace h) : h.PackReadsSelected := by
  have atomic : h.Atomic := by
    induction reach with
    | start => exact .create addresses runOnce options
    | next before undisturbed run ih =>
      obtain ⟨moves, moved⟩ := server_reach before
      have sound := sound_of_reach before
      have effect := step_effect run
      exact ⟨fun index loop current => ih.sections_step sound (Server.proper_of_reach moved distinct).distinct effect
          undisturbed current,
        fun _ _ _ _ _ _ _ _ _ split source => ih.reads_step sound effect split source⟩
  intro index loop current selecting before frame after pack command rest saw startedAt split source
  obtain ⟨found, current_, here, selected⟩ :=
    atomic.reads before frame after index pack command rest saw startedAt split source
  cases current.symm.trans current_
  exact ⟨here, selected selecting⟩

/-- The queue calls a work, and the device answers its command. -/
def answered (work : Nat) (answer : List Byte) (outcome : Settlement Failure Unit) : List HandlerEvent :=
  [.start work, .session 0 (.writeSettled work (.fulfilled ())), .session 0 (.notification answer),
   .session 0 (.responseSettled work), .settle work outcome, .finish work]

/-- The loop puts a read on the queue, which the device refuses. -/
def readRefused (work next : Nat) (command : ReadHoldingRegisters) : List HandlerEvent :=
  let refusal := appendModbusCrc [0x01, 0x83, 0x02]
  let outcome := .rejected (DeviceSession.buildModbusException (.readHoldingRegisters command) refusal)
  [.loop 0 (.nextCommand 1000) work] ++ answered work refusal outcome ++
    [.loop 0 (.workSettled false outcome 1000 1000) next]

def PACK_STATION_ADDRESS : String := "24:4C:AB:2C:24:8E"

def packStation : DeviceHandler :=
  create [PACK_STATION_ADDRESS] false DEFAULT_POLLING_OPTIONS

def writePackNum (pack : BitVec 16) : DeviceCommand :=
  .writeSingleRegister { address := 3006, value := pack }

def packStationStarts : List HandlerEvent :=
  [.server (.mqttConnected (.fulfilled ())), .server (.mqttSubscribed (.fulfilled ())), .server .startPolling] ++
    deviceOpens 0 "AC200M2237000003358" ++ [.server .connectAllReturned, .server .startLoops]

/-- The first cycle up to the delay after the selection of the first pack. -/
def firstPackSelected : List HandlerEvent :=
  [.loop 0 (.turn 1000 1000) 0] ++ readRefused 0 1 (.of 10 40) ++ readRefused 1 2 (.of 70 21) ++
    readRefused 2 3 (.of 3001 61) ++ answered 3 (writePackNum 1).toBytes (.fulfilled ()) ++
    [.loop 0 (.workSettled false (.fulfilled ()) 1000 1000) 0]

def writesSecondPack : HandlerEvent :=
  .handleCommand 4 PACK_STATION_ADDRESS (writePackNum 2)

def secondPackWritten : List HandlerEvent :=
  answered 4 (writePackNum 2).toBytes (.fulfilled ())

def firstPackRead : Frame where
  address := PACK_STATION_ADDRESS
  source := .loop 0 (.read (.pack 1) (.of 91 37) [] false 1000)
  command := .readHoldingRegisters (.of 91 37)

theorem undisturbed_of_all {trace : List HandlerEvent} (own : (trace.all fun e => !e.isCommand) = true) :
    ∀ e ∈ trace, ∀ s, Undisturbed s e := by
  intro e member s
  have own := List.all_eq_true.mp own e member
  cases e with
  | handleCommand => cases own
  | _ => trivial

/-- A write that is allowed while the loop is at its head does not disturb the
reading of the first pack. -/
theorem packs_atomic_after_write : ∃ trace h, Reach step Undisturbed packStation trace h ∧ firstPackRead ∈ h.frames ∧
    h.PackReadsSelected := by
  let later := secondPackWritten ++ firstPackSelected ++ [.loop 0 .packSettled 0, .loop 0 (.nextCommand 1000) 5, .start 5]
  have run : (packStationStarts.foldlM step packStation).any (fun p =>
      p.server.loops.all (fun loop => !loop.phase.sweeps) && (p.step writesSecondPack).any fun q =>
        (later.foldlM step q).any fun h => firstPackRead ∈ h.frames) = true := by
    decide +kernel
  obtain ⟨p, started, passed⟩ := Reach.of_foldlM (undisturbed_of_all (by decide +kernel)) run
  obtain ⟨calm, passed⟩ := Bool.and_eq_true_iff.mp passed
  obtain ⟨q, written, passed⟩ := (Option.any_eq_true _ _).mp passed
  obtain ⟨h, read, found⟩ := Reach.of_foldlM (undisturbed_of_all (by decide +kernel)) passed
  have quiet : p.Undisturbed writesSecondPack := fun _ loop member _ _ => by
    simpa using List.all_eq_true.mp calm loop member
  have reach := Reach.trans (.next started quiet written) read
  exact ⟨_, h, reach, of_decide_eq_true found, packs_atomic (by decide) reach⟩

/-- The second pack is written during the delay after the selection of the first. -/
def firstPackOverwritten : List HandlerEvent :=
  packStationStarts ++ firstPackSelected ++
    [writesSecondPack, .loop 0 .packSettled 0, .loop 0 (.nextCommand 1000) 5] ++ secondPackWritten ++ [.start 5]

/-- The first pack is read while the device has the second one selected. -/
theorem selection_overwritten :
    ∃ h, Reach step (fun _ _ => True) packStation firstPackOverwritten h ∧ ¬h.PackReadsSelected := by
  let overwrites : Frame := ⟨PACK_STATION_ADDRESS, .handleCommand (writePackNum 2), writePackNum 2⟩
  have run : (firstPackOverwritten.foldlM step packStation).any (fun h => h.frames.drop 4 = [overwrites, firstPackRead] &&
        h.server.loops[0]?.any fun loop => Server.selectsPacks loop.device && loop.address = PACK_STATION_ADDRESS) =
      true := by
    decide +kernel
  obtain ⟨h, reach, found⟩ := Reach.of_foldlM (fun _ _ _ => trivial) run
  simp only [Bool.and_eq_true, decide_eq_true_eq, Option.any_eq_true] at found
  obtain ⟨frames, loop, current, selecting, here⟩ := found
  refine ⟨h, reach, fun atomic => ?_⟩
  have split : h.frames = (h.frames.take 4 ++ [overwrites]) ++ firstPackRead :: [] := by
    rw [List.append_assoc]
    exact (List.take_append_drop 4 h.frames).symm.trans (congrArg _ frames)
  obtain ⟨_, selected⟩ := atomic 0 loop current selecting _ _ _ _ _ _ _ _ split rfl
  have selects := selected.write_last here.symm rfl
  cases selects.source

end DeviceHandler

end BluettiMqtt
