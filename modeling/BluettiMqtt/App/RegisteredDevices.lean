import BluettiMqtt.App.LoopMoves
import BluettiMqtt.App.PollingLoops

namespace BluettiMqtt
open Promise Transition

/-- Every supported device has a live window, and its pack selector takes the
number of every pack. -/
theorem definitions_pollable : ∀ definition ∈ BLUETTI_DEFINITIONS, definition.pollingCommands ≠ [] ∧
    (BluettiDevice.hasFieldSetter ⟨"", "", definition⟩ "pack_num" = true →
      ∀ pack ≤ BluettiDevice.packNumMax ⟨"", "", definition⟩,
        (BluettiDevice.buildSetterCommand ⟨"", "", definition⟩ "pack_num" (.number (.ofInt pack))).isOk = true) := by
  decide +kernel

theorem fastPollingCommands_ne_nil {device : BluettiDevice} (supported : device.definition ∈ BLUETTI_DEFINITIONS) :
    device.fastPollingCommands ≠ [] := by
  have some_ := (definitions_pollable device.definition supported).1
  change device.definition.pollingCommands.take 1 ≠ []
  cases commands : device.definition.pollingCommands with
  | nil => exact absurd commands some_
  | cons command rest => exact nofun

theorem packSelector_ok {device : BluettiDevice} (supported : device.definition ∈ BLUETTI_DEFINITIONS)
    (selecting : Server.selectsPacks device = true) {pack : Nat} (bound : pack ≤ device.packNumMax) :
    ∃ command, device.buildSetterCommand "pack_num" (.number (.ofInt pack)) = .ok command := by
  have fits := (definitions_pollable device.definition supported).2 (Bool.and_eq_true_iff.mp selecting).2 pack bound
  cases built : device.buildSetterCommand "pack_num" (.number (.ofInt pack)) with
  | ok command => exact ⟨command, rfl⟩
  | error error =>
    change (device.buildSetterCommand "pack_num" (.number (.ofInt pack))).isOk = true at fits
    rw [built] at fits
    cases fits

theorem createDeviceFromAdvertisement_supported {address name : String} {device : BluettiDevice}
    (created : createDeviceFromAdvertisement address name = .ok device) : device.definition ∈ BLUETTI_DEFINITIONS := by
  unfold createDeviceFromAdvertisement at created
  split at created
  · cases created
  · split at created
    · cases created
    · rename_i definition found
      cases created
      exact List.mem_of_find?_eq_some found

namespace Server

/-- The devices are supported ones, and a loop selects only packs that its
device may have. -/
structure Registered (s : Server) : Prop where
  devices : ∀ address device, s.devices address = some device → device.definition ∈ BLUETTI_DEFINITIONS
  loops : ∀ loop ∈ s.loops, loop.device.definition ∈ BLUETTI_DEFINITIONS
  selecting : ∀ loop ∈ s.loops, ∀ cycle pack, loop.phase = .queued cycle (.selectPack pack) →
    pack ≤ loop.device.packNumMax ∧ selectsPacks loop.device = true

variable {s t : Server}

theorem Registered.congr (registered : Registered s) (devices : t.devices = s.devices) (loops : t.loops = s.loops) :
    Registered t where
  devices := devices ▸ registered.devices
  loops := loops ▸ registered.loops
  selecting := loops ▸ registered.selecting

theorem Registered.connectNext (registered : Registered s) (addresses : List String) :
    Registered (s.connectNext addresses) := by
  rcases s.connectNext_cases addresses with same | ⟨address, rest, _, same⟩
  · rw [same]
    exact registered.congr rfl rfl
  · rw [same]
    exact registered.congr rfl rfl

theorem Registered.connectAllWithRecovery (registered : Registered s) : Registered s.connectAllWithRecovery := by
  unfold Server.connectAllWithRecovery
  split
  · exact registered.congr rfl rfl
  · exact Registered.connectNext (registered.congr (t := s.record .connectAll) rfl rfl) s.addresses

theorem Registered.disconnectNext (registered : Registered s) (outcome : Settlement Failure Unit) :
    Registered (s.disconnectNext outcome) := by
  rcases s.disconnectNext_cases outcome with ⟨_, same⟩ | ⟨address, session, _, same⟩
  · rw [same]
    exact registered.congr rfl rfl
  · rw [same]
    exact registered.congr rfl rfl

theorem Registered.connectAllFailed (registered : Registered s) (error : Failure) :
    Registered (s.connectAllFailed error) := by
  obtain ⟨phase, _, same⟩ := s.connectAllFailed_cases error
  rw [same]
  exact registered.congr rfl rfl

theorem Registered.registerDevices (registered : Registered s) (addresses : List String) :
    Registered (s.registerDevices addresses) := by
  induction addresses generalizing s with
  | nil => exact registered.congr rfl rfl
  | cons address rest ih =>
    unfold Server.registerDevices
    split
    · rename_i device found
      refine ih ⟨fun other known entry => ?_, registered.loops, registered.selecting⟩
      rcases Table.insert_eq_some.mp entry with ⟨rfl, rfl⟩ | ⟨_, entry⟩
      · unfold Server.deviceFor at found
        split at found
        · cases found
          exact registered.devices other _ ‹_›
        · split at found
          · exact createDeviceFromAdvertisement_supported found
          · cases found
      · exact registered.devices other known entry
    · exact registered.connectAllFailed _

theorem Registered.startLoops (registered : Registered s) : Registered s.startLoops := by
  have made {loop : PollingLoop} (member : loop ∈ s.startLoops.loops) :
      loop.phase = .head ∧ loop.device.definition ∈ BLUETTI_DEFINITIONS := by
    obtain ⟨address, _, found⟩ := List.mem_filterMap.mp member
    obtain ⟨device, known, rfl⟩ := Option.map_eq_some_iff.mp found
    exact ⟨rfl, registered.devices address device known⟩
  refine ⟨registered.devices, fun loop member => (made member).2, fun loop member cycle pack place => ?_⟩
  rw [(made member).1] at place
  cases place

theorem PackMove.selects_bound {loop : PollingLoop} {cycle other : PollingCycle} {next pack : Nat}
    (move : PackMove loop cycle next (.queued other (.selectPack pack))) :
    pack ≤ loop.device.packNumMax ∧ selectsPacks loop.device = true := by
  cases move with
  | selects bound selecting => exact ⟨bound, selecting⟩

theorem Loses.not_queued {loop : PollingLoop} {cycle : PollingCycle} {work : LoopWork}
    {calls : List ServerOperation} (loses : Loses s loop (.queued cycle work) calls) : False := by
  cases loses with
  | reconnects _ move => cases move

theorem SetMove.selects_bound {loop : PollingLoop} {cycle other : PollingCycle} {pack : Nat} {set : CommandSet}
    {result : CommandResult} {calls : List ServerOperation}
    (move : SetMove s loop cycle set result (.queued other (.selectPack pack)) calls) :
    pack ≤ loop.device.packNumMax ∧ selectsPacks loop.device = true := by
  cases move with
  | lost loses => exact loses.not_queued.elim
  | packs _ _ move => exact move.selects_bound
  | next _ _ _ move => exact move.selects_bound

theorem LoopMove.selects_bound {loop : PollingLoop} {before : LoopPhase} {event : LoopEvent}
    {calls : List ServerOperation} {cycles : Nat} {cycle : PollingCycle} {pack : Nat}
    (move : LoopMove s loop before event (.queued cycle (.selectPack pack)) calls cycles) :
    pack ≤ loop.device.packNumMax ∧ selectsPacks loop.device = true := by
  cases move with
  | beginsEmpty _ _ _ _ _ move => exact move.selects_bound
  | cuts _ _ move => exact move.selects_bound
  | returned _ _ _ _ _ _ _ _ _ _ move => exact move.selects_bound
  | skipped _ _ _ _ _ move => exact move.selects_bound
  | lost _ _ _ _ _ loses => exact loses.not_queued.elim
  | retries move => cases move

theorem Registered.loopStep (registered : Registered s) {index : Nat} {loop : PollingLoop} {event : LoopEvent}
    (current : s.loops[index]? = some loop) (run : s.loopStep index loop event = some t) : Registered t := by
  obtain ⟨phase, calls, cycles, move, arrives⟩ := loopStep_moves run
  have own := List.mem_of_getElem? current
  refine ⟨arrives.frame.devices ▸ registered.devices, fun other member => ?_, fun other member cycle pack place => ?_⟩
  · rw [arrives.loops] at member
    rcases List.mem_or_eq_of_mem_set member with old | rfl
    · exact registered.loops other old
    · exact registered.loops loop own
  · rw [arrives.loops] at member
    rcases List.mem_or_eq_of_mem_set member with old | rfl
    · exact registered.selecting other old cycle pack place
    · change phase = _ at place
      subst place
      exact move.selects_bound

theorem Registered.create (addresses : List String) (runOnce : Bool) (options : PollingOptions) :
    Registered (create addresses runOnce options) where
  devices _ _ entry := nomatch (entry : (none : Option BluettiDevice) = _)
  loops _ member := nomatch (member : _ ∈ ([] : List PollingLoop))
  selecting _ member := nomatch (member : _ ∈ ([] : List PollingLoop))

theorem Registered.step (registered : Registered s) {event : ServerEvent} (run : s.step event = some t) :
    Registered t := by
  cases step_effect run with
  | moved => exact registered.congr rfl rfl
  | entered => exact Registered.connectAllWithRecovery (registered.congr (t := { s with stopRequested := false }) rfl rfl)
  | initialized address rest transport place result =>
    cases result with
    | fulfilled name =>
      exact Registered.connectNext (registered.congr (t := { s with
        sessions := s.sessions.set address { transport := transport, name := name } }) rfl rfl) rest
    | rejected error => exact registered.congr rfl rfl
  | connectAllReturned result place =>
    simp only [Server.step, place] at run
    cases result with
    | fulfilled =>
      cases run
      exact registered.registerDevices s.addresses
    | rejected error =>
      cases run
      exact registered.connectAllFailed error
  | retried => exact registered.connectAllWithRecovery
  | started => exact registered.startLoops
  | loop index e loop current =>
    simp only [Server.step, current] at run
    exact registered.loopStep current run
  | joined => exact registered.congr rfl rfl
  | cleanup outcome => exact registered.disconnectNext outcome
  | disconnected _ outcome address =>
    exact Registered.disconnectNext (registered.congr (t := { s with
      sessions := s.sessions.delete address }) rfl rfl) outcome
  | commandWritten => exact registered.congr rfl rfl
  | stop => exact registered.congr rfl rfl

/-- The second state has the configuration of the first. -/
structure Configured (s t : Server) : Prop where
  addresses : t.addresses = s.addresses
  runOnce : t.runOnce = s.runOnce

theorem Configured.trans {u : Server} (first : Configured s t) (second : Configured t u) : Configured s u :=
  ⟨second.addresses.trans first.addresses, second.runOnce.trans first.runOnce⟩

theorem connectNext_configured (s : Server) (addresses : List String) : Configured s (s.connectNext addresses) := by
  rcases s.connectNext_cases addresses with same | ⟨address, rest, _, same⟩
  · rw [same]
    exact ⟨rfl, rfl⟩
  · rw [same]
    exact ⟨rfl, rfl⟩

theorem connectAllWithRecovery_configured (s : Server) : Configured s s.connectAllWithRecovery := by
  unfold connectAllWithRecovery
  split
  · exact ⟨rfl, rfl⟩
  · have kept := (s.record .connectAll).connectNext_configured s.addresses
    exact ⟨kept.addresses, kept.runOnce⟩

theorem disconnectNext_configured (s : Server) (outcome : Settlement Failure Unit) :
    Configured s (s.disconnectNext outcome) ∧ (s.disconnectNext outcome).loops = s.loops := by
  rcases s.disconnectNext_cases outcome with ⟨_, same⟩ | ⟨address, session, _, same⟩
  · rw [same]
    exact ⟨⟨rfl, rfl⟩, rfl⟩
  · rw [same]
    exact ⟨⟨rfl, rfl⟩, rfl⟩

theorem connectAllFailed_configured (s : Server) (error : Failure) : Configured s (s.connectAllFailed error) := by
  obtain ⟨phase, _, same⟩ := s.connectAllFailed_cases error
  rw [same]
  exact ⟨rfl, rfl⟩

theorem registerDevices_configured (s : Server) (addresses : List String) :
    Configured s (s.registerDevices addresses) := by
  induction addresses generalizing s with
  | nil => exact ⟨rfl, rfl⟩
  | cons address rest ih =>
    unfold Server.registerDevices
    split
    · rename_i device _
      have registered : Configured s (s.register address device) := ⟨rfl, rfl⟩
      exact registered.trans (ih (s.register address device))
    · exact s.connectAllFailed_configured _

/-- The loops are started once, for addresses of the list. -/
theorem step_configured {event : ServerEvent} (run : s.step event = some t) : Configured s t ∧
    (t.loops.map PollingLoop.address = s.loops.map PollingLoop.address ∨
      (t.loops.map PollingLoop.address).Sublist s.addresses) := by
  have kept (configured : Configured s t) (loops : t.loops = s.loops) : Configured s t ∧
      (t.loops.map PollingLoop.address = s.loops.map PollingLoop.address ∨
        (t.loops.map PollingLoop.address).Sublist s.addresses) :=
    ⟨configured, Or.inl (congrArg (List.map PollingLoop.address) loops)⟩
  cases step_effect run with
  | moved => exact kept ⟨rfl, rfl⟩ rfl
  | entered =>
    have rest := ({ s with stopRequested := false } : Server).connectAllWithRecovery_configured
    exact kept ⟨rest.addresses, rest.runOnce⟩ (connectAllWithRecovery_loops _).1
  | initialized address rest transport place result =>
    cases result with
    | fulfilled name =>
      have rest_ := ({ s with
        sessions := s.sessions.set address { transport := transport, name := name } } : Server).connectNext_configured rest
      exact kept ⟨rest_.addresses, rest_.runOnce⟩ (connectNext_loops _ rest).1
    | rejected error => exact kept ⟨rfl, rfl⟩ rfl
  | connectAllReturned result place phase after accounts =>
    refine kept ?_ accounts.loops
    simp only [Server.step, place] at run
    cases result with
    | fulfilled =>
      cases run
      exact s.registerDevices_configured s.addresses
    | rejected error =>
      cases run
      exact s.connectAllFailed_configured error
  | retried => exact kept s.connectAllWithRecovery_configured (connectAllWithRecovery_loops _).1
  | started => exact ⟨⟨rfl, rfl⟩, Or.inr s.startLoops_addresses⟩
  | loop index e loop current =>
    simp only [Server.step, current] at run
    obtain ⟨phase, calls, cycles, _, arrives⟩ := loopStep_moves run
    refine ⟨⟨arrives.frame.addresses, arrives.frame.runOnce⟩, Or.inl ?_⟩
    rw [arrives.loops]
    exact addresses_setLoop current
  | joined => exact kept ⟨rfl, rfl⟩ rfl
  | cleanup outcome =>
    obtain ⟨configured, loops⟩ := s.disconnectNext_configured outcome
    exact kept configured loops
  | disconnected _ outcome address =>
    obtain ⟨configured, loops⟩ := disconnectNext_configured { s with sessions := s.sessions.delete address } outcome
    exact kept ⟨configured.addresses, configured.runOnce⟩ loops
  | commandWritten => exact kept ⟨rfl, rfl⟩ rfl
  | stop => exact kept ⟨rfl, rfl⟩ rfl

/-- What the devices, the loops and the configuration of a run are like. -/
structure Proper (s : Server) (runOnce : Bool) : Prop where
  registered : Registered s
  once : s.runOnce = runOnce
  addresses : s.addresses.Nodup
  distinct : (s.loops.map PollingLoop.address).Nodup

theorem proper_of_reach {addresses : List String} {runOnce : Bool} {options : PollingOptions} {trace : List ServerEvent}
    (reach : Reach Server.step (fun _ _ => True) (create addresses runOnce options) trace s)
    (distinct : addresses.Nodup) : Proper s runOnce := by
  refine reach.invariant (P := (Proper · runOnce)) ⟨.create addresses runOnce options, rfl, distinct, List.nodup_nil⟩
    fun s event t proper _ run => ?_
  obtain ⟨configured, loops⟩ := step_configured run
  refine ⟨proper.registered.step run, configured.runOnce.trans proper.once, configured.addresses ▸ proper.addresses, ?_⟩
  rcases loops with same | sublist
  · exact same ▸ proper.distinct
  · exact sublist.nodup proper.addresses

end Server

end BluettiMqtt
