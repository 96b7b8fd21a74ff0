import BluettiMqtt.App.TransportOwnership
import BluettiMqtt.Cli.ParseArgs

namespace BluettiMqtt
open Promise Transition

namespace Server

variable {s t : Server} {addresses : List String} {runOnce : Bool} {options : PollingOptions}
  {trace : List ServerEvent}

/-- Two loops of the list are loops of different devices. -/
def ApartWhile (s : Server) (busy : LoopPhase → Bool) : Prop :=
  ∀ (i j : Nat) (one other : PollingLoop), s.loops[i]? = some one → s.loops[j]? = some other → i ≠ j →
    busy one.phase = true → busy other.phase = true → one.address ≠ other.address

/-- A session that another one takes the place of in the manager's map has been
disconnected. -/
def ReplacesReleased (s t : Server) : Prop :=
  ∀ address old new, s.sessions.get? address = some old → t.sessions.get? address = some new →
    new.transport ≠ old.transport → t.transports old.transport ≠ some .connected

/-- Until `DeviceHandler.run` settles, each device has at most one active loop
and one reconnect, and no session is overwritten while it is connected. -/
def OneLoopPerDevice (addresses : List String) (runOnce : Bool) (options : PollingOptions) : Prop :=
  ∀ trace s, Reach Server.step (fun _ _ => True) (create addresses runOnce options) trace s →
    s.phase.handlerSettled = false →
    ApartWhile s LoopPhase.isActive ∧ ApartWhile s LoopPhase.reconnecting ∧
      ∀ event t, s.step event = some t → ReplacesReleased s t

/-- What holds before `DeviceHandler.run` settles, whatever its loops do. -/
structure Launched (s : Server) : Prop where
  unstarted : s.phase.beforeLoops = true → s.loops = []
  owned : s.phase.handlerSettled = false → Owned s

theorem Launched.create (distinct : addresses.Nodup) : Launched (create addresses runOnce options) where
  unstarted _ := rfl
  owned _ := .create distinct

theorem Launched.unstarted_step {event : ServerEvent} (launched : Launched s) (run : s.step event = some t)
    (early : t.phase.beforeLoops = true) : t.loops = [] := by
  cases step_effect run with
  | moved phase move =>
    rcases move.settling with unstarted | ⟨_, after⟩
    · exact launched.unstarted unstarted
    · rw [ServerPhase.beforeLoops_of_settled after] at early
      cases early
  | entered place =>
    exact (connectAllWithRecovery_loops _).1.trans (launched.unstarted (by rw [place]; rfl))
  | initialized address rest transport place result =>
    have before := launched.unstarted (by rw [place]; rfl)
    cases result with
    | fulfilled name => exact (connectNext_loops _ _).1.trans before
    | rejected error => exact before
  | connectAllReturned result place phase after accounts =>
    exact accounts.loops.trans (launched.unstarted (by rw [place]; rfl))
  | retried place => exact (connectAllWithRecovery_loops _).1.trans (launched.unstarted (by rw [place]; rfl))
  | started place => cases early
  | loop index event loop current active effect =>
    rw [effect.frame.2.1] at early
    rw [launched.unstarted early] at current
    cases current
  | joined place => cases early
  | cleanup outcome place =>
    rw [ServerPhase.beforeLoops_of_settled (s.disconnectNext_settled outcome).1] at early
    cases early
  | disconnected result outcome address place =>
    rw [ServerPhase.beforeLoops_of_settled (disconnectNext_settled _ outcome).1] at early
    cases early
  | commandWritten => exact launched.unstarted early
  | stop => exact launched.unstarted early

theorem Launched.step {event : ServerEvent} (launched : Launched s) (run : s.step event = some t) :
    Launched t where
  unstarted := launched.unstarted_step run
  owned unsettled := by
    have before : s.phase.handlerSettled = false := by
      rw [← Bool.not_eq_true]
      intro settled
      rw [(step_settled run settled).1] at unsettled
      cases unsettled
    refine (launched.owned before).step launched.unstarted (fun settled => ?_) (fun joined => ?_) run
    · rw [before] at settled
      cases settled
    · subst joined
      cases step_effect run with
      | moved phase move =>
        generalize s.phase = place at move
        cases move
      | joined => cases unsettled

theorem launched_of_reach (reach : Reach Server.step (fun _ _ => True) (create addresses runOnce options) trace s)
    (distinct : addresses.Nodup) : Launched s :=
  reach.invariant (P := Launched) (.create distinct) fun _ _ _ launched _ run => launched.step run

/-- Loops of a list without repetitions are loops of different devices. -/
theorem ApartWhile.of_nodup (distinct : (s.loops.map PollingLoop.address).Nodup) (busy : LoopPhase → Bool) :
    ApartWhile s busy := by
  intro i j one other left right apart _ _ same
  have first : (s.loops.map PollingLoop.address)[i]? = some one.address := by rw [List.getElem?_map, left]; rfl
  have second : (s.loops.map PollingLoop.address)[j]? = some one.address := by
    rw [List.getElem?_map, right, same]
    rfl
  have bound := (List.getElem?_eq_some_iff.mp first).1
  exact apart ((List.getElem?_inj bound distinct).mp (first.trans second.symm))

theorem ReplacesReleased.of_same (same : t.sessions = s.sessions) : ReplacesReleased s t := by
  intro address old new before after apart
  rw [same] at after
  cases before.symm.trans after
  exact absurd rfl apart

theorem ReplacesReleased.of_delete {address : String} (same : t.sessions = s.sessions.delete address) :
    ReplacesReleased s t := by
  intro other old new before after apart
  rw [same, OrderedMap.get?_delete] at after
  obtain ⟨_, after⟩ := Table.erase_eq_some.mp after
  cases before.symm.trans after
  exact absurd rfl apart

/-- A session enters the map at an address that has none. -/
theorem ReplacesReleased.of_set {address : String} {session : ManagedSession}
    (same : t.sessions = s.sessions.set address session) (vacant : s.sessions.get? address = none) :
    ReplacesReleased s t := by
  intro other old new before after apart
  rw [same, OrderedMap.get?_set] at after
  rcases Table.insert_eq_some.mp after with ⟨rfl, _⟩ | ⟨_, after⟩
  · cases vacant.symm.trans before
  · cases before.symm.trans after
    exact absurd rfl apart

theorem connectNext_sessions (s : Server) (addresses : List String) :
    (s.connectNext addresses).sessions = s.sessions := by
  rcases s.connectNext_cases addresses with same | ⟨address, rest, _, same⟩
  · rw [same]
  · rw [same]
    rfl

theorem connectAllWithRecovery_sessions (s : Server) : s.connectAllWithRecovery.sessions = s.sessions := by
  unfold connectAllWithRecovery
  split
  · rfl
  · exact connectNext_sessions _ _

theorem Owned.replacesReleased {event : ServerEvent} (owned : Owned s) (unsettled : s.phase.handlerSettled = false)
    (run : s.step event = some t) : ReplacesReleased s t := by
  cases step_effect run with
  | moved => exact .of_same rfl
  | entered => exact .of_same (connectAllWithRecovery_sessions _)
  | initialized address rest transport place result =>
    cases result with
    | fulfilled name => exact .of_set (connectNext_sessions _ _) (owned.connecting _ _ _ place).1
    | rejected error => exact .of_same rfl
  | connectAllReturned result place phase after accounts => exact .of_same accounts.sessions
  | retried => exact .of_same (connectAllWithRecovery_sessions _)
  | started => exact .of_same rfl
  | loop index event loop current active effect =>
    have member := List.mem_of_getElem? current
    cases effect with
    | moved _ _ _ _ accounts => exact .of_same accounts.sessions
    | failed _ _ _ _ _ _ _ accounts => exact .of_same accounts.sessions
    | released _ _ _ accounts => exact .of_same accounts.sessions
    | opened _ _ accounts => exact .of_same accounts.sessions
    | swapped _ accounts => exact .of_delete accounts.sessions
    | replaced transport name place accounts =>
      exact .of_set accounts.sessions (owned.replacing loop member transport place).1
    | unreplaced _ _ accounts => exact .of_same accounts.sessions
  | joined => exact .of_same rfl
  | cleanup outcome place =>
    rw [place] at unsettled
    cases unsettled
  | disconnected result outcome address place =>
    rw [place] at unsettled
    cases unsettled
  | commandWritten => exact .of_same rfl
  | stop => exact .of_same rfl

/-- Addresses without repetitions have one polling loop each. -/
theorem oneLoopPerDevice_of_nodup (distinct : addresses.Nodup) : OneLoopPerDevice addresses runOnce options := by
  intro trace s reach unsettled
  have owned := (launched_of_reach reach distinct).owned unsettled
  exact ⟨.of_nodup owned.distinct _, .of_nodup owned.distinct _, fun _ _ run =>
    owned.replacesReleased unsettled run⟩

/-- The name under which a station of the model AC60 advertises itself. -/
def STATION_NAME : String := "AC602237000003358"

theorem station_supported (address : String) :
    ∃ device, createDeviceFromAdvertisement address STATION_NAME = .ok device := by
  have name : matchDeviceName STATION_NAME = some ("AC60", "2237000003358") := by decide +kernel
  have known : (BLUETTI_DEFINITION_MAP "AC60").isSome = true := by decide +kernel
  obtain ⟨definition, found⟩ := Option.isSome_iff_exists.mp known
  simp only [createDeviceFromAdvertisement, name, found]
  exact ⟨_, rfl⟩

/-- All sessions are those of such stations. -/
def AllStations (s : Server) : Prop :=
  ∀ address session, s.sessions.get? address = some session → session.name = STATION_NAME

/-- `connectAll` of the manager succeeds when every connection does. -/
theorem connectNext_succeeds (rest : List String) (s : Server) (stations : AllStations s) :
    ∃ trace t, Reach Server.step (fun _ _ => True) (s.connectNext rest) trace t ∧
      t.phase = .connectAllSettled (.fulfilled ()) ∧ t.addresses = s.addresses ∧ AllStations t ∧
      ∀ address, address ∈ rest ∨ s.sessions.get? address ≠ none → t.sessions.get? address ≠ none := by
  induction rest generalizing s with
  | nil => exact ⟨[], _, .start, rfl, rfl, stations, fun address known => known.resolve_left List.not_mem_nil⟩
  | cons address rest ih =>
    by_cases known : s.sessions.has address = true
    · rw [connectNext, if_pos known]
      obtain ⟨trace, t, reach, place, same, named, present⟩ := ih s stations
      refine ⟨trace, t, reach, place, same, named, fun other listed => present other ?_⟩
      rcases listed with member | found
      · rcases List.mem_cons.mp member with rfl | later
        · right
          simpa [OrderedMap.has, Option.isSome_iff_ne_none] using known
        · exact Or.inl later
      · exact Or.inr found
    · rw [connectNext, if_neg known]
      let session : ManagedSession := { transport := s.created, name := STATION_NAME }
      let connected : Server := { s.openTransport with
        phase := .connecting address rest s.created
        sessions := s.sessions.set address session }
      have get (other : String) : connected.sessions.get? other =
          if other = address then some session else s.sessions.get? other := by
        simp only [connected, OrderedMap.get?_set, Table.insert]
      have named : AllStations connected := by
        intro other found entry
        rw [get] at entry
        split at entry
        · cases entry
          rfl
        · exact stations other found entry
      obtain ⟨trace, t, reach, place, same, stations, present⟩ := ih connected named
      refine ⟨.initialized (.fulfilled STATION_NAME) :: trace, t, .cons trivial rfl reach, place, same, stations,
        fun other listed => present other ?_⟩
      by_cases here : other = address
      · right
        rw [get, if_pos here]
        exact Option.some_ne_none session
      · rcases listed with member | found
        · exact Or.inl ((List.mem_cons.mp member).resolve_left here)
        · right
          rw [get, if_neg here]
          exact found

/-- Every session gets a device model. -/
theorem registerDevices_succeeds (list : List String) (s : Server) (stations : AllStations s)
    (present : ∀ address ∈ list, s.sessions.get? address ≠ none) :
    (s.registerDevices list).phase = .connected ∧ (s.registerDevices list).addresses = s.addresses ∧
      ∀ address, address ∈ list ∨ s.devices address ≠ none → (s.registerDevices list).devices address ≠ none := by
  induction list generalizing s with
  | nil => exact ⟨rfl, rfl, fun address known => known.resolve_left List.not_mem_nil⟩
  | cons address rest ih =>
    have device : ∃ device, s.deviceFor address = .ok device := by
      unfold deviceFor
      split
      · exact ⟨_, rfl⟩
      · obtain ⟨session, found⟩ := Option.ne_none_iff_exists'.mp (present address List.mem_cons_self)
        rw [found]
        simp only
        rw [stations address session found]
        exact station_supported address
    obtain ⟨device, made⟩ := device
    rw [registerDevices, made]
    obtain ⟨place, same, registered⟩ := ih (s.register address device) stations
      fun other member => present other (List.mem_cons_of_mem _ member)
    refine ⟨place, same, fun other listed => registered other ?_⟩
    by_cases here : other = address
    · right
      simp [register, here, Table.insert_self]
    · rcases listed with member | found
      · exact Or.inl ((List.mem_cons.mp member).resolve_left here)
      · right
        simpa [register, Table.insert, here] using found

theorem startLoops_all (known : ∀ address ∈ s.addresses, s.devices address ≠ none) :
    s.startLoops.loops.map PollingLoop.address = s.addresses := by
  simp only [startLoops, List.map_filterMap]
  refine (List.filterMap_congr fun address member => ?_).trans List.filterMap_some
  obtain ⟨device, found⟩ := Option.ne_none_iff_exists'.mp (known address member)
  rw [found]
  rfl

/-- Every list of addresses has a run in which all of its loops are active. -/
theorem loops_start (addresses : List String) (runOnce : Bool) (options : PollingOptions) :
    ∃ trace s, Reach Server.step (fun _ _ => True) (create addresses runOnce options) trace s ∧
      s.phase = .polling ∧ s.loops.map PollingLoop.address = addresses ∧
      ∀ loop ∈ s.loops, loop.phase = .head := by
  let entered : Server := { create addresses runOnce options with
    phase := .mqttReady
    stopRequested := false
    operations := [.connectAll] }
  have stations : AllStations entered := by
    intro address session found
    cases (congrFun OrderedMap.get?_empty address).symm.trans found
  obtain ⟨trace, t, reach, place, same, named, present⟩ := connectNext_succeeds addresses entered stations
  have known : ∀ address ∈ t.addresses, t.sessions.get? address ≠ none := by
    intro address member
    rw [same] at member
    exact present address (Or.inl member)
  obtain ⟨connected, kept, registered⟩ := registerDevices_succeeds t.addresses t named known
  let u := t.registerDevices t.addresses
  have list : u.addresses = addresses := kept.trans same
  have devices : ∀ address ∈ u.addresses, u.devices address ≠ none := by
    intro address member
    rw [kept] at member
    exact registered address (Or.inl member)
  have last : Reach Server.step (fun _ _ => True) t [.connectAllReturned, .startLoops] u.startLoops := by
    refine .cons trivial ?_ (.cons trivial ?_ .start) (t := u)
    · simp only [Server.step, place]
      rfl
    · exact if_pos connected
  have first : Reach Server.step (fun _ _ => True) (create addresses runOnce options)
      [.mqttConnected (.fulfilled ()), .mqttSubscribed (.fulfilled ()), .startPolling]
      (entered.connectNext addresses) := by
    let subscribing : Server := { create addresses runOnce options with phase := .mqttSubscribing }
    let ready : Server := { create addresses runOnce options with phase := .mqttReady }
    have begins : ready.step .startPolling = some (entered.connectNext addresses) := rfl
    exact .cons trivial (t := subscribing) rfl (.cons trivial (t := ready) rfl (.cons trivial begins .start))
  refine ⟨_, u.startLoops, first.trans (reach.trans last), rfl, (startLoops_all devices).trans list,
    fun loop member => ?_⟩
  obtain ⟨address, _, made⟩ := List.mem_filterMap.mp member
  obtain ⟨device, _, rfl⟩ := Option.map_eq_some_iff.mp made
  rfl

/-- Each device has one polling loop exactly when no address is given twice. -/
theorem one_loop_per_device_iff (addresses : List String) (runOnce : Bool) (options : PollingOptions) :
    OneLoopPerDevice addresses runOnce options ↔ addresses.Nodup := by
  refine ⟨fun single => ?_, oneLoopPerDevice_of_nodup⟩
  obtain ⟨trace, s, reach, place, loops, heads⟩ := loops_start addresses runOnce options
  have apart := (single trace s reach (by rw [place]; rfl)).1
  rw [← loops, List.nodup_iff_getElem?_ne_getElem?]
  intro i j before bound same
  rw [List.length_map] at bound
  have left : s.loops[i]? = some s.loops[i] := List.getElem?_eq_getElem (before.trans bound)
  have right : s.loops[j]? = some s.loops[j] := List.getElem?_eq_getElem bound
  have active (loop : PollingLoop) (member : loop ∈ s.loops) : loop.phase.isActive = true := by
    rw [heads loop member]
    rfl
  refine apart i j _ _ left right before.ne (active _ (List.getElem_mem _)) (active _ (List.getElem_mem _)) ?_
  rw [List.getElem?_map, List.getElem?_map, left, right] at same
  exact Option.some.inj same

/-- One station in two notations. Its two loops reconnect at the same time, and
the session that the second one overwrites stays connected. -/
theorem repeated_address_leaks : ∃ args trace s t,
    parseArgs (fun _ => .unreadable) (fun _ => none)
        ["--broker", "mqtt://127.0.0.1:1883", "24:4C:AB:2C:24:8E", "244cab2c248e"] = .ok args ∧
      Reach Server.step (fun _ _ => True) (create args.addresses false DEFAULT_POLLING_OPTIONS) trace s ∧
      s.loops.map PollingLoop.phase = [.head, .replacing 2] ∧
      s.step (.loop 1 (.replaced (.fulfilled STATION_NAME) 2000)) = some t ∧
      t.sessions.get? "24:4C:AB:2C:24:8E" = some ⟨2, STATION_NAME⟩ ∧ t.transports 1 = some .connected ∧
      ¬OneLoopPerDevice args.addresses false DEFAULT_POLLING_OPTIONS := by
  let lost : LoopEvent :=
    .workSettled false (.rejected (.badConnectionError "Bluetooth session is not ready")) 1100 1100
  let trace : List ServerEvent :=
    [.mqttConnected (.fulfilled ()), .mqttSubscribed (.fulfilled ()), .startPolling,
     .initialized (.fulfilled STATION_NAME), .connectAllReturned, .startLoops, .loop 0 (.turn 1000 1000),
     .loop 1 (.turn 1000 1000), .loop 0 (.nextCommand 1000), .loop 1 (.nextCommand 1000), .loop 0 .workStarted,
     .loop 0 lost, .loop 1 .workStarted, .loop 1 lost, .loop 0 (.oldReleased (.fulfilled ())),
     .loop 1 (.oldReleased (.fulfilled ())), .loop 0 (.replaced (.fulfilled STATION_NAME) 2000)]
  let addresses := ["24:4C:AB:2C:24:8E", "24:4C:AB:2C:24:8E"]
  have parsed : parseArgs (fun _ => .unreadable) (fun _ => none)
      ["--broker", "mqtt://127.0.0.1:1883", "24:4C:AB:2C:24:8E", "244cab2c248e"] =
        .ok ⟨some "mqtt://127.0.0.1:1883", none, none, none, .finite 0, false, addresses, false, .info⟩ := by
    decide +kernel
  have run : (trace.foldlM Server.step (create addresses false DEFAULT_POLLING_OPTIONS)).any (fun s =>
      s.phase = .polling ∧ s.loops.map PollingLoop.phase = [.head, .replacing 2] ∧
        s.sessions.get? "24:4C:AB:2C:24:8E" = some ⟨1, STATION_NAME⟩ ∧
        (s.step (.loop 1 (.replaced (.fulfilled STATION_NAME) 2000))).any (fun t =>
          t.sessions.get? "24:4C:AB:2C:24:8E" = some ⟨2, STATION_NAME⟩ ∧
            t.transports 1 = some .connected)) = true := by
    decide +kernel
  obtain ⟨s, reach, found⟩ := Reach.of_foldlM (fun _ _ _ => trivial) run
  obtain ⟨place, phases, before, next⟩ := of_decide_eq_true found
  cases step : s.step (.loop 1 (.replaced (.fulfilled STATION_NAME) 2000)) with
  | none =>
    rw [step] at next
    cases next
  | some t =>
    rw [step] at next
    obtain ⟨after, connected⟩ := of_decide_eq_true next
    refine ⟨_, trace, s, t, parsed, reach, phases, step, after, connected, fun single => ?_⟩
    have released := (single trace s reach (by rw [place]; rfl)).2.2 _ t step _ _ _ before after (by decide)
    exact released connected

end Server

end BluettiMqtt
