import BluettiMqtt.App.RunSettlement

namespace BluettiMqtt
open Promise Transition

/-- The phases before the first and after the last session. -/
def ServerPhase.noSessions : ServerPhase → Bool
  | .mqttConnecting => true
  | .mqttSubscribing => true
  | .mqttCleaningUp _ => true
  | .mqttStopping _ => true
  | .done _ => true
  | _ => false

namespace Server

/-- Who is going to disconnect a connected transport. -/
inductive Owner (s : Server) (transport : Nat) : Prop
  | session (address : String) (session : ManagedSession) (current : s.sessions.get? address = some session)
      (holds : session.transport = transport)
  | connecting (address : String) (rest : List String) (place : s.phase = .connecting address rest transport)
  | loop (loop : PollingLoop) (member : loop ∈ s.loops) (place : loop.phase = .replacing transport)

/-- Every connected transport has an owner, and what is being initialized or
released has its address to itself. -/
structure Owned (s : Server) : Prop where
  addresses : s.addresses.Nodup
  distinct : (s.loops.map PollingLoop.address).Nodup
  fresh : ∀ transport status, s.transports transport = some status → transport < s.created
  known : ∀ address session, s.sessions.get? address = some session → session.transport < s.created
  owned : ∀ transport, s.transports transport = some .connected → Owner s transport
  connecting : ∀ address rest transport, s.phase = .connecting address rest transport →
    s.sessions.get? address = none ∧ transport < s.created
  replacing : ∀ loop ∈ s.loops, ∀ transport, loop.phase = .replacing transport →
    s.sessions.get? loop.address = none ∧ transport < s.created
  releasing : ∀ loop ∈ s.loops, loop.phase = .releasing → ∀ session,
    s.sessions.get? loop.address = some session → s.transports session.transport = some .released
  disconnecting : ∀ outcome address, s.phase = .disconnecting outcome address → ∀ session,
    s.sessions.get? address = some session → s.transports session.transport = some .released
  vacated : s.phase.noSessions = true → s.sessions.entries = []

/-- The situation between two operations of the manager: every connected
transport belongs to a session in the map. -/
structure Stored (s : Server) : Prop where
  addresses : s.addresses.Nodup
  distinct : (s.loops.map PollingLoop.address).Nodup
  fresh : ∀ transport status, s.transports transport = some status → transport < s.created
  known : ∀ address session, s.sessions.get? address = some session → session.transport < s.created
  stored : ∀ transport, s.transports transport = some .connected →
    ∃ address session, s.sessions.get? address = some session ∧ session.transport = transport
  calm : ∀ loop ∈ s.loops, loop.phase.reconnecting = false

variable {s t : Server}

theorem AllReturned.calm (returned : AllReturned s) : ∀ loop ∈ s.loops, loop.phase.reconnecting = false := by
  intro loop member
  have inactive := returned loop member
  cases place : loop.phase <;> rw [place] at inactive <;> first | rfl | cases inactive

/-- Without a connection attempt and without reconnecting loops the owners are
the sessions. -/
theorem Owned.stored (owned : Owned s) (calm : ∀ loop ∈ s.loops, loop.phase.reconnecting = false)
    (idle : ∀ address rest transport, s.phase ≠ .connecting address rest transport) : Stored s where
  addresses := owned.addresses
  distinct := owned.distinct
  fresh := owned.fresh
  known := owned.known
  stored transport connected := by
    cases owned.owned transport connected with
    | session address session current holds => exact ⟨address, session, current, holds⟩
    | connecting address rest place => exact absurd place (idle address rest transport)
    | loop loop member place =>
      have still := calm loop member
      rw [place] at still
      cases still
  calm := calm

/-- The parts of `Owned` about reconnecting loops, when there are none. -/
theorem Stored.owned_of (stored : Stored s)
    (owned : ∀ transport, s.transports transport = some .connected → Owner s transport)
    (connecting : ∀ address rest transport, s.phase = .connecting address rest transport →
      s.sessions.get? address = none ∧ transport < s.created)
    (disconnecting : ∀ outcome address, s.phase = .disconnecting outcome address → ∀ session,
      s.sessions.get? address = some session → s.transports session.transport = some .released)
    (vacated : s.phase.noSessions = true → s.sessions.entries = []) : Owned s where
  addresses := stored.addresses
  distinct := stored.distinct
  fresh := stored.fresh
  known := stored.known
  owned := owned
  connecting := connecting
  replacing loop member transport place := by
    have still := stored.calm loop member
    rw [place] at still
    cases still
  releasing loop member place := by
    have still := stored.calm loop member
    rw [place] at still
    cases still
  disconnecting := disconnecting
  vacated := vacated

theorem Stored.owner (stored : Stored s) {transport : Nat}
    (connected : s.transports transport = some .connected) : Owner s transport := by
  obtain ⟨address, session, current, holds⟩ := stored.stored transport connected
  exact .session address session current holds

/-- A stored state is owned in every phase that keeps no transport of its own. -/
theorem Stored.owned (stored : Stored s)
    (idle : ∀ address rest transport, s.phase ≠ .connecting address rest transport)
    (lasting : ∀ outcome address, s.phase ≠ .disconnecting outcome address)
    (vacated : s.phase.noSessions = true → s.sessions.entries = []) : Owned s :=
  stored.owned_of (fun _ connected => stored.owner connected)
    (fun address rest transport place => absurd place (idle address rest transport))
    (fun outcome address place => absurd place (lasting outcome address)) vacated

/-- `Stored` does not depend on the phase, the stop flag and the accounts. -/
theorem Stored.congr (stored : Stored s) (addresses : t.addresses = s.addresses) (loops : t.loops = s.loops)
    (transports : t.transports = s.transports) (created : t.created = s.created)
    (sessions : t.sessions = s.sessions) : Stored t where
  addresses := by rw [addresses]; exact stored.addresses
  distinct := by rw [loops]; exact stored.distinct
  fresh := by rw [transports, created]; exact stored.fresh
  known := by rw [sessions, created]; exact stored.known
  stored := by rw [transports, sessions]; exact stored.stored
  calm := by rw [loops]; exact stored.calm

/-- A stored state at a phase that keeps no transport of its own. -/
theorem Stored.rest (stored : Stored s) (phase : ServerPhase)
    (idle : ∀ address rest transport, phase ≠ .connecting address rest transport)
    (lasting : ∀ outcome address, phase ≠ .disconnecting outcome address)
    (vacated : phase.noSessions = true → s.sessions.entries = []) : Owned { s with phase := phase } := by
  have placed : Stored { s with phase := phase } := stored.congr rfl rfl rfl rfl rfl
  exact placed.owned idle lasting vacated

theorem Stored.afterConnectAll (stored : Stored s) {phase : ServerPhase}
    (after : ServerPhase.afterConnectAll phase) : Owned { s with phase := phase } := by
  rcases after with rfl | rfl | ⟨error, rfl⟩
  · exact stored.rest .connected (by simp) (by simp) nofun
  · exact stored.rest .startupDelay (by simp) (by simp) nofun
  · exact stored.rest (.settled (.rejected error)) (by simp) (by simp) nofun

theorem Stored.connectNext (stored : Stored s) (addresses : List String) : Owned (s.connectNext addresses) := by
  rcases s.connectNext_cases addresses with same | ⟨address, rest, vacant, same⟩
  · rw [same]
    exact stored.rest (.connectAllSettled (.fulfilled ())) (by simp) (by simp) nofun
  · rw [same]
    have later : Stored { s with created := s.created + 1 } :=
      { stored with
        fresh := fun transport status entry => (stored.fresh transport status entry).trans (Nat.lt_succ_self _)
        known := fun address session current => (stored.known address session current).trans (Nat.lt_succ_self _) }
    refine
      { addresses := stored.addresses
        distinct := stored.distinct
        fresh := fun transport status entry => ?_
        known := later.known
        owned := fun transport connected => ?_
        connecting := fun _ _ _ place => ?_
        replacing := fun loop member transport place => ?_
        releasing := fun loop member place => ?_
        disconnecting := fun outcome address place => by cases place
        vacated := fun empty => by cases empty }
    · rcases Table.insert_eq_some.mp entry with ⟨rfl, _⟩ | ⟨_, entry⟩
      · exact Nat.lt_succ_self _
      · exact later.fresh transport status entry
    · rcases Table.insert_eq_some.mp connected with ⟨rfl, _⟩ | ⟨_, connected⟩
      · exact .connecting address rest rfl
      · obtain ⟨address, session, current, holds⟩ := stored.stored transport connected
        exact .session address session current holds
    · cases place
      exact ⟨vacant, Nat.lt_succ_self _⟩
    · have still := stored.calm loop member
      rw [place] at still
      cases still
    · have still := stored.calm loop member
      rw [place] at still
      cases still

theorem Stored.connectAllWithRecovery (stored : Stored s) : Owned s.connectAllWithRecovery := by
  unfold Server.connectAllWithRecovery
  split
  · exact stored.rest (.settled (.fulfilled ())) (by simp) (by simp) nofun
  · exact Stored.connectNext (s := s.record .connectAll) (stored.congr rfl rfl rfl rfl rfl) s.addresses

/-- Releasing a transport that a session holds keeps the rest stored. -/
theorem release_connected {transport released : Nat} (connected : (s.release released).transports transport =
    some .connected) : transport ≠ released ∧ s.transports transport = some .connected := by
  rcases Table.insert_eq_some.mp connected with ⟨_, other⟩ | found
  · cases other
  · exact found

theorem release_fresh (owned : ∀ transport status, s.transports transport = some status → transport < s.created)
    {released : Nat} (bound : released < s.created) (transport : Nat) (status : TransportStatus)
    (entry : (s.release released).transports transport = some status) : transport < s.created := by
  rcases Table.insert_eq_some.mp entry with ⟨rfl, _⟩ | ⟨_, entry⟩
  · exact bound
  · exact owned transport status entry

theorem Stored.disconnectNext (stored : Stored s) (outcome : Settlement Failure Unit) :
    Owned (s.disconnectNext outcome) := by
  rcases s.disconnectNext_cases outcome with ⟨empty, same⟩ | ⟨address, session, current, same⟩
  · rw [same]
    exact stored.rest (.mqttStopping outcome) (by simp) (by simp) fun _ => empty
  · rw [same]
    have rest : Stored (s.release session.transport) :=
      { addresses := stored.addresses
        distinct := stored.distinct
        fresh := release_fresh stored.fresh (stored.known address session current)
        known := stored.known
        stored := fun transport connected => stored.stored transport (release_connected connected).2
        calm := stored.calm }
    have placed : Stored { s.release session.transport with phase := .disconnecting outcome address } :=
      rest.congr rfl rfl rfl rfl rfl
    refine placed.owned_of (fun _ connected => placed.owner connected) (by simp) ?_
      (by simp [ServerPhase.noSessions])
    intro _ _ place other found
    cases place
    cases current.symm.trans found
    exact Table.insert_self _ _ _

theorem Owner.congr {transport : Nat} (owner : Owner s transport) (sessions : t.sessions = s.sessions)
    (phase : t.phase = s.phase) (loops : t.loops = s.loops) : Owner t transport := by
  cases owner with
  | session address session current holds => exact .session address session (sessions ▸ current) holds
  | connecting address rest place => exact .connecting address rest (phase.trans place)
  | loop loop member place => exact .loop loop (loops ▸ member) place

/-- `Owned` reads nothing but these fields. -/
theorem Owned.congr (owned : Owned s) (addresses : t.addresses = s.addresses) (phase : t.phase = s.phase)
    (sessions : t.sessions = s.sessions) (transports : t.transports = s.transports)
    (created : t.created = s.created) (loops : t.loops = s.loops) : Owned t where
  addresses := by rw [addresses]; exact owned.addresses
  distinct := by rw [loops]; exact owned.distinct
  fresh := by rw [transports, created]; exact owned.fresh
  known := by rw [sessions, created]; exact owned.known
  owned transport connected := by
    rw [transports] at connected
    exact (owned.owned transport connected).congr sessions phase loops
  connecting := by rw [phase, sessions, created]; exact owned.connecting
  replacing := by rw [loops, sessions, created]; exact owned.replacing
  releasing := by rw [loops, sessions, transports]; exact owned.releasing
  disconnecting := by rw [phase, sessions, transports]; exact owned.disconnecting
  vacated := by rw [phase, sessions]; exact owned.vacated

theorem Owned.accounts (owned : Owned s) (accounts : Accounts s t) : Owned t :=
  owned.congr accounts.addresses accounts.phase accounts.sessions accounts.transports accounts.created
    accounts.loops

section Loops

variable {index : Nat} {loop other : PollingLoop} {phase : LoopPhase}

/-- The loops after a step of one of them are that loop and those of other
addresses. -/
theorem mem_setLoop (distinct : (s.loops.map PollingLoop.address).Nodup)
    (current : s.loops[index]? = some loop) (member : other ∈ (s.setLoop index loop phase).loops) :
    other = { loop with phase := phase } ∨ other ∈ s.loops ∧ other.address ≠ loop.address := by
  obtain ⟨place, found⟩ := List.mem_iff_getElem?.mp member
  simp only [setLoop] at found
  by_cases here : place = index
  · subst here
    rw [List.getElem?_set_self'] at found
    obtain ⟨_, _, same⟩ := Option.map_eq_some_iff.mp found
    exact Or.inl same.symm
  · rw [List.getElem?_set_ne (Ne.symm here)] at found
    refine Or.inr ⟨List.mem_of_getElem? found, fun same => here ?_⟩
    have left : (s.loops.map PollingLoop.address)[place]? = some loop.address := by
      rw [List.getElem?_map, found, Option.map_some, same]
    have right : (s.loops.map PollingLoop.address)[index]? = some loop.address := by
      rw [List.getElem?_map, current, Option.map_some]
    have bound : place < (s.loops.map PollingLoop.address).length := (List.getElem?_eq_some_iff.mp left).1
    exact (List.getElem?_inj bound distinct).mp (left.trans right.symm)

theorem mem_setLoop_of_ne (current : s.loops[index]? = some loop) (member : other ∈ s.loops)
    (different : other ≠ loop) : other ∈ (s.setLoop index loop phase).loops := by
  obtain ⟨place, found⟩ := List.mem_iff_getElem?.mp member
  have elsewhere : index ≠ place := by
    rintro rfl
    exact different (Option.some.inj (found.symm.trans current))
  exact List.mem_iff_getElem?.mpr ⟨place, by rw [setLoop, List.getElem?_set_ne elsewhere, found]⟩

theorem mem_setLoop_self (current : s.loops[index]? = some loop) :
    { loop with phase := phase } ∈ (s.setLoop index loop phase).loops := by
  obtain ⟨bound, _⟩ := List.getElem?_eq_some_iff.mp current
  exact List.mem_iff_getElem?.mpr ⟨index, List.getElem?_set_self bound⟩

theorem addresses_setLoop (current : s.loops[index]? = some loop) :
    (s.setLoop index loop phase).loops.map PollingLoop.address = s.loops.map PollingLoop.address := by
  apply List.ext_getElem?
  intro place
  simp only [setLoop, List.map_set]
  by_cases here : index = place
  · subst here
    rw [List.getElem?_set_self', List.getElem?_map, current]
    rfl
  · rw [List.getElem?_set_ne here]

/-- How a loop may change the manager's part of the state on its way to its next
phase: it touches its own address and transports only. -/
structure Exchange (s y : Server) (loop : PollingLoop) (phase : LoopPhase) : Prop where
  frame : y.addresses = s.addresses ∧ y.phase = s.phase ∧ y.loops = s.loops
  grows : s.created ≤ y.created
  fresh : ∀ transport status, y.transports transport = some status → transport < y.created
  known : ∀ session, y.sessions.get? loop.address = some session → session.transport < y.created
  elsewhere : ∀ address, address ≠ loop.address → y.sessions.get? address = s.sessions.get? address
  released : ∀ transport, transport < s.created → s.transports transport = some .released →
    y.transports transport = some .released
  connected : ∀ transport, y.transports transport = some .connected →
    s.transports transport = some .connected ∨ phase = .replacing transport
  session : ∀ session, s.sessions.get? loop.address = some session →
    y.transports session.transport = some .connected → y.sessions.get? loop.address = some session
  replaced : ∀ transport, loop.phase = .replacing transport → y.transports transport = some .connected →
    ∃ session, y.sessions.get? loop.address = some session ∧ session.transport = transport
  replacing : ∀ transport, phase = .replacing transport →
    y.sessions.get? loop.address = none ∧ transport < y.created
  releasing : phase = .releasing → ∀ session, y.sessions.get? loop.address = some session →
    y.transports session.transport = some .released

theorem Owned.exchange {y : Server} (owned : Owned s) (polling : s.phase = .polling)
    (current : s.loops[index]? = some loop) (exchange : Exchange s y loop phase) :
    Owned (y.setLoop index loop phase) := by
  obtain ⟨addresses, place, loops⟩ := exchange.frame
  have here : y.loops[index]? = some loop := by rw [loops, current]
  have distinct : (y.loops.map PollingLoop.address).Nodup := by rw [loops]; exact owned.distinct
  have polling' : (y.setLoop index loop phase).phase = .polling := place.trans polling
  have known (address : String) (session : ManagedSession)
      (found : y.sessions.get? address = some session) : session.transport < y.created := by
    by_cases own : address = loop.address
    · subst own
      exact exchange.known session found
    · rw [exchange.elsewhere address own] at found
      exact (owned.known address session found).trans_le exchange.grows
  refine
    { addresses := addresses ▸ owned.addresses
      distinct := by rw [addresses_setLoop here]; exact distinct
      fresh := exchange.fresh
      known := known
      owned := fun transport connected => ?_
      connecting := fun _ _ _ at' => by rw [polling'] at at'; cases at'
      replacing := fun other member transport at' => ?_
      releasing := fun other member at' session found => ?_
      disconnecting := fun _ _ at' => by rw [polling'] at at'; cases at'
      vacated := fun empty => by rw [polling'] at empty; cases empty }
  · rcases exchange.connected transport connected with before | replacing
    · cases owned.owned transport before with
      | session address session found holds =>
        by_cases own : address = loop.address
        · subst own
          exact .session _ session (exchange.session session found (holds ▸ connected)) holds
        · exact .session address session ((exchange.elsewhere address own).trans found) holds
      | connecting _ _ at' => rw [polling] at at'; cases at'
      | loop other member at' =>
        by_cases own : other = loop
        · subst own
          obtain ⟨session, found, holds⟩ := exchange.replaced transport at' connected
          exact .session _ session found holds
        · exact .loop other (mem_setLoop_of_ne here (loops ▸ member) own) at'
    · exact .loop _ (mem_setLoop_self here) replacing
  · rcases mem_setLoop distinct here member with rfl | ⟨member, apart⟩
    · exact exchange.replacing transport at'
    · obtain ⟨vacant, bound⟩ := owned.replacing other (loops ▸ member) transport at'
      exact ⟨(exchange.elsewhere _ apart).trans vacant, bound.trans_le exchange.grows⟩
  · rcases mem_setLoop distinct here member with rfl | ⟨member, apart⟩
    · exact exchange.releasing at' session found
    · have found' : s.sessions.get? other.address = some session :=
        (exchange.elsewhere _ apart).symm.trans found
      exact exchange.released _ (owned.known _ session found')
        (owned.releasing other (loops ▸ member) at' session found')

theorem calm_ne {transport : Nat} (calm : phase.reconnecting = false) : phase ≠ .replacing transport := by
  rintro rfl
  cases calm

/-- Outside a reconnect a loop leaves the manager alone. -/
theorem Owned.calmExchange (owned : Owned s) (before : loop.phase.reconnecting = false)
    (after : phase.reconnecting = false) : Exchange s s loop phase where
  frame := ⟨rfl, rfl, rfl⟩
  grows := le_rfl
  fresh := owned.fresh
  known := owned.known loop.address
  elsewhere _ _ := rfl
  released _ _ released := released
  connected _ connected := Or.inl connected
  session _ found _ := found
  replaced _ place := absurd place (calm_ne before)
  replacing _ place := absurd place (calm_ne after)
  releasing place := by
    rw [place] at after
    cases after

/-- `reconnect` disconnects the session it replaces. -/
theorem Owned.releaseExchange (owned : Owned s) {existing : ManagedSession}
    (before : loop.phase.reconnecting = false) (current : s.sessions.get? loop.address = some existing) :
    Exchange s (s.release existing.transport) loop .releasing where
  frame := ⟨rfl, rfl, rfl⟩
  grows := le_rfl
  fresh := release_fresh owned.fresh (owned.known _ existing current)
  known := owned.known loop.address
  elsewhere _ _ := rfl
  released transport _ released := by
    by_cases same : transport = existing.transport
    · rw [same]
      exact Table.insert_self _ _ _
    · exact (Table.insert_of_ne _ _ same).trans released
  connected _ connected := Or.inl (release_connected connected).2
  session session found connected := found
  replaced _ place := absurd place (calm_ne before)
  replacing _ place := nomatch place
  releasing _ session found := by
    cases current.symm.trans found
    exact Table.insert_self _ _ _

theorem openTransport_fresh
    (fresh : ∀ transport status, s.transports transport = some status → transport < s.created)
    (transport : Nat) (status : TransportStatus)
    (entry : s.openTransport.transports transport = some status) : transport < s.openTransport.created := by
  rcases Table.insert_eq_some.mp entry with ⟨rfl, _⟩ | ⟨_, entry⟩
  · exact Nat.lt_succ_self _
  · exact (fresh transport status entry).trans (Nat.lt_succ_self _)

/-- A new transport is opened while the address has no session, or has just lost it. -/
theorem Owned.openExchange (owned : Owned s) (sessions : OrderedMap String ManagedSession)
    (elsewhere : ∀ address, address ≠ loop.address → sessions.get? address = s.sessions.get? address)
    (vacant : sessions.get? loop.address = none)
    (gone : ∀ session, s.sessions.get? loop.address = some session →
      s.transports session.transport = some .released)
    (before : ∀ transport, loop.phase ≠ .replacing transport) :
    Exchange s { s with sessions := sessions }.openTransport loop (.replacing s.created) where
  frame := ⟨rfl, rfl, rfl⟩
  grows := Nat.le_succ _
  fresh := openTransport_fresh owned.fresh
  known session found := nomatch vacant.symm.trans found
  elsewhere := elsewhere
  released transport bound released :=
    (Table.insert_of_ne _ _ (Nat.ne_of_lt bound)).trans released
  connected transport connected := by
    rcases Table.insert_eq_some.mp connected with ⟨rfl, _⟩ | ⟨_, connected⟩
    · exact Or.inr rfl
    · exact Or.inl connected
  session session found connected := by
    have apart : session.transport ≠ s.created := Nat.ne_of_lt (owned.known _ session found)
    have still : s.transports session.transport = some .connected :=
      (Table.insert_of_ne _ _ apart).symm.trans connected
    rw [gone session found] at still
    cases still
  replaced transport place := absurd place (before transport)
  replacing transport place := by
    cases place
    exact ⟨vacant, Nat.lt_succ_self _⟩
  releasing place := nomatch place

/-- The replacement enters the map. -/
theorem Owned.replaceExchange (owned : Owned s) (current : s.loops[index]? = some loop) {transport : Nat}
    (name : String) (place : loop.phase = .replacing transport) :
    Exchange s { s with sessions := s.sessions.set loop.address { transport := transport, name := name } }
      loop .head := by
  obtain ⟨vacant, bound⟩ := owned.replacing loop (List.mem_of_getElem? current) transport place
  have stored : (s.sessions.set loop.address { transport := transport, name := name }).get? loop.address =
      some { transport := transport, name := name } := by
    rw [OrderedMap.get?_set, Table.insert_self]
  refine
    { frame := ⟨rfl, rfl, rfl⟩
      grows := le_rfl
      fresh := owned.fresh
      known := fun session found => ?_
      elsewhere := fun address apart => ?_
      released := fun _ _ released => released
      connected := fun _ connected => Or.inl connected
      session := fun session found _ => nomatch vacant.symm.trans found
      replaced := fun other place' _ => ?_
      replacing := fun _ place => nomatch place
      releasing := fun place => nomatch place }
  · cases stored.symm.trans found
    exact bound
  · exact (congrFun (OrderedMap.get?_set _ _ _) address).trans (Table.insert_of_ne _ _ apart)
  · cases place.symm.trans place'
    exact ⟨_, stored, rfl⟩

/-- A replacement that could not be initialized has been disconnected. -/
theorem Owned.giveUpExchange (owned : Owned s) (current : s.loops[index]? = some loop) {transport : Nat}
    (place : loop.phase = .replacing transport) : Exchange s (s.release transport) loop .reconnectDelay := by
  obtain ⟨vacant, bound⟩ := owned.replacing loop (List.mem_of_getElem? current) transport place
  refine
    { frame := ⟨rfl, rfl, rfl⟩
      grows := le_rfl
      fresh := release_fresh owned.fresh bound
      known := fun session found => nomatch vacant.symm.trans found
      elsewhere := fun _ _ => rfl
      released := fun other _ released => ?_
      connected := fun _ connected => Or.inl (release_connected connected).2
      session := fun session found _ => nomatch vacant.symm.trans found
      replaced := fun other place' connected => ?_
      replacing := fun _ place => nomatch place
      releasing := fun place => nomatch place }
  · by_cases same : other = transport
    · rw [same]
      exact Table.insert_self _ _ _
    · exact (Table.insert_of_ne _ _ same).trans released
  · cases place.symm.trans place'
    exact absurd rfl (release_connected connected).1

theorem Owned.loopStep {event : LoopEvent} (owned : Owned s) (polling : s.phase = .polling)
    (current : s.loops[index]? = some loop) (effect : LoopEffect s index loop event t) : Owned t := by
  cases effect with
  | moved phase before after _ accounts =>
    exact (owned.exchange polling current (owned.calmExchange before after)).accounts accounts
  | failed error _ _ _ before _ _ accounts =>
    have after : (LoopPhase.failed error).reconnecting = false := rfl
    have moved := owned.exchange polling current (owned.calmExchange before after)
    have marked : Owned (s.failLoop index loop error) := moved.congr rfl rfl rfl rfl rfl rfl
    exact marked.accounts accounts
  | released existing before found accounts =>
    exact (owned.exchange polling current (owned.releaseExchange before found)).accounts accounts
  | opened before vacant accounts =>
    have opened := owned.openExchange s.sessions (fun _ _ => rfl) vacant
      (fun session found => nomatch vacant.symm.trans found) fun _ => calm_ne before
    exact (owned.exchange polling current opened).accounts accounts
  | swapped before accounts =>
    have vacant : (s.sessions.delete loop.address).get? loop.address = none := by
      rw [OrderedMap.get?_delete, Table.erase, if_pos rfl]
    have elsewhere (address : String) (apart : address ≠ loop.address) :
        (s.sessions.delete loop.address).get? address = s.sessions.get? address := by
      rw [OrderedMap.get?_delete, Table.erase, if_neg apart]
    have opened := owned.openExchange (s.sessions.delete loop.address) elsewhere vacant
      (owned.releasing loop (List.mem_of_getElem? current) before) (by simp [before])
    exact (owned.exchange polling current opened).accounts accounts
  | replaced transport name place accounts =>
    exact (owned.exchange polling current (owned.replaceExchange current name place)).accounts accounts
  | unreplaced transport place accounts =>
    exact (owned.exchange polling current (owned.giveUpExchange current place)).accounts accounts

end Loops

theorem startLoops_addresses (s : Server) : (s.startLoops.loops.map PollingLoop.address).Sublist s.addresses := by
  simp only [startLoops]
  induction s.addresses with
  | nil => exact List.nil_sublist _
  | cons address rest ih =>
    cases found : s.devices address with
    | none =>
      rw [List.filterMap_cons_none (by rw [found]; rfl)]
      exact ih.cons address
    | some device =>
      rw [List.filterMap_cons_some (by rw [found]; rfl)]
      exact ih.cons_cons address

theorem Stored.startLoops (stored : Stored s) : Owned s.startLoops := by
  have started : Stored s.startLoops :=
    { addresses := stored.addresses
      distinct := (startLoops_addresses s).nodup stored.addresses
      fresh := stored.fresh
      known := stored.known
      stored := stored.stored
      calm := fun loop member => by
        obtain ⟨address, _, made⟩ := List.mem_filterMap.mp member
        obtain ⟨device, _, rfl⟩ := Option.map_eq_some_iff.mp made
        rfl }
  exact started.owned (by simp [Server.startLoops]) (by simp [Server.startLoops]) nofun

/-- The session of a completed `connectAndInitialize` enters the map. -/
theorem Owned.initialized (owned : Owned s) (loops : s.loops = []) {address : String} {rest : List String}
    {transport : Nat} (place : s.phase = .connecting address rest transport)
    (result : Settlement Failure String) : Owned (s.initialized address rest transport result) := by
  obtain ⟨vacant, bound⟩ := owned.connecting address rest transport place
  have calm : ∀ loop ∈ s.loops, loop.phase.reconnecting = false := by simp [loops]
  cases result with
  | fulfilled name =>
    let session : ManagedSession := { transport := transport, name := name }
    have get (other : String) : (s.sessions.set address session).get? other =
        if other = address then some session else s.sessions.get? other := by
      rw [OrderedMap.get?_set, Table.insert]
    have stored : Stored { s with sessions := s.sessions.set address session } :=
      { addresses := owned.addresses
        distinct := owned.distinct
        fresh := owned.fresh
        known := fun other found current => by
          rw [get] at current
          split at current
          · cases current
            exact bound
          · exact owned.known other found current
        stored := fun other connected => by
          cases owned.owned other connected with
          | session holder found current holds =>
            have apart : holder ≠ address := by
              rintro rfl
              cases vacant.symm.trans current
            exact ⟨holder, found, (get holder).trans ((if_neg apart).trans current), holds⟩
          | connecting _ _ place' =>
            cases place.symm.trans place'
            exact ⟨address, session, (get address).trans (if_pos rfl), rfl⟩
          | loop loop member => simp [loops] at member
        calm := calm }
    exact stored.connectNext rest
  | rejected error =>
    have stored : Stored (s.release transport) :=
      { addresses := owned.addresses
        distinct := owned.distinct
        fresh := release_fresh owned.fresh bound
        known := owned.known
        stored := fun other connected => by
          obtain ⟨apart, connected⟩ := release_connected connected
          cases owned.owned other connected with
          | session holder found current holds => exact ⟨holder, found, current, holds⟩
          | connecting _ _ place' =>
            cases place.symm.trans place'
            exact absurd rfl apart
          | loop loop member => simp [loops] at member
        calm := calm }
    exact stored.rest (.connectAllSettled (.rejected error)) (by simp) (by simp) (by rintro ⟨⟩)

/-- The entry of a disconnected session leaves the map. -/
theorem Owned.disconnected (owned : Owned s) (calm : ∀ loop ∈ s.loops, loop.phase.reconnecting = false)
    {outcome : Settlement Failure Unit} {address : String} (place : s.phase = .disconnecting outcome address) :
    Owned ({ s with sessions := s.sessions.delete address }.disconnectNext outcome) := by
  have get (other : String) : (s.sessions.delete address).get? other =
      if other = address then none else s.sessions.get? other := by
    rw [OrderedMap.get?_delete, Table.erase]
  have stored : Stored { s with sessions := s.sessions.delete address } :=
    { addresses := owned.addresses
      distinct := owned.distinct
      fresh := owned.fresh
      known := fun other session current => by
        rw [get] at current
        split at current
        · cases current
        · exact owned.known other session current
      stored := fun transport connected => by
        obtain ⟨holder, session, current, holds⟩ :=
          (owned.stored calm (by simp [place])).stored transport connected
        have apart : holder ≠ address := by
          rintro rfl
          have released := owned.disconnecting outcome holder place session current
          rw [holds] at released
          cases released.symm.trans connected
        exact ⟨holder, session, (get holder).trans ((if_neg apart).trans current), holds⟩
      calm := calm }
  exact stored.disconnectNext outcome

/-- The phases between which the run moves without doing anything else. -/
theorem PhaseMove.keepsNothing {event : ServerEvent} {before after : ServerPhase}
    (move : PhaseMove before event after) :
    (∀ address rest transport, before ≠ .connecting address rest transport) ∧
      (∀ address rest transport, after ≠ .connecting address rest transport) ∧
      (∀ outcome address, after ≠ .disconnecting outcome address) ∧
      (after.noSessions = true → before.noSessions = true) := by
  cases move with
  | _ => exact ⟨nofun, nofun, nofun, fun _ => rfl⟩

theorem Owned.create {addresses : List String} {runOnce : Bool} {options : PollingOptions}
    (distinct : addresses.Nodup) : Owned (create addresses runOnce options) := by
  have stored : Stored (Server.create addresses runOnce options) :=
    { addresses := distinct
      distinct := List.nodup_nil
      fresh := fun _ _ entry => nomatch entry
      known := fun _ _ current => nomatch (congrFun OrderedMap.get?_empty _).symm.trans current
      stored := fun _ entry => nomatch entry
      calm := fun _ member => nomatch member }
  exact stored.owned (by simp [Server.create]) (by simp [Server.create]) fun _ => rfl

theorem Owned.step {event : ServerEvent} (owned : Owned s)
    (unstarted : s.phase.beforeLoops = true → s.loops = [])
    (settled : s.phase.handlerSettled = true → AllReturned s)
    (failed : event = .joined → s.failure ≠ none → AllReturned s)
    (run : s.step event = some t) : Owned t := by
  have storedBefore (phase : ServerPhase) (place : s.phase = phase) (before : phase.beforeLoops = true)
      (idle : ∀ address rest transport, phase ≠ .connecting address rest transport) : Stored s := by
    refine owned.stored ?_ (by rw [place]; exact idle)
    rw [unstarted (by rw [place, before])]
    simp
  have storedAfter (phase : ServerPhase) (place : s.phase = phase) (after : phase.handlerSettled = true)
      (idle : ∀ address rest transport, phase ≠ .connecting address rest transport) : Stored s :=
    owned.stored (settled (by rw [place, after])).calm (by rw [place]; exact idle)
  cases step_effect run with
  | moved phase move =>
    obtain ⟨before, idle, lasting, vacant⟩ := move.keepsNothing
    have stored : Stored s := by
      rcases move.settling with started | ⟨started, _⟩
      · exact storedBefore _ rfl started before
      · exact storedAfter _ rfl started before
    exact stored.rest phase idle lasting fun empty => owned.vacated (vacant empty)
  | entered place =>
    have ready := storedBefore _ place rfl (by simp)
    exact Stored.connectAllWithRecovery (s := { s with stopRequested := false })
      (ready.congr rfl rfl rfl rfl rfl)
  | initialized address rest transport place result =>
    exact owned.initialized (unstarted (by rw [place]; rfl)) place result
  | connectAllReturned result place phase after accounts =>
    exact ((storedBefore _ place rfl (by simp)).afterConnectAll after).accounts accounts
  | retried place => exact (storedBefore _ place rfl (by simp)).connectAllWithRecovery
  | started place => exact (storedBefore _ place rfl (by simp)).startLoops
  | loop index event loop current active effect =>
    exact owned.loopStep (polling_of_active unstarted settled current active) current effect
  | joined place outcome cause =>
    have returned : AllReturned s := cause.elim (failed rfl) id
    exact (owned.stored returned.calm (by simp [place])).rest (.settled outcome) (by simp) (by simp) nofun
  | cleanup outcome place => exact (storedAfter _ place rfl (by simp)).disconnectNext outcome
  | disconnected result outcome address place =>
    exact owned.disconnected (settled (by rw [place]; rfl)).calm place
  | commandWritten => exact owned.congr rfl rfl rfl rfl rfl rfl
  | stop => exact owned.congr rfl rfl rfl rfl rfl rfl

end Server

end BluettiMqtt
