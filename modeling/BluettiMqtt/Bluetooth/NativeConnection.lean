import BluettiMqtt.Bluetooth.HelperClient
import BluettiMqtt.Library.Transition
import Mathlib.Data.List.Nodup

namespace BluettiMqtt
open Promise Transition

namespace Native

inductive GattStatus
  | success
  | unreachable
  | protocolError
  | accessDenied
  deriving DecidableEq

def GattStatus.text : GattStatus → String
  | .success => "Success"
  | .unreachable => "Unreachable"
  | .protocolError => "ProtocolError"
  | .accessDenied => "AccessDenied"

/-- What a connection is about, and what the system does: `γ` is the type of UUIDs, a
characteristic object stands for one of them, and cleaning up may throw. -/
structure GattSystem (γ : Type*) where
  sessionId : String
  name : String
  parseUuid : String → Except String γ
  uuidText : γ → String
  uuidOf : Nat → γ
  serviceThrows : Nat → Option String
  deviceThrows : Option String

/-- The methods of a connection that await the system, but for `DisposeAsync`. -/
inductive Method
  | readCharacteristic (uuidText : String)
  | writeCharacteristic (uuidText : String) (data : List Byte) (withoutResponse : Bool)
  | subscribe (uuidText : String)
  deriving DecidableEq

def Method.uuidText : Method → String
  | .readCharacteristic uuidText => uuidText
  | .writeCharacteristic uuidText _ _ => uuidText
  | .subscribe uuidText => uuidText

/-- A closure for `ValueChanged`, with the text that it sends along. -/
structure Handler where
  number : Nat
  uuidText : String
  deriving DecidableEq

/-- Where the method that is running stands. In `searching` it asks the first of the
services, in `detaching` it awaits the descriptor of a handler that is off the list. -/
inductive ConnectionTask (γ : Type*)
  | idle
  | enumerating (uuid : γ) (method : Method)
  | searching (uuid : γ) (method : Method) (services : List Nat)
  | exchanging (method : Method)
  | subscribing (uuid : γ) (characteristic : Nat) (handler : Handler)
  | detaching (handlers : List (γ × Handler)) (failures : List String)
  | disposed (failures : List String)

/-- `DisposeAsync` has been called. -/
def ConnectionTask.isClosing {γ : Type*} : ConnectionTask γ → Bool
  | .detaching _ _ => true
  | .disposed _ => true
  | _ => false

/-- The fields of a connection, with the handlers that are on the `ValueChanged` events of
the characteristic objects. The helper runs one method at a time. `opened` are the services
that it has got from the system; `outcomes` and `emitted` (oldest first) are history
variables. -/
structure DeviceConnection (γ : Type*) where
  services : Option (List Nat)
  characteristics : Table γ Nat
  handlers : List (γ × Handler)
  task : ConnectionTask γ
  attached : List (Nat × Handler)
  handlersMade : Nat
  opened : List Nat
  disposedServices : List Nat
  deviceDisposed : Bool
  outcomes : List (Method × Settlement String (List Byte))
  emitted : List HelperNotification

/-- A method is called, what it awaits settles, or a characteristic changes. -/
inductive ConnectionEvent
  | call (method : Method)
  | services (result : Settlement String (GattStatus × List Nat))
  | characteristics (result : Settlement String (GattStatus × List Nat))
  | exchanged (result : Settlement String (GattStatus × List Byte))
  | subscribed (result : Settlement String GattStatus)
  | dispose
  | detached (result : Settlement String GattStatus)
  | changed (characteristic : Nat) (value : List Byte)

/-- `EnsureSuccess`, after the `await` before it. -/
def ensureSuccess {α β : Type*} (operation : String) (use : β → α) : Settlement String (GattStatus × β) → Settlement String α
  | .fulfilled (.success, value) => .fulfilled (use value)
  | .fulfilled (status, _) => .rejected s!"Failed to {operation}: {status.text}."
  | .rejected message => .rejected message

namespace DeviceConnection

variable {γ : Type*} [DecidableEq γ]

/-- `CreateAsync`, when there is a device. -/
def create : DeviceConnection γ where
  services := none
  characteristics := fun _ => none
  handlers := []
  task := .idle
  attached := []
  handlersMade := 0
  opened := []
  disposedServices := []
  deviceDisposed := false
  outcomes := []
  emitted := []

def settle (c : DeviceConnection γ) (method : Method) (outcome : Settlement String (List Byte)) : DeviceConnection γ :=
  { c with
    task := .idle
    outcomes := c.outcomes ++ [(method, outcome)] }

/-- A method that has its characteristic. -/
def use (c : DeviceConnection γ) (uuid : γ) (method : Method) (characteristic : Nat) : DeviceConnection γ :=
  match method with
  | .subscribe uuidText =>
    if c.handlers.any fun entry => entry.1 = uuid then c.settle method (.fulfilled [])
    else
      let handler : Handler := { number := c.handlersMade, uuidText := uuidText }
      { c with
        attached := c.attached ++ [(characteristic, handler)]
        handlersMade := c.handlersMade + 1
        task := .subscribing uuid characteristic handler }
  | _ => { c with task := .exchanging method }

section Steps

variable (system : GattSystem γ)

/-- The loop of `GetCharacteristicAsync` over the services. -/
def search (c : DeviceConnection γ) (uuid : γ) (method : Method) : List Nat → DeviceConnection γ
  | [] =>
    let text := system.uuidText uuid
    let name := system.name
    c.settle method (.rejected s!"Characteristic {text} was not found on device {name}.")
  | services => { c with task := .searching uuid method services }

/-- `GetCharacteristicAsync` up to its first `await`. -/
def getCharacteristic (c : DeviceConnection γ) (uuid : γ) (method : Method) : DeviceConnection γ :=
  match c.characteristics uuid with
  | some characteristic => c.use uuid method characteristic
  | none =>
    match c.services with
    | some services => c.search system uuid method services
    | none => { c with task := .enumerating uuid method }

/-- The end of `DisposeAsync`. -/
def release (c : DeviceConnection γ) (failures : List String) : DeviceConnection γ :=
  let services := c.services.getD []
  { c with
    services := none
    characteristics := fun _ => none
    disposedServices := services
    deviceDisposed := true
    task := .disposed (failures ++ services.filterMap system.serviceThrows ++ system.deviceThrows.toList) }

/-- The loop of `DisposeAsync` over the handlers, up to its next `await`. -/
def detachNext (c : DeviceConnection γ) (failures : List String) : List (γ × Handler) → DeviceConnection γ
  | [] => c.release system failures
  | (uuid, handler) :: rest =>
    match c.characteristics uuid with
    | some characteristic =>
      { c with
        attached := c.attached.erase (characteristic, handler)
        task := .detaching rest failures }
    | none => c.detachNext failures rest

/-- One step; `none` when the event is not enabled. A service has only characteristics of
the UUID that it is asked for. -/
def step (c : DeviceConnection γ) : ConnectionEvent → Option (DeviceConnection γ)
  | .call method =>
    match c.task with
    | .idle =>
      match system.parseUuid method.uuidText with
      | .ok uuid => some (c.getCharacteristic system uuid method)
      | .error message => some (c.settle method (.rejected message))
    | _ => none
  | .services result =>
    match c.task with
    | .enumerating uuid method =>
      match ensureSuccess "enumerate GATT services" id result with
      | .fulfilled services =>
        some ({ c with services := some services, opened := services }.search system uuid method services)
      | .rejected message => some (c.settle method (.rejected message))
    | _ => none
  | .characteristics result =>
    match c.task with
    | .searching uuid method (_ :: rest) =>
      match result with
      | .fulfilled (.success, characteristic :: _) =>
        if system.uuidOf characteristic = uuid then
          some ({ c with characteristics := c.characteristics.insert uuid characteristic }.use uuid method characteristic)
        else none
      | .fulfilled _ => some (c.search system uuid method rest)
      | .rejected message => some (c.settle method (.rejected message))
    | _ => none
  | .exchanged result =>
    match c.task with
    | .exchanging method =>
      let uuidText := method.uuidText
      match method with
      | .readCharacteristic _ => some (c.settle method (ensureSuccess s!"read characteristic {uuidText}" id result))
      | _ => some (c.settle method (ensureSuccess s!"write characteristic {uuidText}" (fun _ => []) result))
    | _ => none
  | .subscribed result =>
    match c.task with
    | .subscribing uuid characteristic handler =>
      let uuidText := handler.uuidText
      match result with
      | .fulfilled .success =>
        some ({ c with handlers := c.handlers ++ [(uuid, handler)] }.settle (.subscribe uuidText) (.fulfilled []))
      | .fulfilled status =>
        let text := status.text
        some ({ c with attached := c.attached.erase (characteristic, handler) }.settle (.subscribe uuidText)
          (.rejected s!"Failed to subscribe to characteristic {uuidText}: {text}."))
      | .rejected message =>
        some ({ c with attached := c.attached.erase (characteristic, handler) }.settle (.subscribe uuidText)
          (.rejected message))
    | _ => none
  | .dispose =>
    match c.task with
    | .idle => some ({ c with handlers := [] }.detachNext system [] c.handlers)
    | _ => none
  | .detached result =>
    match c.task, result with
    | .detaching rest failures, .fulfilled _ => some (c.detachNext system failures rest)
    | .detaching rest failures, .rejected message => some (c.detachNext system (failures ++ [message]) rest)
    | _, _ => none
  | .changed characteristic value =>
    some { c with emitted := c.emitted ++ (c.attached.filter fun entry => entry.1 = characteristic).map fun entry =>
      ⟨system.sessionId, entry.2.uuidText, value⟩ }

end Steps

/-- The UUID that a method has subscribed to, with the text it was given. -/
def subscribed? (system : GattSystem γ) (uuid : γ) : Method × Settlement String (List Byte) → Option String
  | (.subscribe uuidText, .fulfilled _) =>
    match system.parseUuid uuidText with
    | .ok other => if other = uuid then some uuidText else none
    | .error _ => none
  | _ => none

/-- The text of the first subscription to a UUID that has been fulfilled. -/
def firstSubscription (system : GattSystem γ) (outcomes : List (Method × Settlement String (List Byte)))
    (uuid : γ) : Option String :=
  outcomes.findSome? (subscribed? system uuid)

/-- The handlers as they are on the events, when each has its characteristic. -/
def links (characteristics : Table γ Nat) (entries : List (γ × Handler)) : List (Nat × Handler) :=
  entries.filterMap fun entry => (characteristics entry.1).map fun characteristic => (characteristic, entry.2)

/-- The events have these handlers, one for each of some characteristics. -/
structure Linked (system : GattSystem γ) (characteristics : Table γ Nat) (entries : List (γ × Handler))
    (attached : List (Nat × Handler)) : Prop where
  cached : ∀ uuid characteristic, characteristics uuid = some characteristic → system.uuidOf characteristic = uuid
  known : ∀ entry ∈ entries, (characteristics entry.1).isSome = true
  distinct : (entries.map Prod.fst).Nodup
  attached : attached = links characteristics entries

variable {system : GattSystem γ} {characteristics : Table γ Nat} {entries : List (γ × Handler)}
  {attached : List (Nat × Handler)} {uuid : γ} {characteristic : Nat} {handler : Handler}

omit [DecidableEq γ] in
/-- A handler on an event is one for the UUID of its characteristic. -/
theorem Linked.entry (linked : Linked system characteristics entries attached)
    (member : (characteristic, handler) ∈ attached) : (system.uuidOf characteristic, handler) ∈ entries := by
  rw [linked.attached] at member
  obtain ⟨⟨uuid, other⟩, listed, made⟩ := List.mem_filterMap.mp member
  obtain ⟨found, held, same⟩ := Option.map_eq_some_iff.mp made
  cases same
  rw [linked.cached uuid _ held]
  exact listed

theorem links_insert (fresh : characteristics uuid = none)
    (known : ∀ entry ∈ entries, (characteristics entry.1).isSome = true) :
    links (characteristics.insert uuid characteristic) entries = links characteristics entries := by
  apply List.filterMap_congr
  intro entry member
  have different : entry.1 ≠ uuid := by
    intro same
    have some_ := known entry member
    rw [same, fresh] at some_
    cases some_
  rw [Table.insert_of_ne _ _ different]

theorem Linked.insert (linked : Linked system characteristics entries attached) (fresh : characteristics uuid = none)
    (own : system.uuidOf characteristic = uuid) :
    Linked system (characteristics.insert uuid characteristic) entries attached where
  cached other found held := by
    rcases Table.insert_eq_some.mp held with ⟨rfl, rfl⟩ | ⟨_, held⟩
    · exact own
    · exact linked.cached other found held
  known entry member := by
    by_cases same : entry.1 = uuid
    · rw [same, Table.insert_self]
      rfl
    · rw [Table.insert_of_ne _ _ same]
      exact linked.known entry member
  distinct := linked.distinct
  attached := by rw [links_insert fresh linked.known, linked.attached]

omit [DecidableEq γ] in
theorem links_append (held : characteristics uuid = some characteristic) :
    links characteristics (entries ++ [(uuid, handler)]) = links characteristics entries ++ [(characteristic, handler)] := by
  rw [links, List.filterMap_append]
  simp [held, links]

omit [DecidableEq γ] in
theorem Linked.append (linked : Linked system characteristics entries attached)
    (held : characteristics uuid = some characteristic) (fresh : uuid ∉ entries.map Prod.fst) :
    Linked system characteristics (entries ++ [(uuid, handler)]) (attached ++ [(characteristic, handler)]) where
  cached := linked.cached
  known entry member := by
    rcases List.mem_append.mp member with old | new
    · exact linked.known entry old
    · rw [List.mem_singleton.mp new, held]
      rfl
  distinct := by
    rw [List.map_append, List.nodup_append]
    refine ⟨linked.distinct, List.nodup_singleton _, ?_⟩
    rintro old member _ last rfl
    rw [List.mem_singleton.mp last] at member
    exact fresh member
  attached := by rw [links_append held, linked.attached]

omit [DecidableEq γ] in
/-- Taking the last handler off its event again. -/
theorem Linked.erase_last (linked : Linked system characteristics (entries ++ [(uuid, handler)]) attached)
    (held : characteristics uuid = some characteristic) :
    Linked system characteristics entries (attached.erase (characteristic, handler)) := by
  have distinct := linked.distinct
  rw [List.map_append, List.nodup_append] at distinct
  have before : Linked system characteristics entries (links characteristics entries) :=
    ⟨linked.cached, fun entry member => linked.known entry (List.mem_append_left _ member), distinct.1, rfl⟩
  have absent : (characteristic, handler) ∉ links characteristics entries := by
    intro member
    have listed := before.entry member
    rw [linked.cached uuid _ held] at listed
    exact distinct.2.2 _ (List.mem_map_of_mem listed) _ (by simp) rfl
  have same : attached.erase (characteristic, handler) = links characteristics entries := by
    rw [linked.attached, links_append held, List.erase_append_right _ absent]
    simp
  rw [same]
  exact before

omit [DecidableEq γ] in
theorem Linked.erase_first (linked : Linked system characteristics ((uuid, handler) :: entries) attached)
    (held : characteristics uuid = some characteristic) :
    Linked system characteristics entries (attached.erase (characteristic, handler)) where
  cached := linked.cached
  known entry member := linked.known entry (List.mem_cons_of_mem _ member)
  distinct := (List.nodup_cons.mp linked.distinct).2
  attached := by
    rw [linked.attached, links, List.filterMap_cons, held]
    simp [links]

theorem filter_links (cached : ∀ uuid characteristic, characteristics uuid = some characteristic →
    system.uuidOf characteristic = uuid) (entries : List (γ × Handler)) (characteristic : Nat) :
    (links characteristics entries).filter (fun entry => entry.1 = characteristic) =
      if characteristics (system.uuidOf characteristic) = some characteristic then
        (entries.filter fun entry => entry.1 = system.uuidOf characteristic).map fun entry => (characteristic, entry.2)
      else [] := by
  induction entries with
  | nil => simp [links]
  | cons entry entries ih =>
    obtain ⟨uuid, handler⟩ := entry
    rw [links] at ih ⊢
    cases held : characteristics uuid with
    | none =>
      rw [List.filterMap_cons_none (by simp [held]), ih]
      by_cases same : uuid = system.uuidOf characteristic
      · simp [← same, held]
      · simp [same]
    | some other =>
      have own := cached uuid other held
      rw [List.filterMap_cons_some (b := (other, handler)) (by simp [held]), List.filter_cons, ih]
      by_cases here : other = characteristic
      · subst here
        simp [own, held]
      · by_cases same : uuid = system.uuidOf characteristic
        · simp [← same, held, here]
        · simp [same, here]

theorem filter_key {entries : List (γ × Handler)} (distinct : (entries.map Prod.fst).Nodup) (uuid : γ) :
    entries.filter (fun entry => entry.1 = uuid) = (entries.find? fun entry => entry.1 = uuid).toList := by
  induction entries with
  | nil => rfl
  | cons entry entries ih =>
    obtain ⟨fresh, distinct⟩ := List.nodup_cons.mp distinct
    by_cases here : entry.1 = uuid
    · have none_ : entries.filter (fun entry => entry.1 = uuid) = [] := by
        rw [List.filter_eq_nil_iff]
        intro other member same
        exact fresh (List.mem_map.mpr ⟨other, member, (of_decide_eq_true same).trans here.symm⟩)
      simp [here, none_]
    · simp [here, ih distinct]

/-- No event has two handlers. -/
theorem Linked.once (linked : Linked system characteristics entries attached) (characteristic : Nat) :
    (attached.filter fun entry => entry.1 = characteristic).map Prod.snd =
      if characteristics (system.uuidOf characteristic) = some characteristic then
        ((entries.find? fun entry => entry.1 = system.uuidOf characteristic).map Prod.snd).toList
      else [] := by
  rw [linked.attached, filter_links linked.cached, filter_key linked.distinct]
  split
  · cases entries.find? fun entry => entry.1 = system.uuidOf characteristic <;> rfl
  · rfl

variable {c d : DeviceConnection γ} {method : Method} {outcome : Settlement String (List Byte)} {failures : List String}

theorem firstSubscription_append (outcomes : List (Method × Settlement String (List Byte)))
    (last : Method × Settlement String (List Byte)) (uuid : γ) :
    firstSubscription system (outcomes ++ [last]) uuid =
      (firstSubscription system outcomes uuid).or (subscribed? system uuid last) := by
  rw [firstSubscription, List.findSome?_append, firstSubscription]
  simp

/-- What is true between two methods of a connection, and while one looks for its
characteristic. -/
structure Ready (system : GattSystem γ) (c : DeviceConnection γ) : Prop where
  linked : Linked system c.characteristics c.handlers c.attached
  told : ∀ uuid, (c.handlers.find? fun entry => entry.1 = uuid).map (fun entry => entry.2.uuidText) =
    firstSubscription system c.outcomes uuid
  opened : c.opened = c.services.getD []
  unreleased : c.disposedServices = [] ∧ c.deviceDisposed = false

/-- What is true of a connection at any moment. -/
def Sound (system : GattSystem γ) (c : DeviceConnection γ) : Prop :=
  match c.task with
  | .idle => Ready system c
  | .enumerating uuid method => Ready system c ∧ system.parseUuid method.uuidText = .ok uuid ∧ c.characteristics uuid = none
  | .searching uuid method _ => Ready system c ∧ system.parseUuid method.uuidText = .ok uuid ∧ c.characteristics uuid = none
  | .exchanging method => Ready system c ∧ ∀ uuidText, method ≠ .subscribe uuidText
  | .subscribing uuid characteristic handler =>
    Ready system { c with attached := c.attached.erase (characteristic, handler) } ∧
      Linked system c.characteristics (c.handlers ++ [(uuid, handler)]) c.attached ∧
      system.parseUuid handler.uuidText = .ok uuid ∧ c.characteristics uuid = some characteristic
  | .detaching entries _ => Linked system c.characteristics entries c.attached ∧ c.opened = c.services.getD [] ∧
      c.disposedServices = [] ∧ c.deviceDisposed = false
  | .disposed _ => c.attached = [] ∧ c.disposedServices = c.opened ∧ c.deviceDisposed = true

/-- A method ends, and with it no new subscription. -/
theorem Ready.settle (ready : Ready system c)
    (old : ∀ uuid, (subscribed? system uuid (method, outcome)).isSome = true →
      (c.handlers.find? fun entry => entry.1 = uuid).isSome = true) : Sound system (c.settle method outcome) := by
  refine ⟨ready.linked, fun uuid => ?_, ready.opened, ready.unreleased⟩
  change (c.handlers.find? fun entry => entry.1 = uuid).map _ = firstSubscription system (c.outcomes ++ [(method, outcome)]) uuid
  rw [firstSubscription_append, ← ready.told uuid]
  cases found : c.handlers.find? fun entry => entry.1 = uuid with
  | some entry => rfl
  | none =>
    cases told : subscribed? system uuid (method, outcome) with
    | none => rfl
    | some text =>
      have some_ := old uuid (by rw [told]; rfl)
      rw [found] at some_
      cases some_

theorem Ready.reject (ready : Ready system c) (message : String) : Sound system (c.settle method (.rejected message)) := by
  refine ready.settle fun uuid some_ => ?_
  cases method <;> cases some_

theorem Ready.search (ready : Ready system c) (parsed : system.parseUuid method.uuidText = .ok uuid)
    (fresh : c.characteristics uuid = none) (services : List Nat) : Sound system (c.search system uuid method services) := by
  cases services with
  | nil => exact ready.reject _
  | cons service services => exact ⟨⟨ready.linked, ready.told, ready.opened, ready.unreleased⟩, parsed, fresh⟩

theorem Ready.use (ready : Ready system c) (parsed : system.parseUuid method.uuidText = .ok uuid)
    (held : c.characteristics uuid = some characteristic) : Sound system (c.use uuid method characteristic) := by
  cases method with
  | readCharacteristic uuidText => exact ⟨⟨ready.linked, ready.told, ready.opened, ready.unreleased⟩, by simp⟩
  | writeCharacteristic uuidText data withoutResponse =>
    exact ⟨⟨ready.linked, ready.told, ready.opened, ready.unreleased⟩, by simp⟩
  | subscribe uuidText =>
    rw [DeviceConnection.use]
    split
    · next listed =>
      refine ready.settle fun other some_ => ?_
      have parsed : system.parseUuid uuidText = .ok uuid := parsed
      simp only [subscribed?, parsed] at some_
      split at some_
      · next same =>
        rw [List.find?_isSome, ← same]
        exact List.any_eq_true.mp listed
      · cases some_
    · next fresh =>
      have absent : uuid ∉ c.handlers.map Prod.fst := by
        intro member
        obtain ⟨entry, listed, same⟩ := List.mem_map.mp member
        exact fresh (List.any_eq_true.mpr ⟨entry, listed, by simp [same]⟩)
      have linked : Linked system c.characteristics (c.handlers ++ [(uuid, ⟨c.handlersMade, uuidText⟩)])
          (c.attached ++ [(characteristic, ⟨c.handlersMade, uuidText⟩)]) := ready.linked.append held absent
      exact ⟨⟨linked.erase_last held, ready.told, ready.opened, ready.unreleased⟩, linked, parsed, held⟩

theorem Ready.getCharacteristic (ready : Ready system c) (parsed : system.parseUuid method.uuidText = .ok uuid) :
    Sound system (c.getCharacteristic system uuid method) := by
  rw [DeviceConnection.getCharacteristic]
  split
  · next characteristic held => exact ready.use parsed held
  · next fresh =>
    split
    · next services _ => exact ready.search parsed fresh services
    · exact ⟨⟨ready.linked, ready.told, ready.opened, ready.unreleased⟩, parsed, fresh⟩

/-- The handlers come off their events one after the other, and then everything is
released. -/
theorem sound_detachNext (entries : List (γ × Handler)) (failures : List String)
    (linked : Linked system c.characteristics entries c.attached) (opened : c.opened = c.services.getD [])
    (unreleased : c.disposedServices = [] ∧ c.deviceDisposed = false) :
    Sound system (c.detachNext system failures entries) := by
  cases entries with
  | nil =>
    refine ⟨linked.attached, ?_, rfl⟩
    exact opened.symm
  | cons entry entries =>
    obtain ⟨uuid, handler⟩ := entry
    obtain ⟨characteristic, held⟩ := Option.isSome_iff_exists.mp (linked.known (uuid, handler) List.mem_cons_self)
    rw [detachNext, held]
    exact ⟨linked.erase_first held, opened, unreleased⟩

/-- What has been emitted makes no difference. -/
theorem Sound.emit (sound : Sound system c) (emitted : List HelperNotification) :
    Sound system { c with emitted := emitted } := by
  have kept (ready : Ready system c) : Ready system { c with emitted := emitted } :=
    ⟨ready.linked, ready.told, ready.opened, ready.unreleased⟩
  obtain ⟨services, characteristics, handlers, task, attached, handlersMade, opened, disposedServices, deviceDisposed,
    outcomes, earlier⟩ := c
  cases task with
  | idle => exact kept sound
  | enumerating uuid method => exact ⟨kept sound.1, sound.2⟩
  | searching uuid method services => exact ⟨kept sound.1, sound.2⟩
  | exchanging method => exact ⟨kept sound.1, sound.2⟩
  | subscribing uuid characteristic handler =>
    obtain ⟨ready, rest⟩ := sound
    exact ⟨⟨ready.linked, ready.told, ready.opened, ready.unreleased⟩, rest⟩
  | detaching entries failures => exact sound
  | disposed failures => exact sound

/-- What the descriptors' writes of `DisposeAsync` have thrown. -/
def detachError : ConnectionEvent → Option String
  | .detached (.rejected message) => some message
  | _ => none

/-- What the steps of a connection come to. -/
inductive Steps (system : GattSystem γ) (c : DeviceConnection γ) : ConnectionEvent → DeviceConnection γ → Prop
  | called {uuid : γ} {method : Method} : c.task = .idle → system.parseUuid method.uuidText = .ok uuid →
      Steps system c (.call method) (c.getCharacteristic system uuid method)
  | unparsed {method : Method} {message : String} : c.task = .idle → system.parseUuid method.uuidText = .error message →
      Steps system c (.call method) (c.settle method (.rejected message))
  | enumerated {uuid : γ} {method : Method} {services : List Nat} {result} : c.task = .enumerating uuid method →
      Steps system c (.services result)
        ({ c with services := some services, opened := services }.search system uuid method services)
  | unreachable {uuid : γ} {method : Method} {message : String} {result} : c.task = .enumerating uuid method →
      Steps system c (.services result) (c.settle method (.rejected message))
  | found {uuid : γ} {method : Method} {services : List Nat} {characteristic : Nat} {result} :
      c.task = .searching uuid method services → system.uuidOf characteristic = uuid →
      Steps system c (.characteristics result)
        ({ c with characteristics := c.characteristics.insert uuid characteristic }.use uuid method characteristic)
  | searched {uuid : γ} {method : Method} {service : Nat} {services : List Nat} {result} :
      c.task = .searching uuid method (service :: services) →
      Steps system c (.characteristics result) (c.search system uuid method services)
  | failed {uuid : γ} {method : Method} {services : List Nat} {message : String} {result} :
      c.task = .searching uuid method services →
      Steps system c (.characteristics result) (c.settle method (.rejected message))
  | exchanged {method : Method} {outcome : Settlement String (List Byte)} {result} : c.task = .exchanging method →
      Steps system c (.exchanged result) (c.settle method outcome)
  | subscribed {uuid : γ} {characteristic : Nat} {handler : Handler} {result} :
      c.task = .subscribing uuid characteristic handler → Steps system c (.subscribed result)
        ({ c with handlers := c.handlers ++ [(uuid, handler)] }.settle (.subscribe handler.uuidText) (.fulfilled []))
  | unsubscribed {uuid : γ} {characteristic : Nat} {handler : Handler} {message : String} {result} :
      c.task = .subscribing uuid characteristic handler → Steps system c (.subscribed result)
        ({ c with attached := c.attached.erase (characteristic, handler) }.settle (.subscribe handler.uuidText)
          (.rejected message))
  | dispose : c.task = .idle → Steps system c .dispose ({ c with handlers := [] }.detachNext system [] c.handlers)
  | detached {entries : List (γ × Handler)} {failures : List String} {result} : c.task = .detaching entries failures →
      Steps system c (.detached result)
        (c.detachNext system (failures ++ (detachError (.detached result)).toList) entries)
  | changed {characteristic : Nat} {value : List Byte} : Steps system c (.changed characteristic value)
      { c with emitted := c.emitted ++ (c.attached.filter fun entry => entry.1 = characteristic).map fun entry =>
        ⟨system.sessionId, entry.2.uuidText, value⟩ }

theorem steps_of_step {e : ConnectionEvent} (run : c.step system e = some d) : c.Steps system e d := by
  cases e with
  | call method =>
    simp only [DeviceConnection.step] at run
    split at run
    · next task =>
      split at run
      · next parsed =>
        cases run
        exact .called task parsed
      · next wrong =>
        cases run
        exact .unparsed task wrong
    · cases run
  | services result =>
    simp only [DeviceConnection.step] at run
    split at run
    · next task =>
      split at run
      · cases run
        exact .enumerated task
      · cases run
        exact .unreachable task
    · cases run
  | characteristics result =>
    simp only [DeviceConnection.step] at run
    split at run
    · next task =>
      split at run
      · obtain ⟨own, made⟩ := Option.ite_none_right_eq_some.mp run
        cases made
        exact .found task own
      · cases run
        exact .searched task
      · cases run
        exact .failed task
    · cases run
  | exchanged result =>
    simp only [DeviceConnection.step] at run
    split at run
    · next task => split at run <;> cases run <;> exact .exchanged task
    · cases run
  | subscribed result =>
    simp only [DeviceConnection.step] at run
    split at run
    · next task =>
      split at run
      · cases run
        exact .subscribed task
      · cases run
        exact .unsubscribed task
      · cases run
        exact .unsubscribed task
    · cases run
  | dispose =>
    simp only [DeviceConnection.step] at run
    split at run
    · next task =>
      cases run
      exact .dispose task
    · cases run
  | detached result =>
    simp only [DeviceConnection.step] at run
    split at run
    · next entries failures status task =>
      cases run
      have same : failures = failures ++ (detachError (.detached (.fulfilled status))).toList :=
        (List.append_nil failures).symm
      rw [same]
      exact .detached task
    · next entries failures message task =>
      cases run
      exact .detached task
    · cases run
  | changed characteristic value =>
    cases run
    exact .changed

/-- A method other than a subscription returns or fails. -/
theorem Ready.exchanged (ready : Ready system c) (other : ∀ uuidText, method ≠ .subscribe uuidText) :
    Sound system (c.settle method outcome) := by
  refine ready.settle fun uuid some_ => ?_
  have silent : subscribed? system uuid (method, outcome) = none := by
    cases method with
    | subscribe uuidText => exact absurd rfl (other uuidText)
    | _ => rfl
  rw [silent] at some_
  cases some_

/-- A subscription is fulfilled, and its text is the one of its characteristic unless an
earlier one was. -/
theorem told_subscribed {handler : Handler} (parsed : system.parseUuid handler.uuidText = .ok uuid)
    (told : ∀ uuid, (c.handlers.find? fun entry => entry.1 = uuid).map (fun entry => entry.2.uuidText) =
      firstSubscription system c.outcomes uuid) (other : γ) :
    ((c.handlers ++ [(uuid, handler)]).find? fun entry => entry.1 = other).map (fun entry => entry.2.uuidText) =
      firstSubscription system (c.outcomes ++ [(.subscribe handler.uuidText, .fulfilled [])]) other := by
  rw [firstSubscription_append, ← told, List.find?_append]
  have new : subscribed? system other (.subscribe handler.uuidText, .fulfilled []) =
      if uuid = other then some handler.uuidText else none := by
    simp only [subscribed?, parsed]
  cases c.handlers.find? fun entry => entry.1 = other with
  | some entry => rfl
  | none =>
    rw [new, List.find?_singleton]
    by_cases same : uuid = other <;> simp [same]

/-- What a step of a connection keeps. -/
theorem Sound.step {e : ConnectionEvent} (sound : Sound system c) (run : c.step system e = some d) : Sound system d := by
  cases steps_of_step run with
  | called task parsed =>
    rw [Sound, task] at sound
    exact sound.getCharacteristic parsed
  | unparsed task =>
    rw [Sound, task] at sound
    exact sound.reject _
  | @enumerated _ _ services _ task =>
    rw [Sound, task] at sound
    obtain ⟨ready, parsed, fresh⟩ := sound
    have known : Ready system { c with services := some services, opened := services } :=
      ⟨ready.linked, ready.told, rfl, ready.unreleased⟩
    exact known.search parsed fresh services
  | unreachable task =>
    rw [Sound, task] at sound
    exact sound.1.reject _
  | @found uuid _ _ characteristic _ task own =>
    rw [Sound, task] at sound
    obtain ⟨ready, parsed, fresh⟩ := sound
    have cached : Ready system { c with characteristics := c.characteristics.insert uuid characteristic } :=
      ⟨ready.linked.insert fresh own, ready.told, ready.opened, ready.unreleased⟩
    exact cached.use parsed (Table.insert_self ..)
  | searched task =>
    rw [Sound, task] at sound
    obtain ⟨ready, parsed, fresh⟩ := sound
    exact ready.search parsed fresh _
  | failed task =>
    rw [Sound, task] at sound
    exact sound.1.reject _
  | exchanged task =>
    rw [Sound, task] at sound
    exact sound.1.exchanged sound.2
  | subscribed task =>
    rw [Sound, task] at sound
    obtain ⟨ready, linked, parsed, _⟩ := sound
    exact ⟨linked, told_subscribed parsed ready.told, ready.opened, ready.unreleased⟩
  | unsubscribed task =>
    rw [Sound, task] at sound
    exact sound.1.reject _
  | dispose task =>
    rw [Sound, task] at sound
    exact sound_detachNext c.handlers [] sound.linked sound.opened sound.unreleased
  | detached task =>
    rw [Sound, task] at sound
    obtain ⟨linked, opened, unreleased⟩ := sound
    exact sound_detachNext _ _ linked opened unreleased
  | changed => exact sound.emit _

theorem sound_of_reach {trace : List ConnectionEvent} (reach : Reach (step system) (fun _ _ => True) create trace c) :
    Sound system c := by
  refine reach.invariant ?_ fun s e t sound _ run => sound.step run
  exact ⟨⟨by simp [create], by simp [create], List.nodup_nil, rfl⟩, fun _ => rfl, rfl, rfl, rfl⟩

/-- The failures of `DisposeAsync` so far, when the writes have thrown these errors. -/
def Counted (system : GattSystem γ) (errors : List String) (c : DeviceConnection γ) : Prop :=
  match c.task with
  | .detaching _ failures => failures = errors
  | .disposed failures => failures = errors ++ c.opened.filterMap system.serviceThrows ++ system.deviceThrows.toList
  | _ => errors = []

omit [DecidableEq γ] in
theorem isClosing_search (c : DeviceConnection γ) (uuid : γ) (method : Method) (services : List Nat) :
    (c.search system uuid method services).task.isClosing = false := by
  cases services <;> rfl

theorem isClosing_use (c : DeviceConnection γ) (uuid : γ) (method : Method) (characteristic : Nat) :
    (c.use uuid method characteristic).task.isClosing = false := by
  cases method with
  | subscribe uuidText =>
    rw [use]
    split <;> rfl
  | _ => rfl

theorem isClosing_getCharacteristic (c : DeviceConnection γ) (uuid : γ) (method : Method) :
    (c.getCharacteristic system uuid method).task.isClosing = false := by
  rw [getCharacteristic]
  split
  · exact isClosing_use ..
  · split
    · exact isClosing_search ..
    · rfl

omit [DecidableEq γ] in
theorem counted_open (opened : c.task.isClosing = false) {errors : List String} :
    Counted system errors c ↔ errors = [] := by
  unfold Counted
  split
  · next task =>
    rw [task] at opened
    cases opened
  · next task =>
    rw [task] at opened
    cases opened
  · rfl

omit [DecidableEq γ] in
theorem counted_detachNext (entries : List (γ × Handler)) (failures : List String)
    (linked : Linked system c.characteristics entries c.attached) (opened : c.opened = c.services.getD []) :
    Counted system failures (c.detachNext system failures entries) := by
  cases entries with
  | nil =>
    change _ = failures ++ c.opened.filterMap system.serviceThrows ++ system.deviceThrows.toList
    rw [opened]
  | cons entry entries =>
    obtain ⟨uuid, handler⟩ := entry
    obtain ⟨characteristic, held⟩ := Option.isSome_iff_exists.mp (linked.known (uuid, handler) List.mem_cons_self)
    rw [detachNext, held]
    rfl

/-- A step of the disposal counts what its write has thrown. -/
theorem Counted.step {errors : List String} {e : ConnectionEvent} (counted : Counted system errors c)
    (sound : Sound system c) (run : c.step system e = some d) : Counted system (errors ++ (detachError e).toList) d := by
  have still (opened : c.task.isClosing = false) (closing : d.task.isClosing = false) (other : detachError e = none) :
      Counted system (errors ++ (detachError e).toList) d := by
    rw [other, Option.toList_none, List.append_nil, counted_open closing]
    exact (counted_open opened).mp counted
  cases steps_of_step run with
  | called task => exact still (by rw [task]; rfl) (isClosing_getCharacteristic ..) rfl
  | unparsed task => exact still (by rw [task]; rfl) rfl rfl
  | enumerated task => exact still (by rw [task]; rfl) (isClosing_search ..) rfl
  | unreachable task => exact still (by rw [task]; rfl) rfl rfl
  | found task => exact still (by rw [task]; rfl) (isClosing_use ..) rfl
  | searched task => exact still (by rw [task]; rfl) (isClosing_search ..) rfl
  | failed task => exact still (by rw [task]; rfl) rfl rfl
  | exchanged task => exact still (by rw [task]; rfl) rfl rfl
  | subscribed task => exact still (by rw [task]; rfl) rfl rfl
  | unsubscribed task => exact still (by rw [task]; rfl) rfl rfl
  | dispose task =>
    rw [Sound, task] at sound
    have none_ : errors = [] := (counted_open (by rw [task]; rfl)).mp counted
    rw [none_]
    exact counted_detachNext c.handlers [] sound.linked sound.opened
  | detached task =>
    rw [Sound, task] at sound
    rw [Counted, task] at counted
    rw [← counted]
    exact counted_detachNext _ _ sound.1 sound.2.1
  | @changed characteristic value =>
    have same : detachError (.changed characteristic value) = none := rfl
    rw [same, Option.toList_none, List.append_nil]
    exact counted

theorem counted_of_reach {trace : List ConnectionEvent} (reach : Reach (step system) (fun _ _ => True) create trace c) :
    Counted system (trace.filterMap detachError) c := by
  induction reach with
  | start => rfl
  | @next trace s e t reach _ run ih =>
    have counted := ih.step (sound_of_reach reach) run
    rw [List.filterMap_append]
    cases thrown : detachError e with
    | none => simpa [thrown] using counted
    | some message => simpa [thrown] using counted

/-- The subscription that is being made. -/
def underway (c : DeviceConnection γ) (uuid : γ) : Option String :=
  match c.task with
  | .subscribing other _ handler => if other = uuid then some handler.uuidText else none
  | _ => none

/-- The text that changes of a characteristic are told with: that of the first subscription
which was fulfilled, or of the one that is being made. -/
def listener (system : GattSystem γ) (c : DeviceConnection γ) (characteristic : Nat) : Option String :=
  let uuid := system.uuidOf characteristic
  if c.characteristics uuid = some characteristic then
    (firstSubscription system c.outcomes uuid).or (c.underway uuid)
  else none

theorem Ready.tells (ready : Ready system c) (idle : ∀ uuid, c.underway uuid = none) (characteristic : Nat) :
    ((c.attached.filter fun entry => entry.1 = characteristic).map Prod.snd).map Handler.uuidText =
      (c.listener system characteristic).toList := by
  rw [ready.linked.once, listener]
  split
  · rw [idle, Option.or_none, ← ready.told]
    cases c.handlers.find? fun entry => entry.1 = system.uuidOf characteristic <;> rfl
  · rfl

/-- The handlers on the event of a characteristic. -/
theorem Sound.tells (sound : Sound system c) (opened : c.task.isClosing = false) (characteristic : Nat) :
    ((c.attached.filter fun entry => entry.1 = characteristic).map Prod.snd).map Handler.uuidText =
      (c.listener system characteristic).toList := by
  cases task : c.task with
  | idle =>
    rw [Sound, task] at sound
    exact sound.tells (fun uuid => by rw [underway, task]) characteristic
  | enumerating uuid method =>
    rw [Sound, task] at sound
    exact sound.1.tells (fun uuid => by rw [underway, task]) characteristic
  | searching uuid method services =>
    rw [Sound, task] at sound
    exact sound.1.tells (fun uuid => by rw [underway, task]) characteristic
  | exchanging method =>
    rw [Sound, task] at sound
    exact sound.1.tells (fun uuid => by rw [underway, task]) characteristic
  | subscribing uuid held handler =>
    rw [Sound, task] at sound
    obtain ⟨ready, linked, -⟩ := sound
    have told := ready.told (system.uuidOf characteristic)
    change (c.handlers.find? _).map _ = firstSubscription system c.outcomes _ at told
    rw [linked.once, listener, underway, task, List.find?_append, List.find?_singleton, ← told]
    split
    · cases c.handlers.find? fun entry => entry.1 = system.uuidOf characteristic with
      | some entry => rfl
      | none => by_cases same : uuid = system.uuidOf characteristic <;> simp [same]
    · rfl
  | detaching entries failures =>
    rw [task] at opened
    cases opened
  | disposed failures =>
    rw [task] at opened
    cases opened

/-- Changes of a characteristic are told once, under the name of the first subscription to
it, from the moment its handler is on until the connection is disposed of; and disposal
leaves no handler, service or device behind, whatever fails, and reports what has. -/
theorem connection_tells_and_releases {trace : List ConnectionEvent}
    (reach : Reach (step system) (fun _ _ => True) create trace c) :
    (c.task.isClosing = false → ∀ characteristic value, c.step system (.changed characteristic value) =
      some { c with emitted := c.emitted ++ (c.listener system characteristic).toList.map fun uuidText =>
        ⟨system.sessionId, uuidText, value⟩ }) ∧
    ∀ failures, c.task = .disposed failures → c.attached = [] ∧ c.disposedServices = c.opened ∧ c.deviceDisposed = true ∧
      failures = trace.filterMap detachError ++ c.opened.filterMap system.serviceThrows ++ system.deviceThrows.toList := by
  have sound := sound_of_reach reach
  constructor
  · intro opened characteristic value
    rw [← sound.tells opened, List.map_map, List.map_map]
    rfl
  · intro failures task
    have counted := counted_of_reach reach
    rw [Sound, task] at sound
    rw [Counted, task] at counted
    exact ⟨sound.1, sound.2.1, sound.2.2, counted⟩

/-- A connection that has subscribed to a characteristic of its second service, and is
disposed of while neither the descriptor nor the first service can be reached. -/
theorem connection_tells_and_releases_unreachable :
    let system : GattSystem String :=
      { sessionId := "s", name := "AC500", parseUuid := .ok, uuidText := id, uuidOf := fun _ => "ff01"
        serviceThrows := fun service => if service = 0 then some "service" else none, deviceThrows := none }
    let trace : List ConnectionEvent := [.call (.subscribe "ff01"), .services (.fulfilled (.success, [0, 1])),
      .characteristics (.fulfilled (.unreachable, [])), .characteristics (.fulfilled (.success, [7])),
      .changed 7 [0x01#8], .subscribed (.fulfilled .success), .changed 7 [0x02#8], .dispose, .detached (.rejected "descriptor")]
    ∃ c, Reach (step system) (fun _ _ => True) create trace c ∧
      c.emitted = [⟨"s", "ff01", [0x01#8]⟩, ⟨"s", "ff01", [0x02#8]⟩] ∧
      c.task = .disposed ["descriptor", "service"] ∧ c.attached = [] ∧ c.disposedServices = c.opened := by
  intro system trace
  have reach : ∃ c, Reach (step system) (fun _ _ => True) create trace c ∧
      c.emitted = [⟨"s", "ff01", [0x01#8]⟩, ⟨"s", "ff01", [0x02#8]⟩] ∧ c.task = .disposed ["descriptor", "service"] :=
    ⟨_, .cons trivial rfl (.cons trivial rfl (.cons trivial rfl (.cons trivial rfl (.cons trivial rfl (.cons trivial rfl
      (.cons trivial rfl (.cons trivial rfl (.cons trivial rfl .start)))))))), rfl, rfl⟩
  obtain ⟨c, reach, emitted, task⟩ := reach
  obtain ⟨detached, services, _⟩ := (connection_tells_and_releases reach).2 _ task
  exact ⟨c, reach, emitted, task, detached, services⟩

end DeviceConnection

end Native

end BluettiMqtt
