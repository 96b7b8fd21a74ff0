import BluettiMqtt.Bluetooth.RemoteCalls
import BluettiMqtt.Cli.BluetoothAddress

namespace BluettiMqtt

namespace Native

/-- What the watcher tells of an advertisement. -/
structure Advertisement where
  bluetoothAddress : BitVec 64
  localName : String
  rawSignalStrengthInDBm : Int16

/-- An advertisement that the handler does not ignore. -/
def Advertisement.isNamed (args : Advertisement) : Bool :=
  !isBlank args.localName.toList

def Advertisement.device (args : Advertisement) : ScanDevice where
  address := FormatBluetoothAddress args.bluetoothAddress
  name := args.localName
  rssi := args.rawSignalStrengthInDBm

/-- The handler of `ScanAsync`. -/
def scanHandler (devices : OrderedMap (BitVec 64) ScanDevice) (args : Advertisement) : OrderedMap (BitVec 64) ScanDevice :=
  if args.isNamed then devices.set args.bluetoothAddress args.device else devices

/-- `devices` when the time is over. -/
def scanned (advertisements : List Advertisement) : OrderedMap (BitVec 64) ScanDevice :=
  advertisements.foldl scanHandler OrderedMap.empty

def strongerFirst (left right : ScanDevice) : Bool :=
  right.rssi.toInt ≤ left.rssi.toInt

/-- `OrderByDescending`, of the values in the order in which the dictionary has them. -/
def orderByDescending (values : List ScanDevice) : List ScanDevice :=
  values.mergeSort strongerFirst

/-- The last advertisement of an address that has a name. -/
def lastNamed (advertisements : List Advertisement) (address : BitVec 64) : Option Advertisement :=
  (advertisements.filter fun args => args.isNamed && args.bluetoothAddress = address).getLast?

theorem scanned_append (advertisements : List Advertisement) (args : Advertisement) :
    scanned (advertisements ++ [args]) = scanHandler (scanned advertisements) args := by
  rw [scanned, List.foldl_append]
  rfl

theorem lastNamed_append (advertisements : List Advertisement) (args : Advertisement) (address : BitVec 64) :
    lastNamed (advertisements ++ [args]) address =
      if args.isNamed && args.bluetoothAddress = address then some args else lastNamed advertisements address := by
  rw [lastNamed, List.filter_append, List.filter_singleton]
  cases args.isNamed && args.bluetoothAddress = address with
  | true => exact List.getLast?_concat
  | false => exact congrArg List.getLast? (List.append_nil _)

theorem lastNamed_spec {advertisements : List Advertisement} {address : BitVec 64} {args : Advertisement}
    (last : lastNamed advertisements address = some args) : args ∈ advertisements ∧ args.bluetoothAddress = address := by
  have member := List.mem_filter.mp (List.mem_of_getLast? last)
  simp only [Bool.and_eq_true, decide_eq_true_eq] at member
  exact ⟨member.1, member.2.2⟩

/-- Under an address there is the last advertisement of it that has a name. -/
theorem get?_scanned (advertisements : List Advertisement) (address : BitVec 64) :
    (scanned advertisements).get? address = (lastNamed advertisements address).map Advertisement.device := by
  induction advertisements using List.reverseRecOn with
  | nil => rfl
  | append_singleton advertisements args ih =>
    rw [scanned_append, lastNamed_append, scanHandler]
    by_cases named : args.isNamed = true
    · rw [if_pos named, OrderedMap.get?_set, named, Bool.true_and]
      by_cases same : args.bluetoothAddress = address
      · rw [same, Table.insert_self, if_pos (decide_eq_true rfl)]
        rfl
      · rw [Table.insert_of_ne _ _ (Ne.symm same), ih, if_neg (by simpa using same)]
    · rw [if_neg named, ih, if_neg (by simp [named])]

/-- The helper understands the addresses that it tells. -/
theorem parse_format {number : BitVec 64} (physical : number.toNat < 2 ^ 48) :
    ParseBluetoothAddress (FormatBluetoothAddress number) = .ok number := by
  rw [FormatBluetoothAddress_eq, ParseBluetoothAddress_separated rfl, bytesNumber_printedBytes physical,
    BitVec.ofNat_toNat, BitVec.setWidth_eq]

theorem validate_format (number : BitVec 64) :
    validateBluetoothAddress (FormatBluetoothAddress number) = .ok (FormatBluetoothAddress number) := by
  rw [FormatBluetoothAddress_eq]
  exact (canonical_separated rfl).2

section Scans

variable {advertisements : List Advertisement} {values : List ScanDevice}

theorem mem_scanned {device : ScanDevice} : device ∈ (scanned advertisements).entries.map Prod.snd ↔
    ∃ address args, lastNamed advertisements address = some args ∧ device = args.device := by
  rw [List.mem_map]
  constructor
  · rintro ⟨⟨address, _⟩, member, rfl⟩
    have found := OrderedMap.get?_eq_some.mpr member
    rw [get?_scanned] at found
    obtain ⟨args, last, same⟩ := Option.map_eq_some_iff.mp found
    exact ⟨address, args, last, same.symm⟩
  · rintro ⟨address, args, last, rfl⟩
    refine ⟨(address, args.device), OrderedMap.get?_eq_some.mp ?_, rfl⟩
    rw [get?_scanned, last]
    rfl

/-- Different stations have different addresses. -/
theorem distinct_scanned (physical : ∀ args ∈ advertisements, args.bluetoothAddress.toNat < 2 ^ 48) :
    (((scanned advertisements).entries.map Prod.snd).map ScanDevice.address).Nodup := by
  have key (entry : BitVec 64 × ScanDevice) (member : entry ∈ (scanned advertisements).entries) :
      entry.2.address = FormatBluetoothAddress entry.1 ∧ entry.1.toNat < 2 ^ 48 := by
    have found := OrderedMap.get?_eq_some.mpr member
    rw [get?_scanned] at found
    obtain ⟨args, last, same⟩ := Option.map_eq_some_iff.mp found
    obtain ⟨among, here⟩ := lastNamed_spec last
    rw [← same, ← here]
    exact ⟨rfl, physical args among⟩
  rw [List.map_map]
  refine List.Nodup.map_on (fun left atLeft right atRight same => ?_) (List.Nodup.of_map _ (scanned advertisements).distinct)
  have texts : left.2.address = right.2.address := same
  rw [(key left atLeft).1, (key right atRight).1] at texts
  have numbers : left.1 = right.1 := by
    have parsed := parse_format (key left atLeft).2
    rw [texts, parse_format (key right atRight).2] at parsed
    exact (Except.ok.inj parsed).symm
  have first := OrderedMap.get?_eq_some.mpr atLeft
  rw [numbers, OrderedMap.get?_eq_some.mpr atRight] at first
  exact Prod.ext numbers (Option.some.inj first).symm

theorem strongest_first (values : List ScanDevice) :
    (orderByDescending values).Pairwise fun left right => right.rssi.toInt ≤ left.rssi.toInt := by
  have trans (first second third : ScanDevice) (stronger : strongerFirst first second = true)
      (weaker : strongerFirst second third = true) : strongerFirst first third = true := by
    simp only [strongerFirst, decide_eq_true_eq] at *
    omega
  have total (left right : ScanDevice) : (strongerFirst left right || strongerFirst right left) = true := by
    simp only [strongerFirst, Bool.or_eq_true, decide_eq_true_eq]
    omega
  exact (List.pairwise_mergeSort trans total values).imp of_decide_eq_true

/-- What a scan of the client gives for these devices. -/
theorem returned_devices (results : List ScanDevice) (timeoutMs : Int) :
    (ClientRequest.scan timeoutMs).returned (some (Json.ofText (Answer.devices results).payload)) =
      .ok (.devices (results.map fun device => .object [("address", .string device.address),
        ("name", .string device.name), ("rssi", .number (.ofInt device.rssi.toInt))])) := by
  rw [returned_scan, Answer.returned]
  congr 2
  refine List.map_congr_left fun device _ => ?_
  have number : Number.nearest (intNumeral device.rssi.toInt).value = .ofInt device.rssi.toInt := by
    rw [intNumeral_value]
    have low := device.rssi.le_toInt
    have high := device.rssi.toInt_lt
    refine nearest_intCast (abs_lt.mpr ⟨?_, ?_⟩) <;> omega
  change Json.object [_, _, ("rssi", .number (.nearest (intNumeral device.rssi.toInt).value))] = _
  rw [number]
  rfl

/-- Whatever the watcher tells and in whatever order the dictionary has its entries, a scan
of the client gives each station with a name once, as its last advertisement with a name
has it, the strongest signal first; and the address of each can be given to the programs as
it is, and means this station to the helper. -/
theorem discovered_devices_connect (enumerated : values.Perm ((scanned advertisements).entries.map Prod.snd))
    (physical : ∀ args ∈ advertisements, args.bluetoothAddress.toNat < 2 ^ 48) (timeoutMs : Int) :
    let results := orderByDescending values
    (ClientRequest.scan timeoutMs).returned (some (Json.ofText (Answer.devices results).payload)) =
        .ok (.devices (results.map fun device => .object [("address", .string device.address),
          ("name", .string device.name), ("rssi", .number (.ofInt device.rssi.toInt))])) ∧
      (results.Pairwise fun left right => right.rssi.toInt ≤ left.rssi.toInt) ∧ (results.map ScanDevice.address).Nodup ∧
      (∀ device, device ∈ results ↔ ∃ address args, lastNamed advertisements address = some args ∧ device = args.device) ∧
      ∀ device ∈ results, validateBluetoothAddress device.address = .ok device.address ∧
        ∃ address, ParseBluetoothAddress device.address = .ok address ∧
          (lastNamed advertisements address).map Advertisement.device = some device := by
  intro results
  have same : results.Perm ((scanned advertisements).entries.map Prod.snd) :=
    (List.mergeSort_perm _ _).trans enumerated
  have told (device : ScanDevice) :
      device ∈ results ↔ ∃ address args, lastNamed advertisements address = some args ∧ device = args.device :=
    same.mem_iff.trans mem_scanned
  refine ⟨returned_devices results timeoutMs, strongest_first values, ?_, told, fun device member => ?_⟩
  · exact (same.map ScanDevice.address).nodup_iff.mpr (distinct_scanned physical)
  · obtain ⟨address, args, last, rfl⟩ := (told device).mp member
    obtain ⟨among, rfl⟩ := lastNamed_spec last
    refine ⟨validate_format _, _, parse_format (physical args among), ?_⟩
    rw [last]
    rfl

/-- Two stations, of which the nearer one changes its name and a third one has none. -/
theorem discovered_devices_connect_renamed :
    let advertisements := [Advertisement.mk 0x244cab2c248e#64 "AC500" (-80), ⟨0x244cab2c248f#64, "EB3A", -60⟩,
      ⟨0x244cab2c2490#64, " ", -40⟩, ⟨0x244cab2c248f#64, "EB3A2", -50⟩]
    let values := (scanned advertisements).entries.map Prod.snd
    (orderByDescending values).Pairwise (fun left right => right.rssi.toInt ≤ left.rssi.toInt) ∧
      Advertisement.device ⟨0x244cab2c248f#64, "EB3A2", -50⟩ ∈ orderByDescending values := by
  intro advertisements values
  have physical : ∀ args ∈ advertisements, args.bluetoothAddress.toNat < 2 ^ 48 := by
    simp [advertisements]
  obtain ⟨_, ordered, _, told, _⟩ := discovered_devices_connect (List.Perm.refl values) physical 5000
  exact ⟨ordered, (told _).mpr ⟨0x244cab2c248f#64, _, rfl, rfl⟩⟩

end Scans

end Native

end BluettiMqtt
