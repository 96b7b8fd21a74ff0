import BluettiMqtt.Cli.ParseArgs

namespace BluettiMqtt

/-- What one token or one pair of tokens of the command line says. -/
inductive CliOption
  | broker (url : String)
  | config (path : String)
  | username (value : String)
  | password (value : String)
  | ca (path : String)
  | cert (path : String)
  | key (path : String)
  | servername (name : String)
  | insecure
  | interval (ms : Number)
  | logLevel (level : LogLevel)
  | once
  | help
  | address (value : String)
  deriving DecidableEq

namespace CliOption

/-- The options that come with a value. -/
def valued : String → Option (String → Except UsageError CliOption)
  | "--broker" => some fun value => .ok (.broker value)
  | "--config" => some fun value => .ok (.config value)
  | "--username" => some fun value => .ok (.username value)
  | "--password" => some fun value => .ok (.password value)
  | "--mqtt-ca" => some fun value => .ok (.ca value)
  | "--mqtt-cert" => some fun value => .ok (.cert value)
  | "--mqtt-key" => some fun value => .ok (.key value)
  | "--mqtt-servername" => some fun value => .ok (.servername value)
  | "--interval" => some fun value => interval <$> parseIntervalSeconds value HELP_TEXT
  | "--log-level" => some fun value => logLevel <$> parseLogLevel value HELP_TEXT
  | _ => none

/-- A token by itself; an empty one says nothing. -/
def single (token : String) : Except UsageError (List CliOption) :=
  if token = "-h" ∨ token = "--help" then .ok [.help]
  else if token = "--mqtt-insecure" then .ok [.insecure]
  else if token = "--once" then .ok [.once]
  else if token = "" then .ok []
  else (fun valid => [address valid]) <$> validateBluetoothAddress token

/-- The command line as the list of the options it gives, in their order. -/
def commandLine : List String → Except UsageError (List CliOption)
  | [] => .ok []
  | token :: rest =>
    match valued token with
    | none => do
      let options ← single token
      return options ++ (← commandLine rest)
    | some read =>
      match rest with
      | [] => .error ⟨HELP_TEXT⟩
      | value :: rest => do
        let value ← requireValue value HELP_TEXT
        let option ← read value
        return option :: (← commandLine rest)

def broker? : CliOption → Option String
  | .broker url => some url
  | _ => none

def config? : CliOption → Option String
  | .config path => some path
  | _ => none

def username? : CliOption → Option String
  | .username value => some value
  | _ => none

def password? : CliOption → Option String
  | .password value => some value
  | _ => none

def ca? : CliOption → Option String
  | .ca path => some path
  | _ => none

def cert? : CliOption → Option String
  | .cert path => some path
  | _ => none

def key? : CliOption → Option String
  | .key path => some path
  | _ => none

def servername? : CliOption → Option String
  | .servername name => some name
  | _ => none

/-- `--mqtt-insecure` says that certificates are not rejected. -/
def rejectUnauthorized? : CliOption → Option Bool
  | .insecure => some false
  | _ => none

def interval? : CliOption → Option Number
  | .interval ms => some ms
  | _ => none

def logLevel? : CliOption → Option LogLevel
  | .logLevel level => some level
  | _ => none

def once? : CliOption → Option Bool
  | .once => some true
  | _ => none

def address? : CliOption → Option String
  | .address value => some value
  | _ => none

end CliOption

/-- The value that the options give, the last one of several. -/
def given {α : Type} (select : CliOption → Option α) (options : List CliOption) : Option α :=
  (options.filterMap select).getLast?

/-- The addresses that the options give, when there are some. -/
def givenAddresses (options : List CliOption) : Option (List String) :=
  match options.filterMap CliOption.address? with
  | [] => none
  | addresses => some addresses

/-- The config file that the command line names; without one nothing is configured. -/
def configured (configs : String → ConfigSource) (options : List CliOption) : CliConfigFile :=
  ((given CliOption.config? options).bind fun path => (readConfigFile path (configs path)).toOption).getD
    ⟨none, none, none, none, none, none, none, none⟩

/-- One option in two runs. What the command line gives is the value in both;
otherwise each run has what its config file has. -/
def Precedence {α : Type} (given first second : Option α) (firstResult secondResult : α) : Prop :=
  match given with
  | some value => firstResult = value ∧ secondResult = value
  | none => (∀ value ∈ first, firstResult = value) ∧ ∀ value ∈ second, secondResult = value

/-- All options in two runs with the same command line. The value of a TLS file
option is the text of that file, and configured addresses are normalized. -/
structure FlagsWin (files : String → Option String) (options : List CliOption) (first second : CliConfigFile)
    (firstArgs secondArgs : CliArgs) : Prop where
  broker : Precedence ((given CliOption.broker? options).map some) (first.broker.map some)
    (second.broker.map some) firstArgs.brokerUrl secondArgs.brokerUrl
  username : Precedence ((given CliOption.username? options).map some) (first.username.map some)
    (second.username.map some) firstArgs.username secondArgs.username
  password : Precedence ((given CliOption.password? options).map some) (first.password.map some)
    (second.password.map some) firstArgs.password secondArgs.password
  ca : Precedence ((given CliOption.ca? options).map files)
    ((first.tls.bind CliMqttTlsConfig.caPath).map files) ((second.tls.bind CliMqttTlsConfig.caPath).map files)
    (firstArgs.tls.bind MqttTlsOptions.ca) (secondArgs.tls.bind MqttTlsOptions.ca)
  cert : Precedence ((given CliOption.cert? options).map files)
    ((first.tls.bind CliMqttTlsConfig.certPath).map files) ((second.tls.bind CliMqttTlsConfig.certPath).map files)
    (firstArgs.tls.bind MqttTlsOptions.cert) (secondArgs.tls.bind MqttTlsOptions.cert)
  key : Precedence ((given CliOption.key? options).map files)
    ((first.tls.bind CliMqttTlsConfig.keyPath).map files) ((second.tls.bind CliMqttTlsConfig.keyPath).map files)
    (firstArgs.tls.bind MqttTlsOptions.key) (secondArgs.tls.bind MqttTlsOptions.key)
  servername : Precedence ((given CliOption.servername? options).map some)
    ((first.tls.bind CliMqttTlsConfig.servername).map some)
    ((second.tls.bind CliMqttTlsConfig.servername).map some)
    (firstArgs.tls.bind MqttTlsOptions.servername) (secondArgs.tls.bind MqttTlsOptions.servername)
  insecure : Precedence ((given CliOption.rejectUnauthorized? options).map some)
    ((first.tls.bind CliMqttTlsConfig.rejectUnauthorized).map some)
    ((second.tls.bind CliMqttTlsConfig.rejectUnauthorized).map some)
    (firstArgs.tls.bind MqttTlsOptions.rejectUnauthorized)
    (secondArgs.tls.bind MqttTlsOptions.rejectUnauthorized)
  interval : Precedence (given CliOption.interval? options) (first.interval.map milliseconds)
    (second.interval.map milliseconds) firstArgs.intervalMs secondArgs.intervalMs
  logLevel : Precedence (given CliOption.logLevel? options) first.logLevel second.logLevel
    firstArgs.logLevel secondArgs.logLevel
  once : Precedence (given CliOption.once? options) first.once second.once firstArgs.runOnce secondArgs.runOnce
  addresses : Precedence ((givenAddresses options).map Except.ok)
    (first.addresses.map fun addresses => addresses.mapM validateBluetoothAddress)
    (second.addresses.map fun addresses => addresses.mapM validateBluetoothAddress)
    (.ok firstArgs.addresses) (.ok secondArgs.addresses)

/-- The flags of a command line override any two valid config files. -/
def OverridesConfig (files : String → Option String) (argv : List String) : Prop :=
  ∀ options, CliOption.commandLine argv = .ok options → ∀ first second firstArgs secondArgs,
    parseArgs first files argv = .ok firstArgs → parseArgs second files argv = .ok secondArgs →
    FlagsWin files options (configured first options) (configured second options) firstArgs secondArgs

variable {α : Type} {options : List CliOption} {flags : CliFlags}

/-- What one option does to the local variables. -/
def CliFlags.set (flags : CliFlags) : CliOption → CliFlags
  | .broker url => { flags with brokerUrl := some url }
  | .config path => { flags with configPath := some path }
  | .username value => { flags with username := some value }
  | .password value => { flags with password := some value }
  | .ca path => { flags with tlsCaPath := some path }
  | .cert path => { flags with tlsCertPath := some path }
  | .key path => { flags with tlsKeyPath := some path }
  | .servername name => { flags with tlsServername := some name }
  | .insecure => { flags with tlsRejectUnauthorized := some false }
  | .interval ms => { flags with intervalMs := ms }
  | .logLevel level => { flags with logLevel := level }
  | .once => { flags with runOnce := true }
  | .help => { flags with help := true }
  | .address value => { flags with addresses := flags.addresses ++ [value] }

theorem setValue_eq (flags : CliFlags) (token : String) :
    flags.setValue token = (CliOption.valued token).map fun read value => flags.set <$> read value := by
  unfold CliFlags.setValue CliOption.valued
  split <;> simp only [Option.map_some, Option.map_none, Option.some.injEq] <;> funext value
  case h_9 => cases parseIntervalSeconds value HELP_TEXT <;> rfl
  case h_10 => cases parseLogLevel value HELP_TEXT <;> rfl
  all_goals rfl

theorem setToken_eq (flags : CliFlags) (token : String) :
    flags.setToken token = (fun options => options.foldl CliFlags.set flags) <$> CliOption.single token := by
  unfold CliFlags.setToken CliOption.single
  generalize validateBluetoothAddress token = outcome
  split_ifs
  case neg => cases outcome <;> rfl
  all_goals rfl

/-- The loop applies the options of the command line one by one. -/
theorem readTokens_eq (argv : List String) (flags : CliFlags) :
    flags.readTokens argv = (fun options => options.foldl CliFlags.set flags) <$> CliOption.commandLine argv := by
  induction argv using CliOption.commandLine.induct generalizing flags with
  | case1 => rfl
  | case2 token rest single ih =>
    rw [CliFlags.readTokens, setValue_eq, single, CliOption.commandLine, single]
    simp only [Option.map_none, setToken_eq]
    cases CliOption.single token with
    | error error => rfl
    | ok options =>
      have later := ih (options.foldl CliFlags.set flags)
      change (options.foldl CliFlags.set flags).readTokens rest = _
      rw [later]
      cases CliOption.commandLine rest with
      | error error => rfl
      | ok others => simp [Functor.map, Except.map, bind, Except.bind, pure, Except.pure, List.foldl_append]
  | case3 token read valued =>
    rw [CliFlags.readTokens, setValue_eq, valued, CliOption.commandLine, valued]
    rfl
  | case4 token read valued value rest ih =>
    rw [CliFlags.readTokens, setValue_eq, valued, CliOption.commandLine, valued]
    simp only [Option.map_some]
    cases requireValue value HELP_TEXT with
    | error error => rfl
    | ok value =>
      change (do (← flags.set <$> read value).readTokens rest) = (fun options => options.foldl CliFlags.set flags)
        <$> (do let option ← read value; return option :: (← CliOption.commandLine rest))
      cases read value with
      | error error => rfl
      | ok option =>
        change (flags.set option).readTokens rest = (fun options => options.foldl CliFlags.set flags)
          <$> (do return option :: (← CliOption.commandLine rest))
        rw [ih]
        cases CliOption.commandLine rest <;> rfl

/-- What a loop over the options leaves in a variable that each of them sets or
leaves alone. -/
theorem foldl_set (field : CliFlags → Option α) (select : CliOption → Option α)
    (sets : ∀ flags option, field (flags.set option) = (select option).or (field flags))
    (options : List CliOption) (flags : CliFlags) :
    field (options.foldl CliFlags.set flags) = (given select options).or (field flags) := by
  induction options generalizing flags with
  | nil => rfl
  | cons option rest ih =>
    rw [List.foldl_cons, ih, sets]
    cases chosen : select option with
    | none => simp [given, chosen]
    | some value =>
      cases later : given select rest <;> simp_all [given, List.getLast?_cons]

theorem foldl_set_addresses (options : List CliOption) (flags : CliFlags) :
    (options.foldl CliFlags.set flags).addresses =
      flags.addresses ++ options.filterMap CliOption.address? := by
  induction options generalizing flags with
  | nil => simp
  | cons option rest ih =>
    have set : (flags.set option).addresses = flags.addresses ++ (CliOption.address? option).toList := by
      cases option <;> simp [CliFlags.set, CliOption.address?]
    rw [List.foldl_cons, ih, set, List.filterMap_cons]
    cases CliOption.address? option <;> simp

theorem valued_interval {token value : String} {read : String → Except UsageError CliOption} {ms : Number}
    (valued : CliOption.valued token = some read) (run : read value = .ok (.interval ms)) :
    parseIntervalSeconds value HELP_TEXT = .ok ms := by
  unfold CliOption.valued at valued
  split at valued <;> cases valued
  all_goals simp only at run
  case h_9 =>
    cases parsed : parseIntervalSeconds value HELP_TEXT <;> rw [parsed] at run <;> cases run
    rfl
  case h_10 => cases parsed : parseLogLevel value HELP_TEXT <;> rw [parsed] at run <;> cases run
  all_goals cases run

theorem single_interval {token : String} {ms : Number} (run : CliOption.single token = .ok options) :
    CliOption.interval ms ∉ options := by
  unfold CliOption.single at run
  generalize validateBluetoothAddress token = outcome at run
  split_ifs at run
  case neg =>
    cases outcome <;> cases run
    simp
  all_goals
    cases run
    simp

/-- An interval on the command line is an accepted one. -/
theorem commandLine_interval {argv : List String} {ms : Number}
    (line : CliOption.commandLine argv = .ok options) (member : CliOption.interval ms ∈ options) :
    ∃ n : ℕ, n ≤ 2147483647 ∧ ms = .finite n := by
  induction argv using CliOption.commandLine.induct generalizing options with
  | case1 =>
    cases line
    cases member
  | case2 token rest single ih =>
    rw [CliOption.commandLine, single] at line
    cases first : CliOption.single token with
    | error error =>
      rw [first] at line
      cases line
    | ok options =>
      cases later : CliOption.commandLine rest <;> rw [first, later] at line <;> cases line
      rcases List.mem_append.mp member with here | there
      · exact absurd here (single_interval first)
      · exact ih later there
  | case3 token read valued =>
    rw [CliOption.commandLine, valued] at line
    cases line
  | case4 token read valued value rest ih =>
    rw [CliOption.commandLine, valued] at line
    simp only [bind, Except.bind] at line
    cases required : requireValue value HELP_TEXT with
    | error error =>
      rw [required] at line
      cases line
    | ok value =>
      rw [required] at line
      cases chosen : read value with
      | error error =>
        simp only [chosen] at line
        cases line
      | ok option =>
        simp only [chosen] at line
        cases later : CliOption.commandLine rest <;> rw [later] at line <;> cases line
        rcases List.mem_cons.mp member with rfl | there
        · exact parseInterval_ok (valued_interval valued chosen)
        · exact ih later there

theorem given_mem {select : CliOption → Option α} {value : α} (gives : given select options = some value) :
    ∃ option ∈ options, select option = some value :=
  List.mem_filterMap.mp (List.mem_of_getLast? gives)

/-- What the local variables hold once the config file has been merged. An
interval of zero and the level `info` are what they hold without any option. -/
structure Merged (options : List CliOption) (config : CliConfigFile) (merged : CliFlags) : Prop where
  broker : merged.brokerUrl = (given CliOption.broker? options).or config.broker
  username : merged.username = (given CliOption.username? options).or config.username
  password : merged.password = (given CliOption.password? options).or config.password
  ca : merged.tlsCaPath = (given CliOption.ca? options).or (config.tls.bind CliMqttTlsConfig.caPath)
  cert : merged.tlsCertPath = (given CliOption.cert? options).or (config.tls.bind CliMqttTlsConfig.certPath)
  key : merged.tlsKeyPath = (given CliOption.key? options).or (config.tls.bind CliMqttTlsConfig.keyPath)
  servername : merged.tlsServername =
    (given CliOption.servername? options).or (config.tls.bind CliMqttTlsConfig.servername)
  insecure : merged.tlsRejectUnauthorized =
    (given CliOption.rejectUnauthorized? options).or (config.tls.bind CliMqttTlsConfig.rejectUnauthorized)
  interval : given CliOption.config? options = none ∨ given CliOption.interval? options ≠ some (.finite 0) →
    merged.intervalMs =
      ((given CliOption.interval? options).or (config.interval.map milliseconds)).getD (.finite 0)
  logLevel : given CliOption.config? options = none ∨ given CliOption.logLevel? options ≠ some .info →
    merged.logLevel = ((given CliOption.logLevel? options).or config.logLevel).getD .info
  once : merged.runOnce = ((given CliOption.once? options).or config.once).getD false
  addresses : Except.ok merged.addresses = (((givenAddresses options).map Except.ok).or
    (config.addresses.map fun addresses => addresses.mapM validateBluetoothAddress)).getD (.ok [])

/-- The local variables after the loop over the tokens. -/
def flagsOf (options : List CliOption) : CliFlags :=
  options.foldl CliFlags.set .initial

theorem flagsOf_field (options : List CliOption) (field : CliFlags → Option α) (select : CliOption → Option α)
    (sets : ∀ flags option, field (flags.set option) = (select option).or (field flags)) :
    field (flagsOf options) = (given select options).or (field .initial) :=
  foldl_set field select sets options .initial

theorem flagsOf_getD (options : List CliOption) (field : CliFlags → α) (select : CliOption → Option α)
    (sets : ∀ flags option, field (flags.set option) = (select option).getD (field flags)) :
    field (flagsOf options) = (given select options).getD (field .initial) := by
  have field := flagsOf_field options (fun flags => some (field flags)) select fun flags option => by
    rw [sets]
    cases select option <;> rfl
  cases chosen : given select options <;> rw [chosen] at field <;> exact Option.some.inj field

theorem flagsOf_addresses : (flagsOf options).addresses = options.filterMap CliOption.address? := by
  rw [flagsOf, foldl_set_addresses]
  rfl

theorem flagsOf_configPath : (flagsOf options).configPath = given CliOption.config? options := by
  rw [flagsOf_field options CliFlags.configPath CliOption.config? fun flags option => by cases option <;> rfl]
  exact Option.or_none

theorem flagsOf_interval :
    (flagsOf options).intervalMs = (given CliOption.interval? options).getD (.finite 0) :=
  flagsOf_getD options CliFlags.intervalMs CliOption.interval? fun flags option => by cases option <;> rfl

theorem flagsOf_logLevel : (flagsOf options).logLevel = (given CliOption.logLevel? options).getD .info :=
  flagsOf_getD options CliFlags.logLevel CliOption.logLevel? fun flags option => by cases option <;> rfl

theorem flagsOf_runOnce : (flagsOf options).runOnce = (given CliOption.once? options).getD false :=
  flagsOf_getD options CliFlags.runOnce CliOption.once? fun flags option => by cases option <;> rfl

/-- Without a config file the local variables stay as they are. -/
theorem Merged.of_flags (unnamed : given CliOption.config? options = none) (configs : String → ConfigSource) :
    Merged options (configured configs options) (flagsOf options) := by
  have field (field : CliFlags → Option String) (select : CliOption → Option String)
      (sets : ∀ flags option, field (flags.set option) = (select option).or (field flags))
      (initial : field .initial = none) : field (flagsOf options) = (given select options).or none := by
    rw [flagsOf_field options field select sets, initial]
  rw [configured, unnamed]
  exact
    { broker := field _ _ (fun flags option => by cases option <;> rfl) rfl
      username := field _ _ (fun flags option => by cases option <;> rfl) rfl
      password := field _ _ (fun flags option => by cases option <;> rfl) rfl
      ca := field _ _ (fun flags option => by cases option <;> rfl) rfl
      cert := field _ _ (fun flags option => by cases option <;> rfl) rfl
      key := field _ _ (fun flags option => by cases option <;> rfl) rfl
      servername := field _ _ (fun flags option => by cases option <;> rfl) rfl
      insecure := flagsOf_field options _ _ fun flags option => by cases option <;> rfl
      interval := fun _ => by simp [flagsOf_interval]
      logLevel := fun _ => by simp [flagsOf_logLevel]
      once := by simp [flagsOf_runOnce]
      addresses := by
        rw [flagsOf_addresses, givenAddresses]
        cases options.filterMap CliOption.address? <;> rfl }

theorem merge_ok {config : CliConfigFile} {merged : CliFlags} (run : flags.merge config = .ok merged) :
    ∃ intervalMs addresses, flags.mergeInterval config = .ok intervalMs ∧
      flags.mergeAddresses config = .ok addresses ∧ merged =
        { flags with
          brokerUrl := flags.brokerUrl.or config.broker
          username := flags.username.or config.username
          password := flags.password.or config.password
          tlsCaPath := flags.tlsCaPath.or (config.tls.bind CliMqttTlsConfig.caPath)
          tlsCertPath := flags.tlsCertPath.or (config.tls.bind CliMqttTlsConfig.certPath)
          tlsKeyPath := flags.tlsKeyPath.or (config.tls.bind CliMqttTlsConfig.keyPath)
          tlsServername := flags.tlsServername.or (config.tls.bind CliMqttTlsConfig.servername)
          tlsRejectUnauthorized :=
            flags.tlsRejectUnauthorized.or (config.tls.bind CliMqttTlsConfig.rejectUnauthorized)
          intervalMs := intervalMs
          runOnce := flags.runOnce || config.once = some true
          logLevel := if flags.logLevel ≠ .info then flags.logLevel else config.logLevel.getD .info
          addresses := addresses } := by
  unfold CliFlags.merge at run
  cases interval : flags.mergeInterval config with
  | error error =>
    rw [interval] at run
    cases run
  | ok intervalMs =>
    cases listed : flags.mergeAddresses config with
    | error error =>
      rw [interval, listed] at run
      cases run
    | ok addresses =>
      rw [interval, listed] at run
      cases run
      exact ⟨intervalMs, addresses, rfl, rfl, rfl⟩

theorem mergeInterval_eq {config : CliConfigFile} {intervalMs : Number}
    (accepted : ∀ ms, given CliOption.interval? options = some ms → ∃ n : ℕ, ms = .finite n)
    (run : (flagsOf options).mergeInterval config = .ok intervalMs)
    (nonzero : given CliOption.interval? options ≠ some (.finite 0)) :
    intervalMs = ((given CliOption.interval? options).or (config.interval.map milliseconds)).getD (.finite 0) := by
  rw [CliFlags.mergeInterval, flagsOf_interval] at run
  cases chosen : given CliOption.interval? options with
  | some ms =>
    obtain ⟨n, rfl⟩ := accepted ms chosen
    rw [chosen] at run nonzero
    have positive : (Number.finite n).isPositive = true := by
      have apart : n ≠ 0 := by
        rintro rfl
        exact nonzero (by simp)
      simpa [Number.isPositive] using Nat.pos_of_ne_zero apart
    rw [Option.getD_some, if_pos positive] at run
    cases run
    rfl
  | none =>
    rw [chosen, Option.getD_none, if_neg (by decide), parseInterval] at run
    split at run <;> cases run
    cases config.interval with
    | some seconds => rfl
    | none => decide +kernel

theorem mergeAddresses_eq {config : CliConfigFile} {addresses : List String}
    (run : (flagsOf options).mergeAddresses config = .ok addresses) :
    Except.ok addresses = (((givenAddresses options).map Except.ok).or
      (config.addresses.map fun addresses => addresses.mapM validateBluetoothAddress)).getD (.ok []) := by
  rw [CliFlags.mergeAddresses, flagsOf_addresses] at run
  rw [givenAddresses]
  cases given : options.filterMap CliOption.address? with
  | nil =>
    rw [given] at run
    cases configured : config.addresses <;> rw [configured] at run
    · exact run.symm
    · exact run.symm
  | cons address rest =>
    rw [given] at run
    exact run.symm

/-- What the variables hold after the statements that merge the config file. -/
theorem Merged.of_merge {configs : String → ConfigSource} {path : String} {config : CliConfigFile}
    {merged : CliFlags}
    (accepted : ∀ ms, given CliOption.interval? options = some ms → ∃ n : ℕ, ms = .finite n)
    (named : given CliOption.config? options = some path) (read : readConfigFile path (configs path) = .ok config)
    (run : (flagsOf options).merge config = .ok merged) : Merged options (configured configs options) merged := by
  have same : configured configs options = config := by
    simp [configured, named, read, Except.toOption]
  obtain ⟨intervalMs, addresses, interval, listed, rfl⟩ := merge_ok run
  have field (field : CliFlags → Option String) (select : CliOption → Option String)
      (sets : ∀ flags option, field (flags.set option) = (select option).or (field flags))
      (initial : field .initial = none) (other : Option String) :
      (field (flagsOf options)).or other = (given select options).or other := by
    rw [flagsOf_field options field select sets, initial, Option.or_none]
  rw [same]
  exact
    { broker := field _ _ (fun flags option => by cases option <;> rfl) rfl _
      username := field _ _ (fun flags option => by cases option <;> rfl) rfl _
      password := field _ _ (fun flags option => by cases option <;> rfl) rfl _
      ca := field _ _ (fun flags option => by cases option <;> rfl) rfl _
      cert := field _ _ (fun flags option => by cases option <;> rfl) rfl _
      key := field _ _ (fun flags option => by cases option <;> rfl) rfl _
      servername := field _ _ (fun flags option => by cases option <;> rfl) rfl _
      insecure := by
        rw [flagsOf_field options CliFlags.tlsRejectUnauthorized CliOption.rejectUnauthorized?
          fun flags option => by cases option <;> rfl]
        exact congrArg (Option.or · _) Option.or_none
      interval := fun condition => by
        refine mergeInterval_eq accepted interval (condition.resolve_left ?_)
        rw [named]
        exact Option.some_ne_none path
      logLevel := fun condition => by
        have unmarked := condition.resolve_left (by rw [named]; exact Option.some_ne_none path)
        simp only [flagsOf_logLevel]
        cases chosen : given CliOption.logLevel? options with
        | none => simp
        | some level =>
          rw [chosen] at unmarked
          have apart : level ≠ .info := fun same => unmarked (congrArg some same)
          simp [apart]
      once := by
        simp only [flagsOf_runOnce]
        cases chosen : given CliOption.once? options with
        | none => cases config.once with | none => rfl | some once => cases once <;> rfl
        | some once =>
          obtain ⟨option, _, value⟩ := given_mem chosen
          cases option <;> cases value
          rfl
      addresses := mergeAddresses_eq listed }

section Files

variable {files : String → Option String} {tls : Option MqttTlsOptions} {configs : String → ConfigSource}
  {argv : List String} {args : CliArgs}

theorem readTlsFile_ok {field : String} {path text : Option String}
    (run : path.mapM (readTlsFile files field) = .ok text) :
    text = path.bind files ∧ ∀ name ∈ path, (files name).isSome = true := by
  cases path with
  | none =>
    cases run
    exact ⟨rfl, nofun⟩
  | some name =>
    simp only [Option.mapM_some, readTlsFile] at run
    cases found : files name with
    | none =>
      rw [found] at run
      cases run
    | some content =>
      rw [found] at run
      cases run
      exact ⟨found.symm, fun other same => by cases same; rw [found]; rfl⟩

/-- The TLS options hold the texts of the files, and all files could be read. -/
theorem buildMqttTlsOptions_ok (run : buildMqttTlsOptions files flags = .ok tls) :
    tls.bind MqttTlsOptions.ca = flags.tlsCaPath.bind files ∧
      tls.bind MqttTlsOptions.cert = flags.tlsCertPath.bind files ∧
      tls.bind MqttTlsOptions.key = flags.tlsKeyPath.bind files ∧
      tls.bind MqttTlsOptions.rejectUnauthorized = flags.tlsRejectUnauthorized ∧
      tls.bind MqttTlsOptions.servername = flags.tlsServername ∧
      (∀ path ∈ flags.tlsCaPath, (files path).isSome = true) ∧
      (∀ path ∈ flags.tlsCertPath, (files path).isSome = true) ∧
      ∀ path ∈ flags.tlsKeyPath, (files path).isSome = true := by
  unfold buildMqttTlsOptions at run
  cases first : flags.tlsCaPath.mapM (readTlsFile files "CA") with
  | error error => rw [first] at run; cases run
  | ok ca =>
    cases second : flags.tlsCertPath.mapM (readTlsFile files "client certificate") with
    | error error => rw [first, second] at run; cases run
    | ok cert =>
      cases third : flags.tlsKeyPath.mapM (readTlsFile files "client key") with
      | error error => rw [first, second, third] at run; cases run
      | ok key =>
        rw [first, second, third] at run
        obtain ⟨caText, caRead⟩ := readTlsFile_ok first
        obtain ⟨certText, certRead⟩ := readTlsFile_ok second
        obtain ⟨keyText, keyRead⟩ := readTlsFile_ok third
        rw [← caText, ← certText, ← keyText]
        simp only [bind, Except.bind, pure, Except.pure, Except.ok.injEq] at run
        split at run
        · rename_i empty
          simp only [MqttTlsOptions.mk.injEq] at empty
          obtain ⟨noCa, noCert, noKey, noReject, noName⟩ := empty
          subst run
          exact ⟨noCa.symm, noCert.symm, noKey.symm, noReject.symm, noName.symm, caRead, certRead, keyRead⟩
        · subst run
          exact ⟨rfl, rfl, rfl, rfl, rfl, caRead, certRead, keyRead⟩

theorem buildMqttTlsOptions_of_read (caRead : ∀ path ∈ flags.tlsCaPath, (files path).isSome = true)
    (certRead : ∀ path ∈ flags.tlsCertPath, (files path).isSome = true)
    (keyRead : ∀ path ∈ flags.tlsKeyPath, (files path).isSome = true) :
    ∃ tls, buildMqttTlsOptions files flags = .ok tls := by
  have read (field : String) (path : Option String) (readable : ∀ name ∈ path, (files name).isSome = true) :
      path.mapM (readTlsFile files field) = .ok (path.bind files) := by
    cases path with
    | none => rfl
    | some name =>
      obtain ⟨text, found⟩ := Option.isSome_iff_exists.mp (readable name rfl)
      simp [Option.mapM_some, readTlsFile, found, Functor.map, Except.map]
  rw [buildMqttTlsOptions, read _ _ caRead, read _ _ certRead, read _ _ keyRead]
  exact ⟨_, rfl⟩

theorem parseArgs_eq (line : CliOption.commandLine argv = .ok options) :
    parseArgs configs files argv = (do
      let merged ← (flagsOf options).mergeConfig configs
      let tls ← buildMqttTlsOptions files merged
      return merged.result tls) := by
  rw [parseArgs, readTokens_eq, line]
  rfl

theorem parseArgs_ok (line : CliOption.commandLine argv = .ok options)
    (run : parseArgs configs files argv = .ok args) :
    ∃ merged tls, (flagsOf options).mergeConfig configs = .ok merged ∧
      buildMqttTlsOptions files merged = .ok tls ∧ args = merged.result tls := by
  rw [parseArgs_eq line] at run
  cases merge : (flagsOf options).mergeConfig configs with
  | error error =>
    rw [merge] at run
    cases run
  | ok merged =>
    cases build : buildMqttTlsOptions files merged with
    | error error =>
      rw [merge] at run
      simp only [bind, Except.bind, build] at run
      cases run
    | ok tls =>
      rw [merge] at run
      simp only [bind, Except.bind, build] at run
      cases run
      exact ⟨merged, tls, rfl, build, rfl⟩

theorem Merged.of_mergeConfig {merged : CliFlags} (line : CliOption.commandLine argv = .ok options)
    (run : (flagsOf options).mergeConfig configs = .ok merged) :
    Merged options (configured configs options) merged := by
  have accepted (ms : Number) (chosen : given CliOption.interval? options = some ms) :
      ∃ n : ℕ, ms = .finite n := by
    obtain ⟨option, member, value⟩ := given_mem chosen
    cases option <;> cases value
    obtain ⟨n, _, same⟩ := commandLine_interval line member
    exact ⟨n, same⟩
  rw [CliFlags.mergeConfig, flagsOf_configPath] at run
  cases named : given CliOption.config? options with
  | none =>
    rw [named] at run
    cases run
    exact .of_flags named configs
  | some path =>
    rw [named] at run
    cases read : readConfigFile path (configs path) with
    | error error =>
      simp only [bind, Except.bind, read] at run
      cases run
    | ok config =>
      simp only [bind, Except.bind, read] at run
      exact .of_merge accepted named read run

end Files

/-- A result that is the option's value, or else that of the config file, or
else a default. -/
theorem Precedence.of_or {given first second : Option α} {unset firstResult secondResult : α}
    (left : firstResult = (given.or first).getD unset) (right : secondResult = (given.or second).getD unset) :
    Precedence given first second firstResult secondResult := by
  subst left right
  cases given with
  | some value => exact ⟨rfl, rfl⟩
  | none => cases first <;> cases second <;> simp [Precedence]

theorem Precedence.of_bind {β : Type} {given first second : Option α} {read : α → Option β}
    {firstResult secondResult : Option β} (left : firstResult = (given.or first).bind read)
    (right : secondResult = (given.or second).bind read) :
    Precedence (given.map read) (first.map read) (second.map read) firstResult secondResult := by
  have mapped (configured : Option α) :
      (given.or configured).bind read = ((given.map read).or (configured.map read)).getD none := by
    cases given <;> cases configured <;> rfl
  exact .of_or (left.trans (mapped first)) (right.trans (mapped second))

theorem Precedence.of_some {given first second firstResult secondResult : Option α}
    (left : firstResult = given.or first) (right : secondResult = given.or second) :
    Precedence (given.map some) (first.map some) (second.map some) firstResult secondResult :=
  .of_bind (left.trans (Option.bind_fun_some _).symm) (right.trans (Option.bind_fun_some _).symm)

/-- The options that the markers of `parseArgs` tell from options not given. -/
def Unmarked (options : List CliOption) : Prop :=
  given CliOption.config? options = none ∨
    given CliOption.interval? options ≠ some (.finite 0) ∧ given CliOption.logLevel? options ≠ some .info

theorem overridesConfig_of_unmarked {files : String → Option String} {argv : List String}
    (line : CliOption.commandLine argv = .ok options) (unmarked : Unmarked options) :
    OverridesConfig files argv := by
  intro others same first second firstArgs secondArgs firstRun secondRun
  cases line.symm.trans same
  obtain ⟨left, leftTls, leftMerge, leftBuild, rfl⟩ := parseArgs_ok line firstRun
  obtain ⟨right, rightTls, rightMerge, rightBuild, rfl⟩ := parseArgs_ok line secondRun
  have one := Merged.of_mergeConfig line leftMerge
  have two := Merged.of_mergeConfig line rightMerge
  obtain ⟨leftCa, leftCert, leftKey, leftReject, leftName, _⟩ := buildMqttTlsOptions_ok leftBuild
  obtain ⟨rightCa, rightCert, rightKey, rightReject, rightName, _⟩ := buildMqttTlsOptions_ok rightBuild
  exact
    { broker := .of_some one.broker two.broker
      username := .of_some one.username two.username
      password := .of_some one.password two.password
      ca := .of_bind (leftCa.trans (congrArg (Option.bind · files) one.ca))
        (rightCa.trans (congrArg (Option.bind · files) two.ca))
      cert := .of_bind (leftCert.trans (congrArg (Option.bind · files) one.cert))
        (rightCert.trans (congrArg (Option.bind · files) two.cert))
      key := .of_bind (leftKey.trans (congrArg (Option.bind · files) one.key))
        (rightKey.trans (congrArg (Option.bind · files) two.key))
      servername := .of_some (leftName.trans one.servername) (rightName.trans two.servername)
      insecure := .of_some (leftReject.trans one.insecure) (rightReject.trans two.insecure)
      interval := .of_or (one.interval (unmarked.imp id And.left)) (two.interval (unmarked.imp id And.left))
      logLevel := .of_or (one.logLevel (unmarked.imp id And.right)) (two.logLevel (unmarked.imp id And.right))
      once := .of_or one.once two.once
      addresses := .of_or one.addresses two.addresses }

/-- A config file with an interval of one second and the level `debug`. -/
def RIVAL_CONFIG : CliConfigFile where
  broker := none
  username := none
  password := none
  tls := none
  interval := some (.finite 1)
  once := none
  addresses := none
  logLevel := some .debug

def RIVAL_SOURCE : ConfigSource :=
  .parsed (.object [("interval", .number (.finite 1)), ("logLevel", .string "debug")])

theorem readConfigFile_rival (path : String) : readConfigFile path RIVAL_SOURCE = .ok RIVAL_CONFIG := by
  have interval : configInterval path (.number (.finite 1)) = .ok (.finite 1) := by
    have valid : isValidIntervalSeconds (.finite 1) = true := by decide +kernel
    rw [configInterval, if_pos valid]
  have property (name : String) : Json.property (.object [("interval", .number (.finite 1)),
      ("logLevel", .string "debug")]) name = [("interval", Json.number (.finite 1)),
      ("logLevel", .string "debug")].lookup name := rfl
  simp only [readConfigFile, RIVAL_SOURCE, parseConfig, property]
  simp [List.lookup_cons, whenDefined, interval, configLogLevel, LogLevel.ofText, bind, Except.bind, Functor.map,
    Except.map, pure, Except.pure, RIVAL_CONFIG]

theorem merge_rival (flags : CliFlags) : ∃ merged, flags.merge RIVAL_CONFIG = .ok merged ∧
    merged.tlsCaPath = flags.tlsCaPath ∧ merged.tlsCertPath = flags.tlsCertPath ∧
    merged.tlsKeyPath = flags.tlsKeyPath ∧
    (flags.intervalMs = .finite 0 → merged.intervalMs = .finite 1000) ∧
    (flags.logLevel = .info → merged.logLevel = .debug) := by
  have second : parseInterval (.finite 1) HELP_TEXT = .ok (.finite 1000) := by decide +kernel
  have interval : ∃ ms, flags.mergeInterval RIVAL_CONFIG = .ok ms ∧
      (flags.intervalMs = .finite 0 → ms = .finite 1000) := by
    unfold CliFlags.mergeInterval
    split
    · rename_i positive
      refine ⟨_, rfl, fun zero => ?_⟩
      rw [zero] at positive
      cases positive
    · exact ⟨.finite 1000, second, fun _ => rfl⟩
  have addresses : flags.mergeAddresses RIVAL_CONFIG = .ok flags.addresses := by
    unfold CliFlags.mergeAddresses
    split
    · rename_i listed
      cases listed
    · rfl
  obtain ⟨ms, run, zero⟩ := interval
  rw [CliFlags.merge, run, addresses]
  exact ⟨_, rfl, Option.or_none, Option.or_none, Option.or_none, zero, fun info => if_neg (not_not.mpr info)⟩

/-- A marked option loses against that file. -/
theorem rival_run {configs : String → ConfigSource} {files : String → Option String} {argv : List String}
    {args : CliArgs} {path : String} (line : CliOption.commandLine argv = .ok options)
    (run : parseArgs configs files argv = .ok args) (named : given CliOption.config? options = some path) :
    ∃ rival, parseArgs (fun _ => RIVAL_SOURCE) files argv = .ok rival ∧
      (given CliOption.interval? options = some (.finite 0) → rival.intervalMs = .finite 1000) ∧
      (given CliOption.logLevel? options = some .info → rival.logLevel = .debug) := by
  obtain ⟨original, tls, merge, build, rfl⟩ := parseArgs_ok line run
  have before := Merged.of_mergeConfig line merge
  obtain ⟨_, _, _, _, _, caRead, certRead, keyRead⟩ := buildMqttTlsOptions_ok build
  obtain ⟨merged, after, ca, cert, key, zero, info⟩ := merge_rival (flagsOf options)
  have readable (given configured original : Option String) (same : original = given.or configured)
      (read : ∀ path ∈ original, (files path).isSome = true) : ∀ path ∈ given, (files path).isSome = true := by
    intro path chosen
    exact read path (by rw [same, chosen]; rfl)
  have caAgain := readable _ _ _ before.ca caRead
  have certAgain := readable _ _ _ before.cert certRead
  have keyAgain := readable _ _ _ before.key keyRead
  have field (field : CliFlags → Option String) (select : CliOption → Option String)
      (sets : ∀ flags option, field (flags.set option) = (select option).or (field flags))
      (initial : field .initial = none) : field (flagsOf options) = given select options := by
    rw [flagsOf_field options field select sets, initial, Option.or_none]
  rw [field CliFlags.tlsCaPath CliOption.ca? (fun flags option => by cases option <;> rfl) rfl] at ca
  rw [field CliFlags.tlsCertPath CliOption.cert? (fun flags option => by cases option <;> rfl) rfl] at cert
  rw [field CliFlags.tlsKeyPath CliOption.key? (fun flags option => by cases option <;> rfl) rfl] at key
  rw [← ca] at caAgain
  rw [← cert] at certAgain
  rw [← key] at keyAgain
  obtain ⟨built, rebuilt⟩ := buildMqttTlsOptions_of_read caAgain certAgain keyAgain
  have merging : (flagsOf options).mergeConfig (fun _ => RIVAL_SOURCE) = .ok merged := by
    rw [CliFlags.mergeConfig, flagsOf_configPath, named]
    simp only [readConfigFile_rival, bind, Except.bind, after]
  refine ⟨merged.result built, ?_, fun given => ?_, fun given => ?_⟩
  · rw [parseArgs_eq line, merging]
    simp only [bind, Except.bind, rebuilt, pure, Except.pure]
  · exact zero (by rw [flagsOf_interval, given]; rfl)
  · exact info (by rw [flagsOf_logLevel, given]; rfl)

/-- The flags of an accepted command line override the config file exactly when
none of them has the value that marks an option as not given: an interval of
zero or the level `info`. -/
theorem flags_override_config_iff {configs : String → ConfigSource} {files : String → Option String}
    {argv : List String} {args : CliArgs} (line : CliOption.commandLine argv = .ok options)
    (accepted : parseArgs configs files argv = .ok args) :
    OverridesConfig files argv ↔
      given CliOption.config? options = none ∨
        given CliOption.interval? options ≠ some (.finite 0) ∧
          given CliOption.logLevel? options ≠ some .info := by
  refine ⟨fun overrides => ?_, overridesConfig_of_unmarked line⟩
  cases named : given CliOption.config? options with
  | none => exact Or.inl rfl
  | some path =>
    obtain ⟨rival, run, interval, logLevel⟩ := rival_run line accepted named
    have wins := overrides options line _ _ _ _ run run
    refine Or.inr ⟨fun zero => ?_, fun info => ?_⟩
    · have kept := wins.interval
      rw [zero] at kept
      exact absurd ((interval zero).symm.trans kept.1) (by decide)
    · have kept := wins.logLevel
      rw [info] at kept
      exact absurd ((logLevel info).symm.trans kept.1) (by decide)

theorem flags_override_config_once :
    OverridesConfig (fun _ => none)
      ["--config", "config.json", "--interval", "30", "--once", "24-4c-ab-2c-24-8e"] := by
  have line : CliOption.commandLine
      ["--config", "config.json", "--interval", "30", "--once", "24-4c-ab-2c-24-8e"] =
        .ok [.config "config.json", .interval (.finite 30000), .once, .address "24:4C:AB:2C:24:8E"] := by
    decide +kernel
  have accepted : parseArgs (fun _ => RIVAL_SOURCE) (fun _ => none)
      ["--config", "config.json", "--interval", "30", "--once", "24-4c-ab-2c-24-8e"] =
        .ok ⟨none, none, none, none, .finite 30000, true, ["24:4C:AB:2C:24:8E"], false, .debug⟩ := by
    decide +kernel
  exact (flags_override_config_iff line accepted).mpr (Or.inr ⟨by decide, by decide⟩)

/-- `--interval 0` and `--log-level info` give way to the config file. -/
theorem explicit_defaults_are_overridden :
    ¬OverridesConfig (fun _ => none) ["--config", "config.json", "--interval", "0"] ∧
      ¬OverridesConfig (fun _ => none) ["--config", "config.json", "--log-level", "info"] := by
  constructor
  · intro overrides
    have line : CliOption.commandLine ["--config", "config.json", "--interval", "0"] =
        .ok [.config "config.json", .interval (.finite 0)] := by
      decide +kernel
    have run : parseArgs (fun _ => RIVAL_SOURCE) (fun _ => none) ["--config", "config.json", "--interval", "0"] =
        .ok ⟨none, none, none, none, .finite 1000, false, [], false, .debug⟩ := by
      decide +kernel
    have kept := (overrides _ line _ _ _ _ run run).interval
    exact absurd kept.1 (by decide)
  · intro overrides
    have line : CliOption.commandLine ["--config", "config.json", "--log-level", "info"] =
        .ok [.config "config.json", .logLevel .info] := by
      decide +kernel
    have run : parseArgs (fun _ => RIVAL_SOURCE) (fun _ => none)
        ["--config", "config.json", "--log-level", "info"] =
          .ok ⟨none, none, none, none, .finite 1000, false, [], false, .debug⟩ := by
      decide +kernel
    have kept := (overrides _ line _ _ _ _ run run).logLevel
    exact absurd kept.1 (by decide)

end BluettiMqtt
