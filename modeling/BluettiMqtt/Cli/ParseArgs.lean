import BluettiMqtt.Cli.CliConfig

namespace BluettiMqtt

def HELP_TEXT : String :=
  "Usage: bluetti-mqtt-node --broker <mqtt-url> [options] <BLUETOOTH_MAC...>\n" ++
  "       bluetti-mqtt-node --config <path>\n\n" ++
  "Options:\n" ++
  "  --broker <mqtt-url>   MQTT broker URL, for example mqtt://127.0.0.1:1883\n" ++
  "  --config <path>       Read runtime options from a JSON config file\n" ++
  "  --username <value>    MQTT username\n" ++
  "  --password <value>    MQTT password\n" ++
  "  --mqtt-ca <path>      CA certificate PEM file for MQTT TLS\n" ++
  "  --mqtt-cert <path>    Client certificate PEM file for MQTT mutual TLS\n" ++
  "  --mqtt-key <path>     Client private key PEM file for MQTT mutual TLS\n" ++
  "  --mqtt-servername <name>\n" ++
  "                        TLS server name override\n" ++
  "  --mqtt-insecure       Allow unauthorized MQTT TLS server certificates\n" ++
  "  --interval <seconds>  Poll interval in seconds for continuous mode\n" ++
  "  --log-level <level>   debug, info, warn, or error\n" ++
  "  --once                Poll and publish once, then exit\n" ++
  "  -h, --help            Show this help text\n"

/-- The local variables of `parseArgs`. -/
structure CliFlags where
  addresses : List String
  brokerUrl : Option String
  username : Option String
  password : Option String
  tlsCaPath : Option String
  tlsCertPath : Option String
  tlsKeyPath : Option String
  tlsServername : Option String
  tlsRejectUnauthorized : Option Bool
  intervalMs : Number
  runOnce : Bool
  help : Bool
  configPath : Option String
  logLevel : LogLevel
  deriving DecidableEq

def CliFlags.initial : CliFlags where
  addresses := []
  brokerUrl := none
  username := none
  password := none
  tlsCaPath := none
  tlsCertPath := none
  tlsKeyPath := none
  tlsServername := none
  tlsRejectUnauthorized := none
  intervalMs := .finite 0
  runOnce := false
  help := false
  configPath := none
  logLevel := .info

structure MqttTlsOptions where
  ca : Option String
  cert : Option String
  key : Option String
  rejectUnauthorized : Option Bool
  servername : Option String
  deriving DecidableEq

/-- What `parseArgs` returns. -/
structure CliArgs where
  brokerUrl : Option String
  username : Option String
  password : Option String
  tls : Option MqttTlsOptions
  intervalMs : Number
  runOnce : Bool
  addresses : List String
  help : Bool
  logLevel : LogLevel
  deriving DecidableEq

/-- The token that follows a flag, when there is one. -/
def requireValue (value helpText : String) : Except UsageError String :=
  if "--".toList.isPrefixOf value.toList then .error ⟨helpText⟩ else .ok value

/-- The cases of the `switch` that read a value. -/
def CliFlags.setValue (flags : CliFlags) : String → Option (String → Except UsageError CliFlags)
  | "--broker" => some fun value => .ok { flags with brokerUrl := some value }
  | "--config" => some fun value => .ok { flags with configPath := some value }
  | "--username" => some fun value => .ok { flags with username := some value }
  | "--password" => some fun value => .ok { flags with password := some value }
  | "--mqtt-ca" => some fun value => .ok { flags with tlsCaPath := some value }
  | "--mqtt-cert" => some fun value => .ok { flags with tlsCertPath := some value }
  | "--mqtt-key" => some fun value => .ok { flags with tlsKeyPath := some value }
  | "--mqtt-servername" => some fun value => .ok { flags with tlsServername := some value }
  | "--interval" => some fun value => do
    let intervalMs ← parseIntervalSeconds value HELP_TEXT
    return { flags with intervalMs := intervalMs }
  | "--log-level" => some fun value => do
    let logLevel ← parseLogLevel value HELP_TEXT
    return { flags with logLevel := logLevel }
  | _ => none

/-- The other cases of the `switch`. -/
def CliFlags.setToken (flags : CliFlags) (token : String) : Except UsageError CliFlags :=
  if token = "-h" ∨ token = "--help" then .ok { flags with help := true }
  else if token = "--mqtt-insecure" then .ok { flags with tlsRejectUnauthorized := some false }
  else if token = "--once" then .ok { flags with runOnce := true }
  else if token = "" then .ok flags
  else do
    let address ← validateBluetoothAddress token
    return { flags with addresses := flags.addresses ++ [address] }

/-- The loop over the tokens. -/
def CliFlags.readTokens (flags : CliFlags) : List String → Except UsageError CliFlags
  | [] => .ok flags
  | token :: rest =>
    match flags.setValue token with
    | none => do (← flags.setToken token).readTokens rest
    | some set =>
      match rest with
      | [] => .error ⟨HELP_TEXT⟩
      | value :: rest => do
        let value ← requireValue value HELP_TEXT
        (← set value).readTokens rest

/-- `String` of the configured interval reads back as that number. -/
def CliFlags.mergeInterval (flags : CliFlags) (config : CliConfigFile) : Except UsageError Number :=
  if flags.intervalMs.isPositive then .ok flags.intervalMs
  else parseInterval (config.interval.getD (.finite 0)) HELP_TEXT

def CliFlags.mergeAddresses (flags : CliFlags) (config : CliConfigFile) : Except UsageError (List String) :=
  match flags.addresses, config.addresses with
  | [], some addresses => addresses.mapM validateBluetoothAddress
  | addresses, _ => .ok addresses

/-- The statements under `if (configPath !== undefined)`. -/
def CliFlags.merge (flags : CliFlags) (config : CliConfigFile) : Except UsageError CliFlags := do
  let intervalMs ← flags.mergeInterval config
  let addresses ← flags.mergeAddresses config
  return { flags with
    brokerUrl := flags.brokerUrl.or config.broker
    username := flags.username.or config.username
    password := flags.password.or config.password
    tlsCaPath := flags.tlsCaPath.or (config.tls.bind CliMqttTlsConfig.caPath)
    tlsCertPath := flags.tlsCertPath.or (config.tls.bind CliMqttTlsConfig.certPath)
    tlsKeyPath := flags.tlsKeyPath.or (config.tls.bind CliMqttTlsConfig.keyPath)
    tlsServername := flags.tlsServername.or (config.tls.bind CliMqttTlsConfig.servername)
    tlsRejectUnauthorized :=
      flags.tlsRejectUnauthorized.or (config.tls.bind CliMqttTlsConfig.rejectUnauthorized)
    intervalMs := intervalMs
    runOnce := flags.runOnce || config.once = some true
    logLevel := if flags.logLevel ≠ .info then flags.logLevel else config.logLevel.getD .info
    addresses := addresses }

/-- The text of a file, by its path; `none` when it cannot be read. -/
def readTlsFile (files : String → Option String) (field path : String) : Except UsageError String :=
  match files path with
  | some text => .ok text
  | none => .error ⟨s!"Failed to read MQTT TLS {field} file '{path}'."⟩

def buildMqttTlsOptions (files : String → Option String) (flags : CliFlags) :
    Except UsageError (Option MqttTlsOptions) := do
  let ca ← flags.tlsCaPath.mapM (readTlsFile files "CA")
  let cert ← flags.tlsCertPath.mapM (readTlsFile files "client certificate")
  let key ← flags.tlsKeyPath.mapM (readTlsFile files "client key")
  let tls : MqttTlsOptions :=
    { ca := ca
      cert := cert
      key := key
      rejectUnauthorized := flags.tlsRejectUnauthorized
      servername := flags.tlsServername }
  return if tls = ⟨none, none, none, none, none⟩ then none else some tls

/-- The statement that reads the config file, if one is named. -/
def CliFlags.mergeConfig (flags : CliFlags) (configs : String → ConfigSource) : Except UsageError CliFlags :=
  match flags.configPath with
  | some path => do
    let config ← readConfigFile path (configs path)
    flags.merge config
  | none => .ok flags

/-- The object that `parseArgs` returns. -/
def CliFlags.result (flags : CliFlags) (tls : Option MqttTlsOptions) : CliArgs where
  brokerUrl := flags.brokerUrl
  username := flags.username
  password := flags.password
  tls := tls
  intervalMs := flags.intervalMs
  runOnce := flags.runOnce
  addresses := flags.addresses
  help := flags.help
  logLevel := flags.logLevel

/-- `parseArgs`, with the config files and the TLS files by their paths. -/
def parseArgs (configs : String → ConfigSource) (files : String → Option String) (argv : List String) :
    Except UsageError CliArgs := do
  let flags ← CliFlags.initial.readTokens argv
  let merged ← flags.mergeConfig configs
  let tls ← buildMqttTlsOptions files merged
  return merged.result tls

end BluettiMqtt
