import BluettiMqtt.Cli.Args
import BluettiMqtt.Core.Json
import BluettiMqtt.Core.Numbers

namespace BluettiMqtt

inductive LogLevel
  | debug
  | info
  | warn
  | error
  deriving DecidableEq

/-- What reading a file and `JSON.parse` lead to. -/
inductive ConfigSource
  | unreadable
  | malformed
  | parsed (value : Json)

/-- File-path-oriented TLS settings. -/
structure CliMqttTlsConfig where
  caPath : Option String
  certPath : Option String
  keyPath : Option String
  rejectUnauthorized : Option Bool
  servername : Option String
  deriving DecidableEq

/-- The config file after validation. -/
structure CliConfigFile where
  broker : Option String
  username : Option String
  password : Option String
  tls : Option CliMqttTlsConfig
  interval : Option Number
  once : Option Bool
  addresses : Option (List String)
  logLevel : Option LogLevel
  deriving DecidableEq

def MAX_TIMER_MS : ℚ := 2147483647

/-- `seconds * 1000`. -/
def milliseconds (seconds : Number) : Number :=
  seconds.scale 1000

def isValidIntervalSeconds (seconds : Number) : Bool :=
  match seconds, milliseconds seconds with
  | .finite seconds, .finite ms => 0 ≤ seconds && (Number.finite ms).isSafeInteger && ms ≤ MAX_TIMER_MS
  | _, _ => false

/-- `parseIntervalSeconds` after the conversion to a number. -/
def parseInterval (seconds : Number) (helpText : String) : Except UsageError Number :=
  if isValidIntervalSeconds seconds then .ok (milliseconds seconds) else .error ⟨helpText⟩

def parseIntervalSeconds (rawValue helpText : String) : Except UsageError Number :=
  parseInterval (.ofText rawValue) helpText

/-- An accepted interval is a whole number of milliseconds that a timer can wait. -/
theorem parseInterval_ok {seconds ms : Number} {helpText : String}
    (accepted : parseInterval seconds helpText = .ok ms) :
    ∃ n : ℕ, n ≤ 2147483647 ∧ ms = .finite n := by
  unfold parseInterval at accepted
  split at accepted
  · rename_i valid
    cases accepted
    unfold isValidIntervalSeconds at valid
    split at valid
    · rename_i value ms same
      simp only [Bool.and_eq_true, decide_eq_true_eq] at valid
      obtain ⟨⟨nonneg, safe⟩, bound⟩ := valid
      have positive : 0 ≤ ms := nearest_nonneg (by positivity) same
      have whole : ms.den = 1 := by
        by_contra fraction
        simp [Number.isSafeInteger, Number.integer?, fraction] at safe
      have integer : (ms.num : ℚ) = ms := Rat.coe_int_num_of_den_eq_one whole
      have sign : 0 ≤ ms.num := Rat.num_nonneg.mpr positive
      refine ⟨ms.num.toNat, ?_, ?_⟩
      · have limit : (ms.num : ℚ) ≤ 2147483647 := by rw [integer]; exact bound
        have limit' : ms.num ≤ 2147483647 := by exact_mod_cast limit
        omega
      · rw [same]
        congr 1
        rw [← integer]
        exact_mod_cast (Int.toNat_of_nonneg sign).symm
    · cases valid
  · cases accepted

/-- A level by its name. -/
def LogLevel.ofText : String → Option LogLevel
  | "debug" => some .debug
  | "info" => some .info
  | "warn" => some .warn
  | "error" => some .error
  | _ => none

def parseLogLevel (rawValue helpText : String) : Except UsageError LogLevel :=
  match LogLevel.ofText rawValue with
  | some level => .ok level
  | none => .error ⟨helpText⟩

def invalidConfigValue (path field : String) : UsageError :=
  ⟨s!"Config file '{path}' has an invalid '{field}' value."⟩

def requireConfigString (path field : String) : Json → Except UsageError String
  | .string value => if trim value = "" then .error (invalidConfigValue path field) else .ok value
  | _ => .error (invalidConfigValue path field)

def configBoolean (path field : String) : Json → Except UsageError Bool
  | .boolean value => .ok value
  | _ => .error (invalidConfigValue path field)

def configInterval (path : String) : Json → Except UsageError Number
  | .number value =>
    if isValidIntervalSeconds value then .ok value else .error (invalidConfigValue path "interval")
  | _ => .error (invalidConfigValue path "interval")

def configAddresses (path : String) : Json → Except UsageError (List String)
  | .array values =>
    match values.mapM Json.string? with
    | some addresses => .ok addresses
    | none => .error (invalidConfigValue path "addresses")
  | _ => .error (invalidConfigValue path "addresses")

def configLogLevel (path : String) : Json → Except UsageError LogLevel
  | .string value =>
    match LogLevel.ofText value with
    | some level => .ok level
    | none => .error (invalidConfigValue path "logLevel")
  | _ => .error (invalidConfigValue path "logLevel")

/-- A check that is made when the property is defined. -/
def whenDefined {α : Type} (value : Option Json) (check : Json → Except UsageError α) :
    Except UsageError (Option α) :=
  match value with
  | none => .ok none
  | some value => some <$> check value

def parseTlsConfig (path : String) : Json → Except UsageError CliMqttTlsConfig
  | .object entries => do
    let candidate := Json.object entries
    let caPath ← whenDefined (candidate.property "caPath") (requireConfigString path "tls.caPath")
    let certPath ← whenDefined (candidate.property "certPath") (requireConfigString path "tls.certPath")
    let keyPath ← whenDefined (candidate.property "keyPath") (requireConfigString path "tls.keyPath")
    let rejectUnauthorized ←
      whenDefined (candidate.property "rejectUnauthorized") (configBoolean path "tls.rejectUnauthorized")
    let servername ← whenDefined (candidate.property "servername") (requireConfigString path "tls.servername")
    return { caPath, certPath, keyPath, rejectUnauthorized, servername }
  | _ => .error (invalidConfigValue path "tls")

/-- The checks of `readConfigFile` after `JSON.parse`, in their order. -/
def parseConfig (path : String) (candidate : Json) : Except UsageError CliConfigFile := do
  let broker ← whenDefined (candidate.property "broker") (requireConfigString path "broker")
  let username ← whenDefined (candidate.property "username") (requireConfigString path "username")
  let password ← whenDefined (candidate.property "password") (requireConfigString path "password")
  let tls ← whenDefined (candidate.property "tls") (parseTlsConfig path)
  let interval ← whenDefined (candidate.property "interval") (configInterval path)
  let once ← whenDefined (candidate.property "once") (configBoolean path "once")
  let addresses ← whenDefined (candidate.property "addresses") (configAddresses path)
  let logLevel ← whenDefined (candidate.property "logLevel") (configLogLevel path)
  return { broker, username, password, tls, interval, once, addresses, logLevel }

def readConfigFile (path : String) : ConfigSource → Except UsageError CliConfigFile
  | .unreadable => .error ⟨s!"Failed to read config file '{path}'."⟩
  | .malformed => .error ⟨s!"Config file '{path}' must be valid JSON."⟩
  | .parsed (.object entries) => parseConfig path (.object entries)
  | .parsed (.array values) => parseConfig path (.array values)
  | .parsed _ => .error ⟨s!"Config file '{path}' must contain a JSON object."⟩

end BluettiMqtt
