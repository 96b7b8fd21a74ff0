import BluettiMqtt.Core.Text

namespace BluettiMqtt

/-- An argument or configuration error, which `runCli` prints. -/
structure UsageError where
  message : String
  deriving DecidableEq

/-- `toUpperCase`, as far as its result can belong to an address: outside ASCII
only the ligature of two letters f becomes hexadecimal digits. -/
def upperCase (text : String) : String :=
  String.ofList (text.toList.flatMap fun c => if c = '\uFB00' then ['F', 'F'] else [c.toUpper])

/-- `[0-9A-F]`. -/
def isHexDigit (c : Char) : Bool :=
  c.isDigit || ('A' ≤ c && c ≤ 'F')

/-- Pairs of hexadecimal digits, with the given character between two pairs. -/
def isSeparatedHex (separator : Char) : List Char → Bool
  | [first, second] => isHexDigit first && isHexDigit second
  | first :: second :: between :: rest =>
    isHexDigit first && isHexDigit second && between = separator && isSeparatedHex separator rest
  | _ => false

/-- `/^([0-9A-F]{2}:){5}[0-9A-F]{2}$/`. -/
def MAC_COLON_PATTERN (text : List Char) : Bool :=
  text.length = 17 && isSeparatedHex ':' text

/-- `/^([0-9A-F]{2}-){5}[0-9A-F]{2}$/`. -/
def MAC_HYPHEN_PATTERN (text : List Char) : Bool :=
  text.length = 17 && isSeparatedHex '-' text

/-- `/^[0-9A-F]{12}$/`. -/
def MAC_COMPACT_PATTERN (text : List Char) : Bool :=
  text.length = 12 && text.all isHexDigit

/-- `match(/.{2}/g)` and `join(":")`. -/
def joinPairs : List Char → List Char
  | first :: second :: [] => [first, second]
  | first :: second :: rest => first :: second :: ':' :: joinPairs rest
  | _ => []

def validateBluetoothAddress (address : String) : Except UsageError String :=
  let normalized := (upperCase (trim address)).toList
  if !(MAC_COLON_PATTERN normalized || MAC_HYPHEN_PATTERN normalized || MAC_COMPACT_PATTERN normalized) then
    .error ⟨s!"Invalid Bluetooth address '{address}'. Expected 12 hex digits, for example 24:4C:AB:2C:24:8E."⟩
  else if ':' ∈ normalized then .ok (String.ofList normalized)
  else .ok (String.ofList (joinPairs (normalized.filter (· ≠ '-'))))

example : validateBluetoothAddress " 244cab2c248e" = validateBluetoothAddress "24-4C-AB-2C-24-8E" := by
  decide +kernel

end BluettiMqtt
