import BluettiMqtt.Core.Crc
import Mathlib.Data.Rat.Defs

namespace BluettiMqtt

/-- `Buffer.toString("ascii")`, which drops the high bit of every byte. -/
def asciiText (data : List Byte) : List Char :=
  data.map fun byte => Char.ofNat (byte &&& 0x7f#8).toNat

/-- `\d+` from end to end. -/
def isDigits (text : List Char) : Bool :=
  text ≠ [] && text.all Char.isDigit

/-- A decoded enum value, with its display name and its raw register word. -/
structure DeviceEnumValue where
  name : String
  value : Nat
  deriving DecidableEq

/-- What the register decoders produce. Scaled readings are the exact quotients;
JavaScript has the binary64 numbers next to them. -/
inductive ParsedValue
  | boolean (value : Bool)
  | number (value : ℚ)
  | string (value : String)
  | bigint (value : Nat)
  | numbers (values : List ℚ)
  | enumValue (value : DeviceEnumValue)
  deriving DecidableEq

/-- A half-open range of register addresses. -/
structure WritableRange where
  start : Nat
  endExclusive : Nat
  deriving DecidableEq

def isAddressWritable (address : Nat) (ranges : List WritableRange) : Bool :=
  ranges.any fun range => range.start ≤ address && address < range.endExclusive

end BluettiMqtt
