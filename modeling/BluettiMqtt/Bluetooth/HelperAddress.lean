import BluettiMqtt.Core.Crc
import BluettiMqtt.Core.Numbers

namespace BluettiMqtt

/-- What the helper throws at an address it cannot parse. -/
inductive HelperException
  | formatException (message : String)
  | overflowException (message : String)
  deriving DecidableEq

/-- `Length` of a string, in UTF-16 code units. -/
def utf16Length (text : List Char) : Nat :=
  (text.map fun c => if c.toNat < 0x10000 then 1 else 2).sum

/-- `Convert.ToUInt64(text, 16)` of a text without a minus sign. Before the
digits there may be a plus sign and a prefix. -/
def convertToUInt64 (text : List Char) : Except HelperException (BitVec 64) :=
  let unsigned :=
    match text with
    | '+' :: rest => rest
    | rest => rest
  let digits :=
    match unsigned with
    | '0' :: 'x' :: rest => rest
    | '0' :: 'X' :: rest => rest
    | rest => rest
  match digitsValue 16 digits with
  | some value =>
    if value < 2 ^ 64 then .ok (BitVec.ofNat 64 value)
    else .error (.overflowException "Value was either too large or too small for a UInt64.")
  | none =>
    if (digits.head?.bind (digitValue 16)).isSome then
      .error (.formatException "Additional non-parsable characters are at the end of the string.")
    else .error (.formatException "Could not find any recognizable digits.")

def ParseBluetoothAddress (address : String) : Except HelperException (BitVec 64) :=
  let normalized := (address.toList.filter (· ≠ ':')).filter (· ≠ '-')
  if utf16Length normalized ≠ 12 then
    .error (.formatException s!"Bluetooth address '{address}' must have 12 hex digits.")
  else convertToUInt64 normalized

/-- `BitConverter.GetBytes`, with the least significant byte first. -/
def getBytes (value : BitVec 64) : List Byte :=
  (List.range 8).map fun index => (value >>> (8 * index)).setWidth 8

def upperHexDigit (digit : Nat) : Char :=
  if digit < 10 then Char.ofNat ('0'.toNat + digit) else Char.ofNat ('A'.toNat + (digit - 10))

/-- `value.ToString("X2")`. -/
def toX2 (value : Byte) : List Char :=
  [upperHexDigit (value.toNat / 16), upperHexDigit (value.toNat % 16)]

def FormatBluetoothAddress (bluetoothAddress : BitVec 64) : String :=
  String.ofList ([':'].intercalate (((getBytes bluetoothAddress).take 6).reverse.map toX2))

end BluettiMqtt
