import BluettiMqtt.Core.Failure
import Mathlib.Data.List.Infix

namespace BluettiMqtt

/-- `toLowerCase`, up to letters that no text searched for contains. -/
def lowered (text : String) : List Char :=
  text.toList.map Char.toLower

def includes (text : List Char) (part : String) : Bool :=
  decide (part.toList <:+: text)

def GATT_UNREACHABLE_TEXT : String := "enumerate GATT services: unreachable"

def GATT_FAILED_UNREACHABLE_TEXT : String := "failed to enumerate GATT services: unreachable"

def UNREACHABLE_ERROR_TEXT : String := "unreachable"

/-- The text the program reads off a rejection reason. The offending value at
the end of a range error's message is left out. -/
def Failure.text : Failure → String
  | .error message => message
  | .rangeError message _ => message
  | .badConnectionError message => message
  | .commandTimeoutError message => message
  | .modbusError message _ => message
  | .deviceBusyError message _ => message
  | .parseError message => message
  | .value text => text

def isRetryableInitializationError (error : Failure) : Bool :=
  let normalized := lowered error.text
  includes normalized GATT_UNREACHABLE_TEXT || includes normalized GATT_FAILED_UNREACHABLE_TEXT ||
    includes normalized UNREACHABLE_ERROR_TEXT

def HELPER_ERROR_COMMAND_FAILED : String := "command_failed"

def DISPOSED_OBJECT_ERROR_TEXT : String := "cannot access a disposed object"

def isRecoverableBluetoothConnectionError (code message : String) : Bool :=
  if code ≠ HELPER_ERROR_COMMAND_FAILED then
    false
  else
    let normalizedMessage := lowered message
    includes normalizedMessage DISPOSED_OBJECT_ERROR_TEXT || includes normalizedMessage UNREACHABLE_ERROR_TEXT

def createHelperError (code message : String) : Failure :=
  let details := s!"{code}: {message}"
  if isRecoverableBluetoothConnectionError code message then .badConnectionError details
  else .error details

end BluettiMqtt
