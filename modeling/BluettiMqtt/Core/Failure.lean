import Mathlib.Data.Rat.Defs

namespace BluettiMqtt

/-- JavaScript numbers. Every number the program encodes or compares is an
integer far below `2 ^ 53` or is refused, so finite values are kept exact. -/
inductive Number
  | finite (value : ℚ)
  | infinite (negative : Bool)
  | notANumber
  deriving DecidableEq

def Number.ofInt (value : Int) : Number :=
  .finite value

/-- `Number.isInteger`, returning the integer. -/
def Number.integer? : Number → Option Int
  | .finite value => if value.den = 1 then some value.num else none
  | .infinite _ => none
  | .notANumber => none

@[simp] theorem Number.integer?_ofInt (value : Int) : (Number.ofInt value).integer? = some value := by
  simp [Number.ofInt, Number.integer?]

/-- `number <= 0`, which is false of `NaN`. -/
def Number.atMostZero : Number → Bool
  | .finite value => value ≤ 0
  | .infinite negative => negative
  | .notANumber => false

/-- A value handed to an encoder: a number, or what an object lookup found on
`Object.prototype`. -/
inductive Operand
  | number (value : Number)
  | inherited (property : String)
  deriving DecidableEq

/-- The reasons with which the program's promises are rejected. A range error
keeps the offending value apart from the text that precedes it in the message;
`value` is a reason that is not an `Error`. -/
inductive Failure
  | error (message : String)
  | rangeError (message : String) (got : Operand)
  | badConnectionError (message : String)
  | commandTimeoutError (message : String)
  | modbusError (message : String) (code : Int)
  | deviceBusyError (message : String) (code : Int)
  | parseError (message : String)
  | value (text : String)
  deriving DecidableEq

/-- What a method that gathers failures is rejected with. -/
inductive Rejection
  | failure (error : Failure)
  | aggregateError (errors : List Failure) (message : String)
  deriving DecidableEq

/-- `error instanceof Error ? error : new Error(String(error))`. -/
def Failure.toError : Failure → Failure
  | .value text => .error text
  | reason => reason

end BluettiMqtt
