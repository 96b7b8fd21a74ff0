import BluettiMqtt.Core.Failure

namespace BluettiMqtt

/-- What `JSON.parse` returns. The keys of an object are distinct. -/
inductive Json
  | null
  | boolean (value : Bool)
  | number (value : Number)
  | string (value : String)
  | array (values : List Json)
  | object (entries : List (String × Json))

/-- What an operation throws that is applied to a value of another type. -/
inductive TypeError
  | readsUndefined (property : String)
  | readsNull (property : String)
  | notConvertible
  | notCallable (property : String)
  | invalidArgument
  deriving DecidableEq

namespace Json

/-- A property of the parsed value; `none` when it is `undefined`. Only an object
has any of the properties that are asked for. -/
def property : Json → String → Option Json
  | .object entries, name => entries.lookup name
  | _, _ => none

def string? : Json → Option String
  | .string value => some value
  | _ => none

/-- `value.name`. -/
def read (value : Option Json) (name : String) : Except TypeError (Option Json) :=
  match value with
  | none => .error (.readsUndefined name)
  | some .null => .error (.readsNull name)
  | some value => .ok (value.property name)

/-- `value === text`. -/
def isText (value : Option Json) (text : String) : Bool :=
  match value with
  | some (.string other) => other = text
  | _ => false

def isString : Option Json → Bool
  | some (.string _) => true
  | _ => false

/-- A value of an optional record. -/
def isOptionalObject : Option Json → Bool
  | none => true
  | some (.object _) => true
  | some _ => false

theorem isString_eq_true {value : Option Json} (isText : isString value = true) :
    ∃ content, value = some (.string content) := by
  match value with
  | some (.string content) => exact ⟨content, rfl⟩

section Conversion

variable (numberString : Number → String)

mutual

/-- `String(value)`. An object that has a `toString` of its own has none that can
be called. -/
def text : Json → Except TypeError String
  | .null => .ok "null"
  | .boolean value => .ok (if value then "true" else "false")
  | .number value => .ok (numberString value)
  | .string value => .ok value
  | .array values => String.intercalate "," <$> elementTexts values
  | .object entries =>
    if (entries.lookup "toString").isSome then .error .notConvertible else .ok "[object Object]"

/-- The texts that `Array.prototype.join` puts together. -/
def elementTexts : List Json → Except TypeError (List String)
  | [] => .ok []
  | .null :: rest => ("" :: ·) <$> elementTexts rest
  | value :: rest => do
    let first ← text value
    let others ← elementTexts rest
    return first :: others

end

/-- A value in a template literal. -/
def templateText : Option Json → Except TypeError String
  | none => .ok "undefined"
  | some value => value.text numberString

end Conversion

end Json

end BluettiMqtt
