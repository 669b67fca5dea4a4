import RequestQuery.Json.Parser
import RequestQuery.Json.Printer
import RequestQuery.Text.Blank
import RequestQuery.Text.Case

namespace RequestQuery

open Json

/-- What becomes of an operand before it is bound to a column. Null is never cast. -/
inductive CastRule where
  | int
  | float
  | string
  | bool
  | array
  | json
  | date
  | datetime
deriving DecidableEq, Repr

inductive CastFault where
  | notInteger
  | integerOutOfRange
  | notNumber
deriving DecidableEq, Repr

def CastFault.message : CastFault → String
  | notInteger => "not an integer"
  | integerOutOfRange => "not an integer in range"
  | notNumber => "not a number"

/-- The type of a value in the words of an error message. -/
def Json.Value.describe : Value → String
  | null => "null"
  | bool _ => "boolean"
  | number _ => "number"
  | string _ => "string"
  | array items => "list of " ++ toString items.length
  | object _ => "object"

def truthyWords : List String :=
  ["true", "1", "yes", "on", "y"]

/-- The lenient reading of a value as a truth value. -/
def Json.Value.truthy : Value → Bool
  | bool b => b
  | number n => n.toFloat != 0.0
  | string s => truthyWords.contains (Text.lowercase (Text.trim s))
  | _ => false

/-- The integer of a float without its fraction, as far as a signed 64-bit word holds it. -/
def wholePart? (x : Float) : Option Int :=
  (Decimal.truncate? x).filter Text.inSigned64

namespace CastRule

def name : CastRule → String
  | int => "int"
  | float => "float"
  | string => "string"
  | bool => "bool"
  | array => "array"
  | json => "json"
  | date => "date"
  | datetime => "datetime"

def ofName? (word : String) : Option CastRule :=
  [("int", int), ("integer", int), ("float", float), ("double", float), ("real", float),
    ("string", string), ("bool", bool), ("boolean", bool), ("array", array), ("json", json),
    ("date", date), ("datetime", datetime)].lookup word

def parse? (s : String) : Option CastRule :=
  ofName? (Text.lowercase s)

def unknownMessage (word : String) : String :=
  "unknown cast type: " ++ word

/-- Integers stay; fractions are cut off; a string spells either. -/
def toInt : Value → Except CastFault Value
  | .number (.int n) => .ok (.number (.int n))
  | .number (.float x) =>
    match wholePart? x with
    | some n => .ok (.number (.int n))
    | none => .error .integerOutOfRange
  | .bool b => .ok (.number (.int (if b then 1 else 0)))
  | .string s =>
    let word := Text.trim s
    match Text.readSigned64? word with
    | some n => .ok (.number (.int n))
    | none =>
      match Text.readFloat? word with
      | none => .error .notInteger
      | some x =>
        match wholePart? x with
        | some n => .ok (.number (.int n))
        | none => .error .integerOutOfRange
  | _ => .error .notInteger

def asFloat? : Value → Option Float
  | .number n => some n.toFloat
  | .bool b => some (if b then 1.0 else 0.0)
  | .string s => Text.readFloat? (Text.trim s)
  | _ => none

def toFloat (v : Value) : Except CastFault Value :=
  match (asFloat? v).filter Float.isFinite with
  | some x => .ok (.number (.float x))
  | none => .error .notNumber

/-- A string stays; any other value becomes its JSON text. -/
def toText : Value → Value
  | .string s => .string s
  | v => .string v.render

/-- A string is read as JSON when it is JSON. -/
def toJson : Value → Value
  | .string s => (Json.parse? s).getD (.string s)
  | v => v

/-- What stands for a whole number becomes one; any other value stays. -/
def toTimestamp : Value → Value
  | .number (.int n) =>
    if Text.inSigned64 n then .number (.int n)
    else
      match wholePart? (Float.ofInt n) with
      | some m => .number (.int m)
      | none => .number (.int n)
  | .number (.float x) =>
    match wholePart? x with
    | some n => .number (.int n)
    | none => .number (.float x)
  | .string s =>
    match Text.readSigned64? (Text.trim s) with
    | some n => .number (.int n)
    | none => .string s
  | v => v

def castPresent (rule : CastRule) (v : Value) : Except CastFault Value :=
  match rule with
  | int => toInt v
  | float => toFloat v
  | string => .ok (toText v)
  | bool => .ok (.bool v.truthy)
  | array | json => .ok (toJson v)
  | date | datetime => .ok (toTimestamp v)

/-- Casts a value; null stays null. -/
def cast (rule : CastRule) (v : Value) : Except CastFault Value :=
  if v.isNull then .ok v else rule.castPresent v

end CastRule

/-- Casts a value by the rule of its column; without a rule it stays as it is. -/
def castBy (rule : Option CastRule) (v : Value) : Except CastFault Value :=
  match rule with
  | some r => r.cast v
  | none => .ok v

end RequestQuery
