import RequestQuery.Filter.Error

namespace RequestQuery

open Json (Value)

/-- An operand whose shape has been checked. -/
inductive Operand where
  | none
  | single (value : Value)
  | list (values : List Value)
  | pair (low high : Value)

namespace Operand

/-- What an operand is, in the words of an error message. -/
def describe : Operand → String
  | none => "no value"
  | single v => v.describe
  | list vs => "list of " ++ toString vs.length
  | pair _ _ => "list of 2"

/-- Null and the empty string. -/
def isBlank : Value → Bool
  | .null => true
  | .string s => s.isEmpty
  | _ => false

def dropBlank (values : List Value) : List Value :=
  values.filter (!isBlank ·)

/-- The values of a list: its items, the parts of a string between commas, nothing for null, and a
number or truth value alone. -/
def items? : Value → Option (List Value)
  | .array items => some items
  | .string s => some ((Text.split ',' s).map fun part => .string (Text.trim part))
  | .null => some []
  | .object _ => Option.none
  | v => some [v]

/-- Whether a value stands for no operand at all. -/
def isAbsent : Value → Bool
  | .null => true
  | .bool b => b
  | .string s => ["", "1", "true"].contains (Text.trim s)
  | _ => false

/-- Brings a value into a shape, or tells what it is instead. -/
def ofValue (shape : OperandShape) (v : Value) : Except String Operand :=
  match shape with
  | .none => if isAbsent v then .ok none else .error v.describe
  | .single =>
    match v with
    | .array _ | .object _ => .error v.describe
    | v => .ok (single v)
  | .list =>
    match items? v with
    | Option.none => .error v.describe
    | some values =>
      match dropBlank values with
      | [] => .error "an empty list"
      | values => .ok (list values)
  | .pair =>
    match items? v with
    | Option.none => .error v.describe
    | some [low, high] => .ok (pair low high)
    | some values => .error (toString values.length ++ " values")

/-- The finite number that a bound spells. -/
def bound? : Value → Option Float
  | .number n => some n.toFloat
  | .string s => (Text.readFloat? (Text.trim s)).filter Float.isFinite
  | _ => Option.none

def dayCount? : Value → Option Nat
  | .string s => Text.readUnsigned64? (Text.trim s)
  | v => v.toUnsigned64?

def text? : Value → Option String
  | .string s => some s
  | .number n => some (String.ofList n.text)
  | .bool b => some (if b then "true" else "false")
  | _ => Option.none

/-- The values without those that equal an earlier one. -/
def dedupe (values : List Value) : List Value :=
  values.foldl (fun kept v => if kept.any fun w => w.same v then kept else kept ++ [v]) []

theorem dedupe_append_singleton (vs : List Value) (v : Value) : dedupe (vs ++ [v]) =
    if (dedupe vs).any fun w => w.same v then dedupe vs else dedupe vs ++ [v] := by
  rw [dedupe, List.foldl_append]
  rfl

end Operand

end RequestQuery
