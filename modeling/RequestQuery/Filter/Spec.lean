import RequestQuery.Connective
import RequestQuery.Json.Value

namespace RequestQuery

open Json (Value)

/-- What a filter asks of a field. -/
inductive Condition where
  /-- A value that the field equals, or a list that the field is a member of. -/
  | literal (value : Value)
  /-- Operator keys with their operands, in order. -/
  | operators (connective : Connective) (entries : List (String × Value))

structure FieldFilter where
  path : String
  condition : Condition

mutual

inductive FilterNode where
  | field (f : FieldFilter)
  | group (g : FilterGroup)

/-- Conditions and groups joined by one connective. The groups in `nested` are written apart from
the other members and come after them. -/
inductive FilterGroup where
  | mk (connective : Connective) (filters : List FilterNode) (nested : List FilterGroup)

end

/-- A filter: nodes that all have to hold. -/
abbrev FilterSpec := List FilterNode

namespace FilterGroup

def connective : FilterGroup → Connective
  | mk c _ _ => c

def filters : FilterGroup → List FilterNode
  | mk _ fs _ => fs

def nested : FilterGroup → List FilterGroup
  | mk _ _ gs => gs

end FilterGroup

end RequestQuery
