import RequestQuery.Connective
import RequestQuery.Json.Value
import RequestQuery.Operator.Basic

namespace RequestQuery

open Json (Value)

/-- The condition on a row that a filter or a search comes down to. Columns are those of the model
in scope, and an existence condition moves the scope to the related model. -/
inductive Predicate where
  | compare (column : String) (op : StoreOperator) (value : Value)
  /-- The pattern has its wildcards in place. With `caseInsensitive` the store lowers both sides of
  a plain pattern operator. -/
  | pattern (column : String) (op : StoreOperator) (text : String) (caseInsensitive : Bool)
  /-- An empty list holds of no row, and negated of every row. -/
  | member (column : String) (values : List Value) (negated : Bool)
  /-- Both bounds are included. -/
  | between (column : String) (low high : Value) (negated : Bool)
  | null (column : String) (negated : Bool)
  /-- Some row related by `relation` satisfies the inner condition. -/
  | related (relation : String) (inner : Predicate)
  | group (connective : Connective) (members : List Predicate)
deriving Inhabited

namespace Predicate

/-- Joins conditions; a single one needs no group, and none leave nothing. -/
def join (connective : Connective) : List Predicate → Option Predicate
  | [] => Option.none
  | [p] => some p
  | ps => some (group connective ps)

mutual

def leafCount : Predicate → Nat
  | related _ inner => inner.leafCount
  | group _ members => leafCounts members
  | _ => 1

def leafCounts : List Predicate → Nat
  | [] => 0
  | p :: ps => p.leafCount + leafCounts ps

end

end Predicate

namespace Pattern

/-- The character that takes a wildcard its meaning. -/
def escapeMark : Char := '\\'

/-- Whether a character means something else than itself in a pattern. -/
def isWild (c : Char) : Bool :=
  c == '%' || c == '_'

/-- A text as a pattern that only this text matches. -/
def escapeChars (s : List Char) : List Char :=
  s.flatMap fun c => if isWild c || c == escapeMark then [escapeMark, c] else [c]

def escape (s : String) : String :=
  String.ofList (escapeChars s.toList)

/-- The pattern that a style makes of a text. A text with a wildcard of its own is a pattern already
where the style allows wildcards. -/
def ofChars (style : PatternStyle) (s : List Char) : List Char :=
  match style with
  | .wrap => if s.any isWild then s else '%' :: s ++ ['%']
  | .startsWith => escapeChars s ++ ['%']
  | .endsWith => '%' :: escapeChars s
  | .contains => '%' :: escapeChars s ++ ['%']

def ofText (style : PatternStyle) (s : String) : String :=
  String.ofList (ofChars style s.toList)

end Pattern

end RequestQuery
