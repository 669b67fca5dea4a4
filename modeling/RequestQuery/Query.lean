import RequestQuery.Predicate
import RequestQuery.Source

namespace RequestQuery

open Json (Value)

structure OrderKey where
  column : String
  direction : Direction
deriving DecidableEq, Repr

/-- A relation whose rows are loaded along, possibly in an order of their own. -/
structure EagerLoad where
  relation : String
  order : Option OrderKey
deriving DecidableEq, Repr

/-- What has been asked of a source so far. Conditions, sort keys and relations to load are only
ever appended. -/
structure Query where
  source : Source
  /-- Each condition with the connective that joins it to those before it. -/
  conditions : List (Connective × Predicate)
  orders : List OrderKey
  eagerLoads : List EagerLoad
  limit : Option Nat
  offset : Option Nat

namespace Query

def ofSource (source : Source) : Query :=
  ⟨source, [], [], [], none, none⟩

def record (q : Query) (c : Connective) (p : Predicate) : Query :=
  { q with conditions := q.conditions ++ [(c, p)] }

def whereCompare (q : Query) (c : Connective) (column : String) (op : StoreOperator)
    (value : Value) : Query :=
  q.record c (.compare column op value)

def wherePattern (q : Query) (c : Connective) (column : String) (op : StoreOperator)
    (text : String) (caseInsensitive : Bool) : Query :=
  q.record c (.pattern column op text caseInsensitive)

def whereMember (q : Query) (c : Connective) (column : String) (values : List Value)
    (negated : Bool) : Query :=
  q.record c (.member column values negated)

def whereBetween (q : Query) (c : Connective) (column : String) (low high : Value)
    (negated : Bool) : Query :=
  q.record c (.between column low high negated)

def whereNull (q : Query) (c : Connective) (column : String) (negated : Bool) : Query :=
  q.record c (.null column negated)

def whereRelated (q : Query) (c : Connective) (relation : String) (inner : Predicate) : Query :=
  q.record c (.related relation inner)

def whereGroup (q : Query) (c inner : Connective) (members : List Predicate) : Query :=
  q.record c (.group inner members)

def push (q : Query) (c : Connective) : Predicate → Query
  | .compare column op value => q.whereCompare c column op value
  | .pattern column op text caseInsensitive => q.wherePattern c column op text caseInsensitive
  | .member column values negated => q.whereMember c column values negated
  | .between column low high negated => q.whereBetween c column low high negated
  | .null column negated => q.whereNull c column negated
  | .related relation inner => q.whereRelated c relation inner
  | .group inner members => q.whereGroup c inner members

theorem push_eq_record (q : Query) (c : Connective) (p : Predicate) :
    q.push c p = q.record c p := by
  cases p <;> rfl

def push? (q : Query) (c : Connective) : Option Predicate → Query
  | some p => q.push c p
  | none => q

def orderBy (q : Query) (column : String) (direction : Direction) : Query :=
  { q with orders := q.orders ++ [⟨column, direction⟩] }

def withRelation (q : Query) (relation : String) (order : Option OrderKey) : Query :=
  { q with eagerLoads := q.eagerLoads ++ [⟨relation, order⟩] }

def setLimit (q : Query) (n : Nat) : Query :=
  { q with limit := some n }

def setOffset (q : Query) (n : Nat) : Query :=
  { q with offset := some n }

end Query

end RequestQuery
