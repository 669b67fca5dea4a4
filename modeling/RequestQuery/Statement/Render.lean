import RequestQuery.Filter.Error
import RequestQuery.Param
import RequestQuery.Query

namespace RequestQuery

open Json (Value)

def Connective.keyword : Connective → String
  | and => "AND"
  | or => "OR"

def Direction.keyword : Direction → String
  | ascending => "ASC"
  | descending => "DESC"

namespace Statement

/-- A statement, or a part of one, with its values. -/
structure Fragment where
  text : String
  params : List Param
deriving DecidableEq

/-- Texts that are put together while their values are collected in a fragment. -/
abbrev Writer := StateT Fragment (Except UnknownRelation)

/-- Adds a value to bind, and gives the placeholder that stands for it. -/
def addParam (p : Param) : Writer String := do
  modify fun f => { f with params := f.params ++ [p] }
  let f ← get
  pure ("?" ++ toString f.params.length)

def addValue (v : Value) : Writer String :=
  addParam (Param.ofValue v)

/-- A condition that holds of every row, or of none. -/
def truthText (holds : Bool) : String :=
  if holds then "1 = 1" else "1 = 0"

/-- A part of a statement after its keyword, or nothing. -/
def clause (keyword : String) : Option String → String
  | some text => keyword ++ text
  | none => ""

/-- The alias of the table of related rows inside a subquery. -/
def aliasFor (relation : String) (depth : Nat) : String :=
  relation ++ "_" ++ toString depth

end Statement

namespace Predicate

open Statement

mutual

/-- The text of a condition on the rows of `m`, which are named `scope` and stand inside `depth`
subqueries. Its values are added in the order of their placeholders. -/
def render (catalog : Catalog) (m : Model) (scope : String) (depth : Nat) :
    Predicate → Writer String
  | compare name op value => do
    let placeholder ← addValue value
    pure (scope ++ "." ++ name ++ " " ++ op.token ++ " " ++ placeholder)
  | pattern name op text caseInsensitive => do
    let placeholder ← addParam (.string text)
    if caseInsensitive && (op == .like || op == .notLike) then
      pure ("LOWER(" ++ scope ++ "." ++ name ++ ") " ++ op.token ++ " LOWER(" ++ placeholder ++
        ") ESCAPE '\\'")
    else
      pure (scope ++ "." ++ name ++ " " ++ op.token ++ " " ++ placeholder ++ " ESCAPE '\\'")
  | member _ [] negated => pure (truthText negated)
  | member name (v :: vs) negated => do
    let placeholders ← (v :: vs).mapM addValue
    let op := if negated then StoreOperator.notIn else .isIn
    pure (scope ++ "." ++ name ++ " " ++ op.token ++ " (" ++
      String.intercalate ", " placeholders ++ ")")
  | between name low high negated => do
    let low ← addValue low
    let high ← addValue high
    let op := if negated then StoreOperator.notBetween else .between
    pure (scope ++ "." ++ name ++ " " ++ op.token ++ " " ++ low ++ " AND " ++ high)
  | null name negated =>
    let op := if negated then StoreOperator.isNotNull else .isNull
    pure (scope ++ "." ++ name ++ " " ++ op.token)
  | related relation inner =>
    match catalog.related? m relation with
    | none => throw ⟨m.name, relation⟩
    | some (r, target) => do
      let inside := aliasFor relation (depth + 1)
      let condition ← inner.render catalog target inside (depth + 1)
      pure ("EXISTS (SELECT 1 FROM " ++ target.table ++ " " ++ inside ++ " WHERE " ++
        inside ++ "." ++ r.relatedColumn ++ " = " ++ scope ++ "." ++ r.parentColumn ++ " AND " ++
        condition ++ ")")
  | group connective [] => pure (truthText (connective == .and))
  | group connective (p :: ps) => do
    let parts ← renderAll catalog m scope depth (p :: ps)
    pure ("(" ++ String.intercalate (" " ++ connective.keyword ++ " ") parts ++ ")")

def renderAll (catalog : Catalog) (m : Model) (scope : String) (depth : Nat) :
    List Predicate → Writer (List String)
  | [] => pure []
  | p :: ps => do
    let part ← p.render catalog m scope depth
    let parts ← renderAll catalog m scope depth ps
    pure (part :: parts)

end

end Predicate

namespace Query

open Statement

/-- Writes conditions after a text, each after its connective. -/
def renderMore (source : Source) (text : String) : List (Connective × Predicate) → Writer String
  | [] => pure text
  | (c, p) :: rest => do
    let condition ← p.render source.catalog source.model source.model.table 0
    renderMore source (text ++ " " ++ c.keyword ++ " " ++ condition) rest

/-- Writes all conditions. The connective of the first one is of no account. -/
def renderConditions (q : Query) : Writer Unit := do
  match q.conditions with
  | [] => pure ()
  | (_, p) :: rest =>
    let condition ← p.render q.source.catalog q.source.model q.source.model.table 0
    let text ← renderMore q.source condition rest
    modify fun f => { f with text }

def orderText? (q : Query) : Option String :=
  match q.orders with
  | [] => none
  | orders =>
    some ("ORDER BY " ++ String.intercalate ", " (orders.map fun key =>
      q.source.model.table ++ "." ++ key.column ++ " " ++ key.direction.keyword))

/-- The text of the row window. One store takes an offset only after a limit, which -1 leaves
open. -/
def windowText? (q : Query) : Option String :=
  match q.limit, q.offset with
  | none, none => none
  | some limit, none => some ("LIMIT " ++ toString limit)
  | some limit, some offset => some ("LIMIT " ++ toString limit ++ " OFFSET " ++ toString offset)
  | none, some offset =>
    match q.source.dialect with
    | .sqlite => some ("LIMIT -1 OFFSET " ++ toString offset)
    | .postgres => some ("OFFSET " ++ toString offset)

/-- The condition of the query as text, without its keyword. -/
def whereClause (q : Query) : Except UnknownRelation Fragment :=
  (q.renderConditions.run ⟨"", []⟩).map Prod.snd

def statement (q : Query) : Except UnknownRelation Fragment :=
  let table := q.source.model.table
  q.whereClause.map fun f =>
    let condition := if f.text.isEmpty then none else some f.text
    { f with
      text := "SELECT " ++ table ++ ".* FROM " ++ table ++ clause " WHERE " condition ++
        clause " " q.orderText? ++ clause " " q.windowText? }

end Query

end RequestQuery
