import RequestQuery.Cast
import RequestQuery.Json.Decode

namespace RequestQuery

open Json (Value)

/-- Which side of a relation holds the reference, and how many rows it reaches. -/
inductive RelationKind where
  /-- The reference is on this side. -/
  | belongsTo
  /-- The reference is on the other side, on at most one row. -/
  | hasOne
  /-- The reference is on the other side. -/
  | hasMany
deriving DecidableEq, Repr

namespace RelationKind

def name : RelationKind → String
  | belongsTo => "belongs_to"
  | hasOne => "has_one"
  | hasMany => "has_many"

def ofName? (s : String) : Option RelationKind :=
  if s == "belongs_to" then some belongsTo
  else if s == "has_one" then some hasOne
  else if s == "has_many" then some hasMany
  else none

end RelationKind

/-- A way from the rows of one model to those of another, through a reference between two columns.
-/
structure Relation where
  kind : RelationKind
  /-- The key of the related model. -/
  target : String
  /-- The column that holds the reference. -/
  foreignKey : String
  /-- The column that the reference points at. -/
  ownerKey : String
deriving DecidableEq, Repr

namespace Relation

/-- The joined column of the row that the relation starts from. -/
def parentColumn (r : Relation) : String :=
  match r.kind with
  | .belongsTo => r.foreignKey
  | .hasOne | .hasMany => r.ownerKey

/-- The joined column of the related row. -/
def relatedColumn (r : Relation) : String :=
  match r.kind with
  | .belongsTo => r.ownerKey
  | .hasOne | .hasMany => r.foreignKey

/-- Reads a relation; the owner key is the column id unless given. -/
def ofValue? (v : Value) : Option Relation :=
  match Json.Decode.fields? ["kind", "target", "foreign_key", "owner_key"] v with
  | some [kind, target, foreignKey, ownerKey] => do
    let kind ←
      Json.Decode.required (fun v => (Json.Decode.choice? v).bind RelationKind.ofName?) kind
    let target ← Json.Decode.required Json.Decode.string? target
    let foreignKey ← Json.Decode.required Json.Decode.string? foreignKey
    let ownerKey ← Json.Decode.withDefault "id" Json.Decode.string? ownerKey
    pure ⟨kind, target, foreignKey, ownerKey⟩
  | _ => none

end Relation

/-- What a request may know about an entity. -/
structure Model where
  name : String
  table : String
  primaryKey : String
  /-- The fields that may be filtered; without a list the configuration decides. -/
  filterable : Option (List String)
  /-- The fields that may be sorted by; without a list the configuration decides. -/
  sortable : Option (List String)
  /-- The fields that a search without fields of its own looks at. -/
  searchable : List String
  /-- The request parameter with the search text, if it has a name of its own. -/
  searchParam : Option String
  casts : List (String × CastRule)
  relations : List (String × Relation)
deriving DecidableEq, Repr

namespace Model

def relation? (m : Model) (name : String) : Option Relation :=
  m.relations.lookup name

def castFor (m : Model) (column : String) : Option CastRule :=
  m.casts.lookup column

/-- The name of the request parameter with the search text. -/
def searchParamName (m : Model) : String :=
  m.searchParam.getD "search"

/-- Reads a model; everything but its name and table may be left out. -/
def ofValue? (v : Value) : Option Model :=
  match Json.Decode.fields? ["name", "table", "primary_key", "filterable", "sortable", "searchable",
      "search_param", "casts", "relations"] v with
  | some
      [name, table, primaryKey, filterable, sortable, searchable, searchParam, casts, relations] =>
    do
    let names := Json.Decode.list? Json.Decode.string?
    let name ← Json.Decode.required Json.Decode.string? name
    let table ← Json.Decode.required Json.Decode.string? table
    let primaryKey ← Json.Decode.withDefault "id" Json.Decode.string? primaryKey
    let filterable ← Json.Decode.withDefault none (Json.Decode.optional? names) filterable
    let sortable ← Json.Decode.withDefault none (Json.Decode.optional? names) sortable
    let searchable ← Json.Decode.withDefault [] names searchable
    let searchParam ←
      Json.Decode.withDefault none (Json.Decode.optional? Json.Decode.string?) searchParam
    let casts ← Json.Decode.withDefault []
      (Json.Decode.map? fun v => (Json.Decode.choice? v).bind CastRule.ofName?) casts
    let relations ← Json.Decode.withDefault [] (Json.Decode.map? Relation.ofValue?) relations
    pure ⟨name, table, primaryKey, filterable, sortable, searchable, searchParam, casts, relations⟩
  | _ => none

end Model

end RequestQuery
