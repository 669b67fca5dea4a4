import RequestQuery.Json.Parser
import RequestQuery.Schema.Model
import RequestQuery.Text.Name

namespace RequestQuery

open Json (Value)

/-- All models by their keys. -/
structure Catalog where
  models : List (String × Model)
deriving DecidableEq, Repr

/-- A relation name that the model in scope does not declare, or whose model the catalog lacks. -/
structure UnknownRelation where
  model : String
  relation : String
deriving DecidableEq, Repr

def UnknownRelation.message (e : UnknownRelation) : String :=
  "unknown relationship '" ++ e.relation ++ "' on model '" ++ e.model ++ "'"

def UnknownRelation.kind : String :=
  "unknown-relationship"

inductive CatalogProblem where
  | badTable (key table : String)
  | badPrimaryKey (key column : String)
  | unknownTarget (key relation target : String)
  | badJoin (key relation : String)
deriving DecidableEq, Repr

def CatalogProblem.message : CatalogProblem → String
  | badTable key table => "model '" ++ key ++ "' has invalid table '" ++ table ++ "'"
  | badPrimaryKey key column => "model '" ++ key ++ "' has invalid primary key '" ++ column ++ "'"
  | unknownTarget key relation target =>
    "relation '" ++ key ++ "." ++ relation ++ "' targets unknown model '" ++ target ++ "'"
  | badJoin key relation => "relation '" ++ key ++ "." ++ relation ++ "' has invalid keys"

inductive CatalogError where
  | unreadable
  | notObject
  | invalid (problems : List CatalogProblem)
deriving DecidableEq, Repr

def CatalogError.kind : CatalogError → String
  | notObject => "invalid-config-value"
  | unreadable | invalid _ => "invalid-configuration"

def CatalogError.message : CatalogError → String
  | unreadable => "failed to parse configuration"
  | notObject => "invalid value for 'models': catalog must be a JSON object"
  | invalid problems =>
    "invalid configuration: " ++ String.intercalate "; " (problems.map CatalogProblem.message)

namespace Catalog

def get? (c : Catalog) (key : String) : Option Model :=
  c.models.lookup key

/-- The relation of a model and the model it leads to. -/
def related? (c : Catalog) (m : Model) (relation : String) : Option (Relation × Model) := do
  let r ← m.relation? relation
  let target ← c.get? r.target
  pure (r, target)

def follow (c : Catalog) (m : Model) (relation : String) : Except UnknownRelation Model :=
  match c.related? m relation with
  | some (_, target) => .ok target
  | none => .error ⟨m.name, relation⟩

/-- What is wrong with a relation of the model under a key. -/
def relationProblems (c : Catalog) (key name : String) (r : Relation) : List CatalogProblem :=
  (if (c.get? r.target).isSome then [] else [.unknownTarget key name r.target]) ++
    (if Text.isIdentifier r.foreignKey && Text.isIdentifier r.ownerKey then []
      else [.badJoin key name])

def modelProblems (c : Catalog) (key : String) (m : Model) : List CatalogProblem :=
  (if Text.isIdentifier m.table then [] else [.badTable key m.table]) ++
    (if Text.isIdentifier m.primaryKey then [] else [.badPrimaryKey key m.primaryKey]) ++
    m.relations.flatMap fun (name, r) => c.relationProblems key name r

/-- What is wrong with a catalog, in the order of the messages. -/
def problems (c : Catalog) : List CatalogProblem :=
  (c.models.flatMap fun (key, m) => c.modelProblems key m).mergeSort
    fun p q => p.message ≤ q.message

/-- The entries that hold the models: those under the key of that name, or else all. -/
def modelEntries (entries : Json.Entries) : Json.Entries :=
  match entries.lookup "models" with
  | some (.object models) => models
  | _ => entries

/-- A model without a name takes its key for one. -/
def withName (key : String) : Value → Value
  | .object entries =>
    if Json.Entries.hasKey entries "name" then .object entries
    else .object (entries ++ [("name", .string key)])
  | v => v

def readModels (entries : Json.Entries) : Option Catalog :=
  (entries.mapM fun (key, v) => (Model.ofValue? (withName key v)).map fun m => (key, m)).map mk

def ofValue (v : Value) : Except CatalogError Catalog :=
  match v with
  | .object entries =>
    match readModels (modelEntries entries) with
    | none => .error .unreadable
    | some c =>
      match c.problems with
      | [] => .ok c
      | problems => .error (.invalid problems)
  | _ => .error .notObject

/-- Reads a catalog and checks it, so that every name it puts into a statement is an identifier and
every relation leads to a model. -/
def ofText (s : String) : Except CatalogError Catalog :=
  match Json.parse? s with
  | none => .error .unreadable
  | some v => ofValue v

/-- Reads models with their names under the key of all models, without any check. -/
def unchecked? (v : Value) : Option Catalog :=
  match Json.Decode.fields? ["models"] v with
  | some [models] =>
    (Json.Decode.withDefault [] (Json.Decode.map? Model.ofValue?) models).map mk
  | _ => none

end Catalog

end RequestQuery
