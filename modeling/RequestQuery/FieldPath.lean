import RequestQuery.Predicate
import RequestQuery.Schema.Catalog

namespace RequestQuery

/-- A path with its relations resolved. -/
structure FieldPath where
  /-- The relations from the root model outward. -/
  relations : List String
  /-- The model that the last relation leads to. -/
  model : Model
  column : String
deriving DecidableEq, Repr

namespace Catalog

/-- The model that a chain of relations leads to. -/
def followAll (c : Catalog) (m : Model) : List String → Except UnknownRelation Model
  | [] => .ok m
  | r :: rs =>
    match c.follow m r with
    | .error e => .error e
    | .ok target => c.followAll target rs

end Catalog

namespace FieldPath

def resolve (c : Catalog) (root : Model) (path : String) : Except UnknownRelation FieldPath :=
  let segments := Text.split '.' path
  match c.followAll root segments.dropLast with
  | .error e => .error e
  | .ok m => .ok ⟨segments.dropLast, m, segments.getLastD ""⟩

def depth (p : FieldPath) : Nat :=
  p.relations.length

/-- Whether the path is a column of the root model. -/
def isLocal (p : FieldPath) : Bool :=
  p.relations.isEmpty

/-- The condition that rows related through the path satisfy the given one. -/
def wrap (p : FieldPath) (inner : Predicate) : Predicate :=
  p.relations.foldr .related inner

end FieldPath

end RequestQuery
