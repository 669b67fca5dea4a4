import RequestQuery.FieldPath
import RequestQuery.Query
import RequestQuery.Sort.Input

namespace RequestQuery

/-- The fields that a call may sort by: a list, or names with orderings of their own. -/
inductive AllowedSorts where
  | list (fields : List String)
  | custom (orderings : List (String × (Direction → List OrderKey)))

/-- A sort key, or a relation that is loaded in an order of its own. -/
inductive SortStep where
  | order (key : OrderKey)
  | load (relation : String) (key : OrderKey)
deriving DecidableEq, Repr

/-- What the directives of a request append to a query. -/
structure SortPlan where
  directives : List SortDirective
  steps : List SortStep
deriving DecidableEq, Repr

namespace SortPlan

def isEmpty (plan : SortPlan) : Bool :=
  plan.steps.isEmpty

def applyStep (q : Query) : SortStep → Query
  | .order key => q.orderBy key.column key.direction
  | .load relation key => q.withRelation relation (some key)

def apply (plan : SortPlan) (q : Query) : Query :=
  plan.steps.foldl applyStep q

def isPermitted (source : Source) (snapshot : Snapshot) (allowed : Option AllowedSorts)
    (field : String) : Bool :=
  match allowed with
  | some (.list fields) => fields.contains field
  | some (.custom orderings) => (orderings.lookup field).isSome
  | none =>
    match source.model.sortable with
    | some fields => fields.contains field
    | none => snapshot.settings.sort.allowAnyColumn

def checkField (source : Source) (snapshot : Snapshot) (allowed : Option AllowedSorts)
    (field : String) : Except SortError Unit :=
  if Text.isFieldPath field && isPermitted source snapshot allowed field then .ok ()
  else .error (.notAllowed field)

/-- Reads directives and checks their fields, up to the first error. -/
def parseAll (source : Source) (snapshot : Snapshot) (allowed : Option AllowedSorts) :
    List String → Except SortError (List SortDirective)
  | [] => .ok []
  | raw :: rest =>
    match SortDirective.parse snapshot raw with
    | .error e => .error e
    | .ok d =>
      match checkField source snapshot allowed d.field with
      | .error e => .error e
      | .ok _ => (parseAll source snapshot allowed rest).map fun ds => d :: ds

/-- The steps for a field that no ordering of its own answers for. -/
def fieldSteps (source : Source) (d : SortDirective) : Except SortError (List SortStep) :=
  match FieldPath.resolve source.catalog source.model d.field with
  | .error e => .error (.unknownRelation e)
  | .ok p =>
    match p.relations with
    | [] => .ok [.order ⟨p.column, d.direction⟩]
    | relation :: inner =>
      let rest := String.intercalate "." (inner ++ [p.column])
      .ok (.load relation ⟨rest, d.direction⟩ ::
        match source.model.relation? relation with
        | some r => [.order ⟨r.parentColumn, d.direction⟩]
        | none => [])

def directiveSteps (source : Source) (allowed : Option AllowedSorts) (d : SortDirective) :
    Except SortError (List SortStep) :=
  match allowed with
  | some (.custom orderings) =>
    match orderings.lookup d.field with
    | some ordering => .ok ((ordering d.direction).map .order)
    | none => fieldSteps source d
  | _ => fieldSteps source d

def stepsFor (source : Source) (allowed : Option AllowedSorts) :
    List SortDirective → Except SortError (List SortStep)
  | [] => .ok []
  | d :: rest =>
    match directiveSteps source allowed d with
    | .error e => .error e
    | .ok steps => (stepsFor source allowed rest).map fun more => steps ++ more

/-- The plan for an input. All directives are read before any of them is planned. -/
def ofInput (source : Source) (snapshot : Snapshot) (input : SortInput)
    (allowed : Option AllowedSorts) : Except SortError SortPlan :=
  if input.isEmpty then .ok ⟨[], []⟩
  else
    match parseAll source snapshot allowed (input.directives snapshot) with
    | .error e => .error e
    | .ok ds => (stepsFor source allowed ds).map fun steps => ⟨ds, steps⟩

end SortPlan

end RequestQuery
