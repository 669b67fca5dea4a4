import RequestQuery.Filter.Condition
import RequestQuery.Filter.Reader

namespace RequestQuery

namespace FilterContext

/-- The list of allowed fields, if there is one: that of the model, else the global one. -/
def allowedFields (ctx : FilterContext) : Option (List String) :=
  match ctx.source.model.filterable with
  | some fields => some fields
  | none =>
    match ctx.snapshot.settings.globalWhitelist with
    | [] => none
    | fields => some fields

/-- Refuses a path that is no field path, or that the list in force lacks. -/
def checkField (ctx : FilterContext) (path : String) : Except FilterError Unit :=
  if !Text.isFieldPath path then .error (.notFilterable path .invalidName)
  else
    match ctx.allowedFields with
    | none => .ok ()
    | some fields =>
      if fields.contains path then .ok () else .error (.notFilterable path .notListed)

/-- Refuses a depth beyond the configured one. -/
def checkDepth (ctx : FilterContext) (path : String) (depth : Nat) : Except FilterError Unit :=
  let max := ctx.snapshot.settings.maxNestingLevel
  if max < depth then .error (.tooDeep path depth max) else .ok ()

/-- The condition on a dotted path, inside `depth` groups. -/
def evalDotted (ctx : FilterContext) (depth : Nat) (f : FieldFilter) :
    Except FilterError (Option Predicate) :=
  match FieldPath.resolve ctx.source.catalog ctx.source.model f.path with
  | .error e => .error (.unknownRelation e)
  | .ok p =>
    match ctx.checkDepth f.path (depth + p.depth) with
    | .error e => .error e
    | .ok _ =>
      (ctx.applyCondition p.model p.column f.condition f.path).map fun inner => inner.map p.wrap

def evalField (ctx : FilterContext) (depth : Nat) (f : FieldFilter) :
    Except FilterError (Option Predicate) :=
  match ctx.checkField f.path with
  | .error e => .error e
  | .ok _ =>
    if f.path.toList.contains '.' then ctx.evalDotted depth f
    else ctx.applyCondition ctx.source.model f.path f.condition f.path

mutual

/-- The predicate of a node inside `depth` groups. -/
def evalNode (ctx : FilterContext) (depth : Nat) :
    FilterNode → Except FilterError (Option Predicate)
  | .field f => ctx.evalField depth f
  | .group g => evalGroup ctx (depth + 1) g

/-- The predicate of a group that is the `depth`-th from outside. -/
def evalGroup (ctx : FilterContext) (depth : Nat) :
    FilterGroup → Except FilterError (Option Predicate)
  | .mk connective filters nested =>
    match ctx.checkDepth FilterSpec.groupKey depth with
    | .error e => .error e
    | .ok _ =>
      match evalNodes ctx depth filters with
      | .error e => .error e
      | .ok members =>
        (evalGroups ctx (depth + 1) nested).map fun groups =>
          Predicate.join connective ((Predicate.join connective members).toList ++ groups)

/-- The predicates of nodes, those that test nothing left out. -/
def evalNodes (ctx : FilterContext) (depth : Nat) :
    List FilterNode → Except FilterError (List Predicate)
  | [] => .ok []
  | n :: rest =>
    match evalNode ctx depth n with
    | .error e => .error e
    | .ok p => (evalNodes ctx depth rest).map fun ps => p.toList ++ ps

/-- The predicates of groups, those that test nothing left out. -/
def evalGroups (ctx : FilterContext) (depth : Nat) :
    List FilterGroup → Except FilterError (List Predicate)
  | [] => .ok []
  | g :: rest =>
    match evalGroup ctx depth g with
    | .error e => .error e
    | .ok p => (evalGroups ctx depth rest).map fun ps => p.toList ++ ps

end

/-- The predicate of a filter, nothing if the filter tests nothing. -/
def evaluate (ctx : FilterContext) (spec : FilterSpec) : Except FilterError (Option Predicate) :=
  let max := ctx.snapshot.settings.maxFilters
  if max < spec.length then .error (.tooMany spec.length max)
  else (ctx.evalNodes 0 spec).map (Predicate.join .and)

end FilterContext

end RequestQuery
