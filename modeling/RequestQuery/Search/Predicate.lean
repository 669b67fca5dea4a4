import RequestQuery.FieldPath
import RequestQuery.Search.Terms
import RequestQuery.Source

namespace RequestQuery.Search

/-- The operator that looks for a term, and whether the store has to lower both sides. -/
def matcher (caseSensitive nativeIlike : Bool) : StoreOperator × Bool :=
  if caseSensitive then (.like, false)
  else if nativeIlike then (.ilike, false)
  else (.like, true)

def resolveFields (source : Source) : List String → Except SearchError (List FieldPath)
  | [] => .ok []
  | field :: rest =>
    if !Text.isFieldPath field then .error (.badField field)
    else
      match FieldPath.resolve source.catalog source.model field with
      | .error e => .error (.unknownRelation e)
      | .ok p => (resolveFields source rest).map fun ps => p :: ps

/-- A term is found behind a field where some related row contains it. -/
def fieldPredicate (op : StoreOperator) (caseInsensitive : Bool) (term : String) (p : FieldPath) :
    Predicate :=
  p.wrap (.pattern p.column op (Pattern.ofText .contains term) caseInsensitive)

/-- The condition that some field contains a term. -/
def termPredicate (op : StoreOperator) (caseInsensitive : Bool) (fields : List FieldPath)
    (term : String) : Option Predicate :=
  Predicate.join .or (fields.map (fieldPredicate op caseInsensitive term))

/-- The condition on the terms of a search; without terms or fields there is none. -/
def predicate (source : Source) (terms fields : List String) (mode : Connective)
    (caseSensitive : Bool) : Except SearchError (Option Predicate) :=
  if terms.isEmpty || fields.isEmpty then .ok none
  else
    let (op, caseInsensitive) := matcher caseSensitive source.dialect.hasNativeIlike
    (resolveFields source fields).map fun paths =>
      Predicate.join mode (terms.filterMap (termPredicate op caseInsensitive paths))

/-- The condition of a search text. The mode is checked before the text is looked at; fields and
mode default to those of the model and the settings. -/
def build (source : Source) (settings : SearchSettings) (raw : String)
    (fields : Option (List String)) (mode : Option String) :
    Except SearchError (Option Predicate) :=
  match (match mode with
    | some m => readMode m
    | none => .ok settings.mode) with
  | .error e => .error e
  | .ok mode =>
    match terms settings raw with
    | .error e => .error e
    | .ok [] => .ok none
    | .ok found =>
      predicate source found (fields.getD source.model.searchable) mode settings.caseSensitive

end RequestQuery.Search
