import RequestQuery.Filter.Error
import RequestQuery.Filter.Spec

/-!
Reading a filter from JSON. A map gives each field path its condition; the key `_group` and the keys
`and` and `or` introduce groups. A list is a list of groups.
-/
namespace RequestQuery

open Json (Value Entries)

namespace FilterSpec

def groupKey : String := "_group"

/-- The key of the connective inside a map of operators. -/
def connectiveKey : String := "boolean"

/-- The keys of which a group is made up. -/
def definitionKeys : List String := ["boolean", "filters", "nested"]

/-- Whether an object spells out a group, rather than being a map of filters. -/
def isDefinition (entries : Entries) : Bool :=
  !entries.isEmpty && entries.all fun (key, _) => definitionKeys.contains key

def readConnective (v : Value) : Except FilterError Connective :=
  match v.toString?.bind Connective.parse? with
  | some c => .ok c
  | none => .error (.badInput .connective v.describe)

/-- Reads a map of operators. The last connective in it counts. -/
def readOperators (connective : Connective) (before : List (String × Value)) :
    Entries → Except FilterError Condition
  | [] => .ok (.operators connective before.reverse)
  | (key, v) :: rest =>
    if key == connectiveKey then
      match readConnective v with
      | .ok c => readOperators c before rest
      | .error e => .error e
    else readOperators connective ((key, v) :: before) rest

/-- Reads the condition on a field: a map of operators, or a literal. -/
def readCondition : Value → Except FilterError Condition
  | .object entries => readOperators .and [] entries
  | v => .ok (.literal v)

def definitionConnective (entries : Entries) : Except FilterError Connective :=
  match entries.lookup "boolean" with
  | none | some .null => .ok .and
  | some v => readConnective v

mutual

def readMap : List (String × Value) → Except FilterError (List FilterNode)
  | [] => .ok []
  | (key, v) :: rest =>
    let nodes : Except FilterError (List FilterNode) :=
      if key == groupKey then
        if v.isArray then (readItems .group v).map fun gs => gs.map .group
        else (readGroup v).map fun g => [.group g]
      else
        match Connective.parse? key with
        | some c =>
          if v.isArray then (readItems (.members c) v).map fun gs => [.group (.mk c [] gs)]
          else (readEntries (.members c) v).map fun fs => [.group (.mk c fs [])]
        | none => (readCondition v).map fun c => [.field ⟨key, c⟩]
    match nodes with
    | .error e => .error e
    | .ok nodes => (readMap rest).map fun more => nodes ++ more

/-- Reads a map of filters where nothing else may stand. -/
def readEntries (expected : ExpectedInput) : Value → Except FilterError (List FilterNode)
  | .object entries => readMap entries
  | v => .error (.badInput expected v.describe)

/-- Reads a group: a definition, or a map of filters that all have to hold. -/
def readGroup : Value → Except FilterError FilterGroup
  | .object entries =>
    if isDefinition entries then
      match definitionConnective entries with
      | .error e => .error e
      | .ok c =>
        let (filters, nested) := readParts entries
        match filters, nested with
        | .error e, _ => .error e
        | .ok _, .error e => .error e
        | .ok fs, .ok gs => .ok (.mk c fs gs)
    else (readMap entries).map fun fs => .mk .and fs []
  | v => .error (.badInput .group v.describe)

/-- Reads a list of groups where nothing else may stand. -/
def readItems (expected : ExpectedInput) : Value → Except FilterError (List FilterGroup)
  | .array items => readGroups items
  | v => .error (.badInput expected v.describe)

def readGroups : List Value → Except FilterError (List FilterGroup)
  | [] => .ok []
  | v :: rest =>
    match readGroup v with
    | .error e => .error e
    | .ok g => (readGroups rest).map fun gs => g :: gs

/-- Reads the filters and the nested groups of a group definition. -/
def readParts : List (String × Value) →
    Except FilterError (List FilterNode) × Except FilterError (List FilterGroup)
  | [] => (.ok [], .ok [])
  | (key, v) :: rest =>
    let (filters, nested) := readParts rest
    if key == "filters" then
      (if v.isNull then .ok [] else readEntries .filters v, nested)
    else if key == "nested" then
      (filters,
        if v.isNull then .ok []
        else if v.isObject then (readGroup v).map fun g => [g]
        else readItems .groups v)
    else (filters, nested)

end

/-- Reads a filter. Null filters nothing. -/
def ofValue : Value → Except FilterError FilterSpec
  | .null => .ok []
  | .object entries => readMap entries
  | .array items => (readGroups items).map fun gs => gs.map .group
  | v => .error (.badInput .filter v.describe)

end FilterSpec

end RequestQuery
