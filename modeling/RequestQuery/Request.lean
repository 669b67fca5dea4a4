import RequestQuery.Sort.Input
import RequestQuery.Text.Form

/-!
Query strings of requests. Parameters with reserved names carry the sort keys, the search text, the
page and the preset; every other parameter is a filter, either `field=value` or
`field[operator]=value`.
-/
namespace RequestQuery

open Json (Value Entries)

/-- What a query string asks for. -/
structure Request where
  /-- The map of filters. -/
  filters : Entries
  /-- The texts to sort by. -/
  sort : List String
  search : Option String
  page : Option Nat
  perPage : Option Nat
  preset : Option String

namespace Request

def empty : Request :=
  ⟨[], [], none, none, none, none⟩

def isEmpty (r : Request) : Bool :=
  r.filters.isEmpty && r.sort.isEmpty && r.search.isNone && r.page.isNone && r.perPage.isNone &&
    r.preset.isNone

def isBracket (c : Char) : Bool :=
  c == '[' || c == ']'

/-- The field and the operator key of a name like `field[operator]`. -/
def splitOperator? (name : String) : Option (String × String) :=
  let s := name.toList
  match s.takeWhile (!isBracket ·), s.dropWhile (!isBracket ·) with
  | c :: field, '[' :: rest =>
    match rest.takeWhile (!isBracket ·), rest.dropWhile (!isBracket ·) with
    | d :: key, [']'] =>
      some (String.ofList (Text.strip (c :: field)), String.ofList (Text.strip (d :: key)))
    | _, _ => none
  | _, _ => none

/-- The operand that a parameter spells: a list for the operators that take one or a pair, else the
text as it is. -/
def operandOf (operators : OperatorTable) (key value : String) : Value :=
  let parts := Value.array ((Text.split ',' value).map fun part => .string (Text.trim part))
  match operators.get? key with
  | some o =>
    match o.kind.shape with
    | .list | .pair => parts
    | .none | .single => .string value
  | none => .string value

/-- The operators on a field so far, where a plain value is one of equality. -/
def operatorsSoFar : Option Value → Entries
  | none => []
  | some (.object entries) => entries
  | some v => [("eq", v)]

def addFilter (operators : OperatorTable) (filters : Entries) (name value : String) : Entries :=
  match splitOperator? name with
  | none => filters.put name (.string value)
  | some (field, key) =>
    filters.put field
      (.object ((operatorsSoFar (filters.lookup field)).put key (operandOf operators key value)))

/-- Adds a parameter: one with a reserved name to its part of the request, any other one to the
filters. -/
def addParam (snapshot : Snapshot) (searchParam : String) (r : Request)
    (param : String × String) : Request :=
  let name := Text.trim param.1
  let value := param.2
  let pages := snapshot.settings.pagination
  if name == "" then r
  else if name == "sort" then
    if (Text.trim value).isEmpty then r else { r with sort := r.sort ++ [value] }
  else if name == searchParam || name == "search" then { r with search := some value }
  else if name == pages.pageName then { r with page := Text.readUnsigned64? (Text.trim value) }
  else if name == pages.perPageName then
    { r with perPage := Text.readUnsigned64? (Text.trim value) }
  else if name == "preset" then { r with preset := some value }
  else { r with filters := addFilter snapshot.operators r.filters name value }

def ofParams (snapshot : Snapshot) (searchParam : String) (params : List (String × String)) :
    Request :=
  params.foldl (addParam snapshot searchParam) empty

/-- A query string without the question mark at its front. -/
def dropQuestionMark (s : String) : String :=
  match s.toList with
  | '?' :: rest => String.ofList rest
  | _ => s

def parse (snapshot : Snapshot) (searchParam queryString : String) : Request :=
  ofParams snapshot searchParam (Text.Form.decode (dropQuestionMark queryString))

def filterValue (r : Request) : Value :=
  .object r.filters

/-- The sort keys. Each text is split on its own, so that a direction never goes with a field of
another parameter. -/
def sortInput (snapshot : Snapshot) (r : Request) : SortInput :=
  .sequence (r.sort.flatMap fun s => (SortInput.delimited s).directives snapshot)

end Request

end RequestQuery
