import RequestQuery.Schema.Catalog
import RequestQuery.Settings.Snapshot

namespace RequestQuery

open Json (Value)

inductive SortError where
  | emptyField (directive : String)
  | badDirection (field direction : String)
  | notAllowed (field : String)
  | unknownRelation (e : UnknownRelation)
deriving DecidableEq, Repr

/-- The kind of an error, by which callers tell errors apart. -/
def SortError.kind : SortError → String
  | emptyField _ => "empty-sort-field"
  | badDirection .. => "invalid-sort-direction"
  | notAllowed _ => "sort-field-not-allowed"
  | unknownRelation _ => UnknownRelation.kind

def SortError.message : SortError → String
  | emptyField directive => "sort directive '" ++ directive ++ "' has an empty field"
  | badDirection field direction =>
    "invalid sort direction '" ++ direction ++ "' for field '" ++ field ++ "'"
  | notAllowed field => "sorting by '" ++ field ++ "' is not allowed"
  | unknownRelation e => e.message

/-- A field with a direction, which a mark before or after the field or a word after a comma may
give. -/
structure SortDirective where
  field : String
  direction : Direction
deriving DecidableEq, Repr

/-- Directives one by one, or in a single text between commas. -/
inductive SortInput where
  | delimited (s : String)
  | sequence (directives : List String)
deriving DecidableEq, Repr

namespace SortInput

/-- A string is a delimited text, and the strings of a list are directives; anything else is nothing
to sort by. -/
def ofValue : Value → SortInput
  | .string s => delimited s
  | .array items => sequence (items.filterMap Value.toString?)
  | _ => sequence []

def isEmpty : SortInput → Bool
  | delimited s => (Text.trim s).isEmpty
  | sequence directives => directives.isEmpty

/-- Whether a segment of a delimited text has no mark, so that it may be a bare field or a word for
a direction. -/
def isPlain (snapshot : Snapshot) (segment : String) : Bool :=
  let s := segment.toList
  !s.isEmpty && !(s.head?.any fun c => (snapshot.indicator? c).isSome) &&
    !(s.getLast?.any fun c => (snapshot.indicator? c).isSome)

/-- Joins a plain segment with a plain one before it that has none yet. -/
def pairUp (snapshot : Snapshot) : List String → List String
  | [] => []
  | [a] => [a]
  | a :: b :: rest =>
    if isPlain snapshot a && isPlain snapshot b then (a ++ "," ++ b) :: pairUp snapshot rest
    else a :: pairUp snapshot (b :: rest)

/-- The directives, one for each sort key. -/
def directives (snapshot : Snapshot) : SortInput → List String
  | delimited s => pairUp snapshot ((Text.split ',' s).map Text.trim)
  | sequence ds => ds.map Text.trim

end SortInput

namespace SortDirective

/-- The field and direction of a directive that is not empty. A mark at the front goes before one at
the end, and that before a word. -/
def split (snapshot : Snapshot) (s : List Char) : Except SortError (List Char × Direction) :=
  match s.head?.bind snapshot.indicator? with
  | some d => .ok (s.drop 1, d)
  | none =>
    match s.getLast?.bind snapshot.indicator? with
    | some d => .ok (s.dropLast, d)
    | none =>
      match Text.splitOnce ',' s with
      | none => .ok (s, snapshot.settings.sort.defaultDirection)
      | some (field, word) =>
        match Direction.parse? (String.ofList word) with
        | some d => .ok (field, d)
        | none =>
          .error (.badDirection (String.ofList (Text.strip field))
            (String.ofList (Text.strip word)))

def parse (snapshot : Snapshot) (raw : String) : Except SortError SortDirective :=
  let s := Text.strip raw.toList
  if s.isEmpty then .error (.emptyField raw)
  else
    match split snapshot s with
    | .error e => .error e
    | .ok (field, direction) =>
      let field := Text.strip field
      if field.isEmpty then .error (.emptyField raw) else .ok ⟨String.ofList field, direction⟩

end SortDirective

end RequestQuery
