import RequestQuery.Json.Value

namespace RequestQuery.Json.Decode

def bool? : Value → Option Bool
  | .bool b => some b
  | _ => none

def count? : Value → Option Nat :=
  Value.toUnsigned64?

def string? : Value → Option String :=
  Value.toString?

/-- A list, every item of it read the same way. -/
def list? (read : Value → Option α) : Value → Option (List α)
  | .array items => items.mapM read
  | _ => none

/-- Null stands for nothing. -/
def optional? (read : Value → Option α) : Value → Option (Option α)
  | .null => some none
  | v => (read v).map some

/-- The name of a choice: a string, or an object whose only entry has the name as key and null as
value. -/
def choice? : Value → Option String
  | .string s => some s
  | .object [(name, .null)] => some name
  | _ => none

/-- One entry for every key: the last one that is written. -/
def lastOfEach : List (String × α) → List (String × α)
  | [] => []
  | (k, a) :: rest =>
    if rest.any (·.1 == k) then lastOfEach rest else (k, a) :: lastOfEach rest

def keyed? (read : Value → Option α) (entry : String × Value) : Option (String × α) :=
  (read entry.2).map fun a => (entry.1, a)

/-- The entries of a map. Every value that is written is read, and the last one of a key counts. -/
def map? (read : Value → Option α) : Value → Option (List (String × α))
  | .object es => (es.mapM (keyed? read)).map lastOfEach
  | _ => none

/-- The values of a record's fields: those of an object by their names, none of which may be written
twice, or those of an array in the order of the names. -/
def fields? (names : List String) : Value → Option (List (Option Value))
  | .object es =>
    if names.any fun name => 1 < (es.filter (·.1 == name)).length then none
    else some (names.map fun name => es.lookup name)
  | .array vs =>
    if names.length < vs.length then none
    else some (vs.map some ++ List.replicate (names.length - vs.length) none)
  | _ => none

def withDefault (fallback : α) (read : Value → Option α) : Option Value → Option α
  | none => some fallback
  | some v => read v

def required (read : Value → Option α) : Option Value → Option α
  | none => none
  | some v => read v

end RequestQuery.Json.Decode
