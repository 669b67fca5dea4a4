import RequestQuery.Settings.Error
import RequestQuery.Settings.Json
import RequestQuery.Text.Blank

namespace RequestQuery.Settings

open Json (Value)

def walk? : Value → List String → Option Value
  | v, [] => some v
  | v, segment :: rest => (v.get? segment).bind fun w => walk? w rest

/-- The document with the object at the end of a path changed, if there is an object. -/
def modifyAt? (change : Json.Entries → Option Json.Entries) : Value → List String → Option Value
  | .object es, [] => (change es).map .object
  | .object es, segment :: rest =>
    (es.lookup segment).bind fun v =>
      (modifyAt? change v rest).map fun w => .object (Json.Entries.put es segment w)
  | _, _ => none

/-- The paths of the maps that take new keys. -/
def openMaps : List (List String) :=
  [["operators"], ["custom_filters"], ["presets"], ["sort", "direction_indicators"]]

/-- The option under a dotted key such as `search.max_terms`. -/
def get (s : Settings) (key : String) : Except SettingsError Value :=
  match walk? s.toValue (Text.split '.' key) with
  | some v => .ok v
  | none => .error (.unknownKey key)

/-- Puts a value under the last segment of a key; only open maps take a segment they do not have. -/
def putLeaf (parent : List String) (leaf : String) (value : Value) (es : Json.Entries) :
    Option Json.Entries :=
  if openMaps.contains parent || Json.Entries.hasKey es leaf then
    some (Json.Entries.put es leaf value)
  else none

def withValue (s : Settings) (key : String) (value : Value) : Except SettingsError Settings :=
  let segments := Text.split '.' key
  let leaf := segments.getLastD ""
  let parent := segments.dropLast
  if leaf == "" then .error (.unknownKey key)
  else
    match modifyAt? (putLeaf parent leaf value) s.toValue parent with
    | none => .error (.unknownKey key)
    | some v =>
      match ofValue? v with
      | none => .error (.badValue key)
      | some changed => .ok changed

end RequestQuery.Settings
