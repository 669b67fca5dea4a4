import RequestQuery.Connective
import RequestQuery.Json.Value

namespace RequestQuery

open Json (Value)

/-- How a search text falls into terms, and how the terms are matched. -/
structure SearchSettings where
  /-- The least number of characters of a term. -/
  minTermLength : Nat
  /-- The number of terms that are used. -/
  maxTerms : Nat
  /-- Words that are no terms. -/
  blacklist : List String
  mode : Connective
  caseSensitive : Bool
deriving DecidableEq, Repr

structure SortSettings where
  /-- The direction of a sort key that names none. -/
  defaultDirection : Direction
  /-- The marks before or after a field that stand for a direction. -/
  indicators : List (String × Direction)
  /-- Whether any column will do when neither the call nor the model names the columns. -/
  allowAnyColumn : Bool
deriving DecidableEq, Repr

structure PageSettings where
  /-- The size of a page for which the request names none. -/
  perPage : Nat
  /-- The largest size of a page. -/
  maxPerPage : Nat
  /-- The request parameter with the number of the page. -/
  pageName : String
  /-- The request parameter with the size of the page. -/
  perPageName : String
deriving DecidableEq, Repr

structure DateSettings where
  /-- The zone whose calendar tells which day is today. -/
  timezone : String
  /-- The pattern for the ends of a period. -/
  pattern : String
deriving DecidableEq, Repr

structure OperandSettings where
  /-- Whether a list keeps only the first of equal values. -/
  dedupeIn : Bool
  /-- Whether both bounds of a range have to be numbers. -/
  strictBetween : Bool
deriving DecidableEq, Repr

/-- The options that steer how requests are read. Maps are kept in the order of their keys. -/
structure Settings where
  /-- Operator keys with the store operators they stand for, over the built-in ones. -/
  operators : List (String × String)
  /-- The fields that may be filtered on a model without a list of its own, if there are any
  here. -/
  globalWhitelist : List String
  /-- The number of top-level filters of a call. -/
  maxFilters : Nat
  /-- How deep groups and relations may nest together. -/
  maxNestingLevel : Nat
  search : SearchSettings
  sort : SortSettings
  pagination : PageSettings
  /-- Operator keys with the names of the handlers that build their conditions. -/
  customFilters : List (String × String)
  /-- Filters under a name. -/
  presets : List (String × Value)
  dates : DateSettings
  operands : OperandSettings

namespace Settings

def default : Settings where
  operators := []
  globalWhitelist := []
  maxFilters := 50
  maxNestingLevel := 3
  search := ⟨2, 10, [], .and, false⟩
  sort := ⟨.ascending, [("+", .ascending), ("-", .descending)], true⟩
  pagination := ⟨15, 100, "page", "per_page"⟩
  customFilters := []
  presets := []
  dates := ⟨"UTC", "%Y-%m-%d %H:%M:%S"⟩
  operands := ⟨false, false⟩

instance : Inhabited Settings := ⟨default⟩

end Settings

end RequestQuery
