import RequestQuery.Json.Decode
import RequestQuery.Json.Parser
import RequestQuery.Settings.Basic

/-!
Settings as JSON documents. Options that a document leaves out keep their defaults, and options it
should not have are passed over.
-/
namespace RequestQuery

open Json (Value)
open Json.Decode

namespace Settings

/-- The entries of a map in the order of its keys. -/
def byKey (entries : List (String × α)) : List (String × α) :=
  entries.mergeSort fun a b => a.1 ≤ b.1

def sortedMap? (read : Value → Option α) (v : Value) : Option (List (String × α)) :=
  (map? read v).map byKey

def connective? (v : Value) : Option Connective :=
  (choice? v).bind fun name =>
    if name == "and" then some .and else if name == "or" then some .or else none

def direction? (v : Value) : Option Direction :=
  (choice? v).bind Direction.ofName?

end Settings

def SearchSettings.ofValue? (v : Value) : Option SearchSettings :=
  let base := Settings.default.search
  match fields? ["min_term_length", "max_terms", "blacklist", "mode", "case_sensitive"] v with
  | some [minTermLength, maxTerms, blacklist, mode, caseSensitive] => do
    let minTermLength ← withDefault base.minTermLength count? minTermLength
    let maxTerms ← withDefault base.maxTerms count? maxTerms
    let blacklist ← withDefault base.blacklist (list? string?) blacklist
    let mode ← withDefault base.mode Settings.connective? mode
    let caseSensitive ← withDefault base.caseSensitive bool? caseSensitive
    pure ⟨minTermLength, maxTerms, blacklist, mode, caseSensitive⟩
  | _ => none

def SearchSettings.toValue (s : SearchSettings) : Value :=
  .object [("min_term_length", .number (.int s.minTermLength)),
    ("max_terms", .number (.int s.maxTerms)),
    ("blacklist", .array (s.blacklist.map .string)),
    ("mode", .string s.mode.name),
    ("case_sensitive", .bool s.caseSensitive)]

def SortSettings.ofValue? (v : Value) : Option SortSettings :=
  let base := Settings.default.sort
  match fields? ["default_direction", "direction_indicators", "allow_any_column"] v with
  | some [defaultDirection, indicators, allowAnyColumn] => do
    let defaultDirection ← withDefault base.defaultDirection Settings.direction? defaultDirection
    let indicators ←
      withDefault base.indicators (Settings.sortedMap? Settings.direction?) indicators
    let allowAnyColumn ← withDefault base.allowAnyColumn bool? allowAnyColumn
    pure ⟨defaultDirection, indicators, allowAnyColumn⟩
  | _ => none

def SortSettings.toValue (s : SortSettings) : Value :=
  .object [("default_direction", .string s.defaultDirection.name),
    ("direction_indicators", .object (s.indicators.map fun (k, d) => (k, .string d.name))),
    ("allow_any_column", .bool s.allowAnyColumn)]

def PageSettings.ofValue? (v : Value) : Option PageSettings :=
  let base := Settings.default.pagination
  match fields? ["per_page", "max_per_page", "page_name", "per_page_name"] v with
  | some [perPage, maxPerPage, pageName, perPageName] => do
    let perPage ← withDefault base.perPage count? perPage
    let maxPerPage ← withDefault base.maxPerPage count? maxPerPage
    let pageName ← withDefault base.pageName string? pageName
    let perPageName ← withDefault base.perPageName string? perPageName
    pure ⟨perPage, maxPerPage, pageName, perPageName⟩
  | _ => none

def PageSettings.toValue (s : PageSettings) : Value :=
  .object [("per_page", .number (.int s.perPage)),
    ("max_per_page", .number (.int s.maxPerPage)),
    ("page_name", .string s.pageName),
    ("per_page_name", .string s.perPageName)]

def DateSettings.ofValue? (v : Value) : Option DateSettings :=
  let base := Settings.default.dates
  match fields? ["timezone", "format"] v with
  | some [timezone, pattern] => do
    let timezone ← withDefault base.timezone string? timezone
    let pattern ← withDefault base.pattern string? pattern
    pure ⟨timezone, pattern⟩
  | _ => none

def DateSettings.toValue (s : DateSettings) : Value :=
  .object [("timezone", .string s.timezone), ("format", .string s.pattern)]

def OperandSettings.ofValue? (v : Value) : Option OperandSettings :=
  let base := Settings.default.operands
  match fields? ["dedupe_in", "strict_between"] v with
  | some [dedupeIn, strictBetween] => do
    let dedupeIn ← withDefault base.dedupeIn bool? dedupeIn
    let strictBetween ← withDefault base.strictBetween bool? strictBetween
    pure ⟨dedupeIn, strictBetween⟩
  | _ => none

def OperandSettings.toValue (s : OperandSettings) : Value :=
  .object [("dedupe_in", .bool s.dedupeIn), ("strict_between", .bool s.strictBetween)]

namespace Settings

/-- The names of the options, in the order in which they are written. -/
def optionNames : List String :=
  ["operators", "global_whitelist", "max_filters", "max_nesting_level", "search", "sort",
    "pagination", "custom_filters", "presets", "dates", "operands"]

def ofValue? (v : Value) : Option Settings :=
  match fields? optionNames v with
  | some [operators, globalWhitelist, maxFilters, maxNestingLevel, search, sort, pagination,
      customFilters, presets, dates, operands] => do
    let base := default
    let operators ← withDefault base.operators (sortedMap? string?) operators
    let globalWhitelist ← withDefault base.globalWhitelist (list? string?) globalWhitelist
    let maxFilters ← withDefault base.maxFilters count? maxFilters
    let maxNestingLevel ← withDefault base.maxNestingLevel count? maxNestingLevel
    let search ← withDefault base.search SearchSettings.ofValue? search
    let sort ← withDefault base.sort SortSettings.ofValue? sort
    let pagination ← withDefault base.pagination PageSettings.ofValue? pagination
    let customFilters ← withDefault base.customFilters (sortedMap? string?) customFilters
    let presets ← withDefault base.presets (sortedMap? fun v => some v.merged) presets
    let dates ← withDefault base.dates DateSettings.ofValue? dates
    let operands ← withDefault base.operands OperandSettings.ofValue? operands
    pure ⟨operators, globalWhitelist, maxFilters, maxNestingLevel, search, sort, pagination,
      customFilters, presets, dates, operands⟩
  | _ => none

def toValue (s : Settings) : Value :=
  .object [("operators", .object (s.operators.map fun (k, t) => (k, .string t))),
    ("global_whitelist", .array (s.globalWhitelist.map .string)),
    ("max_filters", .number (.int s.maxFilters)),
    ("max_nesting_level", .number (.int s.maxNestingLevel)),
    ("search", s.search.toValue),
    ("sort", s.sort.toValue),
    ("pagination", s.pagination.toValue),
    ("custom_filters", .object (s.customFilters.map fun (k, t) => (k, .string t))),
    ("presets", .object s.presets),
    ("dates", s.dates.toValue),
    ("operands", s.operands.toValue)]

def ofText? (s : String) : Option Settings :=
  (Json.parseWritten? s).bind ofValue?

end Settings

end RequestQuery
