import RequestQuery.Calendar.Pattern
import RequestQuery.Calendar.Zone
import RequestQuery.Edit
import RequestQuery.Operator.Table
import RequestQuery.Settings.Key
import RequestQuery.Text.Alphanumeric

namespace RequestQuery

open Json (Value)

namespace Settings

/-- Marks are single characters that neither stand in a field name nor part fields. -/
def isIndicator (key : String) : Bool :=
  match key.toList with
  | [c] => !Text.isAlphanumeric c && c != '_' && c != '.' && c != ','
  | _ => false

def isDatePattern (pattern : String) : Bool :=
  !pattern.isEmpty && (Calendar.PatternItem.parse? pattern.toList).isSome

/-- A preset has to be a map or a list. -/
def isPreset : Value → Bool
  | .object _ | .array _ => true
  | _ => false

def report (found : Bool) (p : SettingsProblem) : List SettingsProblem :=
  if found then [p] else []

def problems [Calendar.ZoneDatabase] (s : Settings) : List SettingsProblem :=
  report (s.maxFilters == 0) .zeroMaxFilters ++
    report (s.maxNestingLevel == 0) .zeroMaxNestingLevel ++
    report (s.search.minTermLength == 0) .zeroMinTermLength ++
    report (s.search.maxTerms == 0) .zeroMaxTerms ++
    report (s.pagination.perPage == 0) .zeroPerPage ++
    report (s.pagination.maxPerPage < s.pagination.perPage) .perPageAboveMax ++
    report (s.pagination.pageName.isEmpty || s.pagination.perPageName.isEmpty) .emptyPageName ++
    (s.sort.indicators.flatMap fun (key, _) => report (!isIndicator key) (.badIndicator key)) ++
    report (Calendar.Zone.find? s.dates.timezone).isNone (.unknownTimezone s.dates.timezone) ++
    report (!isDatePattern s.dates.pattern) (.badDatePattern s.dates.pattern) ++
    (match OperatorTable.withOverrides s.operators with
      | .ok _ => []
      | .error e => [.badStoreOperator e.key e.token]) ++
    s.presets.flatMap fun (key, preset) => report (!isPreset preset) (.badPreset key)

def indicatorChars (s : Settings) : List (Char × Direction) :=
  s.sort.indicators.filterMap fun (key, d) => key.toList.head?.map fun c => (c, d)

end Settings

/-- Settings in force. -/
structure Snapshot where
  settings : Settings
  operators : OperatorTable
  zone : Calendar.Zone
  indicators : List (Char × Direction)

namespace Snapshot

def indicator? (s : Snapshot) (c : Char) : Option Direction :=
  s.indicators.lookup c

section

variable [Calendar.ZoneDatabase]

/-- Puts settings into force. An unknown store operator and an unknown time zone are errors of their
own; all other problems are reported together. -/
def build (s : Settings) : Except SettingsError Snapshot :=
  match OperatorTable.withOverrides s.operators with
  | .error e => .error (.badStoreOperator e.key e.token)
  | .ok operators =>
    match Calendar.Zone.find? s.dates.timezone with
    | none => .error (.unknownTimezone s.dates.timezone)
    | some zone =>
      match s.problems with
      | [] => .ok ⟨s, operators, zone, s.indicatorChars⟩
      | problems => .error (.invalid problems)

/-- Puts settings in place of those in force, if they can be put into force. -/
def publish (settings : Settings) : Edit Snapshot SettingsError Unit := do
  let next ← ofExcept (build settings)
  modify fun _ => next

def setInPlace (key : String) (value : Value) : Edit Snapshot SettingsError Unit := do
  let s ← get
  let settings ← ofExcept (s.settings.withValue key value)
  publish settings

/-- Edits a copy of the settings in force and puts it in their place. -/
def updateInPlace (edit : Settings → Settings) : Edit Snapshot SettingsError Unit := do
  let s ← get
  publish (edit s.settings)

/-- Puts an option under its key. -/
def set (s : Snapshot) (key : String) (value : Value) : Except SettingsError Snapshot :=
  (setInPlace key value).result s

def replace (s : Snapshot) (settings : Settings) : Except SettingsError Snapshot :=
  (publish settings).result s

def update (s : Snapshot) (edit : Settings → Settings) : Except SettingsError Snapshot :=
  (updateInPlace edit).result s

end

end Snapshot

end RequestQuery
