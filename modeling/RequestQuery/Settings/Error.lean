namespace RequestQuery

/-- What can be wrong with settings. -/
inductive SettingsProblem where
  | zeroMaxFilters
  | zeroMaxNestingLevel
  | zeroMinTermLength
  | zeroMaxTerms
  | zeroPerPage
  | perPageAboveMax
  | emptyPageName
  | badIndicator (key : String)
  | unknownTimezone (name : String)
  | badDatePattern (pattern : String)
  | badStoreOperator (key token : String)
  | badPreset (key : String)
deriving DecidableEq, Repr

def SettingsProblem.message : SettingsProblem → String
  | zeroMaxFilters => "max_filters cannot be 0"
  | zeroMaxNestingLevel => "max_nesting_level cannot be 0"
  | zeroMinTermLength => "search.min_term_length cannot be 0"
  | zeroMaxTerms => "search.max_terms cannot be 0"
  | zeroPerPage => "pagination.per_page cannot be 0"
  | perPageAboveMax => "pagination.per_page cannot exceed pagination.max_per_page"
  | emptyPageName => "pagination parameter names cannot be empty"
  | badIndicator key =>
    "sort.direction_indicators key '" ++ key ++
      "' must be one punctuation character other than '_', '.' or ','"
  | unknownTimezone name => "unknown timezone '" ++ name ++ "'"
  | badDatePattern pattern => "invalid date format '" ++ pattern ++ "'"
  | badStoreOperator key token =>
    "operator '" ++ key ++ "' maps to unsupported store operator '" ++ token ++ "'"
  | badPreset key => "preset '" ++ key ++ "' must be a map or list of filters"

/-- Why settings cannot be read, changed or put into force. -/
inductive SettingsError where
  | unreadable
  | unknownKey (key : String)
  | badValue (key : String)
  | badStoreOperator (key token : String)
  | unknownTimezone (name : String)
  | invalid (problems : List SettingsProblem)
deriving DecidableEq, Repr

/-- The kind of an error, by which callers tell errors apart. -/
def SettingsError.kind : SettingsError → String
  | unreadable | invalid _ => "invalid-configuration"
  | unknownKey _ => "unknown-config-key"
  | badValue _ => "invalid-config-value"
  | badStoreOperator .. => "invalid-store-operator"
  | unknownTimezone _ => "unknown-timezone"

def SettingsError.message : SettingsError → String
  | unreadable => "failed to parse configuration"
  | unknownKey key => "unknown configuration key '" ++ key ++ "'"
  | badValue key => "invalid value for '" ++ key ++ "'"
  | badStoreOperator key token => (SettingsProblem.badStoreOperator key token).message
  | unknownTimezone name => (SettingsProblem.unknownTimezone name).message
  | invalid problems =>
    "invalid configuration: " ++ String.intercalate "; " (problems.map SettingsProblem.message)

end RequestQuery
