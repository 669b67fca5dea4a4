import RequestQuery.Calendar.Zone.Table
import RequestQuery.Engine
import RequestQuery.Statement.Render

namespace RequestQuery.CommandLine

/-- The options of the command line. -/
inductive Flag where
  | config
  | catalog
  | model
  | dialect
  | logLevel
  | maxFilters
  | maxNestingLevel
  | timezone
deriving DecidableEq, Repr

def Flag.name : Flag → String
  | config => "config"
  | catalog => "catalog"
  | model => "model"
  | dialect => "dialect"
  | logLevel => "log-level"
  | maxFilters => "max-filters"
  | maxNestingLevel => "max-nesting-level"
  | timezone => "timezone"

def Flag.all : List Flag :=
  [.config, .catalog, .model, .dialect, .logLevel, .maxFilters, .maxNestingLevel, .timezone]

def Flag.ofName? (name : String) : Option Flag :=
  Flag.all.find? (·.name == name)

/-- What stands on the command line, each thing at most once. -/
structure Words where
  values : List (Flag × String)
  restrictSort : Bool
  query : Option String

def Words.empty : Words :=
  ⟨[], false, none⟩

def Words.addValue (w : Words) (flag : Flag) (value : String) : Option Words :=
  if (w.values.lookup flag).isSome then none
  else some { w with values := (flag, value) :: w.values }

def Words.addRestrictSort (w : Words) : Option Words :=
  if w.restrictSort then none else some { w with restrictSort := true }

def Words.addQuery (w : Words) (query : String) : Option Words :=
  if w.query.isSome then none else some { w with query := some query }

/-- Whether an argument begins like an option. A single hyphen does not. -/
def isOption (arg : String) : Bool :=
  match arg.toList with
  | '-' :: _ :: _ => true
  | _ => false

/-- The name of a long option and the value after its equals sign. -/
def splitLong? (arg : String) : Option (String × Option String) :=
  match arg.toList with
  | '-' :: '-' :: rest =>
    match Text.splitOnce '=' rest with
    | some (name, value) => some (String.ofList name, some (String.ofList value))
    | none => some (String.ofList rest, none)
  | _ => none

/-- Reads arguments after a double hyphen, none of which is an option. -/
def readPlain (w : Words) : List String → Option Words
  | [] => some w
  | arg :: rest => (w.addQuery arg).bind fun w => readPlain w rest

/-- Reads arguments. The value of an option may not begin like an option itself. -/
def readWords (w : Words) : List String → Option Words
  | [] => some w
  | arg :: rest =>
    if arg == "--" then readPlain w rest
    else if !isOption arg then (w.addQuery arg).bind fun w => readWords w rest
    else
      match splitLong? arg with
      | none => none
      | some ("restrict-sort", none) => w.addRestrictSort.bind fun w => readWords w rest
      | some (name, value) =>
        match Flag.ofName? name, value with
        | none, _ => none
        | some flag, some value => (w.addValue flag value).bind fun w => readWords w rest
        | some flag, none =>
          match rest with
          | [] => none
          | value :: rest =>
            if isOption value then none
            else (w.addValue flag value).bind fun w => readWords w rest

/-- What the command line asks for. -/
structure Options where
  config : Option String
  catalog : String
  model : String
  dialect : String
  maxFilters : Option Nat
  maxNestingLevel : Option Nat
  timezone : Option String
  restrictSort : Bool
  query : String
deriving DecidableEq, Repr

/-- An optional number; text that is no number is an error. -/
def readCount : Option String → Option (Option Nat)
  | none => some none
  | some s => (Text.readUnsigned64? s).map some

/-- An optional path, which may not be empty. -/
def readPath : Option String → Option (Option String)
  | none => some none
  | some s => if s.isEmpty then none else some (some s)

/-- Reads the arguments. An option that is not given may stand in the environment, except the
model. -/
def Options.parse? (environment : Flag → Option String) (args : List String) : Option Options := do
  let words ← readWords .empty args
  let value (flag : Flag) : Option String := (words.values.lookup flag) <|> environment flag
  let config ← readPath (value .config)
  let catalog ← (← readPath (value .catalog))
  let model ← words.values.lookup .model
  let maxFilters ← readCount (value .maxFilters)
  let maxNestingLevel ← readCount (value .maxNestingLevel)
  let query ← words.query
  pure {
    config, catalog, model, maxFilters, maxNestingLevel, query
    dialect := (value .dialect).getD "sqlite"
    timezone := value .timezone
    restrictSort := words.restrictSort }

/-- What the program prints, and its exit status. -/
structure Outcome where
  status : Nat
  output : List String
  errors : List String
deriving DecidableEq, Repr

def Outcome.failure (message : String) : Outcome :=
  ⟨1, [], ["Error: " ++ message]⟩

def Options.applyTo (o : Options) (s : Settings) : Settings :=
  { s with
    maxFilters := o.maxFilters.getD s.maxFilters
    maxNestingLevel := o.maxNestingLevel.getD s.maxNestingLevel
    dates := { s.dates with timezone := o.timezone.getD s.dates.timezone }
    sort := { s.sort with allowAnyColumn := s.sort.allowAnyColumn && !o.restrictSort } }

def loadLine (load : EagerLoad) : String :=
  match load.order with
  | some key =>
    "  with " ++ load.relation ++ " ORDER BY " ++ key.column ++ " " ++ key.direction.keyword
  | none => "  with " ++ load.relation

/-- The lines for a query: the statement, its values, and the relations to load. -/
def queryLines (q : Query) (statement : Statement.Fragment) : List String :=
  statement.text ::
    (statement.params.zipIdx 1).map (fun (p, i) => "  ?" ++ toString i ++ " = " ++ p.literal) ++
    q.eagerLoads.map loadLine

/-- Prints the statement for a request, or says why there is none. -/
def answer (engine : Engine) (source : Source) (queryString : String) : Outcome :=
  match engine.applyRequest (Query.ofSource source) queryString none with
  | .error e => ⟨2, [], ["error[" ++ e.kind ++ "]: " ++ e.message]⟩
  | .ok (q, _) =>
    match q.statement with
    | .error e => .failure e.message
    | .ok statement => ⟨0, queryLines q statement, []⟩

/-- The settings of a file, or the default ones without a file. A file that cannot be read has no
text. -/
def loadSettings (o : Options) (text : Option String) : Except Outcome Settings :=
  match o.config with
  | none => .ok .default
  | some path =>
    match text.bind Settings.ofText? with
    | some s => .ok s
    | none => .error (.failure ("Failed to load configuration from " ++ path))

def loadCatalog (o : Options) (text : Option String) : Except Outcome Catalog :=
  match text with
  | none => .error (.failure ("Failed to load catalog from " ++ o.catalog))
  | some text =>
    match Catalog.ofText text with
    | .ok c => .ok c
    | .error _ => .error (.failure ("Failed to load catalog from " ++ o.catalog))

/-- Settings without problems; each problem has a line of its own. -/
def checkSettings [Calendar.ZoneDatabase] (s : Settings) : Except Outcome Unit :=
  match s.problems with
  | [] => .ok ()
  | problems => .error ⟨1, [], problems.map fun p => "Configuration error: " ++ p.message⟩

def findSource (o : Options) (catalog : Catalog) : Except Outcome Source :=
  match Dialect.parse? o.dialect with
  | none => .error (.failure ("Unknown dialect '" ++ o.dialect ++ "'"))
  | some dialect =>
    match Source.ofKey? catalog o.model dialect with
    | none => .error (.failure ("Unknown model '" ++ o.model ++ "'"))
    | some source => .ok source

/-- Runs the program on the texts of its files, up to the first thing that is wrong. -/
def run [Calendar.ZoneDatabase] (o : Options) (configText catalogText : Option String) (now : Int) :
    Outcome :=
  let result : Except Outcome Outcome := do
    let settings ← loadSettings o configText
    let settings := o.applyTo settings
    checkSettings settings
    let catalog ← loadCatalog o catalogText
    let source ← findSource o catalog
    match Snapshot.build settings with
    | .error e => .error (.failure e.message)
    | .ok snapshot => .ok (answer ⟨snapshot, [], now⟩ source o.query)
  match result with
  | .ok outcome => outcome
  | .error outcome => outcome

end RequestQuery.CommandLine
