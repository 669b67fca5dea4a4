import RequestQuery.CommandLine
import Std.Time.DateTime.Timestamp

/-!
The program: `--catalog FILE --model NAME QUERY` prints the statement for a query string.
-/
open RequestQuery
open RequestQuery.CommandLine

/-- The environment variable that may stand for an option. -/
def variableFor : Flag → Option String
  | .config => some "REQUEST_QUERY_CONFIG"
  | .catalog => some "REQUEST_QUERY_CATALOG"
  | .model => none
  | .dialect => some "REQUEST_QUERY_DIALECT"
  | .logLevel => some "REQUEST_QUERY_LOG_LEVEL"
  | .maxFilters => some "REQUEST_QUERY_MAX_FILTERS"
  | .maxNestingLevel => some "REQUEST_QUERY_MAX_NESTING_LEVEL"
  | .timezone => some "REQUEST_QUERY_TIMEZONE"

def readEnvironment : IO (List (Flag × String)) :=
  Flag.all.filterMapM fun flag => do
    match variableFor flag with
    | none => pure none
    | some name => pure ((← IO.getEnv name).map fun value => (flag, value))

/-- The text of a file, nothing if it cannot be read. -/
def readText (path : String) : IO (Option String) :=
  try
    pure (some (← IO.FS.readFile path))
  catch _ => pure none

def usage : String :=
  "usage: request-query --catalog FILE --model NAME [--config FILE] [--dialect NAME] " ++
    "[--max-filters N] [--max-nesting-level N] [--timezone NAME] [--restrict-sort] QUERY"

def main (args : List String) : IO UInt32 := do
  let environment ← readEnvironment
  match Options.parse? (fun flag => List.lookup flag environment) args with
  | none =>
    IO.eprintln usage
    pure 2
  | some options =>
    let configText ← match options.config with
      | some path => readText path
      | none => pure none
    let catalogText ← readText options.catalog
    let now ← Std.Time.Timestamp.now
    let outcome := CommandLine.run options configText catalogText now.toSecondsSinceUnixEpoch.val
    outcome.output.forM IO.println
    outcome.errors.forM IO.eprintln
    pure outcome.status.toUInt32
