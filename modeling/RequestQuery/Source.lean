import RequestQuery.Schema.Catalog
import RequestQuery.Text.Blank

namespace RequestQuery

/-- The stores that statements are written for. -/
inductive Dialect where
  | sqlite
  | postgres
deriving DecidableEq, Repr, Inhabited

namespace Dialect

def name : Dialect → String
  | sqlite => "sqlite"
  | postgres => "postgres"

/-- Reads the name of a store, ASCII letters in any case. -/
def parse? (s : String) : Option Dialect :=
  let word := (Text.trim s).map Char.toLower
  if word == "sqlite" then some sqlite
  else if word == "postgres" || word == "postgresql" || word == "pg" then some postgres
  else none

/-- Whether the store has a pattern match that disregards case. -/
def hasNativeIlike : Dialect → Bool
  | sqlite => false
  | postgres => true

end Dialect

/-- A model of a catalog, and the store that holds its rows. -/
structure Source where
  catalog : Catalog
  model : Model
  dialect : Dialect
deriving DecidableEq, Repr

def Source.ofKey? (catalog : Catalog) (key : String) (dialect : Dialect) : Option Source :=
  (catalog.get? key).map fun m => ⟨catalog, m, dialect⟩

end RequestQuery
