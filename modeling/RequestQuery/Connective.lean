import RequestQuery.Text.Blank
import RequestQuery.Text.Case

namespace RequestQuery

/-- How sibling conditions are joined. -/
inductive Connective where
  | and
  | or
deriving DecidableEq, Repr, Inhabited

namespace Connective

def name : Connective → String
  | and => "and"
  | or => "or"

/-- Reads a connective in any case, white space around it aside. -/
def parse? (s : String) : Option Connective :=
  let word := Text.lowercase (Text.trim s)
  if word == "and" then some and
  else if word == "or" then some or
  else none

end Connective

/-- The direction of a sort key. -/
inductive Direction where
  | ascending
  | descending
deriving DecidableEq, Repr, Inhabited

namespace Direction

def name : Direction → String
  | ascending => "asc"
  | descending => "desc"

def flip : Direction → Direction
  | ascending => descending
  | descending => ascending

def ofName? (word : String) : Option Direction :=
  if word == "asc" || word == "ascending" then some ascending
  else if word == "desc" || word == "descending" then some descending
  else none

/-- Reads a direction in any case, white space around it aside. -/
def parse? (s : String) : Option Direction :=
  ofName? (Text.lowercase (Text.trim s))

end Direction

end RequestQuery
