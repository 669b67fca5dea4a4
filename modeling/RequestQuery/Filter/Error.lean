import RequestQuery.Cast
import RequestQuery.Connective
import RequestQuery.Operator.Basic
import RequestQuery.Schema.Catalog

namespace RequestQuery

inductive ExpectedInput where
  | filter
  | group
  | connective
  | filters
  | groups
  | members (c : Connective)
deriving DecidableEq, Repr

def ExpectedInput.describe : ExpectedInput → String
  | filter => "a map of filters or a list of groups"
  | group => "a group object"
  | connective => "'and' or 'or'"
  | filters => "a map of filters"
  | groups => "a list of groups"
  | members c => "a map or list of filters under '" ++ c.name ++ "'"

/-- What is wrong with a field path. -/
inductive FieldFault where
  | invalidName
  | notListed
deriving DecidableEq, Repr

def FieldFault.reason : FieldFault → String
  | invalidName => "invalid field name"
  | notListed => "not in whitelist"

/-- What is wrong with the value of an operand that has the right shape. -/
inductive OperandFault where
  | cast (fault : CastFault)
  | unorderedNull
  | notText
  | reversedBounds
  | nonNumericBounds
  | notDayCount
  | datesOutOfBounds
deriving DecidableEq, Repr

def OperandFault.message : OperandFault → String
  | cast fault => fault.message
  | unorderedNull => "null cannot be ordered"
  | notText => "expected text to match"
  | reversedBounds => "lower bound is greater than upper bound"
  | nonNumericBounds => "bounds must be numeric"
  | notDayCount => "expected a non-negative whole number of days"
  | datesOutOfBounds => "date range out of bounds"

/-- Why a filter is refused. -/
inductive FilterError where
  | badInput (expected : ExpectedInput) (found : String)
  | tooMany (count max : Nat)
  | unsupportedOperator (field operator : String)
  | notFilterable (field : String) (fault : FieldFault)
  | unknownRelation (e : UnknownRelation)
  | tooDeep (path : String) (depth max : Nat)
  | badShape (field operator : String) (expected : OperandShape) (found : String)
  | badOperand (field operator valueType : String) (fault : OperandFault)
  | unknownPreset (name : String)
  | rejected (field handler reason : String)
deriving DecidableEq, Repr

/-- The kind of an error, by which callers tell errors apart. -/
def FilterError.kind : FilterError → String
  | badInput .. => "invalid-input-shape"
  | tooMany .. => "too-many-filters"
  | unsupportedOperator .. => "unsupported-operator"
  | notFilterable .. => "field-not-filterable"
  | unknownRelation _ => UnknownRelation.kind
  | tooDeep .. => "nesting-too-deep"
  | badShape .. => "operand-arity-mismatch"
  | badOperand .. => "operand-type-mismatch"
  | unknownPreset _ => "unknown-preset"
  | rejected .. => "custom-filter-rejected"

def FilterError.message : FilterError → String
  | badInput expected found =>
    "invalid filter input: expected " ++ expected.describe ++ ", found " ++ found
  | tooMany count max =>
    "too many filters: " ++ toString count ++ " given, maximum is " ++ toString max
  | unsupportedOperator field operator =>
    "unsupported operator '" ++ operator ++ "' on field '" ++ field ++ "'"
  | notFilterable field fault => "field '" ++ field ++ "' is not filterable: " ++ fault.reason
  | unknownRelation e => e.message
  | tooDeep path depth max =>
    "nesting depth " ++ toString depth ++ " at '" ++ path ++ "' exceeds maximum " ++ toString max
  | badShape field operator expected found =>
    "operator '" ++ operator ++ "' on field '" ++ field ++ "' expects " ++ expected.describe ++
      ", got " ++ found
  | badOperand field operator valueType fault =>
    "operator '" ++ operator ++ "' on field '" ++ field ++ "' cannot use " ++ valueType ++
      " operand: " ++ fault.message
  | unknownPreset name => "unknown filter preset '" ++ name ++ "'"
  | rejected field handler reason =>
    "custom filter '" ++ handler ++ "' rejected value for field '" ++ field ++ "': " ++ reason

end RequestQuery
