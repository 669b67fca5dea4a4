import RequestQuery.Text.Blank
import RequestQuery.Text.Case

namespace RequestQuery

/-- The family of a store operator decides which kind of condition it builds. -/
inductive OperatorFamily where
  | comparison
  | pattern
  | membership
  | range
  | nullCheck
deriving DecidableEq, Repr

/-- The operators that a store understands. -/
inductive StoreOperator where
  | eq
  | ne
  | gt
  | gte
  | lt
  | lte
  | like
  | notLike
  | ilike
  | notIlike
  | isIn
  | notIn
  | between
  | notBetween
  | isNull
  | isNotNull
deriving DecidableEq, Repr, Inhabited

namespace StoreOperator

/-- The spelling in a statement. -/
def token : StoreOperator → String
  | eq => "="
  | ne => "!="
  | gt => ">"
  | gte => ">="
  | lt => "<"
  | lte => "<="
  | like => "LIKE"
  | notLike => "NOT LIKE"
  | ilike => "ILIKE"
  | notIlike => "NOT ILIKE"
  | isIn => "IN"
  | notIn => "NOT IN"
  | between => "BETWEEN"
  | notBetween => "NOT BETWEEN"
  | isNull => "IS NULL"
  | isNotNull => "IS NOT NULL"

/-- Every spelling that is read, with its operator. -/
def spellings : List (String × StoreOperator) :=
  [("=", eq), ("==", eq), ("!=", ne), ("<>", ne), (">", gt), (">=", gte), ("<", lt), ("<=", lte),
    ("LIKE", like), ("NOT LIKE", notLike), ("ILIKE", ilike), ("NOT ILIKE", notIlike),
    ("IN", isIn), ("NOT IN", notIn), ("BETWEEN", between), ("NOT BETWEEN", notBetween),
    ("IS NULL", isNull), ("IS NOT NULL", isNotNull)]

/-- Reads an operator in any case and with any white space between its words. -/
def parse? (s : String) : Option StoreOperator :=
  spellings.lookup (String.ofList ((Text.collapse s.toList).map Text.Case.keywordChar))

def family : StoreOperator → OperatorFamily
  | eq | ne | gt | gte | lt | lte => .comparison
  | like | notLike | ilike | notIlike => .pattern
  | isIn | notIn => .membership
  | between | notBetween => .range
  | isNull | isNotNull => .nullCheck

def isNegated : StoreOperator → Bool
  | ne | notLike | notIlike | notIn | notBetween | isNotNull => true
  | _ => false

def isCaseInsensitive : StoreOperator → Bool
  | ilike | notIlike => true
  | _ => false

end StoreOperator

/-- How a pattern operator makes its pattern from the operand. -/
inductive PatternStyle where
  /-- Between two wildcards, unless the operand has a wildcard of its own. -/
  | wrap
  /-- The operand itself, then anything. -/
  | startsWith
  /-- Anything, then the operand itself. -/
  | endsWith
  /-- The operand itself between two wildcards. -/
  | contains
deriving DecidableEq, Repr

inductive Period where
  | today
  | yesterday
  | thisWeek
  | lastWeek
  | thisMonth
  | lastMonth
  | thisYear
  | lastYear
  /-- The given number of days before today, and today. -/
  | lastDays
  /-- Today and the given number of days after it. -/
  | nextDays
deriving DecidableEq, Repr

def Period.takesDayCount : Period → Bool
  | lastDays | nextDays => true
  | _ => false

/-- The shape of the operand that an operator asks for. -/
inductive OperandShape where
  | none
  | single
  | list
  | pair
deriving DecidableEq, Repr

def OperandShape.describe : OperandShape → String
  | none => "no value"
  | single => "a single value"
  | list => "a non-empty list"
  | pair => "exactly two values"

/-- How many terms an operator relates. -/
inductive Arity where
  | unary
  | binary
  | nary
deriving DecidableEq, Repr

/-- What evaluating an operator produces. -/
inductive OperatorKind where
  | comparison
  | pattern (style : PatternStyle)
  | membership
  | range
  | nullCheck
  | relativeDate (period : Period)
deriving DecidableEq, Repr

namespace OperatorKind

/-- The family of the store operators that the kind works with. -/
def family : OperatorKind → OperatorFamily
  | comparison => .comparison
  | pattern _ => .pattern
  | membership => .membership
  | range => .range
  | nullCheck => .nullCheck
  | relativeDate _ => .range

/-- The kind of an operator of which nothing is known but its family. -/
def ofFamily : OperatorFamily → OperatorKind
  | .comparison => comparison
  | .pattern => pattern .wrap
  | .membership => membership
  | .range => range
  | .nullCheck => nullCheck

@[simp] theorem family_ofFamily (f : OperatorFamily) : (ofFamily f).family = f := by
  cases f <;> rfl

def shape : OperatorKind → OperandShape
  | comparison => .single
  | pattern _ => .single
  | membership => .list
  | range => .pair
  | nullCheck => .none
  | relativeDate period => if period.takesDayCount then .single else .none

def arity (k : OperatorKind) : Arity :=
  match k.shape with
  | .none => .unary
  | .single => .binary
  | .list | .pair => .nary

end OperatorKind

/-- An operator under the key by which requests name it. -/
structure Operator where
  key : String
  store : StoreOperator
  kind : OperatorKind
deriving DecidableEq, Repr

end RequestQuery
