import RequestQuery.Operator.Basic

namespace RequestQuery

/-- The operators in force, each under its key. -/
structure OperatorTable where
  entries : List (String × Operator)
deriving DecidableEq, Repr

namespace OperatorTable

/-- The operators that are there without any configuration. -/
def builtinOperators : List Operator :=
  [⟨"eq", .eq, .comparison⟩,
    ⟨"ne", .ne, .comparison⟩,
    ⟨"neq", .ne, .comparison⟩,
    ⟨"gt", .gt, .comparison⟩,
    ⟨"gte", .gte, .comparison⟩,
    ⟨"lt", .lt, .comparison⟩,
    ⟨"lte", .lte, .comparison⟩,
    ⟨"like", .like, .pattern .wrap⟩,
    ⟨"not_like", .notLike, .pattern .wrap⟩,
    ⟨"ilike", .ilike, .pattern .wrap⟩,
    ⟨"not_ilike", .notIlike, .pattern .wrap⟩,
    ⟨"starts_with", .like, .pattern .startsWith⟩,
    ⟨"ends_with", .like, .pattern .endsWith⟩,
    ⟨"contains", .like, .pattern .contains⟩,
    ⟨"in", .isIn, .membership⟩,
    ⟨"not_in", .notIn, .membership⟩,
    ⟨"between", .between, .range⟩,
    ⟨"not_between", .notBetween, .range⟩,
    ⟨"null", .isNull, .nullCheck⟩,
    ⟨"not_null", .isNotNull, .nullCheck⟩,
    ⟨"today", .between, .relativeDate .today⟩,
    ⟨"yesterday", .between, .relativeDate .yesterday⟩,
    ⟨"this_week", .between, .relativeDate .thisWeek⟩,
    ⟨"last_week", .between, .relativeDate .lastWeek⟩,
    ⟨"this_month", .between, .relativeDate .thisMonth⟩,
    ⟨"last_month", .between, .relativeDate .lastMonth⟩,
    ⟨"this_year", .between, .relativeDate .thisYear⟩,
    ⟨"last_year", .between, .relativeDate .lastYear⟩,
    ⟨"last_x_days", .between, .relativeDate .lastDays⟩,
    ⟨"next_x_days", .between, .relativeDate .nextDays⟩]

def builtin : OperatorTable :=
  ⟨builtinOperators.map fun o => (o.key, o)⟩

def get? (t : OperatorTable) (key : String) : Option Operator :=
  t.entries.lookup key

def contains (t : OperatorTable) (key : String) : Bool :=
  (t.get? key).isSome

def size (t : OperatorTable) : Nat :=
  t.entries.length

/-- Puts an operator in the place of the one under its key, or at the end. -/
def insertEntry (o : Operator) : List (String × Operator) → List (String × Operator)
  | [] => [(o.key, o)]
  | (k, p) :: rest => if k == o.key then (k, o) :: rest else (k, p) :: insertEntry o rest

/-- The kind that a key has once it stands for another store operator: its own if the family stays,
else the one that the family suggests. -/
def kindFor (t : OperatorTable) (key : String) (store : StoreOperator) : OperatorKind :=
  match t.get? key with
  | some o => if o.kind.family == store.family then o.kind else .ofFamily store.family
  | none => .ofFamily store.family

def register (t : OperatorTable) (key : String) (store : StoreOperator) : OperatorTable :=
  ⟨insertEntry ⟨key, store, t.kindFor key store⟩ t.entries⟩

/-- An override whose token no store operator has. -/
structure BadOverride where
  key : String
  token : String
deriving DecidableEq, Repr

/-- Lays overrides over a table, in order; the first that names no store operator is refused. -/
def override (t : OperatorTable) : List (String × String) → Except BadOverride OperatorTable
  | [] => .ok t
  | (key, token) :: rest =>
    match StoreOperator.parse? token with
    | none => .error ⟨key, token⟩
    | some store => (t.register key store).override rest

/-- The built-in operators with overrides laid over them. -/
def withOverrides (overrides : List (String × String)) : Except BadOverride OperatorTable :=
  builtin.override overrides

def tokens (t : OperatorTable) : List (String × String) :=
  (t.entries.map fun (_, o) => (o.key, o.store.token)).mergeSort fun a b => a.1 ≤ b.1

end OperatorTable

end RequestQuery
