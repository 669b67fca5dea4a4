import RequestQuery.Statement.Render

namespace RequestQuery

open Json (Value)

namespace Statement

inductive Token where
  /-- A name, keyword, operator or number. -/
  | word (s : String)
  | dot
  | comma
  | openParen
  /-- The call of the function that lowers a text, up to its parenthesis. -/
  | openLower
  | closeParen
  /-- A value to bind. -/
  | bound (p : Param)
deriving DecidableEq

namespace Token

/-- Whether the token follows the one before it without a space. -/
def joinsLeft : Token → Bool
  | dot | comma | closeParen => true
  | _ => false

/-- Whether the next token follows without a space. -/
def joinsRight : Token → Bool
  | dot | openParen | openLower => true
  | _ => false

def param? : Token → Option Param
  | bound p => some p
  | _ => none

/-- The text of a token, a value to bind being the `n`-th. -/
def text (n : Nat) : Token → List Char
  | word s => s.toList
  | dot => ['.']
  | comma => [',']
  | openParen => ['(']
  | openLower => ['L', 'O', 'W', 'E', 'R', '(']
  | closeParen => [')']
  | bound _ => '?' :: Nat.toDigits 10 n

end Token

/-- The text of tokens after a token that they may join, the first value to bind being the
`n`-th. -/
def textAfter (joined : Bool) (n : Nat) : List Token → List Char
  | [] => []
  | t :: rest =>
    (if joined || t.joinsLeft then [] else [' ']) ++ t.text n ++
      textAfter t.joinsRight (if t.param?.isSome then n + 1 else n) rest

/-- The values to bind, in order. -/
def params (tokens : List Token) : List Param :=
  tokens.filterMap Token.param?

def Fragment.ofTokens (tokens : List Token) : Fragment :=
  ⟨String.ofList (textAfter true 1 tokens), Statement.params tokens⟩

def column (table name : String) : List Token :=
  [.word table, .dot, .word name]

def bind (v : Value) : Token :=
  .bound (Param.ofValue v)

def separated (separator : Token) : List (List Token) → List Token
  | [] => []
  | [part] => part
  | part :: parts => part ++ separator :: separated separator parts

/-- A condition that holds of every row, or of none. -/
def constant (holds : Bool) : List Token :=
  [.word "1", .word "=", .word (if holds then "1" else "0")]

/-- The mark that takes a wildcard in a pattern its meaning. -/
def escapeClause : List Token :=
  [.word "ESCAPE", .word "'\\'"]

/-- A pattern match, both sides lowered by the store if asked for and if the operator is plain. -/
def patternTokens (scope name : String) (op : StoreOperator) (text : String)
    (caseInsensitive : Bool) : List Token :=
  let value := Token.bound (.string text)
  if caseInsensitive && (op == .like || op == .notLike) then
    .openLower :: column scope name ++
      [.closeParen, .word op.token, .openLower, value, .closeParen] ++ escapeClause
  else column scope name ++ [.word op.token, value] ++ escapeClause

def existsTokens (scope inside : String) (r : Relation) (target : Model) (inner : List Token) :
    List Token :=
  [.word "EXISTS", .openParen, .word "SELECT", .word "1", .word "FROM", .word target.table,
    .word inside, .word "WHERE"] ++ column inside r.relatedColumn ++ [.word "="] ++
    column scope r.parentColumn ++ [.word "AND"] ++ inner ++ [.closeParen]

end Statement

namespace Predicate

open Statement

mutual

/-- The tokens of a condition on the rows of `m`, which are named `scope` and stand inside `depth`
subqueries. -/
def tokens (catalog : Catalog) (m : Model) (scope : String) (depth : Nat) :
    Predicate → Except UnknownRelation (List Token)
  | compare name op value => .ok (column scope name ++ [.word op.token, bind value])
  | pattern name op text caseInsensitive => .ok (patternTokens scope name op text caseInsensitive)
  | member _ [] negated => .ok (constant negated)
  | member name values negated =>
    let op := if negated then StoreOperator.notIn else .isIn
    .ok (column scope name ++ [.word op.token, .openParen] ++
      separated .comma (values.map fun v => [bind v]) ++ [.closeParen])
  | between name low high negated =>
    let op := if negated then StoreOperator.notBetween else .between
    .ok (column scope name ++ [.word op.token, bind low, .word "AND", bind high])
  | null name negated =>
    let op := if negated then StoreOperator.isNotNull else .isNull
    .ok (column scope name ++ [.word op.token])
  | related relation inner =>
    match catalog.related? m relation with
    | none => .error ⟨m.name, relation⟩
    | some (r, target) =>
      let inside := aliasFor relation (depth + 1)
      (tokens catalog target inside (depth + 1) inner).map fun ts =>
        existsTokens scope inside r target ts
  | group connective [] => .ok (constant (connective == .and))
  | group connective (p :: ps) =>
    (memberTokens catalog m scope depth (p :: ps)).map fun parts =>
      .openParen :: separated (.word connective.keyword) parts ++ [.closeParen]

def memberTokens (catalog : Catalog) (m : Model) (scope : String) (depth : Nat) :
    List Predicate → Except UnknownRelation (List (List Token))
  | [] => .ok []
  | p :: ps =>
    match tokens catalog m scope depth p with
    | .error e => .error e
    | .ok ts => (memberTokens catalog m scope depth ps).map fun parts => ts :: parts

end

end Predicate

namespace Query

open Statement

/-- The tokens of conditions, each after its connective. -/
def joinedTokens (source : Source) :
    List (Connective × Predicate) → Except UnknownRelation (List Token)
  | [] => .ok []
  | (c, p) :: rest =>
    match p.tokens source.catalog source.model source.model.table 0 with
    | .error e => .error e
    | .ok ts => (joinedTokens source rest).map fun more => .word c.keyword :: ts ++ more

/-- The tokens of all conditions. The connective of the first one is of no account. -/
def conditionTokens (q : Query) : Except UnknownRelation (List Token) :=
  (joinedTokens q.source q.conditions).map fun ts => ts.drop 1

/-- The rows of a table, before the condition on them. -/
def rowTokens (table : String) : List Token :=
  [.word "SELECT"] ++ column table "*" ++ [.word "FROM", .word table]

/-- The condition of a statement after its keyword, if there is one. -/
def whereTokens (conditions : List Token) : List Token :=
  if conditions.isEmpty then [] else .word "WHERE" :: conditions

def orderTokens (q : Query) : List Token :=
  match q.orders with
  | [] => []
  | orders =>
    [.word "ORDER", .word "BY"] ++ separated .comma (orders.map fun key =>
      column q.source.model.table key.column ++ [.word key.direction.keyword])

/-- The tokens of the row window. One store takes an offset only after a limit, which -1 leaves
open. -/
def windowTokens (q : Query) : List Token :=
  match q.limit, q.offset with
  | none, none => []
  | some limit, none => [.word "LIMIT", .word (toString limit)]
  | some limit, some offset =>
    [.word "LIMIT", .word (toString limit), .word "OFFSET", .word (toString offset)]
  | none, some offset =>
    match q.source.dialect with
    | .sqlite => [.word "LIMIT", .word "-1", .word "OFFSET", .word (toString offset)]
    | .postgres => [.word "OFFSET", .word (toString offset)]

def statementTokens (q : Query) : Except UnknownRelation (List Token) :=
  q.conditionTokens.map fun conditions =>
    rowTokens q.source.model.table ++ whereTokens conditions ++ q.orderTokens ++ q.windowTokens

end Query

end RequestQuery
