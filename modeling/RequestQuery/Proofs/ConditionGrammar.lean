import RequestQuery.Proofs.ConditionLexer

/-!
The grammar of conditions. Lexemes make up leaves, brackets and connectives; a reader then puts the
leaves together, where AND binds tighter than OR and what stands in brackets is a unit.
-/
namespace RequestQuery.Statement

structure ColumnRef where
  table : String
  name : String

/-- A condition without connectives. -/
inductive Leaf where
  | compare (column : ColumnRef) (op : StoreOperator) (value : Param)
  | pattern (column : ColumnRef) (op : StoreOperator) (text : Param) (escape : String)
    (lowered : Bool)
  | member (column : ColumnRef) (values : List Param) (negated : Bool)
  | between (column : ColumnRef) (low high : Param) (negated : Bool)
  | null (column : ColumnRef) (negated : Bool)
  /-- A comparison of two numbers, which holds of every row or of none. -/
  | constant (holds : Bool)
  | joined (left : ColumnRef) (op : StoreOperator) (right : ColumnRef)

/-- A condition as its text groups it. -/
inductive Clause where
  | leaf (l : Leaf)
  /-- Some row of a table, under an alias, meets a condition. -/
  | subquery (table inside : String) (condition : Clause)
  | join (c : Connective) (parts : List Clause)

namespace Clause

/-- Parts with a connective between two of them. A single part stays as it is. -/
def chain (c : Connective) : List Clause → Clause
  | [] => leaf (.constant (c == .and))
  | [part] => part
  | parts => join c parts

end Clause

inductive Bracket where
  | group
  | subquery (table inside : String)

def Bracket.enclose : Bracket → Clause → Clause
  | group, condition => condition
  | subquery table inside, condition => .subquery table inside condition

/-- What a condition consists of, with its brackets still open. -/
inductive Item where
  | leaf (l : Leaf)
  | connective (c : Connective)
  | opening (b : Bracket)
  | closing

def isLowering (function : String) : Bool :=
  function.toList.map Char.toUpper == ['L', 'O', 'W', 'E', 'R']

def values? : List Lexeme → Option (List Param × List Lexeme)
  | .value v :: .closeParen :: rest => some ([v], rest)
  | .value v :: .comma :: rest => (values? rest).map fun e => (v :: e.1, e.2)
  | _ => none

/-- The rest of a leaf after its column and a NOT, if there is one. The AND of a range belongs to
the range. -/
def negatable? (column : ColumnRef) (negated : Bool) : List Lexeme → Option (Leaf × List Lexeme)
  | .word _ (some .like) :: .value v :: .word _ (some .escape) :: .quoted mark :: rest =>
    some (.pattern column (if negated then .notLike else .like) v mark false, rest)
  | .word _ (some .ilike) :: .value v :: .word _ (some .escape) :: .quoted mark :: rest =>
    some (.pattern column (if negated then .notIlike else .ilike) v mark false, rest)
  | .word _ (some .between) :: .value low :: .word _ (some .and) :: .value high :: rest =>
    some (.between column low high negated, rest)
  | .word _ (some .isIn) :: .openParen :: rest =>
    (values? rest).map fun e => (.member column e.1 negated, e.2)
  | _ => none

def afterColumn? (column : ColumnRef) : List Lexeme → Option (Leaf × List Lexeme)
  | .comparison op :: .value v :: rest => some (.compare column op v, rest)
  | .comparison op :: .word table none :: .dot :: .word name _ :: rest =>
    some (.joined column op ⟨table, name⟩, rest)
  | .word _ (some .is) :: .word _ (some .null) :: rest => some (.null column false, rest)
  | .word _ (some .is) :: .word _ (some .not) :: .word _ (some .null) :: rest =>
    some (.null column true, rest)
  | .word _ (some .not) :: rest => negatable? column true rest
  | rest => negatable? column false rest

def loweredText? (column : ColumnRef) (op : StoreOperator) :
    List Lexeme → Option (Leaf × List Lexeme)
  | .word function none :: .openParen :: .value v :: .closeParen :: .word _ (some .escape) ::
      .quoted mark :: rest =>
    if isLowering function then some (.pattern column op v mark true, rest) else none
  | _ => none

def lowered? : List Lexeme → Option (Leaf × List Lexeme)
  | .word table none :: .dot :: .word name _ :: .closeParen :: .word _ (some .like) :: rest =>
    loweredText? ⟨table, name⟩ .like rest
  | .word table none :: .dot :: .word name _ :: .closeParen :: .word _ (some .not) ::
      .word _ (some .like) :: rest =>
    loweredText? ⟨table, name⟩ .notLike rest
  | _ => none

def subqueryHead? : List Lexeme → Option (Item × List Lexeme)
  | .word _ (some .select) :: .number _ :: .word _ (some .from) :: .word table none ::
      .word inside none :: .word _ (some .where) :: rest =>
    some (.opening (.subquery table inside), rest)
  | _ => none

def item? : List Lexeme → Option (Item × List Lexeme)
  | .word _ (some .and) :: rest => some (.connective .and, rest)
  | .word _ (some .or) :: rest => some (.connective .or, rest)
  | .word _ (some .exists) :: .openParen :: rest => subqueryHead? rest
  | .word table none :: .dot :: .word name _ :: rest =>
    (afterColumn? ⟨table, name⟩ rest).map fun e => (.leaf e.1, e.2)
  | .word function none :: .openParen :: rest =>
    if isLowering function then (lowered? rest).map fun e => (.leaf e.1, e.2) else none
  | .number a :: .comparison op :: .number b :: rest =>
    if op = .eq then some (.leaf (.constant (a == b)), rest) else none
  | .openParen :: rest => some (.opening .group, rest)
  | .closeParen :: rest => some (.closing, rest)
  | _ => none

theorem values?_length {ls rest : List Lexeme} {vs : List Param}
    (h : values? ls = some (vs, rest)) : rest.length < ls.length := by
  fun_induction values? ls generalizing vs with
  | case1 v rest' =>
      cases h
      simp only [List.length_cons]
      omega
  | case2 v rest' ih =>
      obtain ⟨e, he, heq⟩ := Option.map_eq_some_iff.mp h
      cases heq
      have hlength := ih he
      simp only [List.length_cons]
      omega
  | case3 => cases h

theorem negatable?_length {column : ColumnRef} {negated : Bool} {ls rest : List Lexeme} {l : Leaf}
    (h : negatable? column negated ls = some (l, rest)) : rest.length < ls.length := by
  unfold negatable? at h
  split at h
  case h_4 =>
    obtain ⟨e, he, heq⟩ := Option.map_eq_some_iff.mp h
    cases heq
    have hlength := values?_length he
    simp only [List.length_cons]
    omega
  all_goals
    cases h <;> simp only [List.length_cons] <;> omega

theorem afterColumn?_length {column : ColumnRef} {ls rest : List Lexeme} {l : Leaf}
    (h : afterColumn? column ls = some (l, rest)) : rest.length < ls.length := by
  unfold afterColumn? at h
  split at h
  case h_5 =>
    have hlength := negatable?_length h
    simp only [List.length_cons]
    omega
  case h_6 => exact negatable?_length h
  all_goals
    cases h
    simp only [List.length_cons]
    omega

theorem loweredText?_length {column : ColumnRef} {op : StoreOperator} {ls rest : List Lexeme}
    {l : Leaf} (h : loweredText? column op ls = some (l, rest)) : rest.length < ls.length := by
  unfold loweredText? at h
  split at h
  · obtain ⟨-, heq⟩ := Option.ite_none_right_eq_some.mp h
    cases heq
    simp only [List.length_cons]
    omega
  · cases h

theorem lowered?_length {ls rest : List Lexeme} {l : Leaf}
    (h : lowered? ls = some (l, rest)) : rest.length < ls.length := by
  unfold lowered? at h
  split at h
  · have hlength := loweredText?_length h
    simp only [List.length_cons]
    omega
  · have hlength := loweredText?_length h
    simp only [List.length_cons]
    omega
  · cases h

theorem subqueryHead?_length {ls rest : List Lexeme} {i : Item}
    (h : subqueryHead? ls = some (i, rest)) : rest.length < ls.length := by
  unfold subqueryHead? at h
  split at h
  · cases h
    simp only [List.length_cons]
    omega
  · cases h

theorem item?_length {ls rest : List Lexeme} {i : Item} (h : item? ls = some (i, rest)) :
    rest.length < ls.length := by
  unfold item? at h
  split at h
  case h_3 =>
    have hlength := subqueryHead?_length h
    simp only [List.length_cons]
    omega
  case h_4 =>
    obtain ⟨e, he, heq⟩ := Option.map_eq_some_iff.mp h
    cases heq
    have hlength := afterColumn?_length he
    simp only [List.length_cons]
    omega
  case h_5 =>
    obtain ⟨-, hlowered⟩ := Option.ite_none_right_eq_some.mp h
    obtain ⟨e, he, heq⟩ := Option.map_eq_some_iff.mp hlowered
    cases heq
    have hlength := lowered?_length he
    simp only [List.length_cons]
    omega
  case h_6 =>
    obtain ⟨-, heq⟩ := Option.ite_none_right_eq_some.mp h
    cases heq
    simp only [List.length_cons]
    omega
  all_goals
    cases h <;> simp only [List.length_cons] <;> omega

def items? : List Lexeme → Option (List Item)
  | [] => some []
  | l :: ls =>
    match _h : item? (l :: ls) with
    | none => none
    | some (i, rest) => (items? rest).map (i :: ·)
termination_by ls => ls.length
decreasing_by exact item?_length _h

theorem items?_of_item? {ls rest : List Lexeme} {i : Item} (h : item? ls = some (i, rest)) :
    items? ls = (items? rest).map (i :: ·) := by
  cases ls with
  | nil => simp [item?] at h
  | cons l ls =>
      rw [items?]
      split
      · rename_i hnone
        rw [h] at hnone
        cases hnone
      · rename_i j rest' hsome
        rw [h] at hsome
        cases hsome
        rfl

/-- What has been read of a condition on one level: the complete alternatives, and the conjuncts of
the one that is being read. -/
structure Level where
  alternatives : List Clause
  conjuncts : List Clause

namespace Level

def empty : Level :=
  ⟨[], []⟩

def add (level : Level) (part : Clause) : Level :=
  { level with conjuncts := level.conjuncts ++ [part] }

def complete (level : Level) : List Clause :=
  level.alternatives ++ [.chain .and level.conjuncts]

def next (level : Level) : Level :=
  ⟨level.complete, []⟩

def clause (level : Level) : Clause :=
  .chain .or level.complete

end Level

mutual

/-- Reads on where a unit is to follow, inside brackets whose outer levels are on a stack. -/
def readUnit? : List (Bracket × Level) → Level → List Item → Option Clause
  | stack, level, .leaf l :: rest => readRest? stack (level.add (.leaf l)) rest
  | stack, level, .opening b :: rest => readUnit? ((b, level) :: stack) .empty rest
  | _, _, _ => none

def readRest? : List (Bracket × Level) → Level → List Item → Option Clause
  | [], level, [] => some level.clause
  | stack, level, .connective .and :: rest => readUnit? stack level rest
  | stack, level, .connective .or :: rest => readUnit? stack level.next rest
  | (b, outer) :: stack, level, .closing :: rest =>
    readRest? stack (outer.add (b.enclose level.clause)) rest
  | _, _, _ => none

end

/-- The condition that items make up. Without items it holds of every row. -/
def Clause.ofItems? : List Item → Option Clause
  | [] => some (.chain .and [])
  | items => readUnit? [] .empty items

/-- AND binds tighter than OR, unless there are brackets. -/
example (a b c : Leaf) :
    Clause.ofItems? [.leaf a, .connective .or, .leaf b, .connective .and, .leaf c] =
        some (.join .or [.leaf a, .join .and [.leaf b, .leaf c]]) ∧
      Clause.ofItems? [.opening .group, .leaf a, .connective .or, .leaf b, .closing,
        .connective .and, .leaf c] = some (.join .and [.join .or [.leaf a, .leaf b], .leaf c]) :=
  ⟨rfl, rfl⟩

/-- The condition that a text with values is read as. -/
def Fragment.clause? (f : Fragment) : Option Clause :=
  ((lexemes? f.params f.text.toList).bind items?).bind Clause.ofItems?

end RequestQuery.Statement
