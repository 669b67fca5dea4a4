import RequestQuery.Proofs.ConditionGrammar
import RequestQuery.Proofs.Rendering

namespace RequestQuery

open Statement

/-- No table of a source is a keyword. -/
structure Source.HasNoKeywords (s : Source) : Prop where
  root : Keyword.ofWord? s.model.table = none
  models : ∀ e ∈ s.catalog.models, Keyword.ofWord? e.2.table = none

namespace Predicate

/-- A node that compares has an operator for comparisons, and one that matches has one for
patterns. -/
def HasFittingOperator : Predicate → Prop
  | compare _ op _ => op.family = .comparison
  | pattern _ op .. => op.family = .pattern
  | _ => True

mutual

/-- The condition that a tree stands for, on the rows of `m`, which are named `scope` and stand
inside `depth` subqueries. An existence condition is the join of the related rows and the whole
inner condition. -/
def clause? (catalog : Catalog) (m : Model) (scope : String) (depth : Nat) :
    Predicate → Option Clause
  | compare name op value => some (.leaf (.compare ⟨scope, name⟩ op (Param.ofValue value)))
  | pattern name op text caseInsensitive =>
    let lowered := caseInsensitive && (op == .like || op == .notLike)
    some (.leaf (.pattern ⟨scope, name⟩ op (.string text)
      (String.singleton Pattern.escapeMark) lowered))
  | member name values negated =>
    if values.isEmpty then some (.leaf (.constant negated))
    else some (.leaf (.member ⟨scope, name⟩ (values.map Param.ofValue) negated))
  | between name low high negated =>
    some (.leaf (.between ⟨scope, name⟩ (Param.ofValue low) (Param.ofValue high) negated))
  | null name negated => some (.leaf (.null ⟨scope, name⟩ negated))
  | related relation inner =>
    match catalog.related? m relation with
    | none => none
    | some (r, target) =>
      let inside := aliasFor relation (depth + 1)
      let link := Leaf.joined ⟨inside, r.relatedColumn⟩ .eq ⟨scope, r.parentColumn⟩
      (clause? catalog target inside (depth + 1) inner).map fun body =>
        .subquery target.table inside (.join .and [.leaf link, body])
  | group c members => (clauses? catalog m scope depth members).map (Clause.chain c)

def clauses? (catalog : Catalog) (m : Model) (scope : String) (depth : Nat) :
    List Predicate → Option (List Clause)
  | [] => some []
  | p :: rest =>
    match clause? catalog m scope depth p with
    | none => none
    | some c => (clauses? catalog m scope depth rest).map fun cs => c :: cs

end

theorem clauses?_eq_some {catalog : Catalog} {m : Model} {scope : String} {depth : Nat}
    {members : List Predicate} {cs : List Clause}
    (h : List.Forall₂ (fun p c => p.clause? catalog m scope depth = some c) members cs) :
    clauses? catalog m scope depth members = some cs := by
  induction h with
  | nil => rw [clauses?]
  | cons hhead _ ih =>
      rw [clauses?, hhead, ih]
      rfl

end Predicate

namespace Statement

/-- Tokens whose lexemes are read as items, whatever goes on after them. -/
def ReadsAs (ts : List Token) (items : List Item) : Prop :=
  ∀ rest, items? (ts.flatMap Token.lexemes ++ rest) = (items? rest).map (items ++ ·)

theorem ReadsAs.append {ts us : List Token} {items more : List Item} (hts : ReadsAs ts items)
    (hus : ReadsAs us more) : ReadsAs (ts ++ us) (items ++ more) := by
  intro rest
  rw [List.flatMap_append, List.append_assoc, hts, hus, Option.map_map]
  simp [Function.comp_def]

theorem readsAs_of_item? {ts : List Token} {i : Item}
    (h : ∀ rest, item? (ts.flatMap Token.lexemes ++ rest) = some (i, rest)) : ReadsAs ts [i] :=
  fun rest => items?_of_item? (h rest)

theorem readsAs_keyword (c : Connective) : ReadsAs [.word c.keyword] [.connective c] := by
  cases c with
  | and => exact readsAs_of_item? fun _ => rfl
  | or => exact readsAs_of_item? fun _ => rfl

theorem readsAs_openParen : ReadsAs [.openParen] [.opening .group] :=
  readsAs_of_item? fun _ => rfl

theorem readsAs_closeParen : ReadsAs [.closeParen] [.closing] :=
  readsAs_of_item? fun _ => rfl

theorem separated_cons (separator : Token) (part : List Token) (parts : List (List Token)) :
    separated separator (part :: parts) = part ++ parts.flatMap (separator :: ·) := by
  induction parts generalizing part with
  | nil => simp [separated]
  | cons next rest ih =>
      rw [separated, ih, List.flatMap_cons, List.cons_append]
      simp

theorem lexemes_column {scope name : String} (hscope : Text.isIdentifier scope = true)
    (hkeyword : Keyword.ofWord? scope = none) (hname : Text.isIdentifier name = true) :
    (column scope name).flatMap Token.lexemes =
      [.word scope none, .dot, .word name (Keyword.ofWord? name)] := by
  rw [column, List.flatMap_cons, List.flatMap_cons, List.flatMap_cons, lexemes_name hscope,
    lexemes_name hname, Lexeme.ofWord, hkeyword]
  rfl

theorem values?_separated {values : List Json.Value} (hvalues : values ≠ []) (rest : List Lexeme) :
    values? ((separated .comma (values.map fun v => [Statement.bind v])).flatMap Token.lexemes ++
      .closeParen :: rest) = some (values.map Param.ofValue, rest) := by
  induction values with
  | nil => exact absurd rfl hvalues
  | cons v more ih =>
      cases more with
      | nil => rfl
      | cons w more =>
          have hmore := ih (by simp)
          exact congrArg (Option.map fun e => (Param.ofValue v :: e.1, e.2)) hmore

section Leaves

variable {scope name : String} (hscope : Text.isIdentifier scope = true)
  (hkeyword : Keyword.ofWord? scope = none) (hname : Text.isIdentifier name = true)

include hscope hkeyword hname

theorem readsAs_column {ts : List Token} {l : Leaf}
    (h : ∀ rest, afterColumn? ⟨scope, name⟩ (ts.flatMap Token.lexemes ++ rest) = some (l, rest)) :
    ReadsAs (column scope name ++ ts) [.leaf l] := by
  apply readsAs_of_item?
  intro rest
  rw [List.flatMap_append, lexemes_column hscope hkeyword hname]
  simp only [List.cons_append, List.nil_append]
  rw [item?, h]
  rfl

theorem readsAs_compare {op : StoreOperator} (hop : op.family = .comparison) (p : Param) :
    ReadsAs (column scope name ++ [.word op.token, .bound p])
      [.leaf (.compare ⟨scope, name⟩ op p)] := by
  apply readsAs_column hscope hkeyword hname
  intro rest
  cases op <;> first | rfl | cases hop

theorem readsAs_pattern {op : StoreOperator} (hop : op.family = .pattern) (text : String)
    (caseInsensitive : Bool) :
    ReadsAs (patternTokens scope name op text caseInsensitive)
      [.leaf (.pattern ⟨scope, name⟩ op (.string text) (String.singleton Pattern.escapeMark)
        (caseInsensitive && (op == .like || op == .notLike)))] := by
  unfold patternTokens
  split
  · rename_i hlowered
    rw [hlowered]
    apply readsAs_of_item?
    intro rest
    rw [← List.singleton_append (l := column scope name), List.append_assoc, List.append_assoc,
      List.flatMap_append, List.flatMap_append, lexemes_column hscope hkeyword hname]
    cases op <;> first | rfl | simp at hlowered
  · rename_i hplain
    rw [Bool.not_eq_true] at hplain
    rw [hplain, List.append_assoc]
    apply readsAs_column hscope hkeyword hname
    intro rest
    cases op <;> first | rfl | cases hop

theorem readsAs_member {values : List Json.Value} (hvalues : values ≠ []) (negated : Bool) :
    ReadsAs (column scope name ++
        [.word (if negated then StoreOperator.notIn else .isIn).token, .openParen] ++
        separated .comma (values.map fun v => [Statement.bind v]) ++ [.closeParen])
      [.leaf (.member ⟨scope, name⟩ (values.map Param.ofValue) negated)] := by
  rw [List.append_assoc, List.append_assoc]
  apply readsAs_column hscope hkeyword hname
  intro rest
  have hread := values?_separated hvalues rest
  rw [List.flatMap_append, List.flatMap_append, List.append_assoc, List.append_assoc]
  cases negated
  all_goals
    change (values? (_ ++ Lexeme.closeParen :: rest)).map _ = _
    rw [hread]
    rfl

theorem readsAs_between (low high : Param) (negated : Bool) :
    ReadsAs (column scope name ++
        [.word (if negated then StoreOperator.notBetween else .between).token, .bound low,
          .word "AND", .bound high])
      [.leaf (.between ⟨scope, name⟩ low high negated)] := by
  apply readsAs_column hscope hkeyword hname
  intro rest
  cases negated <;> rfl

theorem readsAs_null (negated : Bool) :
    ReadsAs (column scope name ++
        [.word (if negated then StoreOperator.isNotNull else .isNull).token])
      [.leaf (.null ⟨scope, name⟩ negated)] := by
  apply readsAs_column hscope hkeyword hname
  intro rest
  cases negated <;> rfl

theorem readsAs_joined {inside column' : String} (hinside : Text.isIdentifier inside = true)
    (hinsideKeyword : Keyword.ofWord? inside = none)
    (hcolumn : Text.isIdentifier column' = true) :
    ReadsAs (column scope name ++ .word "=" :: column inside column')
      [.leaf (.joined ⟨scope, name⟩ .eq ⟨inside, column'⟩)] := by
  apply readsAs_column hscope hkeyword hname
  intro rest
  rw [List.flatMap_cons, lexemes_column hinside hinsideKeyword hcolumn]
  rfl

end Leaves

theorem readsAs_constant (holds : Bool) : ReadsAs (constant holds) [.leaf (.constant holds)] := by
  cases holds <;> exact readsAs_of_item? fun _ => rfl

theorem readsAs_subqueryHead {table inside : String} (htable : Text.isIdentifier table = true)
    (htableKeyword : Keyword.ofWord? table = none) (hinside : Text.isIdentifier inside = true)
    (hinsideKeyword : Keyword.ofWord? inside = none) :
    ReadsAs [.word "EXISTS", .openParen, .word "SELECT", .word "1", .word "FROM", .word table,
        .word inside, .word "WHERE"]
      [.opening (.subquery table inside)] := by
  apply readsAs_of_item?
  intro rest
  simp only [List.flatMap_cons, lexemes_name htable, lexemes_name hinside, Lexeme.ofWord,
    htableKeyword, hinsideKeyword]
  rfl

/-- Items that are read as one unit, wherever they stand. -/
def IsUnit (items : List Item) (c : Clause) : Prop :=
  ∀ stack level rest,
    readUnit? stack level (items ++ rest) = readRest? stack (level.add c) rest

def IsCondition (items : List Item) (c : Clause) : Prop :=
  ∃ last : Level, last.clause = c ∧
    ∀ stack rest, readUnit? stack .empty (items ++ rest) = readRest? stack last rest

theorem isUnit_leaf (l : Leaf) : IsUnit [.leaf l] (.leaf l) :=
  fun _ _ _ => rfl

theorem IsCondition.isUnit {items : List Item} {c : Clause} (h : IsCondition items c)
    (b : Bracket) : IsUnit (.opening b :: items ++ [.closing]) (b.enclose c) := by
  obtain ⟨last, rfl, hread⟩ := h
  intro stack level rest
  rw [List.append_assoc, List.cons_append]
  change readUnit? ((b, level) :: stack) .empty (items ++ ([.closing] ++ rest)) = _
  rw [hread]
  rfl

theorem IsCondition.ofItems? {items : List Item} {c : Clause} (h : IsCondition items c) :
    Clause.ofItems? items = some c := by
  obtain ⟨last, rfl, hread⟩ := h
  have hall : readUnit? [] .empty items = some last.clause := by
    rw [← List.append_nil items, hread]
    rfl
  cases items with
  | nil => cases hall
  | cons i rest => exact hall

theorem readRest?_and (stack : List (Bracket × Level)) (level : Level) (rest : List Item) :
    readRest? stack level (.connective .and :: rest) = readUnit? stack level rest := by
  cases stack <;> rfl

theorem readRest?_or (stack : List (Bracket × Level)) (level : Level) (rest : List Item) :
    readRest? stack level (.connective .or :: rest) = readUnit? stack level.next rest := by
  cases stack <;> rfl

theorem readRest?_conjuncts {units : List (List Item)} {cs : List Clause}
    (h : List.Forall₂ IsUnit units cs) (stack : List (Bracket × Level)) (level : Level)
    (rest : List Item) :
    readRest? stack level (units.flatMap (.connective .and :: ·) ++ rest) =
      readRest? stack ⟨level.alternatives, level.conjuncts ++ cs⟩ rest := by
  induction h generalizing level with
  | nil => simp
  | @cons unit c units cs hunit _ ih =>
      rw [List.flatMap_cons, List.cons_append, List.cons_append, List.append_assoc, readRest?_and,
        hunit, ih]
      simp [Level.add]

theorem readRest?_alternatives {units : List (List Item)} {cs : List Clause}
    (h : List.Forall₂ IsUnit units cs) (level : Level) :
    ∃ last : Level, last.complete = level.complete ++ cs ∧ ∀ stack rest,
      readRest? stack level (units.flatMap (.connective .or :: ·) ++ rest) =
        readRest? stack last rest := by
  induction h generalizing level with
  | nil => exact ⟨level, by simp, fun _ _ => rfl⟩
  | @cons unit c units cs hunit _ ih =>
      -- The unit before the OR completes an alternative, so that the level changes with each step.
      obtain ⟨last, hcomplete, hread⟩ := ih (level.next.add c)
      refine ⟨last, ?_, ?_⟩
      · have hadd : (level.next.add c).complete = level.complete ++ [c] := rfl
        rw [hcomplete, hadd, List.append_assoc]
        rfl
      · intro stack rest
        rw [List.flatMap_cons, List.cons_append, List.cons_append, List.append_assoc, readRest?_or,
          hunit, hread]

theorem isCondition_units (c : Connective) {unit : List Item} {part : Clause}
    (hunit : IsUnit unit part) {units : List (List Item)} {parts : List Clause}
    (hunits : List.Forall₂ IsUnit units parts) :
    IsCondition (unit ++ units.flatMap (.connective c :: ·)) (.chain c (part :: parts)) := by
  cases c with
  | and =>
      refine ⟨⟨[], part :: parts⟩, rfl, ?_⟩
      intro stack rest
      rw [List.append_assoc, hunit, readRest?_conjuncts hunits]
      rfl
  | or =>
      obtain ⟨last, hcomplete, hread⟩ := readRest?_alternatives hunits (Level.empty.add part)
      refine ⟨last, ?_, ?_⟩
      · rw [Level.clause, hcomplete]
        rfl
      · intro stack rest
        rw [List.append_assoc, hunit, hread]

theorem readsAs_flatMap (c : Connective) {parts : List (List Token)} {units : List (List Item)}
    (h : List.Forall₂ ReadsAs parts units) :
    ReadsAs (parts.flatMap (.word c.keyword :: ·)) (units.flatMap (.connective c :: ·)) := by
  induction h with
  | nil =>
      intro rest
      simp
  | @cons part unit parts units hpart _ ih =>
      rw [List.flatMap_cons, List.flatMap_cons]
      exact ((readsAs_keyword c).append hpart).append ih

end Statement

namespace Predicate

theorem exists_units {α : Type} {clause? : α → Option Clause} {trees : List α}
    {parts : List (List Token)}
    (h : List.Forall₂ (fun p ts => ∃ items c, clause? p = some c ∧ ReadsAs ts items ∧
      IsUnit items c) trees parts) :
    ∃ units cs, List.Forall₂ (fun p c => clause? p = some c) trees cs ∧
      List.Forall₂ ReadsAs parts units ∧ List.Forall₂ IsUnit units cs := by
  induction h with
  | nil => exact ⟨[], [], .nil, .nil, .nil⟩
  | cons hhead _ ih =>
      obtain ⟨items, c, hclause, hreads, hunit⟩ := hhead
      obtain ⟨units, cs, hclauses, hparts, hunits⟩ := ih
      exact ⟨items :: units, c :: cs, .cons hclause hclauses, .cons hreads hparts,
        .cons hunit hunits⟩

/-- With a connective between them, the tokens of trees are read as the chain of their conditions.
-/
theorem exists_condition {α : Type} {clause? : α → Option Clause} (c : Connective) {trees : List α}
    (htrees : trees ≠ []) {parts : List (List Token)}
    (h : List.Forall₂ (fun p ts => ∃ items c, clause? p = some c ∧ ReadsAs ts items ∧
      IsUnit items c) trees parts) :
    ∃ items cs, List.Forall₂ (fun p c => clause? p = some c) trees cs ∧
      ReadsAs (separated (.word c.keyword) parts) items ∧ IsCondition items (.chain c cs) := by
  obtain ⟨units, cs, hclauses, hparts, hunits⟩ := exists_units h
  cases hclauses with
  | nil => exact absurd rfl htrees
  | cons hclause hclauses =>
      cases hunits with
      | cons hunit hunits =>
          cases hparts with
          | cons hpart hparts =>
              rw [separated_cons]
              exact ⟨_, _, .cons hclause hclauses, hpart.append (readsAs_flatMap c hparts),
                isCondition_units c hunit hunits⟩

theorem exists_unit_of_tokens {catalog : Catalog}
    (hmodels : ∀ e ∈ catalog.models, e.2.HasIdentifiers)
    (hkeywords : ∀ e ∈ catalog.models, Keyword.ofWord? e.2.table = none)
    {m : Model} (hm : m.HasIdentifiers) {scope : String} (hscope : Text.isIdentifier scope = true)
    (hkeyword : Keyword.ofWord? scope = none) {depth : Nat} {p : Predicate}
    (hnames : p.Every HasIdentifier) (hoperators : p.Every HasFittingOperator) {ts : List Token}
    (h : p.tokens catalog m scope depth = .ok ts) :
    ∃ items c, p.clause? catalog m scope depth = some c ∧ ReadsAs ts items ∧ IsUnit items c := by
  -- Scope and model change inside a subquery, so that what is asked of them is part of the motive.
  refine tokens_induction (motive := fun m scope depth p ts => m.HasIdentifiers →
      Text.isIdentifier scope = true → Keyword.ofWord? scope = none → p.Every HasIdentifier →
      p.Every HasFittingOperator → ∃ items c, p.clause? catalog m scope depth = some c ∧
        ReadsAs ts items ∧ IsUnit items c) h
    ?compare ?pattern ?memberNone ?member ?between ?null ?related ?groupNone ?group
    hm hscope hkeyword hnames hoperators
  case compare =>
    intro m scope _ name op value _ hscope hkeyword hname hop
    exact ⟨_, _, rfl, readsAs_compare hscope hkeyword hname hop _, isUnit_leaf _⟩
  case pattern =>
    intro m scope _ name op text caseInsensitive _ hscope hkeyword hname hop
    exact ⟨_, _, rfl, readsAs_pattern hscope hkeyword hname hop text caseInsensitive,
      isUnit_leaf _⟩
  case memberNone =>
    intro m scope _ name negated _ _ _ _ _
    exact ⟨_, _, rfl, readsAs_constant negated, isUnit_leaf _⟩
  case member =>
    intro m scope depth name values negated hvalues _ hscope hkeyword hname _
    have hclause : (member name values negated).clause? catalog m scope depth =
        some (.leaf (.member ⟨scope, name⟩ (values.map Param.ofValue) negated)) := by
      rw [clause?, List.isEmpty_eq_false_iff.mpr hvalues]
      rfl
    exact ⟨_, _, hclause, readsAs_member hscope hkeyword hname hvalues negated, isUnit_leaf _⟩
  case between =>
    intro m scope _ name low high negated _ hscope hkeyword hname _
    exact ⟨_, _, rfl, readsAs_between hscope hkeyword hname _ _ negated, isUnit_leaf _⟩
  case null =>
    intro m scope _ name negated _ hscope hkeyword hname _
    exact ⟨_, _, rfl, readsAs_null hscope hkeyword hname negated, isUnit_leaf _⟩
  case related =>
    intro m scope depth relation inner r target ts hrelated ih hm hscope hkeyword hnames hoperators
    obtain ⟨hr, htarget⟩ := Catalog.mem_of_related? hrelated
    obtain ⟨hrelatedColumn, hparentColumn⟩ := Relation.isIdentifier_columns (hm.keys _ hr)
    have hinside := isIdentifier_aliasFor hnames.1 (depth + 1)
    have hinsideKeyword := Keyword.ofWord?_aliasFor relation (depth + 1)
    obtain ⟨items, body, hclause, hreads, hunit⟩ :=
      ih (hmodels _ htarget) hinside hinsideKeyword hnames.2 hoperators.2
    have hhead := readsAs_subqueryHead (hmodels _ htarget).table (hkeywords _ htarget) hinside
      hinsideKeyword
    have hlink := readsAs_joined hinside hinsideKeyword hrelatedColumn hscope hkeyword
      hparentColumn
    have hbody := isCondition_units .and
      (isUnit_leaf (.joined ⟨aliasFor relation (depth + 1), r.relatedColumn⟩ .eq
        ⟨scope, r.parentColumn⟩)) (.cons hunit .nil)
    refine ⟨_, _, ?_, ?_, hbody.isUnit (.subquery target.table (aliasFor relation (depth + 1)))⟩
    · rw [clause?, hrelated]
      simp only [hclause, Option.map_some]
      rfl
    · have hall := (((hhead.append hlink).append (readsAs_keyword .and)).append hreads).append
        readsAs_closeParen
      simpa [existsTokens, Connective.keyword] using hall
  case groupNone =>
    intro m scope _ c _ _ _ _ _
    exact ⟨_, _, rfl, readsAs_constant (c == .and), isUnit_leaf _⟩
  case group =>
    intro m scope depth c members parts hmembers hparts hm hscope hkeyword hnames hoperators
    have hunits : List.Forall₂ (fun p ts => ∃ items c, p.clause? catalog m scope depth = some c ∧
        ReadsAs ts items ∧ IsUnit items c) members parts := by
      apply forall₂_of_forall_mem hparts
      intro p hp ts ih
      exact ih hm hscope hkeyword ((every_group.mp hnames).2 p hp)
        ((every_group.mp hoperators).2 p hp)
    obtain ⟨items, cs, hclauses, hreads, hcondition⟩ := exists_condition c hmembers hunits
    refine ⟨_, _, ?_, ?_, hcondition.isUnit .group⟩
    · rw [clause?, clauses?_eq_some hclauses]
      rfl
    · exact (readsAs_openParen.append hreads).append readsAs_closeParen

end Predicate

namespace Statement

theorem clause?_ofTokens {ts : List Token} (hts : ∀ t ∈ ts, t.isKnown = true) {items : List Item}
    (hreads : ReadsAs ts items) {c : Clause} (hc : Clause.ofItems? items = some c) :
    (Fragment.ofTokens ts).clause? = some c := by
  have hlexemes : lexemes? (params ts) (textAfter true 1 ts) = some (ts.flatMap Token.lexemes) :=
    lexemes?_textAfter hts [] true
  have hitems := hreads []
  rw [List.append_nil, items?, Option.map_some, List.append_nil] at hitems
  rw [Fragment.clause?, Fragment.ofTokens, String.toList_ofList, hlexemes, Option.bind_some,
    hitems, Option.bind_some, hc]

end Statement

namespace Query

theorem exists_parts_of_joinedTokens {source : Source} {conditions : List (Connective × Predicate)}
    (hand : ∀ c ∈ conditions, c.1 = .and) {ts : List Token}
    (h : joinedTokens source conditions = .ok ts) :
    ∃ parts, List.Forall₂ (fun c part =>
        c.2.tokens source.catalog source.model source.model.table 0 = .ok part) conditions parts ∧
      ts = parts.flatMap (.word Connective.and.keyword :: ·) := by
  revert hand
  refine joinedTokens_induction (motive := fun conditions ts =>
    (∀ c ∈ conditions, c.1 = .and) → ∃ parts, List.Forall₂ (fun c part =>
        c.2.tokens source.catalog source.model source.model.table 0 = .ok part) conditions parts ∧
      ts = parts.flatMap (.word Connective.and.keyword :: ·)) h ?_ ?_
  · intro _
    exact ⟨[], .nil, rfl⟩
  · intro c p rest part more hpart ih hand
    rw [List.forall_mem_cons] at hand
    obtain ⟨parts, hparts, rfl⟩ := ih hand.2
    refine ⟨part :: parts, .cons hpart hparts, ?_⟩
    rw [List.flatMap_cons, ← hand.1]

theorem exists_parts_of_conditionTokens {q : Query} (hand : ∀ c ∈ q.conditions, c.1 = .and)
    {ts : List Token} (h : q.conditionTokens = .ok ts) :
    ∃ parts, List.Forall₂ (fun c part =>
        c.2.tokens q.source.catalog q.source.model q.source.model.table 0 = .ok part)
        q.conditions parts ∧ ts = separated (.word Connective.and.keyword) parts := by
  obtain ⟨joined, hjoined, rfl⟩ := map_eq_ok_iff.mp h
  obtain ⟨parts, hparts, rfl⟩ := exists_parts_of_joinedTokens hand hjoined
  refine ⟨parts, hparts, ?_⟩
  cases parts with
  | nil => rfl
  | cons part parts =>
      rw [separated_cons]
      rfl

/-- The condition of a query reads as the conjunction of the trees appended to it. -/
theorem clause_whereClause {q : Query} {f : Fragment} (hsource : q.source.HasIdentifiers)
    (hkeywords : q.source.HasNoKeywords) (hand : ∀ c ∈ q.conditions, c.1 = .and)
    (hnames : ∀ c ∈ q.conditions, c.2.Every Predicate.HasIdentifier)
    (hoperators : ∀ c ∈ q.conditions, c.2.Every Predicate.HasFittingOperator)
    (h : q.whereClause = .ok f) :
    ∃ cs, List.Forall₂ (fun c clause =>
        c.2.clause? q.source.catalog q.source.model q.source.model.table 0 = some clause)
        q.conditions cs ∧ f.clause? = some (.chain .and cs) := by
  rw [whereClause_eq_map] at h
  obtain ⟨ts, hts, rfl⟩ := map_eq_ok_iff.mp h
  have hknown := isKnown_conditionTokens hsource hnames hts
  obtain ⟨parts, hparts, rfl⟩ := exists_parts_of_conditionTokens hand hts
  by_cases hnone : q.conditions = []
  · rw [hnone] at hparts ⊢
    cases hparts
    have hreads : ReadsAs (separated (.word Connective.and.keyword) []) [] := by
      intro rest
      simp [separated]
    exact ⟨[], .nil, clause?_ofTokens hknown hreads rfl⟩
  · have hunits : List.Forall₂ (fun c ts => ∃ items clause,
        c.2.clause? q.source.catalog q.source.model q.source.model.table 0 = some clause ∧
          ReadsAs ts items ∧ IsUnit items clause) q.conditions parts := by
      apply forall₂_of_forall_mem hparts
      intro c hc ts hts
      exact Predicate.exists_unit_of_tokens hsource.models hkeywords.models hsource.root
        hsource.root.table hkeywords.root (hnames c hc) (hoperators c hc) hts
    obtain ⟨items, cs, hclauses, hreads, hcondition⟩ :=
      Predicate.exists_condition .and hnone hunits
    exact ⟨cs, hclauses, clause?_ofTokens hknown hreads hcondition.ofItems?⟩

theorem clause_whereClause_posts :
    ∃ f, Query.posts.whereClause = .ok f ∧ f.clause? = some (.join .and
      [.leaf (.compare ⟨"posts", "views"⟩ .gte (.integer 10)),
        .join .or
          [.leaf (.between ⟨"posts", "id"⟩ (.integer 1) (.integer 9) true),
            .leaf (.null ⟨"posts", "parent_id"⟩ true),
            .subquery "posts" "replies_1" (.join .and
              [.leaf (.joined ⟨"replies_1", "parent_id"⟩ .eq ⟨"posts", "id"⟩),
                .join .and
                  [.leaf (.pattern ⟨"replies_1", "title"⟩ .like (.string "%a%") "\\" true),
                    .leaf (.constant false),
                    .subquery "users" "author_2" (.join .and
                      [.leaf (.joined ⟨"author_2", "id"⟩ .eq ⟨"replies_1", "author_id"⟩),
                        .leaf (.member ⟨"author_2", "name"⟩
                          [.string "x", .null, .integer 1] false)])]])],
        .leaf (.compare ⟨"posts", "title"⟩ .ne (.string "AND"))]) := by
  have hkeywords : Query.posts.source.HasNoKeywords := ⟨by decide, by decide⟩
  have hand : ∀ c ∈ Query.posts.conditions, c.1 = .and := by
    simp [Query.posts]
  have hnames : ∀ c ∈ Query.posts.conditions, c.2.Every Predicate.HasIdentifier := by
    simp +decide [Query.posts, Predicate.Every, Predicate.EveryOf, Predicate.HasIdentifier]
  have hoperators : ∀ c ∈ Query.posts.conditions, c.2.Every Predicate.HasFittingOperator := by
    simp +decide [Query.posts, Predicate.Every, Predicate.EveryOf, Predicate.HasFittingOperator]
  obtain ⟨f, hf⟩ : ∃ f, Query.posts.whereClause = .ok f := ⟨_, rfl⟩
  obtain ⟨cs, hclauses, hread⟩ :=
    clause_whereClause Source.hasIdentifiers_posts hkeywords hand hnames hoperators hf
  refine ⟨f, hf, hread.trans ?_⟩
  rw [Query.posts] at hclauses
  rcases hclauses with _ | ⟨h₁, hclauses⟩
  rcases hclauses with _ | ⟨h₂, hclauses⟩
  rcases hclauses with _ | ⟨h₃, hclauses⟩
  cases hclauses
  rw [← Option.some.inj h₁, ← Option.some.inj h₂, ← Option.some.inj h₃]
  rfl

end Query

end RequestQuery
