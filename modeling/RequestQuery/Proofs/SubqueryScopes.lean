import RequestQuery.Proofs.ConditionReading
import RequestQuery.Proofs.FilterMeaning

/-!
The rows that a condition is about, once it is read as a condition: a column belongs to the
innermost row that goes by the name of its table. Aliases tell the subqueries around a column from
each other, whatever the relations are called; only the table of the query itself can bear the name
of an alias, and without that every column is the one of the row that the predicate is about.
-/
namespace RequestQuery

open Statement

universe u

namespace Statement

/-- What a store makes of a name: letters count the same in either case. -/
def nameKey (s : String) : List Char :=
  s.toList.map Char.toLower

theorem nameKey_aliasFor (relation : String) (depth : Nat) :
    nameKey (aliasFor relation depth) = nameKey relation ++ '_' :: Nat.toDigits 10 depth := by
  have hdigits : (Nat.toDigits 10 depth).map Char.toLower = Nat.toDigits 10 depth := by
    refine (List.map_congr_left fun c hc => ?_).trans (List.map_id _)
    have hdigit := Nat.isDigit_of_mem_toDigits (by decide) (by decide) hc
    simp only [Char.isDigit, Bool.and_eq_true, decide_eq_true_eq] at hdigit
    have hlast : c.toNat ≤ 0x39 := hdigit.2
    exact Text.Case.toLower_eq_self (by omega)
  rw [nameKey, toList_aliasFor, List.map_append, List.map_cons, hdigits]
  rfl

theorem eq_of_append_cons_eq {α : Type} {a : α} {xs ys us vs : List α} (hus : a ∉ us)
    (hvs : a ∉ vs) (h : xs ++ a :: us = ys ++ a :: vs) : us = vs := by
  rcases List.append_eq_append_iff.mp h with ⟨mid, -, hmid⟩ | ⟨mid, -, hmid⟩
  · cases mid with
    | nil => exact (List.cons.inj hmid).2
    | cons b mid =>
        have hmem : a ∈ us := by
          rw [(List.cons.inj hmid).2]
          simp
        exact absurd hmem hus
  · cases mid with
    | nil => exact (List.cons.inj hmid).2.symm
    | cons b mid =>
        have hmem : a ∈ vs := by
          rw [(List.cons.inj hmid).2]
          simp
        exact absurd hmem hvs

/-- The depth can be read off an alias, even if the name of the relation ends in a number itself. -/
theorem depth_eq_of_nameKey_eq {relation other : String} {depth level : Nat}
    (h : nameKey (aliasFor relation depth) = nameKey (aliasFor other level)) : depth = level := by
  rw [nameKey_aliasFor, nameKey_aliasFor] at h
  have hdigits := eq_of_append_cons_eq Nat.underscore_not_in_toDigits
    Nat.underscore_not_in_toDigits h
  rw [← Nat.ofDigitChars_ten_toDigits (n := depth), hdigits, Nat.ofDigitChars_ten_toDigits]

/-- The rows of a store, their cells, and what its operators make of cells and operands. -/
structure Store (Row : Type u) where
  contains : String → Row → Prop
  cell : Row → String → Param
  lowered : Param → Param
  holds : StoreOperator → Param → List Param → Prop

/-- The rows that a column may belong to with the keys of their names, the innermost first. -/
abbrev Scopes (Row : Type u) : Type u :=
  List (List Char × Row)

variable {Row : Type u}

/-- Whether a test holds of the cell that a column refers to. -/
def Store.At (S : Store Row) (scopes : Scopes Row) (column : ColumnRef) (test : Param → Prop) :
    Prop :=
  ∃ row, scopes.lookup (nameKey column.table) = some row ∧ test (S.cell row column.name)

/-- A pattern match, both sides lowered if asked for. -/
def Store.Matches (S : Store Row) (op : StoreOperator) (text : Param) (escape : String)
    (lowered : Bool) (cell : Param) : Prop :=
  if lowered then S.holds op (S.lowered cell) [S.lowered text, .string escape]
  else S.holds op cell [text, .string escape]

def Leaf.Holds (S : Store Row) (scopes : Scopes Row) : Leaf → Prop
  | compare column op value => S.At scopes column fun cell => S.holds op cell [value]
  | pattern column op text escape lowered =>
    S.At scopes column (S.Matches op text escape lowered)
  | member column values negated =>
    S.At scopes column fun cell => S.holds (if negated then .notIn else .isIn) cell values
  | between column low high negated =>
    S.At scopes column fun cell =>
      S.holds (if negated then .notBetween else .between) cell [low, high]
  | null column negated =>
    S.At scopes column fun cell => S.holds (if negated then .isNotNull else .isNull) cell []
  | constant holds => holds = true
  | joined left op right =>
    S.At scopes left fun a => S.At scopes right fun b => S.holds op a [b]

namespace Clause

mutual

def Holds (S : Store Row) (scopes : Scopes Row) : Clause → Prop
  | leaf l => l.Holds S scopes
  | subquery table inside condition =>
    ∃ row, S.contains table row ∧ condition.Holds S ((nameKey inside, row) :: scopes)
  | join c parts => c.Joins (truths S scopes parts)

def truths (S : Store Row) (scopes : Scopes Row) : List Clause → List Prop
  | [] => []
  | part :: rest => part.Holds S scopes :: truths S scopes rest

end

mutual

/-- The alias of every subquery, with the names around it, the innermost first. -/
def subqueries (around : List String) : Clause → List (String × List String)
  | leaf _ => []
  | subquery _ inside condition => (inside, around) :: condition.subqueries (inside :: around)
  | join _ parts => subqueriesOf around parts

def subqueriesOf (around : List String) : List Clause → List (String × List String)
  | [] => []
  | part :: rest => part.subqueries around ++ subqueriesOf around rest

end

/-- Every alias differs from all names around it. -/
def HasFreshAliases (around : List String) (c : Clause) : Prop :=
  ∀ e ∈ c.subqueries around, ∀ name ∈ e.2, nameKey e.1 ≠ nameKey name

theorem truths_eq_map (S : Store Row) (scopes : Scopes Row) (parts : List Clause) :
    truths S scopes parts = parts.map (Holds S scopes) := by
  induction parts with
  | nil => rfl
  | cons part rest ih => rw [truths, ih, List.map_cons]

theorem subqueriesOf_eq_flatMap (around : List String) (parts : List Clause) :
    subqueriesOf around parts = parts.flatMap (subqueries around) := by
  induction parts with
  | nil => rfl
  | cons part rest ih => rw [subqueriesOf, ih, List.flatMap_cons]

theorem holds_chain (S : Store Row) (scopes : Scopes Row) (c : Connective) (parts : List Clause) :
    (chain c parts).Holds S scopes ↔ c.Joins (parts.map (Holds S scopes)) := by
  match parts with
  | [] => cases c <;> simp [chain, Holds, Leaf.Holds, Connective.Joins]
  | [part] => exact (c.joins_singleton _).symm
  | part :: next :: rest =>
      change c.Joins (truths S scopes (part :: next :: rest)) ↔ _
      rw [truths_eq_map]

theorem subqueries_chain (around : List String) (c : Connective) (parts : List Clause) :
    (chain c parts).subqueries around = parts.flatMap (subqueries around) := by
  match parts with
  | [] => rfl
  | [part] => simp [chain]
  | part :: next :: rest => exact subqueriesOf_eq_flatMap around (part :: next :: rest)

end Clause

variable {S : Store Row} {scopes : Scopes Row}

theorem Store.at_iff {scope : String} {row : Row} (hrow : scopes.lookup (nameKey scope) = some row)
    (name : String) (test : Param → Prop) :
    S.At scopes ⟨scope, name⟩ test ↔ test (S.cell row name) := by
  simp [Store.At, hrow]

theorem lookup_cons_of_ne {key other : List Char} (h : other ≠ key) (row : Row) :
    List.lookup key ((other, row) :: scopes) = scopes.lookup key := by
  rw [List.lookup_cons, beq_eq_false_iff_ne.mpr h.symm]

end Statement

/-- The truth of a condition on a column at a row. Membership in no list at all is settled without
the store. -/
def Predicate.HoldsAt {Row : Type u} (S : Store Row) (row : Row) : Predicate → Prop
  | compare name op value => S.holds op (S.cell row name) [Param.ofValue value]
  | pattern name op text caseInsensitive =>
    S.Matches op (.string text) (String.singleton Pattern.escapeMark)
      (caseInsensitive && (op == .like || op == .notLike)) (S.cell row name)
  | member name values negated =>
    if values.isEmpty then negated = true
    else S.holds (if negated then .notIn else .isIn) (S.cell row name) (values.map Param.ofValue)
  | between name low high negated =>
    S.holds (if negated then .notBetween else .between) (S.cell row name)
      [Param.ofValue low, Param.ofValue high]
  | null name negated => S.holds (if negated then .isNotNull else .isNull) (S.cell row name) []
  | related .. | group .. => False

/-- Rows with the models that they are of. A relation reaches the rows of its target whose joined
column equals that of the row it starts from. -/
def Statement.Store.interpretation {Row : Type u} (S : Store Row) (catalog : Catalog) :
    Interpretation (Model × Row) where
  holds p at' := p.HoldsAt S at'.2
  reaches relation at' next :=
    ∃ r, catalog.related? at'.1 relation = some (r, next.1) ∧ S.contains next.1.table next.2 ∧
      S.holds .eq (S.cell next.2 r.relatedColumn) [S.cell at'.2 r.parentColumn]

namespace Predicate

variable {catalog : Catalog} {m : Model} {scope : String} {depth : Nat}

theorem forall₂_of_clauses? {members : List Predicate} {cs : List Clause}
    (h : clauses? catalog m scope depth members = some cs) :
    List.Forall₂ (fun p c => p.clause? catalog m scope depth = some c) members cs := by
  induction members generalizing cs with
  | nil =>
      cases h
      exact .nil
  | cons p rest ih =>
      rw [clauses?] at h
      split at h
      · cases h
      · rename_i c hc
        obtain ⟨cs, hcs, rfl⟩ := Option.map_eq_some_iff.mp h
        exact .cons hc (ih hcs)

theorem clause?_induction {motive : Model → String → Nat → Predicate → Clause → Prop}
    {p : Predicate} {c : Clause} (h : p.clause? catalog m scope depth = some c)
    (leaf : ∀ m scope depth p l column, p.column? = some column →
      p.clause? catalog m scope depth = some (.leaf l) → motive m scope depth p (.leaf l))
    (related : ∀ m scope depth relation inner r target body,
      catalog.related? m relation = some (r, target) →
      motive target (aliasFor relation (depth + 1)) (depth + 1) inner body →
      motive m scope depth (.related relation inner)
        (.subquery target.table (aliasFor relation (depth + 1)) (.join .and
          [.leaf (.joined ⟨aliasFor relation (depth + 1), r.relatedColumn⟩ .eq
            ⟨scope, r.parentColumn⟩), body])))
    (group : ∀ m scope depth c members cs, List.Forall₂ (motive m scope depth) members cs →
      motive m scope depth (.group c members) (Clause.chain c cs)) :
    motive m scope depth p c := by
  induction p generalizing m scope depth c with
  | compare name op value =>
      cases h
      exact leaf m scope depth _ _ name rfl rfl
  | pattern name op text caseInsensitive =>
      cases h
      exact leaf m scope depth _ _ name rfl rfl
  | member name values negated =>
      rw [clause?] at h
      split at h
      · rename_i hvalues
        cases h
        exact leaf m scope depth _ _ name rfl (if_pos hvalues)
      · rename_i hvalues
        cases h
        exact leaf m scope depth _ _ name rfl (if_neg hvalues)
  | between name low high negated =>
      cases h
      exact leaf m scope depth _ _ name rfl rfl
  | null name negated =>
      cases h
      exact leaf m scope depth _ _ name rfl rfl
  | related relation inner ih =>
      rw [clause?] at h
      split at h
      · cases h
      · rename_i r target hrelated
        obtain ⟨body, hbody, rfl⟩ := Option.map_eq_some_iff.mp h
        exact related m scope depth relation inner r target body hrelated (ih hbody)
  | group c members ih =>
      obtain ⟨cs, hcs, rfl⟩ := Option.map_eq_some_iff.mp h
      refine group m scope depth c members cs ?_
      apply forall₂_of_forall_mem (forall₂_of_clauses? hcs)
      intro p hp c hc
      exact ih p hp hc

theorem exists_clause_of_tokens {p : Predicate} {ts : List Token}
    (h : p.tokens catalog m scope depth = .ok ts) :
    ∃ c, p.clause? catalog m scope depth = some c := by
  refine tokens_induction (motive := fun m scope depth p _ =>
    ∃ c, p.clause? catalog m scope depth = some c) h ?_ ?_ ?_ ?_ ?_ ?_ ?_ ?_ ?_
  · exact fun _ _ _ _ _ _ => ⟨_, rfl⟩
  · exact fun _ _ _ _ _ _ _ => ⟨_, rfl⟩
  · exact fun _ _ _ _ _ => ⟨_, rfl⟩
  · intro m scope depth name values negated _
    rw [clause?]
    split
    · exact ⟨_, rfl⟩
    · exact ⟨_, rfl⟩
  · exact fun _ _ _ _ _ _ _ => ⟨_, rfl⟩
  · exact fun _ _ _ _ _ => ⟨_, rfl⟩
  · intro m scope depth relation inner r target _ hrelated ih
    obtain ⟨body, hbody⟩ := ih
    rw [clause?, hrelated]
    simp only [hbody, Option.map_some]
    exact ⟨_, rfl⟩
  · exact fun _ _ _ _ => ⟨_, rfl⟩
  · intro m scope depth c members _ _ hmembers
    obtain ⟨cs, hcs⟩ : ∃ cs, clauses? catalog m scope depth members = some cs := by
      clear * - hmembers
      induction hmembers with
      | nil => exact ⟨[], rfl⟩
      | cons hhead _ ih =>
          obtain ⟨c, hc⟩ := hhead
          obtain ⟨cs, hcs⟩ := ih
          exact ⟨c :: cs, clauses?_eq_some (.cons hc (forall₂_of_clauses? hcs))⟩
    exact ⟨_, congrArg _ hcs⟩

theorem mem_outside_of_nameKey_eq {p : Predicate} {c : Clause}
    (h : p.clause? catalog m scope depth = some c) {outside around : List String}
    (haround : ∀ name ∈ around,
      name ∈ outside ∨ ∃ relation level, level ≤ depth ∧ name = aliasFor relation level) :
    ∀ e ∈ c.subqueries around, ∀ name ∈ e.2, nameKey e.1 = nameKey name → name ∈ outside := by
  refine clause?_induction (motive := fun _ _ depth _ c => ∀ around : List String,
    (∀ name ∈ around,
      name ∈ outside ∨ ∃ relation level, level ≤ depth ∧ name = aliasFor relation level) →
    ∀ e ∈ c.subqueries around, ∀ name ∈ e.2, nameKey e.1 = nameKey name → name ∈ outside)
    h ?leaf ?related ?group around haround
  case leaf =>
    intro _ _ _ _ l _ _ _ around _ e he
    cases he
  case related =>
    intro m scope depth relation inner r target body _ ih around haround e he
    have hbody := ih (aliasFor relation (depth + 1) :: around) <| by
      rw [List.forall_mem_cons]
      refine ⟨.inr ⟨relation, depth + 1, Nat.le_refl _, rfl⟩, fun name hname => ?_⟩
      refine (haround name hname).imp_right ?_
      rintro ⟨other, level, hlevel, rfl⟩
      exact ⟨other, level, by omega, rfl⟩
    simp only [Clause.subqueries, Clause.subqueriesOf, List.nil_append, List.append_nil,
      List.mem_cons] at he
    rcases he with rfl | he
    · -- An alias further out has a smaller depth, and the names show the depths.
      intro name hname hkey
      refine (haround name hname).resolve_right ?_
      rintro ⟨other, level, hlevel, rfl⟩
      have hdepth := depth_eq_of_nameKey_eq hkey
      omega
    · exact hbody e he
  case group =>
    intro _ _ depth c members cs hmembers around haround e he
    rw [Clause.subqueries_chain] at he
    obtain ⟨part, hpart, he⟩ := List.mem_flatMap.mp he
    obtain ⟨p, -, hp⟩ := exists_of_mem_traversal hmembers hpart
    exact hp around haround e he

variable {Row : Type u} {S : Store Row}

theorem holds_leaf_iff {p : Predicate} {l : Leaf} {column : String}
    (hcolumn : p.column? = some column) (h : p.clause? catalog m scope depth = some (.leaf l))
    {scopes : Scopes Row} {row : Row}
    (hrow : scopes.lookup (nameKey scope) = some row) :
    l.Holds S scopes ↔ p.HoldsAt S row := by
  cases p with
  | member name values negated =>
      rw [clause?] at h
      split at h
      · rename_i hvalues
        cases h
        rw [HoldsAt, if_pos hvalues, Leaf.Holds]
      · rename_i hvalues
        cases h
        rw [HoldsAt, if_neg hvalues, Leaf.Holds, Store.at_iff hrow]
  | compare | pattern | between | null =>
      cases h
      rw [HoldsAt, Leaf.Holds, Store.at_iff hrow]
  | related | group => cases hcolumn

/-- With fresh aliases a condition holds where its predicate does: the row of the scope is found by
its name wherever a column of it is compared. -/
theorem holds_clause_iff {p : Predicate} {c : Clause}
    (h : p.clause? catalog m scope depth = some c) {around : List String} (hscope : scope ∈ around)
    (hfresh : c.HasFreshAliases around) {scopes : Scopes Row} {row : Row}
    (hrow : scopes.lookup (nameKey scope) = some row) :
    c.Holds S scopes ↔ p.Holds (S.interpretation catalog) (m, row) := by
  refine clause?_induction (motive := fun m scope _ p c => ∀ (around : List String)
    (scopes : Scopes Row) (row : Row), scope ∈ around → c.HasFreshAliases around →
    scopes.lookup (nameKey scope) = some row →
    (c.Holds S scopes ↔ p.Holds (S.interpretation catalog) (m, row)))
    h ?leaf ?related ?group around scopes row hscope hfresh hrow
  case leaf =>
    intro m scope depth p l column hcolumn hl around scopes row _ _ hrow
    rw [holds_iff_of_column? hcolumn]
    exact holds_leaf_iff hcolumn hl hrow
  case related =>
    intro m scope depth relation inner r target body hrelated ih around scopes row hscope hfresh
      hrow
    have hinside := hfresh (aliasFor relation (depth + 1), around) (by simp [Clause.subqueries])
    have hbody (next : Row) := ih (aliasFor relation (depth + 1) :: around)
      ((nameKey (aliasFor relation (depth + 1)), next) :: scopes) next (by simp)
      (fun e he => hfresh e (by simp [Clause.subqueries, Clause.subqueriesOf, he])) (by simp)
    have hlink (next : Row) := (lookup_cons_of_ne (hinside scope hscope) next).trans hrow
    have hparts (next : Row) : Clause.Holds S
        ((nameKey (aliasFor relation (depth + 1)), next) :: scopes) (.join .and
          [.leaf (.joined ⟨aliasFor relation (depth + 1), r.relatedColumn⟩ .eq
            ⟨scope, r.parentColumn⟩), body]) ↔
        S.holds .eq (S.cell next r.relatedColumn) [S.cell row r.parentColumn] ∧
          inner.Holds (S.interpretation catalog) (target, next) := by
      rw [← hbody next, Clause.Holds, Clause.truths_eq_map]
      simp only [List.map_cons, List.map_nil, Connective.Joins, List.forall_mem_cons,
        List.not_mem_nil, Clause.Holds, Leaf.Holds]
      rw [Store.at_iff List.lookup_cons_self, Store.at_iff (hlink next)]
      simp
    rw [Clause.Holds, Holds]
    constructor
    · rintro ⟨next, hcontains, hholds⟩
      obtain ⟨hjoined, hinner⟩ := (hparts next).mp hholds
      exact ⟨(target, next), ⟨r, hrelated, hcontains, hjoined⟩, hinner⟩
    · rintro ⟨⟨other, next⟩, ⟨r', hrelated', hcontains, hjoined⟩, hinner⟩
      rw [hrelated] at hrelated'
      cases hrelated'
      exact ⟨next, hcontains, (hparts next).mpr ⟨hjoined, hinner⟩⟩
  case group =>
    intro m scope depth c members cs hmembers around scopes row hscope hfresh hrow
    rw [Clause.HasFreshAliases, Clause.subqueries_chain] at hfresh
    have htruths : cs.map (Clause.Holds S scopes) =
        members.map fun p => p.Holds (S.interpretation catalog) (m, row) := by
      induction hmembers with
      | nil => rfl
      | cons hhead _ ih =>
          simp only [List.flatMap_cons, List.forall_mem_append] at hfresh
          rw [List.map_cons, List.map_cons, ih hfresh.2,
            propext (hhead around scopes row hscope hfresh.1 hrow)]
    rw [Clause.holds_chain, htruths, Holds, truths_eq_map]

end Predicate

namespace Query

theorem conditionTokens_record_ofSource {source : Source} {c : Connective} {p : Predicate}
    {ts : List Token} (h : ((ofSource source).record c p).conditionTokens = .ok ts) :
    p.tokens source.catalog source.model source.model.table 0 = .ok ts := by
  obtain ⟨joined, hjoined, rfl⟩ := map_eq_ok_iff.mp h
  change joinedTokens source [(c, p)] = .ok joined at hjoined
  rw [joinedTokens] at hjoined
  split at hjoined
  · cases hjoined
  · rename_i part hpart
    cases hjoined
    simpa using hpart

theorem clause?_whereClause_record {source : Source} (hidentifiers : source.HasIdentifiers)
    (hkeywords : source.HasNoKeywords) {c : Connective} {p : Predicate}
    (hnames : p.Every Predicate.HasIdentifier) (hoperators : p.Every Predicate.HasFittingOperator)
    {clause : Clause}
    (hclause : p.clause? source.catalog source.model source.model.table 0 = some clause)
    {f : Fragment} (h : ((ofSource source).record c p).whereClause = .ok f) :
    f.clause? = some clause := by
  rw [whereClause_eq_map] at h
  obtain ⟨ts, hts, rfl⟩ := map_eq_ok_iff.mp h
  have hknown := isKnown_conditionTokens (q := (ofSource source).record c p) hidentifiers
    (by simpa [record, ofSource] using hnames) hts
  obtain ⟨items, clause', hclause', hreads, hunit⟩ :=
    Predicate.exists_unit_of_tokens hidentifiers.models hkeywords.models hidentifiers.root
      hidentifiers.root.table hkeywords.root hnames hoperators
      (conditionTokens_record_ofSource hts)
  rw [hclause] at hclause'
  cases hclause'
  have hcondition := isCondition_units .and hunit .nil
  rw [List.flatMap_nil, List.append_nil] at hcondition
  exact clause?_ofTokens hknown hreads hcondition.ofItems?

/-- Only the table of the query itself can go by the name of an alias inside of it. Unless it does,
the text of a condition holds of the rows that the predicate holds of. -/
theorem holds_whereClause_iff {text key : String} {dialect : Dialect} {source : Source}
    (hcatalog : Catalog.ofText text = .ok source.catalog)
    (hsource : Source.ofKey? source.catalog key dialect = some source) {c : Connective}
    {p : Predicate} {f : Fragment} (h : ((ofSource source).record c p).whereClause = .ok f) :
    ∃ clause, p.clause? source.catalog source.model source.model.table 0 = some clause ∧
      (source.HasNoKeywords → p.Every Predicate.HasIdentifier →
        p.Every Predicate.HasFittingOperator → f.clause? = some clause) ∧
      (∀ e ∈ clause.subqueries [source.model.table], ∀ name ∈ e.2,
        nameKey e.1 = nameKey name → name = source.model.table) ∧
      (clause.HasFreshAliases [source.model.table] → ∀ (Row : Type u) (S : Store Row) (row : Row),
        clause.Holds S [(nameKey source.model.table, row)] ↔
          p.Holds (S.interpretation source.catalog) (source.model, row)) := by
  obtain ⟨ts, hts, -⟩ := map_eq_ok_iff.mp (whereClause_eq_map _ ▸ h)
  obtain ⟨clause, hclause⟩ :=
    Predicate.exists_clause_of_tokens (conditionTokens_record_ofSource hts)
  refine ⟨clause, hclause, ?_, ?_, ?_⟩
  · intro hkeywords hnames hoperators
    exact clause?_whereClause_record (Source.hasIdentifiers_of_ofText hcatalog hsource) hkeywords
      hnames hoperators hclause h
  · intro e he name hname hkey
    refine List.mem_singleton.mp
      (Predicate.mem_outside_of_nameKey_eq hclause ?_ e he name hname hkey)
    exact fun name hname => .inl hname
  · intro hfresh Row S row
    exact Predicate.holds_clause_iff hclause (by simp) hfresh (by simp)

end Query

/-- Nodes of a tree with their parents, in a table of any name. -/
def Source.nodes (table : String) : Source :=
  let nodes : Model :=
    { name := "nodes", table := table, primaryKey := "id", filterable := none, sortable := none,
      searchable := [], searchParam := none, casts := [],
      relations := [("parent", ⟨.belongsTo, "nodes", "parent_id", "id"⟩)] }
  ⟨⟨[("nodes", nodes)]⟩, nodes, .sqlite⟩

/-- The text that the catalog of nodes is read from. -/
def Source.nodesText (table : String) : String :=
  Json.Value.render (.object [("nodes", .object [("table", .string table),
    ("relations", .object [("parent", .object [("kind", .string "belongs_to"),
      ("target", .string "nodes"), ("foreign_key", .string "parent_id")])])])])

/-- A node that is called root, and a node below it. -/
def Statement.Store.rootAndLeaf : Store Bool where
  contains _ _ := True
  cell
    | true, "id" => .integer 1
    | true, "name" => .string "root"
    | false, "id" => .integer 2
    | false, "parent_id" => .integer 1
    | _, _ => .null
  lowered p := p
  holds op a operands := op = .eq ∧ operands = [a] ∧ a ≠ .null

namespace Query

theorem holds_whereClause_iff_nodes :
    let source := Source.nodes "nodes"
    let p : Predicate := .related "parent" (.group .or
      [.compare "name" .eq (.string "root"), .related "parent" (.null "parent_id" false)])
    let text := "EXISTS (SELECT 1 FROM nodes parent_1 WHERE parent_1.id = nodes.parent_id AND " ++
      "(parent_1.name = ?1 OR EXISTS (SELECT 1 FROM nodes parent_2 WHERE " ++
      "parent_2.id = parent_1.parent_id AND parent_2.parent_id IS NULL)))"
    Catalog.ofText (Source.nodesText "nodes") = .ok source.catalog ∧
      Source.ofKey? source.catalog "nodes" .sqlite = some source ∧
      ((ofSource source).record .and p).whereClause = .ok ⟨text, [.string "root"]⟩ ∧
      ∃ clause, Fragment.clause? ⟨text, [.string "root"]⟩ = some clause ∧
        clause.subqueries ["nodes"] =
          [("parent_1", ["nodes"]), ("parent_2", ["parent_1", "nodes"])] ∧
        ∀ row, clause.Holds Store.rootAndLeaf [(nameKey "nodes", row)] ↔
          p.Holds (Store.rootAndLeaf.interpretation source.catalog) (source.model, row) := by
  intro source p text
  have hcatalog : Catalog.ofText (Source.nodesText "nodes") = .ok source.catalog := by
    decide +kernel
  have hsource : Source.ofKey? source.catalog "nodes" .sqlite = some source := rfl
  have hwhere : ((ofSource source).record .and p).whereClause = .ok ⟨text, [.string "root"]⟩ := by
    decide +kernel
  obtain ⟨clause, hclause, hreads, -, hmeaning⟩ := holds_whereClause_iff hcatalog hsource hwhere
  have hkeywords : source.HasNoKeywords := ⟨by decide, by decide⟩
  have hnames : p.Every Predicate.HasIdentifier := by
    simp +decide [p, Predicate.Every, Predicate.EveryOf, Predicate.HasIdentifier]
  have hoperators : p.Every Predicate.HasFittingOperator := by
    simp +decide [p, Predicate.Every, Predicate.EveryOf, Predicate.HasFittingOperator]
  have hsubqueries : clause.subqueries ["nodes"] =
      [("parent_1", ["nodes"]), ("parent_2", ["parent_1", "nodes"])] := by
    cases hclause
    decide +kernel
  have hfresh : clause.HasFreshAliases ["nodes"] := by
    rw [Clause.HasFreshAliases, hsubqueries]
    decide
  exact ⟨hcatalog, hsource, hwhere, clause, hreads hkeywords hnames hoperators, hsubqueries,
    hmeaning hfresh Bool Store.rootAndLeaf⟩

/-- With a table called as the alias of its own relation, both sides of the join are columns of the
related row: the leaf has the root above it, but the text does not hold of the leaf. -/
theorem not_holds_whereClause_parent :
    let source := Source.nodes "parent_1"
    let p : Predicate := .related "parent" (.compare "name" .eq (.string "root"))
    let text := "EXISTS (SELECT 1 FROM parent_1 parent_1 WHERE " ++
      "parent_1.id = parent_1.parent_id AND parent_1.name = ?1)"
    Catalog.ofText (Source.nodesText "parent_1") = .ok source.catalog ∧
      Source.ofKey? source.catalog "nodes" .sqlite = some source ∧
      ((ofSource source).record .and p).whereClause = .ok ⟨text, [.string "root"]⟩ ∧
      ∃ clause, Fragment.clause? ⟨text, [.string "root"]⟩ = some clause ∧
        clause.subqueries ["parent_1"] = [("parent_1", ["parent_1"])] ∧
        p.Holds (Store.rootAndLeaf.interpretation source.catalog) (source.model, false) ∧
        ¬ clause.Holds Store.rootAndLeaf [(nameKey "parent_1", false)] := by
  intro source p text
  have hcatalog : Catalog.ofText (Source.nodesText "parent_1") = .ok source.catalog := by
    decide +kernel
  have hsource : Source.ofKey? source.catalog "nodes" .sqlite = some source := rfl
  have hwhere : ((ofSource source).record .and p).whereClause = .ok ⟨text, [.string "root"]⟩ := by
    decide +kernel
  have hreads := clause?_whereClause_record (Source.hasIdentifiers_of_ofText hcatalog hsource)
    ⟨by decide, by decide⟩ (p := p) (by simp +decide [p, Predicate.Every, Predicate.HasIdentifier])
    (by simp +decide [p, Predicate.Every, Predicate.HasFittingOperator]) rfl hwhere
  refine ⟨hcatalog, hsource, hwhere, _, hreads, by decide +kernel, ?_, ?_⟩
  · refine ⟨(source.model, true), ⟨⟨.belongsTo, "nodes", "parent_id", "id"⟩, rfl, trivial, ?_⟩, ?_⟩
    · simp [Store.rootAndLeaf, Relation.relatedColumn, Relation.parentColumn]
    · simp [Predicate.Holds, Store.interpretation, Predicate.HoldsAt, Store.rootAndLeaf,
        Param.ofValue]
  · rintro ⟨row, -, hparts⟩
    -- Both columns of the join are those of the inner row.
    have hlink : Store.rootAndLeaf.At [(nameKey "parent_1", row), (nameKey "parent_1", false)]
        ⟨"parent_1", "id"⟩ fun a => Store.rootAndLeaf.At
          [(nameKey "parent_1", row), (nameKey "parent_1", false)] ⟨"parent_1", "parent_id"⟩
            fun b => Store.rootAndLeaf.holds .eq a [b] :=
      hparts _ (.head _)
    rw [Store.at_iff List.lookup_cons_self, Store.at_iff List.lookup_cons_self] at hlink
    cases row <;> simp [Store.rootAndLeaf] at hlink

end Query

end RequestQuery
