import RequestQuery.Proofs.FilterTree

/-!
What predicates and filters mean, given the truth of every condition on a column and the rows that
every relation reaches. A filter gets its meaning without being evaluated; its predicate means the
same.
-/
namespace RequestQuery

open Json (Value)

universe u

/-- The truth of conditions on columns at a row, and the rows that relations reach from a row. -/
structure Interpretation (Row : Type u) where
  holds : Predicate → Row → Prop
  reaches : String → Row → Row → Prop
deriving Inhabited

/-- Whether conditions with these truth values hold together. -/
def Connective.Joins : Connective → List Prop → Prop
  | .and, truths => ∀ t ∈ truths, t
  | .or, truths => ∃ t ∈ truths, t

variable {Row : Type u}

mutual

def Predicate.Holds (I : Interpretation Row) : Predicate → Row → Prop
  | .related relation inner, row => ∃ next, I.reaches relation row next ∧ inner.Holds I next
  | .group connective members, row => connective.Joins (Predicate.truths I members row)
  | p, row => I.holds p row

def Predicate.truths (I : Interpretation Row) : List Predicate → Row → List Prop
  | [], _ => []
  | p :: rest, row => p.Holds I row :: Predicate.truths I rest row

end

/-- A chain of related rows leads from one row to another. -/
def Interpretation.ReachesAll (I : Interpretation Row) : List String → Row → Row → Prop
  | [], row, last => row = last
  | r :: rest, row, last => ∃ next, I.reaches r row next ∧ I.ReachesAll rest next last

/-- The condition that the operator under a key makes of a column of `m` and an operand, cast by the
rule of that column, holds of a row. -/
def FilterContext.OperatorHolds (ctx : FilterContext) (I : Interpretation Row) (m : Model)
    (column path key : String) (v : Value) (row : Row) : Prop :=
  ∃ p, ctx.applyOperator m column key v path = .ok p ∧ I.holds p row

/-- What a condition says of a column of `m`: a literal is a null check, membership among the items
that are not blank, or equality, and operators are joined by their connective. -/
def Condition.Holds (ctx : FilterContext) (I : Interpretation Row) (m : Model)
    (column path : String) : Condition → Row → Prop
  | .literal .null, row => I.holds (.null column false) row
  | .literal (.array items), row =>
    ctx.OperatorHolds I m column path "in" (.array (items.filter (!Operand.isBlank ·))) row
  | .literal v, row => ctx.OperatorHolds I m column path "eq" v row
  | .operators connective entries, row =>
    connective.Joins (entries.map fun e => ctx.OperatorHolds I m column path e.1 e.2 row)

/-- A condition on a path holds of a row if related rows lead from it, relation by relation, to a
row of which the whole condition on the column holds. -/
def FieldFilter.Holds (ctx : FilterContext) (I : Interpretation Row) (f : FieldFilter)
    (row : Row) : Prop :=
  ∃ relations column m last,
    Text.split '.' f.path = relations ++ [column] ∧
    ctx.source.catalog.followAll ctx.source.model relations = .ok m ∧
    I.ReachesAll relations row last ∧
    f.condition.Holds ctx I m column f.path last

/-- Whether a condition tests nothing: a list of blank items only, or no operator at all. -/
def Condition.isVacuous : Condition → Bool
  | .literal (.array items) => items.all Operand.isBlank
  | .literal _ => false
  | .operators _ entries => entries.isEmpty

mutual

def FilterNode.isVacuous : FilterNode → Bool
  | .field f => f.condition.isVacuous
  | .group g => g.isVacuous

def FilterGroup.isVacuous : FilterGroup → Bool
  | .mk _ filters nested => FilterSpec.isVacuous filters && FilterGroup.areVacuous nested

def FilterSpec.isVacuous : List FilterNode → Bool
  | [] => true
  | n :: rest => n.isVacuous && FilterSpec.isVacuous rest

def FilterGroup.areVacuous : List FilterGroup → Bool
  | [] => true
  | g :: rest => g.isVacuous && FilterGroup.areVacuous rest

end

mutual

def FilterNode.Holds (ctx : FilterContext) (I : Interpretation Row) : FilterNode → Row → Prop
  | .field f, row => f.Holds ctx I row
  | .group g, row => g.Holds ctx I row

/-- The members of a group, written among its filters or apart, are joined by its connective. -/
def FilterGroup.Holds (ctx : FilterContext) (I : Interpretation Row) : FilterGroup → Row → Prop
  | .mk connective filters nested, row =>
    connective.Joins (FilterSpec.truths ctx I filters row ++ FilterGroup.truths ctx I nested row)

/-- The truth values of the nodes that test something. -/
def FilterSpec.truths (ctx : FilterContext) (I : Interpretation Row) :
    List FilterNode → Row → List Prop
  | [], _ => []
  | n :: rest, row =>
    if n.isVacuous then FilterSpec.truths ctx I rest row
    else n.Holds ctx I row :: FilterSpec.truths ctx I rest row

/-- The truth values of the groups that test something. -/
def FilterGroup.truths (ctx : FilterContext) (I : Interpretation Row) :
    List FilterGroup → Row → List Prop
  | [], _ => []
  | g :: rest, row =>
    if g.isVacuous then FilterGroup.truths ctx I rest row
    else g.Holds ctx I row :: FilterGroup.truths ctx I rest row

end

def FilterSpec.Holds (ctx : FilterContext) (I : Interpretation Row) (spec : FilterSpec)
    (row : Row) : Prop :=
  Connective.and.Joins (FilterSpec.truths ctx I spec row)

theorem Predicate.truths_eq_map (I : Interpretation Row) (ps : List Predicate) (row : Row) :
    Predicate.truths I ps row = ps.map fun p => p.Holds I row := by
  induction ps with
  | nil => rfl
  | cons p rest ih => rw [Predicate.truths, ih, List.map_cons]

theorem Predicate.holds_iff_of_column? {I : Interpretation Row} {p : Predicate} {column : String}
    (h : p.column? = some column) (row : Row) : p.Holds I row ↔ I.holds p row := by
  cases p <;> simp_all [Predicate.column?, Predicate.Holds]

theorem Connective.joins_singleton (c : Connective) (t : Prop) : c.Joins [t] ↔ t := by
  cases c with
  | and => exact List.forall_mem_singleton
  | or => simp only [Connective.Joins, List.mem_singleton, exists_eq_left]

theorem Connective.joins_cons_joins (c : Connective) (ts us : List Prop) :
    c.Joins (c.Joins ts :: us) ↔ c.Joins (ts ++ us) := by
  cases c with
  | and => simp only [Connective.Joins, List.forall_mem_cons, List.forall_mem_append]
  | or =>
      simp only [Connective.Joins, List.mem_cons, List.mem_append, or_and_right, exists_or,
        exists_eq_left]

theorem Predicate.holds_foldr_related (I : Interpretation Row) (relations : List String)
    (p : Predicate) (row : Row) :
    (relations.foldr .related p).Holds I row ↔
      ∃ last, I.ReachesAll relations row last ∧ p.Holds I last := by
  induction relations generalizing row with
  | nil => simp [Interpretation.ReachesAll]
  | cons r rest ih =>
      simp only [List.foldr_cons, Predicate.Holds, ih, Interpretation.ReachesAll]
      constructor
      · rintro ⟨next, hstep, last, hrest, hlast⟩
        exact ⟨last, ⟨next, hstep, hrest⟩, hlast⟩
      · rintro ⟨last, ⟨next, hstep, hrest⟩, hlast⟩
        exact ⟨next, hstep, last, hrest, hlast⟩

/-- What evaluation gives for a part of a filter: nothing for a part that tests nothing, else a
predicate of the same meaning. -/
structure Represents (I : Interpretation Row) (r : Option Predicate) (vacuous : Bool)
    (meaning : Row → Prop) : Prop where
  eq_none_iff : r = none ↔ vacuous = true
  holds_iff : ∀ p, r = some p → ∀ row, p.Holds I row ↔ meaning row

namespace Represents

variable {I : Interpretation Row}

theorem of_some {p : Predicate} {meaning : Row → Prop} (h : ∀ row, p.Holds I row ↔ meaning row) :
    Represents I (some p) false meaning where
  eq_none_iff := by simp
  holds_iff := by
    rintro q ⟨⟩
    exact h

theorem join (c : Connective) (ps : List Predicate) :
    Represents I (Predicate.join c ps) ps.isEmpty
      fun row => c.Joins (ps.map fun p => p.Holds I row) := by
  match ps with
  | [] => exact ⟨by simp [Predicate.join], by simp [Predicate.join]⟩
  | [p] => exact of_some fun row => (c.joins_singleton _).symm
  | p :: q :: rest =>
      refine of_some fun row => ?_
      rw [Predicate.Holds, Predicate.truths_eq_map]

theorem join_join (c : Connective) (ps qs : List Predicate) :
    Represents I (Predicate.join c ((Predicate.join c ps).toList ++ qs))
      (ps.isEmpty && qs.isEmpty)
      fun row => c.Joins ((ps.map fun p => p.Holds I row) ++ qs.map fun p => p.Holds I row) := by
  have hinner := join (I := I) c ps
  have houter := join (I := I) c ((Predicate.join c ps).toList ++ qs)
  cases hjoin : Predicate.join c ps with
  | none =>
      have hps : ps = [] := by simpa [hjoin] using hinner.eq_none_iff
      subst hps
      exact join c qs
  | some p =>
      have hps : ps.isEmpty = false := by
        rw [← Bool.not_eq_true, ← hinner.eq_none_iff, hjoin]
        simp
      simp only [hjoin, Option.toList_some, List.singleton_append, List.isEmpty_cons] at houter
      rw [hps]
      refine ⟨houter.eq_none_iff, fun q hq row => ?_⟩
      rw [houter.holds_iff q hq row, List.map_cons,
        propext (hinner.holds_iff p hjoin row), c.joins_cons_joins]

theorem map_related {r : Option Predicate} {vacuous : Bool} {meaning : Row → Prop}
    (h : Represents I r vacuous meaning) (relations : List String) :
    Represents I (r.map (relations.foldr .related)) vacuous
      fun row => ∃ last, I.ReachesAll relations row last ∧ meaning last where
  eq_none_iff := by simpa using h.eq_none_iff
  holds_iff := by
    intro q hq row
    obtain ⟨p, hp, rfl⟩ := Option.map_eq_some_iff.mp hq
    simp only [Predicate.holds_foldr_related, h.holds_iff p hp]

end Represents

section

variable {ctx : FilterContext} {I : Interpretation Row}

theorem holds_iff_operatorHolds {m : Model} {column path key : String} {v : Value} {p : Predicate}
    (hkey : ctx.isHandlerKey key = false) (h : ctx.applyOperator m column key v path = .ok p)
    (row : Row) : p.Holds I row ↔ ctx.OperatorHolds I m column path key v row := by
  rw [Predicate.holds_iff_of_column? (FilterContext.column?_of_applyOperator hkey h)]
  constructor
  · intro hp
    exact ⟨p, h, hp⟩
  · rintro ⟨q, hq, hholds⟩
    rw [h] at hq
    cases hq
    exact hholds

theorem represents_of_applyOperator {m : Model} {column path key : String} {v : Value}
    {r : Option Predicate} (hkey : ctx.isHandlerKey key = false)
    (h : (ctx.applyOperator m column key v path).map some = .ok r) :
    Represents I r false (ctx.OperatorHolds I m column path key v) := by
  obtain ⟨p, hp, rfl⟩ := map_eq_ok_iff.mp h
  exact .of_some (holds_iff_operatorHolds hkey hp)

theorem represents_of_applyOperators {m : Model} {column path : String} (c : Connective)
    {entries : List (String × Value)} {ps : List Predicate}
    (hkeys : ∀ key ∈ entries.map Prod.fst, ctx.isHandlerKey key = false)
    (h : ctx.applyOperators m column path entries = .ok ps) :
    Represents I (Predicate.join c ps) entries.isEmpty
      fun row => c.Joins (entries.map fun e => ctx.OperatorHolds I m column path e.1 e.2 row) := by
  rw [FilterContext.applyOperators_eq_mapM, mapM_eq_ok_iff] at h
  have htruths : ∀ row, (entries.map fun e => ctx.OperatorHolds I m column path e.1 e.2 row) =
      ps.map fun p => p.Holds I row := by
    intro row
    induction h with
    | nil => rfl
    | cons hhead _ ih =>
        rw [List.map_cons, List.forall_mem_cons] at hkeys
        rw [List.map_cons, List.map_cons, ih hkeys.2,
          propext (holds_iff_operatorHolds (I := I) hkeys.1 hhead row)]
  have hempty : entries.isEmpty = ps.isEmpty := by cases h <;> rfl
  simp only [hempty, htruths]
  exact .join c ps

theorem represents_of_applyCondition {m : Model} {column path : String} {condition : Condition}
    {r : Option Predicate} (hkeys : ∀ key ∈ condition.keys, ctx.isHandlerKey key = false)
    (h : ctx.applyCondition m column condition path = .ok r) :
    Represents I r condition.isVacuous (condition.Holds ctx I m column path) := by
  cases condition with
  | operators c entries =>
      obtain ⟨ps, hps, rfl⟩ := map_eq_ok_iff.mp h
      exact represents_of_applyOperators c hkeys hps
  | literal v =>
      cases v with
      | null =>
          cases h
          exact .of_some fun row => Predicate.holds_iff_of_column? rfl row
      | array items =>
          have hvacuous : items.all Operand.isBlank = (Operand.dropBlank items).isEmpty := by
            rw [Bool.eq_iff_iff]
            simp [Operand.dropBlank]
          simp only [FilterContext.applyCondition, FilterContext.applyLiteral] at h
          rw [Condition.isVacuous, hvacuous]
          split at h
          · rename_i hblank
            cases h
            exact ⟨by simp [hblank], by simp⟩
          · rename_i hblank
            rw [List.isEmpty_eq_false_iff.mpr hblank]
            exact represents_of_applyOperator (hkeys "in" (by simp [Condition.keys])) h
      | _ => exact represents_of_applyOperator (hkeys "eq" (by simp [Condition.keys])) h

theorem represents_of_evalField {depth : Nat} {f : FieldFilter} {r : Option Predicate}
    (hkeys : ∀ key ∈ f.condition.keys, ctx.isHandlerKey key = false)
    (h : ctx.evalField depth f = .ok r) :
    Represents I r f.condition.isVacuous (f.Holds ctx I) := by
  obtain ⟨-, relations, column, m, inner, hpath, hfollow, hcondition, rfl⟩ :=
    FilterContext.evalField_eq_ok h
  have hinner := represents_of_applyCondition (I := I) hkeys hcondition
  refine ⟨(hinner.map_related relations).eq_none_iff, fun p hp row => ?_⟩
  rw [(hinner.map_related relations).holds_iff p hp row]
  constructor
  · rintro ⟨last, hreach, hlast⟩
    exact ⟨relations, column, m, last, hpath, hfollow, hreach, hlast⟩
  · rintro ⟨relations', column', m', last, hpath', hfollow', hreach, hlast⟩
    obtain ⟨rfl, hcolumn⟩ := List.append_inj' (hpath.symm.trans hpath') rfl
    cases hcolumn
    rw [hfollow] at hfollow'
    cases hfollow'
    exact ⟨last, hreach, hlast⟩

theorem FilterSpec.truths_eq_map (ns : List FilterNode) (row : Row) :
    FilterSpec.truths ctx I ns row =
      (ns.filter (!·.isVacuous)).map fun n => n.Holds ctx I row := by
  induction ns with
  | nil => rfl
  | cons n rest ih => cases hn : n.isVacuous <;> simp [FilterSpec.truths, hn, ih]

theorem FilterGroup.truths_eq_map (gs : List FilterGroup) (row : Row) :
    FilterGroup.truths ctx I gs row =
      (gs.filter (!·.isVacuous)).map fun g => g.Holds ctx I row := by
  induction gs with
  | nil => rfl
  | cons g rest ih => cases hg : g.isVacuous <;> simp [FilterGroup.truths, hg, ih]

theorem FilterSpec.isVacuous_eq_all (ns : List FilterNode) :
    FilterSpec.isVacuous ns = ns.all FilterNode.isVacuous := by
  induction ns with
  | nil => rfl
  | cons n rest ih => rw [FilterSpec.isVacuous, ih, List.all_cons]

theorem FilterGroup.areVacuous_eq_all (gs : List FilterGroup) :
    FilterGroup.areVacuous gs = gs.all FilterGroup.isVacuous := by
  induction gs with
  | nil => rfl
  | cons g rest ih => rw [FilterGroup.areVacuous, ih, List.all_cons]

theorem Represents.map_holds {α : Type} {vacuous : α → Bool} {meaning : α → Row → Prop}
    {as : List α} {rs : List (Option Predicate)}
    (h : List.Forall₂ (fun a r => Represents I r (vacuous a) (meaning a)) as rs) :
    as.all vacuous = (rs.flatMap Option.toList).isEmpty ∧
      ∀ row, ((as.filter (!vacuous ·)).map fun a => meaning a row) =
        (rs.flatMap Option.toList).map fun p => p.Holds I row := by
  induction h with
  | nil => exact ⟨rfl, fun _ => rfl⟩
  | @cons a r as rs hhead _ ih =>
      cases hr : r with
      | none =>
          have ha : vacuous a = true := hhead.eq_none_iff.mp hr
          simpa [ha] using ih
      | some p =>
          have ha : vacuous a = false := by
            rw [← Bool.not_eq_true, ← hhead.eq_none_iff, hr]
            simp
          refine ⟨by simp [ha], fun row => ?_⟩
          simp [ha, ih.2 row, propext (hhead.holds_iff p hr row)]

theorem represents_of_evalNodes {depth : Nat} {ns : List FilterNode} {ps : List Predicate}
    (ih : ∀ n ∈ ns, ∀ r, ctx.evalNode depth n = .ok r →
      Represents I r n.isVacuous (n.Holds ctx I))
    (h : ctx.evalNodes depth ns = .ok ps) :
    FilterSpec.isVacuous ns = ps.isEmpty ∧
      ∀ row, FilterSpec.truths ctx I ns row = ps.map fun p => p.Holds I row := by
  rw [FilterContext.evalNodes_eq_mapM] at h
  obtain ⟨rs, hrs, rfl⟩ := map_eq_ok_iff.mp h
  simp only [FilterSpec.isVacuous_eq_all, FilterSpec.truths_eq_map]
  apply Represents.map_holds
  exact forall₂_of_forall_mem (mapM_eq_ok_iff.mp hrs) ih

theorem represents_of_evalGroups {depth : Nat} {gs : List FilterGroup} {ps : List Predicate}
    (ih : ∀ g ∈ gs, ∀ r, ctx.evalGroup depth g = .ok r →
      Represents I r g.isVacuous (g.Holds ctx I))
    (h : ctx.evalGroups depth gs = .ok ps) :
    FilterGroup.areVacuous gs = ps.isEmpty ∧
      ∀ row, FilterGroup.truths ctx I gs row = ps.map fun p => p.Holds I row := by
  rw [FilterContext.evalGroups_eq_mapM] at h
  obtain ⟨rs, hrs, rfl⟩ := map_eq_ok_iff.mp h
  simp only [FilterGroup.areVacuous_eq_all, FilterGroup.truths_eq_map]
  apply Represents.map_holds
  exact forall₂_of_forall_mem (mapM_eq_ok_iff.mp hrs) ih

theorem represents_of_evalNode (n : FilterNode) :
    ∀ depth r, ctx.UsesNoHandler n.fields →
      ctx.evalNode depth n = .ok r → Represents I r n.isVacuous (n.Holds ctx I) := by
  induction n using FilterNode.treeInduction
    (G := fun g => ∀ depth r, ctx.UsesNoHandler g.fields →
      ctx.evalGroup depth g = .ok r → Represents I r g.isVacuous (g.Holds ctx I)) with
  | field f =>
      intro depth r hkeys h
      exact represents_of_evalField (hkeys f (by simp [FilterNode.fields])) h
  | group g ih =>
      intro depth r hkeys h
      exact ih (depth + 1) r hkeys h
  | mk c filters nested ihf ihg =>
      rename_i depth r hkeys h
      rw [FilterGroup.fields, FilterSpec.fields_eq_flatMap,
        FilterGroup.fieldsOf_eq_flatMap] at hkeys
      obtain ⟨-, members, groups, hmembers, hgroups, rfl⟩ := FilterContext.evalGroup_eq_ok h
      have hfilters := represents_of_evalNodes (I := I)
        (fun n hn r => ihf n hn depth r (hkeys.mono fun f hf =>
          List.mem_append_left _ (List.mem_flatMap_of_mem hn hf))) hmembers
      have hnested := represents_of_evalGroups (I := I)
        (fun g hg r => ihg g hg (depth + 1) r (hkeys.mono fun f hf =>
          List.mem_append_right _ (List.mem_flatMap_of_mem hg hf))) hgroups
      have hjoin := Represents.join_join (I := I) c members groups
      simpa only [FilterGroup.isVacuous, hfilters.1, hnested.1, FilterGroup.Holds, hfilters.2,
        hnested.2] using hjoin

/-- A filter that is accepted comes to nothing when all of it tests nothing, and else to a predicate
that holds of the same rows. -/
theorem FilterContext.holds_iff_of_evaluate {spec : FilterSpec} {result : Option Predicate}
    (hkeys : ctx.UsesNoHandler (FilterSpec.fields spec)) (h : ctx.evaluate spec = .ok result) :
    (result = none ↔ FilterSpec.isVacuous spec = true) ∧
      ∀ (I : Interpretation Row) p, result = some p →
        ∀ row, p.Holds I row ↔ FilterSpec.Holds ctx I spec row := by
  obtain ⟨-, members, hmembers, rfl⟩ := FilterContext.evaluate_eq_ok h
  have hnodes (I : Interpretation Row) := represents_of_evalNodes (I := I)
    (fun n hn r => represents_of_evalNode n 0 r (hkeys.mono fun f hf => by
      rw [FilterSpec.fields_eq_flatMap]
      exact List.mem_flatMap_of_mem hn hf)) hmembers
  refine ⟨?_, fun I p hp row => ?_⟩
  · rw [(hnodes default).1]
    exact (Represents.join (I := (default : Interpretation Row)) .and members).eq_none_iff
  · rw [(Represents.join (I := I) .and members).holds_iff p hp row, FilterSpec.Holds,
      (hnodes I).2 row]

theorem FilterContext.holds_iff_of_evaluate_posts :
    let spec : FilterSpec := [
      .field ⟨"title", .literal (.string "a")⟩,
      .group (.mk .or
        [.field ⟨"author.name", .operators .and [("ne", .string "b"), ("like", .string "c")]⟩,
          .field ⟨"tag", .literal (.array [.null, .string ""])⟩]
        [.mk .and [.field ⟨"replies.id", .literal .null⟩] [], .mk .or [] []])]
    let p : Predicate := .group .and [
      .compare "title" .eq (.string "a"),
      .group .or [
        .related "author"
          (.group .and [.compare "name" .ne (.string "b"), .pattern "name" .like "%c%" false]),
        .related "replies" (.null "id" false)]]
    FilterContext.posts.UsesNoHandler (FilterSpec.fields spec) ∧
      FilterContext.posts.evaluate spec = .ok (some p) ∧
      ∀ (I : Interpretation Nat) row,
        p.Holds I row ↔ FilterSpec.Holds FilterContext.posts I spec row := by
  intro spec p
  have hkeys : FilterContext.posts.UsesNoHandler (FilterSpec.fields spec) := by decide
  have h : FilterContext.posts.evaluate spec = .ok (some p) := rfl
  exact ⟨hkeys, h, fun I => (FilterContext.holds_iff_of_evaluate hkeys h).2 I p rfl⟩

end

end RequestQuery
