import RequestQuery.Proofs.PatternLanguage
import RequestQuery.Proofs.PredicateForm

namespace RequestQuery

open Json (Value)
open Statement (Token)

/-- Whether a store operator on patterns lets a text through, where case counts. -/
def StoreOperator.Admits (op : StoreOperator) (pattern text : String) : Prop :=
  match op with
  | .like | .ilike => Pattern.Matches pattern text
  | .notLike | .notIlike => ¬ Pattern.Matches pattern text
  | _ => False

theorem StoreOperator.admits_iff {op : StoreOperator} (hfamily : op.family = .pattern)
    (pattern text : String) :
    op.Admits pattern text ↔ (op.isNegated = false ↔ Pattern.Matches pattern text) := by
  cases op with
  | like | ilike => simp [Admits, isNegated]
  | notLike | notIlike => simp [Admits, isNegated]
  | _ => cases hfamily

namespace Predicate

/-- A condition on a column that lets certain texts through, by a pattern whose mark the statement
names. -/
structure Selects (p : Predicate) (column : String) (texts : String → Prop) : Prop where
  exists_pattern : ∃ op pattern caseInsensitive, p = .pattern column op pattern caseInsensitive ∧
    ∀ t, op.Admits pattern t ↔ texts t
  namesMark : ∀ catalog m scope depth, ∃ ts, p.tokens catalog m scope depth = .ok ts ∧
    [.word "ESCAPE", .word ("'" ++ String.singleton Pattern.escapeMark ++ "'")] <:+ ts

variable {p : Predicate} {column : String} {texts others : String → Prop}

theorem escape_suffix_patternTokens (scope name : String) (op : StoreOperator) (text : String)
    (caseInsensitive : Bool) :
    [.word "ESCAPE", .word ("'" ++ String.singleton Pattern.escapeMark ++ "'")] <:+
      Statement.patternTokens scope name op text caseInsensitive := by
  have hclause : Statement.escapeClause =
      [.word "ESCAPE", .word ("'" ++ String.singleton Pattern.escapeMark ++ "'")] := by
    decide
  rw [← hclause, Statement.patternTokens]
  split
  · exact List.suffix_append _ _
  · exact List.suffix_append _ _

theorem selects_pattern {op : StoreOperator} (hfamily : op.family = .pattern) {pattern : String}
    (h : ∀ t, texts t ↔ (op.isNegated = false ↔ Pattern.Matches pattern t))
    (caseInsensitive : Bool) :
    (Predicate.pattern column op pattern caseInsensitive).Selects column texts where
  exists_pattern := by
    refine ⟨op, pattern, caseInsensitive, rfl, fun t => ?_⟩
    rw [StoreOperator.admits_iff hfamily, h t]
  namesMark := by
    intro catalog m scope depth
    exact ⟨_, rfl, escape_suffix_patternTokens scope column op pattern caseInsensitive⟩

theorem Selects.iff_forall (h : p.Selects column texts) :
    p.Selects column others ↔ ∀ t, texts t ↔ others t := by
  constructor
  · intro hothers t
    obtain ⟨op, pattern, caseInsensitive, rfl, htexts⟩ := h.exists_pattern
    obtain ⟨op', pattern', caseInsensitive', heq, hothers⟩ := hothers.exists_pattern
    cases heq
    exact (htexts t).symm.trans (hothers t)
  · intro hiff
    obtain ⟨op, pattern, caseInsensitive, rfl, htexts⟩ := h.exists_pattern
    exact ⟨⟨op, pattern, caseInsensitive, rfl, fun t => (htexts t).trans (hiff t)⟩, h.namesMark⟩

/-- Every leaf of a condition is about a column and lets the texts through in which a term
occurs. -/
def Seeks (p : Predicate) (term : String) : Prop :=
  p.Every fun leaf => ∀ column, leaf.column? = some column →
    leaf.Selects column fun t => term.toList <:+: t.toList

end Predicate

namespace FilterContext

variable {ctx : FilterContext} {key column path s : String} {o : Operator} {style : PatternStyle}
  {v : Value}

@[simp] theorem isNegated_emulate (native : Bool) (op : StoreOperator) :
    (OperatorSite.emulate native op).1.isNegated = op.isNegated := by
  cases op <;> cases native <;> rfl

theorem applyOperator_pattern (ho : ctx.snapshot.operators.get? key = some o)
    (hkind : o.kind = .pattern style) (htext : Operand.text? v = some s) (m : Model) :
    ctx.applyOperator m column key v path =
      let emulated := OperatorSite.emulate ctx.source.dialect.hasNativeIlike o.store
      .ok (.pattern column emulated.1 (Pattern.ofText style s) emulated.2) := by
  have hshape : Operand.ofValue (OperatorKind.pattern style).shape v = .ok (.single v) := by
    cases v with
    | null | array | object => cases htext
    | _ => rfl
  simp [applyOperator, ho, hshape, applyShaped, hkind, OperatorSite.pattern, htext]

/-- What an operator on patterns lets through is what its pattern matches, or what it does not. -/
theorem exists_applyOperator_selects (hcoherent : ctx.snapshot.operators.IsCoherent)
    (ho : ctx.snapshot.operators.get? key = some o) (hkind : o.kind = .pattern style)
    (htext : Operand.text? v = some s) {found : String → Prop}
    (h : ∀ t, Pattern.Matches (Pattern.ofText style s) t ↔ found t) (m : Model)
    (column path : String) : ∃ p, ctx.applyOperator m column key v path = .ok p ∧
      p.Selects column fun t => o.store.isNegated = false ↔ found t := by
  have hfamily : o.store.family = .pattern := by
    rw [← hcoherent.family_of_get? ho, hkind]
    rfl
  refine ⟨_, applyOperator_pattern ho hkind htext m, ?_⟩
  refine Predicate.selects_pattern (isProper_emulate hfamily).1 (fun t => ?_) _
  rw [isNegated_emulate, h t]

end FilterContext

namespace Search

theorem seeks_fieldPredicate (caseSensitive native : Bool) (term : String) (path : FieldPath) :
    let found := matcher caseSensitive native
    (fieldPredicate found.1 found.2 term path).Seeks term := by
  intro found
  refine Predicate.every_foldr_related (fun _ _ _ column hcolumn => nomatch hcolumn) ?_
  intro column hcolumn
  cases hcolumn
  have hop : found.1.family = .pattern ∧ found.1.isNegated = false := by
    cases caseSensitive <;> cases native <;> decide
  refine Predicate.selects_pattern hop.1 (fun t => ?_) _
  rw [hop.2, Pattern.matches_ofText_iff (by decide)]
  simp [Pattern.Finds]

theorem exists_seeks_termPredicate {paths : List FieldPath} (hpaths : paths ≠ [])
    (caseSensitive native : Bool) (term : String) :
    ∃ p,
      termPredicate (matcher caseSensitive native).1 (matcher caseSensitive native).2 paths term =
        some p ∧ p.Seeks term := by
  obtain ⟨p, hp⟩ := Predicate.exists_join_eq_some .or (mt List.map_eq_nil_iff.mp hpaths)
  refine ⟨p, hp, forall_of_termPredicate ?_ ?_ p hp⟩
  · intro members _ hmembers
    exact Predicate.every_group.mpr ⟨fun column hcolumn => (nomatch hcolumn), hmembers⟩
  · intro path _
    exact seeks_fieldPredicate caseSensitive native term path

theorem seeks_of_predicate {source : Source} {terms fields : List String} {mode : Connective}
    {caseSensitive : Bool} {q : Predicate}
    (h : predicate source terms fields mode caseSensitive = .ok (some q)) :
    ∃ ps, Predicate.join mode ps = some q ∧
      List.Forall₂ (fun term (p : Predicate) => p.Seeks term) terms ps := by
  unfold predicate at h
  split at h
  · cases h
  · rename_i hnonempty
    obtain ⟨paths, hresolve, hq⟩ := map_eq_ok_iff.mp h
    have hpaths : paths ≠ [] := by
      rintro rfl
      cases forall₂_of_resolveFields hresolve
      simp at hnonempty
    choose part hpart hseeks using
      exists_seeks_termPredicate hpaths caseSensitive source.dialect.hasNativeIlike
    refine ⟨terms.map part, ?_, ?_⟩
    · rw [← hq, ← List.filterMap_eq_map]
      congr 2
      exact (funext hpart).symm
    · rw [List.forall₂_map_right_iff, List.forall₂_same]
      exact fun term _ => hseeks term

end Search

namespace FilterContext

/-- Operators that seek their operand, and searches, find it as it is spelt. -/
theorem selects_finds {ctx : FilterContext} (hcoherent : ctx.snapshot.operators.IsCoherent) :
    (∀ key o style, ctx.snapshot.operators.get? key = some o → o.kind = .pattern style →
      style ≠ .wrap → ∀ v s, Operand.text? v = some s → ∀ m column path,
        ∃ p, ctx.applyOperator m column key v path = .ok p ∧
          p.Selects column fun t =>
            o.store.isNegated = false ↔ Pattern.Finds style s.toList t.toList) ∧
    ∀ terms fields mode caseSensitive q,
      Search.predicate ctx.source terms fields mode caseSensitive = .ok (some q) →
        ∃ ps, Predicate.join mode ps = some q ∧
          List.Forall₂ (fun term (p : Predicate) => p.Seeks term) terms ps := by
  constructor
  · intro key o style ho hkind hstyle v s htext m column path
    exact exists_applyOperator_selects hcoherent ho hkind htext
      (Pattern.matches_ofText_iff hstyle s) m column path
  · intro terms fields mode caseSensitive q hq
    exact Search.seeks_of_predicate hq

theorem selects_finds_posts :
    (∀ entry ∈ [("starts_with", PatternStyle.startsWith), ("ends_with", .endsWith),
        ("contains", .contains)],
      ∃ p, posts.applyOperator posts.source.model "title" entry.1 (.string "50%_\\") "title" =
          .ok p ∧
        p.Selects "title" fun t => StoreOperator.like.isNegated = false ↔
          Pattern.Finds entry.2 "50%_\\".toList t.toList) ∧
    let found : Predicate :=
      .group .and
        [.group .or [.pattern "title" .like "%100\\%%" true,
          .related "author" (.pattern "name" .like "%100\\%%" true)],
        .group .or [.pattern "title" .like "%a\\\\b%" true,
          .related "author" (.pattern "name" .like "%a\\\\b%" true)]]
    Search.predicate posts.source ["100%", "a\\b"] ["title", "author.name"] .and false =
        .ok (some found) ∧
      ∃ ps, Predicate.join .and ps = some found ∧
        List.Forall₂ (fun term (p : Predicate) => p.Seeks term) ["100%", "a\\b"] ps := by
  obtain ⟨happly, hsearch⟩ := @selects_finds posts OperatorTable.isCoherent_builtin
  refine ⟨?_, rfl, hsearch _ ["title", "author.name"] _ false _ rfl⟩
  rintro ⟨key, style⟩ hentry
  have hstyle : style ≠ .wrap := by
    rintro rfl
    simp at hentry
  have ho : posts.snapshot.operators.get? key = some ⟨key, .like, .pattern style⟩ := by
    simp only [List.mem_cons, List.not_mem_nil, or_false, Prod.mk.injEq] at hentry
    rcases hentry with ⟨rfl, rfl⟩ | ⟨rfl, rfl⟩ | ⟨rfl, rfl⟩
    · rfl
    · rfl
    · rfl
  exact happly key _ style ho rfl hstyle (.string "50%_\\") _ rfl posts.source.model "title" "title"

/-- The operator that takes patterns finds an operand without wildcards as it would be without its
marks. It finds the operand itself only if there are no marks in it. -/
theorem selects_wrapped {ctx : FilterContext} (hcoherent : ctx.snapshot.operators.IsCoherent)
    {key s : String} {o : Operator} (ho : ctx.snapshot.operators.get? key = some o)
    (hkind : o.kind = .pattern .wrap) {v : Value} (htext : Operand.text? v = some s)
    (hpercent : '%' ∉ s.toList) (hunderscore : '_' ∉ s.toList) (m : Model) (column path : String) :
    ∃ p, ctx.applyOperator m column key v path = .ok p ∧
      (p.Selects column fun t => o.store.isNegated = false ↔
        if Pattern.endsInMark false s.toList then
          Pattern.unescape false (s.toList ++ ['%']) <:+ t.toList
        else Pattern.unescape false s.toList <:+: t.toList) ∧
      ((p.Selects column fun t => o.store.isNegated = false ↔ s.toList <:+: t.toList) ↔
        Pattern.escapeMark ∉ s.toList) := by
  have hplain := Pattern.isWild_eq_false_of_mem hpercent hunderscore
  obtain ⟨p, hp, hselects⟩ := exists_applyOperator_selects hcoherent ho hkind htext
    (Pattern.matches_ofText_wrap_iff hplain) m column path
  refine ⟨p, hp, hselects, ?_⟩
  rw [hselects.iff_forall, ← Pattern.wrap_finds_iff hplain]
  constructor
  · intro h t
    have ht := h (String.ofList t)
    rw [String.toList_ofList] at ht
    cases hnegated : o.store.isNegated with
    | false => simpa [hnegated] using ht
    | true =>
        rw [hnegated] at ht
        simp only [Bool.true_eq_false, false_iff] at ht
        exact not_iff_not.mp ht
  · intro h t
    rw [h t.toList]

theorem selects_wrapped_not_like :
    ∃ p, posts.applyOperator posts.source.model "title" "not_like" (.string "a\\b\\") "title" =
        .ok p ∧
      (p.Selects "title" fun t => StoreOperator.notLike.isNegated = false ↔
        if Pattern.endsInMark false "a\\b\\".toList then
          Pattern.unescape false ("a\\b\\".toList ++ ['%']) <:+ t.toList
        else Pattern.unescape false "a\\b\\".toList <:+: t.toList) ∧
      ((p.Selects "title" fun t =>
          StoreOperator.notLike.isNegated = false ↔ "a\\b\\".toList <:+: t.toList) ↔
        Pattern.escapeMark ∉ "a\\b\\".toList) :=
  selects_wrapped OperatorTable.isCoherent_builtin (o := ⟨"not_like", .notLike, .pattern .wrap⟩)
    rfl rfl rfl (by decide) (by decide) posts.source.model "title" "title"

/-- Between two letters a mark is lost, so that the letters are found without it, and not with it.
At the end it makes the wildcard a percent sign. -/
theorem matches_wrapped_marks :
    posts.applyOperator posts.source.model "title" "like" (.string "a\\b") "title" =
        .ok (.pattern "title" .like "%a\\b%" false) ∧
      Pattern.Matches "%a\\b%" "ab" ∧ ¬ Pattern.Matches "%a\\b%" "a\\b" ∧
    posts.applyOperator posts.source.model "title" "like" (.string "a\\") "title" =
        .ok (.pattern "title" .like "%a\\%" false) ∧
      Pattern.Matches "%a\\%" "a%" ∧ ¬ Pattern.Matches "%a\\%" "a\\" := by
  refine ⟨rfl, ⟨_, rfl, by decide⟩, ?_, rfl, ⟨_, rfl, by decide⟩, ?_⟩
  · rintro ⟨es, hes, haccepts⟩
    cases hes
    revert haccepts
    decide
  · rintro ⟨es, hes, haccepts⟩
    cases hes
    revert haccepts
    decide

end FilterContext

end RequestQuery
