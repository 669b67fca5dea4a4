import Mathlib.Data.List.Induction
import RequestQuery.Proofs.FilterTree

/-!
Null among the values that filters compare with. A null operand becomes a null check, is dropped
from a list or is refused, with two exceptions: text that a cast reads as JSON may spell null, and a
range may have null for a bound unless bounds have to be numeric.
-/
namespace RequestQuery

open Json (Value)

namespace Predicate

mutual

/-- Every leaf has a property, together with the model of the rows that it is about. -/
def EveryLeaf (catalog : Catalog) (P : Model → Predicate → Prop) (m : Model) : Predicate → Prop
  | related relation inner =>
    ∃ r target, catalog.related? m relation = some (r, target) ∧ inner.EveryLeaf catalog P target
  | group _ members => EveryLeafOf catalog P m members
  | p => P m p

def EveryLeafOf (catalog : Catalog) (P : Model → Predicate → Prop) (m : Model) :
    List Predicate → Prop
  | [] => True
  | p :: rest => p.EveryLeaf catalog P m ∧ EveryLeafOf catalog P m rest

end

variable {catalog : Catalog} {P : Model → Predicate → Prop} {m : Model}

theorem everyLeaf_group {c : Connective} {members : List Predicate} :
    (group c members).EveryLeaf catalog P m ↔ ∀ p ∈ members, p.EveryLeaf catalog P m := by
  rw [EveryLeaf]
  induction members with
  | nil => simp [EveryLeafOf]
  | cons p rest ih => rw [EveryLeafOf, ih, List.forall_mem_cons]

theorem everyLeaf_of_column? {p : Predicate} {column : String} (hcolumn : p.column? = some column)
    (h : P m p) : p.EveryLeaf catalog P m := by
  cases p with
  | related | group => cases hcolumn
  | _ => exact h

theorem everyLeaf_foldr_related {relations : List String} {target : Model} {inner : Predicate}
    (hfollow : catalog.followAll m relations = .ok target)
    (h : inner.EveryLeaf catalog P target) :
    (relations.foldr related inner).EveryLeaf catalog P m := by
  induction relations generalizing m with
  | nil =>
      cases hfollow
      exact h
  | cons relation rest ih =>
      rw [Catalog.followAll, Catalog.follow] at hfollow
      cases hrelated : catalog.related? m relation with
      | none => simp [hrelated] at hfollow
      | some next =>
          simp only [hrelated] at hfollow
          exact ⟨next.1, next.2, hrelated, ih hfollow⟩

end Predicate

/-- The rule reads text as JSON, so that it may come to null. -/
def CastRule.readsJson : CastRule → Bool
  | array | json => true
  | _ => false

namespace CastRule

theorem toInt_ne_null (v : Value) : toInt v ≠ .ok .null := by
  unfold toInt
  split
  · simp
  · split <;> simp
  · simp
  · simp only
    split
    · simp
    · split
      · simp
      · split <;> simp
  · simp

theorem toFloat_ne_null (v : Value) : toFloat v ≠ .ok .null := by
  unfold toFloat
  split <;> simp

theorem toTimestamp_eq_null {v : Value} (h : toTimestamp v = .null) : v = .null := by
  unfold toTimestamp at h
  split at h
  · split at h
    · cases h
    · split at h <;> cases h
  · split at h <;> cases h
  · split at h <;> cases h
  · exact h

theorem castPresent_eq_null {rule : CastRule} {v : Value} (h : rule.castPresent v = .ok .null) :
    v = .null ∨ rule.readsJson = true := by
  cases rule with
  | array | json => exact .inr rfl
  | int => exact absurd h (toInt_ne_null v)
  | float => exact absurd h (toFloat_ne_null v)
  | string => cases v <;> cases h
  | bool => cases h
  | date | datetime => exact .inl (toTimestamp_eq_null (Except.ok.inj h))

end CastRule

namespace OperatorSite

variable {site : OperatorSite} {rule : Option CastRule}

theorem cast_eq_null {v : Value} (hv : v ≠ .null) (h : site.cast rule v = .ok .null) :
    ∃ r ∈ rule, r.readsJson = true := by
  unfold cast at h
  split at h
  · rename_i w hcast
    cases h
    cases rule with
    | none => exact absurd (Except.ok.inj hcast) hv
    | some r =>
        rw [castBy, CastRule.cast] at hcast
        split at hcast
        · exact absurd (Except.ok.inj hcast) hv
        · rcases CastRule.castPresent_eq_null hcast with hnull | hreads
          · exact absurd hnull hv
          · exact ⟨r, rfl, hreads⟩
  · cases h

theorem ne_null_of_checkBounds {low high : Value} (h : site.checkBounds true low high = .ok ()) :
    low ≠ .null ∧ high ≠ .null := by
  constructor
  · rintro rfl
    simp [checkBounds, Operand.bound?] at h
  · rintro rfl
    simp [checkBounds, Operand.bound?] at h

end OperatorSite

namespace Operand

theorem mem_of_mem_dedupe {v : Value} {vs : List Value} (h : v ∈ dedupe vs) : v ∈ vs := by
  induction vs using List.reverseRecOn with
  | nil => exact h
  | append_singleton vs w ih =>
      rw [List.mem_append]
      rw [dedupe_append_singleton] at h
      split at h
      · exact .inl (ih h)
      · exact (List.mem_append.mp h).imp_left ih

/-- None of the items of a list is null. -/
def ListsNoNull : Operand → Prop
  | list vs => .null ∉ vs
  | _ => True

theorem listsNoNull_of_ofValue {shape : OperandShape} {v : Value} {operand : Operand}
    (h : ofValue shape v = .ok operand) : operand.ListsNoNull := by
  unfold ofValue at h
  split at h
  · split at h <;> cases h
    trivial
  · split at h <;> cases h
    trivial
  · split at h
    · cases h
    · split at h
      · cases h
      · rename_i values _ _ _
        cases h
        simp [ListsNoNull, dropBlank, isBlank]
  · split at h <;> cases h
    trivial

end Operand

namespace FilterContext

variable {ctx : FilterContext}

/-- Where null may stand in a condition on a column of `m`. -/
def ConfinesNull (ctx : FilterContext) (m : Model) : Predicate → Prop
  | .compare column _ v => v = .null → ∃ rule ∈ m.castFor column, rule.readsJson = true
  | .member column vs _ => .null ∈ vs → ∃ rule ∈ m.castFor column, rule.readsJson = true
  | .between _ low high _ =>
    low = .null ∨ high = .null → ctx.snapshot.settings.operands.strictBetween = false
  | _ => True

theorem confinesNull_of_applyShaped {site : OperatorSite} {m : Model} {o : Operator}
    {column : String} {operand : Operand} {p : Predicate} (hoperand : operand.ListsNoNull)
    (h : ctx.applyShaped site (m.castFor column) o column operand = .ok p) :
    ctx.ConfinesNull m p := by
  simp only [applyShaped] at h
  split at h
  · rename_i v
    unfold OperatorSite.comparison at h
    split at h
    · split at h <;> cases h <;> trivial
    · rename_i hnull
      obtain ⟨w, hcast, rfl⟩ := map_eq_ok_iff.mp h
      rintro rfl
      exact OperatorSite.cast_eq_null (by rintro rfl; exact hnull rfl) hcast
  · rw [OperatorSite.pattern] at h
    split at h <;> cases h
    trivial
  · rename_i vs
    obtain ⟨ws, hcasts, rfl⟩ := map_eq_ok_iff.mp h
    rw [OperatorSite.castAll_eq_mapM, mapM_eq_ok_iff] at hcasts
    intro hnull
    have hmem : .null ∈ ws := by
      split at hnull
      · exact Operand.mem_of_mem_dedupe hnull
      · exact hnull
    obtain ⟨v, hv, hcast⟩ := exists_of_mem_traversal hcasts hmem
    exact OperatorSite.cast_eq_null (by rintro rfl; exact hoperand hv) hcast
  · rw [OperatorSite.range] at h
    split at h
    · cases h
    · split at h
      · cases h
      · rename_i low _ high _
        obtain ⟨u, hbounds, rfl⟩ := map_eq_ok_iff.mp h
        intro hnull
        cases hstrict : ctx.snapshot.settings.operands.strictBetween with
        | false => rfl
        | true =>
            rw [hstrict] at hbounds
            obtain ⟨hlow, hhigh⟩ := OperatorSite.ne_null_of_checkBounds hbounds
            exact (hnull.elim hlow hhigh).elim
  · cases h
    trivial
  · rw [OperatorSite.relativeDate] at h
    split at h
    · cases h
    · split at h <;> cases h
      rintro (hnull | hnull) <;> cases hnull
  · cases h

theorem confinesNull_of_applyOperator {m : Model} {column key path : String} {v : Value}
    {p : Predicate} (hkey : ctx.isHandlerKey key = false)
    (h : ctx.applyOperator m column key v path = .ok p) : ctx.ConfinesNull m p := by
  simp only [applyOperator] at h
  split at h
  · split at h
    · cases h
    · rename_i hoperand
      exact confinesNull_of_applyShaped (Operand.listsNoNull_of_ofValue hoperand) h
  · rename_i hget
    split at h
    · rename_i handler hlookup
      simp [isHandlerKey, hget, hlookup] at hkey
    · cases h

theorem everyLeaf_confinesNull_of_evalField {f : FieldFilter}
    (hkeys : ∀ key ∈ f.condition.keys, ctx.isHandlerKey key = false) {depth : Nat} {p : Predicate}
    (h : ctx.evalField depth f = .ok (some p)) :
    p.EveryLeaf ctx.source.catalog ctx.ConfinesNull ctx.source.model := by
  obtain ⟨-, relations, column, m, inner, -, hfollow, hcondition, hp⟩ := evalField_eq_ok h
  obtain ⟨q, rfl, rfl⟩ := Option.map_eq_some_iff.mp hp.symm
  obtain ⟨c, ps, hjoin, hps⟩ := applyCondition_eq_ok hcondition
  refine Predicate.everyLeaf_foldr_related hfollow ?_
  refine Predicate.forall_join (P := fun q => q.EveryLeaf ctx.source.catalog ctx.ConfinesNull m)
    Predicate.everyLeaf_group.mpr ?_ q hjoin.symm
  intro leaf hleaf
  rcases hps leaf hleaf with rfl | ⟨key, hkey, v, hleaf⟩
  · trivial
  · exact Predicate.everyLeaf_of_column? (column?_of_applyOperator (hkeys key hkey) hleaf)
      (confinesNull_of_applyOperator (hkeys key hkey) hleaf)

/-- In the predicate of a filter without handlers, null is compared with only on columns whose cast
reads JSON, and bounds a range only where bounds need not be numeric. -/
theorem everyLeaf_confinesNull_of_evaluate {spec : FilterSpec} {p : Predicate}
    (hkeys : ctx.UsesNoHandler (FilterSpec.fields spec)) (h : ctx.evaluate spec = .ok (some p)) :
    p.EveryLeaf ctx.source.catalog ctx.ConfinesNull ctx.source.model :=
  forall_of_evaluate (fun _ _ => Predicate.everyLeaf_group.mpr)
    (fun f hf _ _ => everyLeaf_confinesNull_of_evalField (hkeys f hf)) h p rfl

theorem everyLeaf_confinesNull_of_evaluate_posts :
    let spec : FilterSpec := [
      .field ⟨"views", .operators .or [("ne", .null), ("in", .array [.null, .string "7"])]⟩,
      .field ⟨"replies.views", .operators .and [("between", .array [.null, .number (.int 5)])]⟩]
    let p : Predicate := .group .and [
      .group .or [.null "views" true, .member "views" [.number (.int 7)] false],
      .related "replies" (.between "views" .null (.number (.int 5)) false)]
    FilterContext.posts.UsesNoHandler (FilterSpec.fields spec) ∧
      FilterContext.posts.evaluate spec = .ok (some p) ∧
      p.EveryLeaf Source.posts.catalog FilterContext.posts.ConfinesNull Source.posts.model := by
  intro spec p
  have hkeys : FilterContext.posts.UsesNoHandler (FilterSpec.fields spec) := by decide
  have h : FilterContext.posts.evaluate spec = .ok (some p) := rfl
  exact ⟨hkeys, h, everyLeaf_confinesNull_of_evaluate hkeys h⟩

/-- Text that spells null is cast to it on a column with JSON, and a range takes null for a bound as
it is. -/
theorem evaluate_null_operands :
    let m := { Source.posts.model with casts := [("meta", .json)] }
    let ctx := { FilterContext.posts with source := { Source.posts with model := m } }
    let spec : FilterSpec := [
      .field ⟨"meta", .operators .and
        [("eq", .string "null"), ("not_in", .array [.string "null"])]⟩,
      .field ⟨"views", .operators .and [("between", .array [.null, .number (.int 5)])]⟩]
    ctx.UsesNoHandler (FilterSpec.fields spec) ∧
      ctx.evaluate spec = .ok (some (.group .and [
        .group .and [.compare "meta" .eq .null, .member "meta" [.null] true],
        .between "views" .null (.number (.int 5)) false])) := by
  intro m ctx spec
  exact ⟨by decide, rfl⟩

end FilterContext

end RequestQuery
