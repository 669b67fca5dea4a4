import Mathlib.Data.List.Induction
import RequestQuery.Proofs.FieldCondition
import RequestQuery.Proofs.OperatorFamilies

namespace RequestQuery

open Json (Value)

namespace Predicate

variable {dialect : Dialect} {p : Predicate}

/-- The node stands for something that a store can be asked, under an operator of its own kind. -/
def IsProper (dialect : Dialect) : Predicate → Prop
  | compare _ op _ => op.family = .comparison
  | pattern _ op _ caseInsensitive =>
    op.family = .pattern ∧ (caseInsensitive = true → op = .like ∨ op = .notLike) ∧
      (dialect.hasNativeIlike = false → op ≠ .ilike ∧ op ≠ .notIlike)
  | member _ values _ => values ≠ []
  | group _ members => 2 ≤ members.length
  | between .. | null .. | related .. => True

theorem every_isProper_group {c : Connective} {members : List Predicate}
    (hlength : 2 ≤ members.length) (h : ∀ p ∈ members, p.Every (IsProper dialect)) :
    (group c members).Every (IsProper dialect) :=
  every_group.mpr ⟨hlength, h⟩

end Predicate

namespace Operand

theorem dedupe_ne_nil {vs : List Value} (h : vs ≠ []) : dedupe vs ≠ [] := by
  cases vs using List.reverseRecOn with
  | nil => exact absurd rfl h
  | append_singleton vs v =>
      rw [dedupe_append_singleton]
      split
      · rename_i hany
        rintro hnil
        simp [hnil] at hany
      · simp

theorem ne_nil_of_ofValue {v : Value} {values : List Value}
    (h : ofValue .list v = .ok (list values)) : values ≠ [] := by
  simp only [ofValue] at h
  split at h
  · cases h
  · split at h
    · cases h
    · rename_i hne
      cases h
      exact fun hnil => hne hnil

end Operand

namespace FilterContext

variable {ctx : FilterContext}

theorem isProper_emulate {native : Bool} {op : StoreOperator} (h : op.family = .pattern) :
    let emulated := OperatorSite.emulate native op
    emulated.1.family = .pattern ∧
      (emulated.2 = true → emulated.1 = .like ∨ emulated.1 = .notLike) ∧
      (native = false → emulated.1 ≠ .ilike ∧ emulated.1 ≠ .notIlike) := by
  revert h
  cases op <;> cases native <;> decide

theorem isProper_of_applyShaped {site : OperatorSite} {rule : Option CastRule} {o : Operator}
    {column : String} {v : Value} {operand : Operand} {p : Predicate}
    (hfamily : o.kind.family = o.store.family)
    (hshape : Operand.ofValue o.kind.shape v = .ok operand)
    (h : ctx.applyShaped site rule o column operand = .ok p) :
    p.IsProper ctx.source.dialect := by
  simp only [applyShaped] at h
  split at h
  · rename_i hkind
    unfold OperatorSite.comparison at h
    split at h
    · split at h <;> cases h <;> trivial
    · obtain ⟨w, -, rfl⟩ := map_eq_ok_iff.mp h
      rw [hkind] at hfamily
      exact hfamily.symm
  · rename_i style _ hkind
    rw [OperatorSite.pattern] at h
    split at h <;> cases h
    rw [hkind] at hfamily
    exact isProper_emulate hfamily.symm
  · rename_i values hkind
    obtain ⟨ws, hws, rfl⟩ := map_eq_ok_iff.mp h
    rw [OperatorSite.castAll_eq_mapM, mapM_eq_ok_iff] at hws
    rw [hkind] at hshape
    have hne : ws ≠ [] := by
      rintro rfl
      cases hws
      exact Operand.ne_nil_of_ofValue hshape rfl
    show (if _ then _ else _) ≠ []
    split
    · exact Operand.dedupe_ne_nil hne
    · exact hne
  · rw [OperatorSite.range] at h
    split at h
    · cases h
    · split at h
      · cases h
      · obtain ⟨u, -, rfl⟩ := map_eq_ok_iff.mp h
        trivial
  · cases h
    trivial
  · rw [OperatorSite.relativeDate] at h
    split at h
    · cases h
    · split at h <;> cases h
      trivial
  · cases h

theorem isProper_of_applyOperator (hoperators : ctx.snapshot.operators.IsCoherent) {m : Model}
    {column key path : String} {v : Value} {p : Predicate} (hkey : ctx.isHandlerKey key = false)
    (h : ctx.applyOperator m column key v path = .ok p) : p.IsProper ctx.source.dialect := by
  simp only [applyOperator] at h
  split at h
  · rename_i hget
    split at h
    · cases h
    · rename_i hshape
      exact isProper_of_applyShaped (hoperators.family_of_get? hget) hshape h
  · rename_i hget
    split at h
    · rename_i handler hlookup
      simp [isHandlerKey, hget, hlookup] at hkey
    · cases h

theorem every_isProper_of_evalField (hoperators : ctx.snapshot.operators.IsCoherent)
    {f : FieldFilter} (hkeys : ∀ key ∈ f.condition.keys, ctx.isHandlerKey key = false)
    {depth : Nat} {p : Predicate} (h : ctx.evalField depth f = .ok (some p)) :
    p.Every (Predicate.IsProper ctx.source.dialect) := by
  obtain ⟨-, relations, column, m, inner, -, -, hcondition, hp⟩ := evalField_eq_ok h
  obtain ⟨q, rfl, rfl⟩ := Option.map_eq_some_iff.mp hp.symm
  obtain ⟨c, ps, hjoin, hps⟩ := applyCondition_eq_ok hcondition
  refine Predicate.every_foldr_related (fun _ _ _ => trivial) ?_
  refine Predicate.forall_join_of_two_le Predicate.every_isProper_group ?_ q hjoin.symm
  intro leaf hleaf
  rcases hps leaf hleaf with rfl | ⟨key, hkey, v, hleaf⟩
  · trivial
  · exact Predicate.every_of_column? (column?_of_applyOperator (hkeys key hkey) hleaf)
      (isProper_of_applyOperator hoperators (hkeys key hkey) hleaf)

theorem every_isProper_of_evaluate (hoperators : ctx.snapshot.operators.IsCoherent)
    {spec : FilterSpec} (hkeys : ctx.UsesNoHandler (FilterSpec.fields spec)) {r : Option Predicate}
    (h : ctx.evaluate spec = .ok r) :
    ∀ p ∈ r, p.Every (Predicate.IsProper ctx.source.dialect) :=
  forall_of_evaluate_of_two_le (fun _ _ => Predicate.every_isProper_group)
    (fun f hf _ _ => every_isProper_of_evalField hoperators (hkeys f hf)) h

end FilterContext

namespace Search

theorem isProper_matcher (caseSensitive : Bool) (dialect : Dialect) (column text : String) :
    let found := matcher caseSensitive dialect.hasNativeIlike
    (Predicate.pattern column found.1 text found.2).IsProper dialect := by
  cases caseSensitive <;> cases dialect <;> simp [matcher, Predicate.IsProper, StoreOperator.family,
    Dialect.hasNativeIlike]

theorem every_isProper_of_predicate {source : Source} {terms fields : List String}
    {mode : Connective} {caseSensitive : Bool} {r : Option Predicate}
    (h : predicate source terms fields mode caseSensitive = .ok r) :
    ∀ p ∈ r, p.Every (Predicate.IsProper source.dialect) := by
  refine forall_of_predicate (fun _ _ => Predicate.every_isProper_group) ?_ h
  intro term field path _ _
  exact Predicate.every_foldr_related (fun _ _ _ => trivial)
    (isProper_matcher caseSensitive source.dialect path.column _)

theorem every_isProper_of_build {source : Source} {settings : SearchSettings} {raw : String}
    {fields : Option (List String)} {mode : Option String} {r : Option Predicate}
    (h : build source settings raw fields mode = .ok r) :
    ∀ p ∈ r, p.Every (Predicate.IsProper source.dialect) := by
  unfold build at h
  split at h
  · cases h
  · split at h
    · cases h
    · cases h
      simp
    · exact every_isProper_of_predicate h

end Search

end RequestQuery
