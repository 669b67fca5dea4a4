import RequestQuery.Proofs.OperatorParameters
import RequestQuery.Proofs.SingleField

namespace RequestQuery

open Json (Value)

namespace Operand

theorem isBlank_iff {v : Value} : isBlank v = true ↔ v = .null ∨ v = .string "" := by
  cases v <;> simp [isBlank]

theorem dropBlank_eq_nil_iff {items : List Value} :
    dropBlank items = [] ↔ items.all isBlank = true := by
  simp [dropBlank]

theorem ofValue_dropBlank (items : List Value) :
    ofValue .list (.array (dropBlank items)) = ofValue .list (.array items) := by
  simp [ofValue, items?, dropBlank]

end Operand

/-- A literal as the operator that it implies: membership for a list, if anything in it is not
blank, and equality for any other value. -/
def Condition.explicit : Condition → Condition
  | .literal (.array items) =>
    .operators .and (if items.all Operand.isBlank then [] else [("in", .array items)])
  | .literal v => .operators .and [("eq", v)]
  | c => c

mutual

/-- Changes the conditions at the leaves of a filter and nothing else. -/
def FilterNode.mapConditions (f : Condition → Condition) : FilterNode → FilterNode
  | .field x => .field ⟨x.path, f x.condition⟩
  | .group g => .group (g.mapConditions f)

def FilterGroup.mapConditions (f : Condition → Condition) : FilterGroup → FilterGroup
  | .mk c filters nested =>
    .mk c (FilterSpec.mapConditions f filters) (FilterGroup.mapAllConditions f nested)

def FilterSpec.mapConditions (f : Condition → Condition) : List FilterNode → List FilterNode
  | [] => []
  | n :: rest => n.mapConditions f :: FilterSpec.mapConditions f rest

def FilterGroup.mapAllConditions (f : Condition → Condition) :
    List FilterGroup → List FilterGroup
  | [] => []
  | g :: rest => g.mapConditions f :: FilterGroup.mapAllConditions f rest

end

theorem FilterSpec.length_mapConditions (f : Condition → Condition) (spec : FilterSpec) :
    (mapConditions f spec).length = spec.length := by
  induction spec with
  | nil => rfl
  | cons n rest ih => rw [mapConditions, List.length_cons, List.length_cons, ih]

namespace FilterContext

variable {ctx : FilterContext}

/-- A change of conditions makes no difference on any column. -/
def Respects (ctx : FilterContext) (f : Condition → Condition) : Prop :=
  ∀ m column c path, ctx.applyCondition m column (f c) path = ctx.applyCondition m column c path

mutual

theorem evalNode_mapConditions {f : Condition → Condition} (h : ctx.Respects f) (depth : Nat) :
    ∀ n : FilterNode, ctx.evalNode depth (n.mapConditions f) = ctx.evalNode depth n
  | .field x => by
      simp only [FilterNode.mapConditions, evalNode, evalField_eq_match, h _ _ _ _]
  | .group g => evalGroup_mapConditions h (depth + 1) g

theorem evalGroup_mapConditions {f : Condition → Condition} (h : ctx.Respects f) (depth : Nat) :
    ∀ g : FilterGroup, ctx.evalGroup depth (g.mapConditions f) = ctx.evalGroup depth g
  | .mk c filters nested => by
      simp only [FilterGroup.mapConditions, evalGroup, evalNodes_mapConditions h depth filters,
        evalGroups_mapConditions h (depth + 1) nested]

theorem evalNodes_mapConditions {f : Condition → Condition} (h : ctx.Respects f) (depth : Nat) :
    ∀ ns, ctx.evalNodes depth (FilterSpec.mapConditions f ns) = ctx.evalNodes depth ns
  | [] => rfl
  | n :: rest => by
      simp only [FilterSpec.mapConditions, evalNodes, evalNode_mapConditions h depth n,
        evalNodes_mapConditions h depth rest]

theorem evalGroups_mapConditions {f : Condition → Condition} (h : ctx.Respects f) (depth : Nat) :
    ∀ gs, ctx.evalGroups depth (FilterGroup.mapAllConditions f gs) = ctx.evalGroups depth gs
  | [] => rfl
  | g :: rest => by
      simp only [FilterGroup.mapAllConditions, evalGroups, evalGroup_mapConditions h depth g,
        evalGroups_mapConditions h depth rest]

end

theorem evaluate_mapConditions {f : Condition → Condition} (h : ctx.Respects f)
    (spec : FilterSpec) : ctx.evaluate (FilterSpec.mapConditions f spec) = ctx.evaluate spec := by
  simp only [evaluate, FilterSpec.length_mapConditions, evalNodes_mapConditions h]

/-- The filter that compares one field with a literal. -/
def literalFilter (path : String) (v : Value) : FilterSpec :=
  [.field ⟨path, .literal v⟩]

section

variable (heq : ctx.snapshot.operators.get? "eq" = OperatorTable.builtin.get? "eq")
  (hin : ctx.snapshot.operators.get? "in" = OperatorTable.builtin.get? "in")

include heq in
theorem applyOperator_eq_null (m : Model) (column path : String) :
    ctx.applyOperator m column "eq" .null path = .ok (.null column false) := by
  have ho : ctx.snapshot.operators.get? "eq" = some ⟨"eq", .eq, .comparison⟩ := heq
  simp only [applyOperator, ho]
  rfl

include hin in
theorem applyOperator_in_dropBlank (m : Model) (column : String) (items : List Value)
    (path : String) :
    ctx.applyOperator m column "in" (.array (Operand.dropBlank items)) path =
      ctx.applyOperator m column "in" (.array items) path := by
  have ho : ctx.snapshot.operators.get? "in" = some ⟨"in", .isIn, .membership⟩ := hin
  simp only [applyOperator, ho, OperatorKind.shape, Operand.ofValue_dropBlank]

include heq hin

theorem respects_explicit : ctx.Respects Condition.explicit := by
  intro m column c path
  cases c with
  | operators c entries => rfl
  | literal v =>
      cases v with
      | null =>
          have hnull := applyOperator_eq_null heq m column path
          refine (applyCondition_operator m column "eq" .null path .and).trans ?_
          rw [hnull]
          rfl
      | array items =>
          rw [Condition.explicit]
          split
          · rename_i hblank
            simp only [applyCondition, applyLiteral, Operand.dropBlank_eq_nil_iff.mpr hblank]
            rfl
          · rename_i hblank
            -- The literal drops the blanks first, and the operator finds none left to drop.
            rw [applyCondition_operator, ← applyOperator_in_dropBlank hin]
            simp only [applyCondition, applyLiteral]
            split
            · rename_i hnil
              exact absurd (Operand.dropBlank_eq_nil_iff.mp hnil) hblank
            · rfl
      | _ => exact applyCondition_operator m column "eq" _ path .and

theorem evaluate_explicit (spec : FilterSpec) :
    ctx.evaluate (FilterSpec.mapConditions Condition.explicit spec) = ctx.evaluate spec :=
  evaluate_mapConditions (respects_explicit heq hin) spec

omit heq in
theorem evaluate_in_dropBlank (path : String) (items : List Value) :
    ctx.evaluate (operatorFilter path "in" (.array (Operand.dropBlank items))) =
      ctx.evaluate (operatorFilter path "in" (.array items)) := by
  simp only [operatorFilter, evaluate_singleton, evalField_eq_match, applyCondition_operator,
    applyOperator_in_dropBlank hin]

end

theorem evaluate_literalFilter_of_blank {path : String} {items : List Value}
    (h : ∀ v ∈ items, v = .null ∨ v = .string "") :
    ctx.evaluate (literalFilter path (.array items)) =
      if ctx.snapshot.settings.maxFilters < 1 then
        .error (.tooMany 1 ctx.snapshot.settings.maxFilters)
      else (ctx.locate 0 path).map fun _ => none := by
  have hblank : Operand.dropBlank items = [] := by
    rw [Operand.dropBlank_eq_nil_iff, List.all_eq_true]
    exact fun v hv => Operand.isBlank_iff.mpr (h v hv)
  rw [literalFilter, evaluate_singleton, evalField_eq_match]
  simp only [applyCondition, applyLiteral, hblank]
  split
  · rfl
  · cases ctx.locate 0 path <;> rfl

end FilterContext

namespace FilterSpec

open FilterContext (literalFilter operatorFilter)

variable {path : String} (hgroup : path ≠ groupKey) (hconnective : Connective.parse? path = none)

include hgroup hconnective

theorem ofValue_literalFilter {v : Value} (hv : v.isObject = false) :
    ofValue (.object [(path, v)]) = .ok (literalFilter path v) := by
  have hpath : (path == groupKey) = false := beq_false_of_ne hgroup
  have hread : readCondition v = .ok (.literal v) := by
    cases v with
    | object entries => cases hv
    | _ => rfl
  simp only [ofValue, readMap, hpath, hconnective, hread]
  rfl

theorem ofValue_operatorFilter {key : String} (hkey : key ≠ connectiveKey) (v : Value) :
    ofValue (.object [(path, .object [(key, v)])]) = .ok (operatorFilter path key v) := by
  have hfields : ∀ f ∈ [path], f ≠ groupKey ∧ Connective.parse? f = none ∧
      ∀ e ∈ [(key, v)], e.1 ≠ connectiveKey := by
    simpa using ⟨hgroup, hconnective, hkey⟩
  exact readMap_map_object hfields

end FilterSpec

namespace FilterContext

variable {ctx : FilterContext}

/-- Where the keys `eq` and `in` stand for their built-in operators, a filter stays the same when
all its literals are written out as operators. A list of blank items tests nothing, any other list
is a test for membership among the rest of its items, and other values are one for equality. -/
theorem evaluate_literal (heq : ctx.snapshot.operators.get? "eq" = OperatorTable.builtin.get? "eq")
    (hin : ctx.snapshot.operators.get? "in" = OperatorTable.builtin.get? "in") :
    (∀ spec, ctx.evaluate (FilterSpec.mapConditions Condition.explicit spec) = ctx.evaluate spec) ∧
    ∀ path,
      (∀ v, v.isArray = false →
        ctx.evaluate (literalFilter path v) = ctx.evaluate (operatorFilter path "eq" v)) ∧
      (∀ items, (∃ v ∈ items, v ≠ .null ∧ v ≠ .string "") →
        ctx.evaluate (literalFilter path (.array items)) =
            ctx.evaluate (operatorFilter path "in" (.array items)) ∧
          ctx.evaluate (operatorFilter path "in" (.array items)) =
            ctx.evaluate (operatorFilter path "in" (.array (Operand.dropBlank items)))) ∧
      (∀ items, (∀ v ∈ items, v = .null ∨ v = .string "") →
        (∀ r, ctx.evaluate (literalFilter path (.array items)) = .ok r → r = none) ∧
        ∀ p, ctx.Admits path p → 1 ≤ ctx.snapshot.settings.maxFilters →
          ctx.evaluate (literalFilter path (.array items)) = .ok none) ∧
      (path ≠ FilterSpec.groupKey → Connective.parse? path = none →
        (∀ v, v.isObject = false →
          FilterSpec.ofValue (.object [(path, v)]) = .ok (literalFilter path v)) ∧
        ∀ key v, key ≠ FilterSpec.connectiveKey →
          FilterSpec.ofValue (.object [(path, .object [(key, v)])]) =
            .ok (operatorFilter path key v)) := by
  have hexplicit := evaluate_explicit heq hin
  refine ⟨hexplicit, fun path => ⟨fun v hv => ?_, fun items hkept => ⟨?_, ?_⟩,
    fun items hblank => ⟨fun r hr => ?_, fun p hadmits hroom => ?_⟩, fun hgroup hconnective =>
      ⟨fun v hv => FilterSpec.ofValue_literalFilter hgroup hconnective hv,
        fun key v hkey => FilterSpec.ofValue_operatorFilter hgroup hconnective hkey v⟩⟩⟩
  · rw [← hexplicit]
    cases v with
    | array items => cases hv
    | _ => rfl
  · have hall : items.all Operand.isBlank = false := by
      obtain ⟨v, hv, hnull, hempty⟩ := hkept
      refine List.all_eq_false.mpr ⟨v, hv, fun hblank => ?_⟩
      exact (Operand.isBlank_iff.mp hblank).elim hnull hempty
    rw [← hexplicit]
    simp only [literalFilter, FilterSpec.mapConditions, FilterNode.mapConditions,
      Condition.explicit, hall]
    rfl
  · exact (evaluate_in_dropBlank hin path items).symm
  · rw [evaluate_literalFilter_of_blank hblank] at hr
    split at hr
    · cases hr
    · obtain ⟨p, -, rfl⟩ := map_eq_ok_iff.mp hr
      rfl
  · rw [evaluate_literalFilter_of_blank hblank, if_neg (Nat.not_lt.mpr hroom),
      locate_of_admits hadmits]
    rfl

theorem evaluate_literal_posts :
    posts.snapshot.operators.get? "eq" = OperatorTable.builtin.get? "eq" ∧
    posts.snapshot.operators.get? "in" = OperatorTable.builtin.get? "in" ∧
    posts.evaluate (literalFilter "author.name" (.array [.null, .string "ann", .string ""])) =
      .ok (some (.related "author" (.member "name" [.string "ann"] false))) ∧
    posts.evaluate (literalFilter "author.name" .null) =
      .ok (some (.related "author" (.null "name" false))) ∧
    posts.evaluate (literalFilter "title" (.array [.null, .string ""])) = .ok none ∧
    FilterSpec.ofValue (.object [("title", .object [("eq", .null)])]) =
      .ok (operatorFilter "title" "eq" .null) := by
  have heq : posts.snapshot.operators.get? "eq" = OperatorTable.builtin.get? "eq" := rfl
  have hin : posts.snapshot.operators.get? "in" = OperatorTable.builtin.get? "in" := rfl
  have hmember : posts.evaluate
      (operatorFilter "author.name" "in" (.array [.null, .string "ann", .string ""])) =
        .ok (some (.related "author" (.member "name" [.string "ann"] false))) := rfl
  have hnull : posts.evaluate (operatorFilter "author.name" "eq" .null) =
      .ok (some (.related "author" (.null "name" false))) := rfl
  obtain ⟨hscalar, hlist, -⟩ := (evaluate_literal heq hin).2 "author.name"
  obtain ⟨-, -, hblank, hread⟩ := (evaluate_literal heq hin).2 "title"
  have hadmits : posts.Admits "title" ⟨[], posts.source.model, "title"⟩ :=
    ⟨by decide, by decide +kernel, by decide⟩
  exact ⟨heq, hin, (hlist _ ⟨.string "ann", by simp⟩).1.trans hmember,
    (hscalar .null rfl).trans hnull, (hblank _ (by simp)).2 _ hadmits (by decide),
    (hread (by decide) (by decide)).2 "eq" .null (by decide)⟩

end FilterContext

end RequestQuery
