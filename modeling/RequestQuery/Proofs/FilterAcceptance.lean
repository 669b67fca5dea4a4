import RequestQuery.Proofs.FilterAccess

namespace RequestQuery

/-- The node stands in the filter, inside `depth` groups. -/
inductive FilterSpec.Within (spec : FilterSpec) : Nat → FilterNode → Prop
  | top {n} : n ∈ spec → Within spec 0 n
  | member {depth c filters nested n} : Within spec depth (.group (.mk c filters nested)) →
      n ∈ filters → Within spec (depth + 1) n
  | nested {depth c filters nested g} : Within spec depth (.group (.mk c filters nested)) →
      g ∈ nested → Within spec (depth + 1) (.group g)

/-- What a condition is made up of: each of its operators alone, or the literal. -/
def Condition.parts : Condition → List Condition
  | .literal v => [.literal v]
  | .operators c entries => entries.map fun e => .operators c [e]

namespace FilterContext

/-- A field inside `depth` groups is accepted: its path consists of identifiers and is in the list
in force, its relations are known and do not lead too deep, and every part of its condition is
accepted on the column that the path leads to. -/
structure AcceptsField (ctx : FilterContext) (depth : Nat) (f : FieldFilter) : Prop where
  isFieldPath : Text.isFieldPath f.path = true
  permits : ctx.Permits f.path
  resolves : ∃ relations column m, Text.split '.' f.path = relations ++ [column] ∧
    ctx.source.catalog.followAll ctx.source.model relations = .ok m ∧
    (relations ≠ [] → depth + relations.length ≤ ctx.snapshot.settings.maxNestingLevel) ∧
    ∀ part ∈ f.condition.parts, ∃ r, ctx.applyCondition m column part f.path = .ok r

variable {ctx : FilterContext}

theorem checkDepth_eq_ok_iff (path : String) {depth : Nat} :
    ctx.checkDepth path depth = .ok () ↔ depth ≤ ctx.snapshot.settings.maxNestingLevel := by
  simp only [checkDepth]
  split <;> simp <;> omega

theorem exists_applyCondition_iff {m : Model} {column path : String} {condition : Condition} :
    (∃ r, ctx.applyCondition m column condition path = .ok r) ↔
      ∀ part ∈ condition.parts, ∃ r, ctx.applyCondition m column part path = .ok r := by
  cases condition with
  | literal v => simp [Condition.parts]
  | operators c entries =>
      simp only [applyCondition, applyOperators_eq_mapM, exists_map_eq_ok_iff,
        exists_mapM_eq_ok_iff, Condition.parts, List.forall_mem_map, List.forall_mem_singleton]

theorem exists_evalField_iff {depth : Nat} {f : FieldFilter} :
    (∃ r, ctx.evalField depth f = .ok r) ↔ ctx.AcceptsField depth f := by
  simp only [evalField_eq_ok_iff, checkField_eq_ok_iff, checkDepth_eq_ok_iff]
  constructor
  · rintro ⟨r, ⟨hpath, hpermits⟩, p, hresolve, hdepth, inner, hinner, -⟩
    obtain ⟨hsplit, hfollow⟩ := FieldPath.resolve_eq_ok_iff.mp hresolve
    exact ⟨hpath, hpermits, p.relations, p.column, p.model, hsplit, hfollow, hdepth,
      exists_applyCondition_iff.mp ⟨inner, hinner⟩⟩
  · rintro ⟨hpath, hpermits, relations, column, m, hsplit, hfollow, hdepth, hparts⟩
    obtain ⟨inner, hinner⟩ := exists_applyCondition_iff.mpr hparts
    exact ⟨_, ⟨hpath, hpermits⟩, ⟨relations, m, column⟩,
      FieldPath.resolve_eq_ok_iff.mpr ⟨hsplit, hfollow⟩, hdepth, inner, hinner, rfl⟩

theorem exists_evalGroup_iff {depth : Nat} {c : Connective} {filters : List FilterNode}
    {nested : List FilterGroup} :
    (∃ r, ctx.evalGroup depth (.mk c filters nested) = .ok r) ↔
      depth ≤ ctx.snapshot.settings.maxNestingLevel ∧
        (∀ n ∈ filters, ∃ r, ctx.evalNode depth n = .ok r) ∧
        ∀ g ∈ nested, ∃ r, ctx.evalGroup (depth + 1) g = .ok r := by
  rw [evalGroup, ← checkDepth_eq_ok_iff FilterSpec.groupKey, ← exists_mapM_eq_ok_iff,
    ← exists_mapM_eq_ok_iff, evalNodes_eq_mapM, evalGroups_eq_mapM]
  cases ctx.checkDepth FilterSpec.groupKey depth with
  | error e => simp
  | ok u =>
      cases filters.mapM (ctx.evalNode depth) with
      | error e => simp [Except.map]
      | ok rs => cases nested.mapM (ctx.evalGroup (depth + 1)) <;> simp [Except.map]

theorem exists_evaluate_iff {spec : FilterSpec} :
    (∃ r, ctx.evaluate spec = .ok r) ↔
      spec.length ≤ ctx.snapshot.settings.maxFilters ∧
        ∀ n ∈ spec, ∃ r, ctx.evalNode 0 n = .ok r := by
  simp only [evaluate, evalNodes_eq_mapM]
  rw [← exists_mapM_eq_ok_iff]
  split
  · simp; omega
  · rename_i hmax
    simp only [exists_map_eq_ok_iff, Nat.le_of_not_lt hmax, true_and]

theorem exists_evalNode_of_within {spec : FilterSpec} (h : ∃ r, ctx.evaluate spec = .ok r)
    {depth : Nat} {n : FilterNode} (hn : spec.Within depth n) :
    ∃ r, ctx.evalNode depth n = .ok r := by
  induction hn with
  | top hn => exact (exists_evaluate_iff.mp h).2 _ hn
  | member _ hn ih => exact (exists_evalGroup_iff.mp ih).2.1 _ hn
  | nested _ hg ih => exact (exists_evalGroup_iff.mp ih).2.2 _ hg

theorem exists_evalNode_of_forall {spec : FilterSpec}
    (hgroups : ∀ depth g, spec.Within depth (.group g) →
      depth + 1 ≤ ctx.snapshot.settings.maxNestingLevel)
    (hfields : ∀ depth f, spec.Within depth (.field f) → ctx.AcceptsField depth f)
    (n : FilterNode) : ∀ depth, spec.Within depth n → ∃ r, ctx.evalNode depth n = .ok r := by
  -- Induction on the tree, for every depth: a nested group is evaluated one level further in.
  induction n using FilterNode.treeInduction (G := fun g => ∀ depth,
    spec.Within depth (.group g) → ∃ r, ctx.evalGroup (depth + 1) g = .ok r) with
  | field f =>
      intro depth hf
      exact exists_evalField_iff.mpr (hfields depth f hf)
  | group g ih => exact ih
  | mk c filters nested ihf ihg =>
      rename_i depth hg
      exact exists_evalGroup_iff.mpr ⟨hgroups depth _ hg,
        fun n hn => ihf n hn (depth + 1) (.member hg hn),
        fun g hnested => ihg g hnested (depth + 1) (.nested hg hnested)⟩

/-- A filter is evaluated exactly if it has no more nodes at its top than allowed, every group in
it, counted from outside, is at an allowed depth, and every field in it is accepted. -/
theorem evaluate_isOk_iff (ctx : FilterContext) (spec : FilterSpec) :
    (∃ r, ctx.evaluate spec = .ok r) ↔
      spec.length ≤ ctx.snapshot.settings.maxFilters ∧
        (∀ depth g, spec.Within depth (.group g) →
          depth + 1 ≤ ctx.snapshot.settings.maxNestingLevel) ∧
        ∀ depth f, spec.Within depth (.field f) → ctx.AcceptsField depth f := by
  constructor
  · intro h
    refine ⟨(exists_evaluate_iff.mp h).1, fun depth g hg => ?_, fun depth f hf => ?_⟩
    · obtain ⟨c, filters, nested⟩ := g
      exact (exists_evalGroup_iff.mp (exists_evalNode_of_within h hg)).1
    · exact exists_evalField_iff.mp (exists_evalNode_of_within h hf)
  · rintro ⟨hmax, hgroups, hfields⟩
    exact exists_evaluate_iff.mpr ⟨hmax, fun n hn =>
      exists_evalNode_of_forall hgroups hfields n 0 (.top hn)⟩

end FilterContext

end RequestQuery
