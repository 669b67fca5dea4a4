import RequestQuery.Proofs.NamedSource
import RequestQuery.Proofs.PathSegments
import RequestQuery.Proofs.Traversal

namespace RequestQuery

open Json (Value)

mutual

theorem FilterNode.treeInduction {N : FilterNode → Prop} {G : FilterGroup → Prop}
    (field : ∀ f, N (.field f)) (group : ∀ g, G g → N (.group g))
    (mk : ∀ connective filters nested, (∀ n ∈ filters, N n) → (∀ g ∈ nested, G g) →
      G (.mk connective filters nested)) : ∀ n, N n
  | .field f => field f
  | .group g => group g (FilterGroup.treeInduction field group mk g)

theorem FilterGroup.treeInduction {N : FilterNode → Prop} {G : FilterGroup → Prop}
    (field : ∀ f, N (.field f)) (group : ∀ g, G g → N (.group g))
    (mk : ∀ connective filters nested, (∀ n ∈ filters, N n) → (∀ g ∈ nested, G g) →
      G (.mk connective filters nested)) : ∀ g, G g
  | .mk connective filters nested =>
      mk connective filters nested
        (fun n _ => FilterNode.treeInduction field group mk n)
        (fun g _ => FilterGroup.treeInduction field group mk g)

end

/-- The keys under which a condition applies operators. A literal that is no null check stands for
one of them. -/
def Condition.keys : Condition → List String
  | .literal .null => []
  | .literal (.array _) => ["in"]
  | .literal _ => ["eq"]
  | .operators _ entries => entries.map Prod.fst

mutual

/-- The conditions on fields, at any depth, in order. -/
def FilterNode.fields : FilterNode → List FieldFilter
  | .field f => [f]
  | .group g => g.fields

def FilterGroup.fields : FilterGroup → List FieldFilter
  | .mk _ filters nested => FilterSpec.fields filters ++ FilterGroup.fieldsOf nested

def FilterSpec.fields : List FilterNode → List FieldFilter
  | [] => []
  | n :: rest => n.fields ++ FilterSpec.fields rest

def FilterGroup.fieldsOf : List FilterGroup → List FieldFilter
  | [] => []
  | g :: rest => g.fields ++ FilterGroup.fieldsOf rest

end

theorem FilterSpec.fields_eq_flatMap (nodes : List FilterNode) :
    FilterSpec.fields nodes = nodes.flatMap FilterNode.fields := by
  induction nodes with
  | nil => rfl
  | cons n rest ih => simp [FilterSpec.fields, ih]

theorem FilterGroup.fieldsOf_eq_flatMap (groups : List FilterGroup) :
    FilterGroup.fieldsOf groups = groups.flatMap FilterGroup.fields := by
  induction groups with
  | nil => rfl
  | cons g rest ih => simp [FilterGroup.fieldsOf, ih]

namespace FilterContext

variable {ctx : FilterContext}

/-- Whether a handler answers to a key, which then is no operator. -/
def isHandlerKey (ctx : FilterContext) (key : String) : Bool :=
  (ctx.snapshot.operators.get? key).isNone &&
    (ctx.snapshot.settings.customFilters.lookup key).isSome

/-- None of the conditions leaves its operand to a handler. -/
def UsesNoHandler (ctx : FilterContext) (fields : List FieldFilter) : Prop :=
  ∀ f ∈ fields, ∀ key ∈ f.condition.keys, ctx.isHandlerKey key = false

instance (fields : List FieldFilter) : Decidable (ctx.UsesNoHandler fields) :=
  inferInstanceAs (Decidable (∀ f ∈ fields, ∀ key ∈ f.condition.keys, ctx.isHandlerKey key = false))

def posts : FilterContext :=
  ⟨⟨.default, .builtin, .utc, Settings.indicatorChars .default⟩, .posts, [], 0⟩

theorem UsesNoHandler.mono {fields others : List FieldFilter} (h : ctx.UsesNoHandler fields)
    (hsub : others ⊆ fields) : ctx.UsesNoHandler others :=
  fun f hf => h f (hsub hf)

theorem evalField_eq_ok_iff {depth : Nat} {f : FieldFilter} {r : Option Predicate} :
    ctx.evalField depth f = .ok r ↔
      ctx.checkField f.path = .ok () ∧
        ∃ p, FieldPath.resolve ctx.source.catalog ctx.source.model f.path = .ok p ∧
          (p.relations ≠ [] → ctx.checkDepth f.path (depth + p.depth) = .ok ()) ∧
          ∃ inner, ctx.applyCondition p.model p.column f.condition f.path = .ok inner ∧
            inner.map p.wrap = r := by
  rw [evalField]
  cases hcheck : ctx.checkField f.path with
  | error e => simp
  | ok u =>
      by_cases hdot : '.' ∈ f.path.toList
      · simp only [evalDotted, List.contains_iff_mem.mpr hdot, if_true, true_and]
        cases hresolve : FieldPath.resolve ctx.source.catalog ctx.source.model f.path with
        | error e => simp
        | ok p =>
            have hrelations : p.relations ≠ [] := fun hnil =>
              (FieldPath.relations_eq_nil_iff hresolve).mp hnil hdot
            cases hdepth : ctx.checkDepth f.path (depth + p.depth) with
            | error e => simp [hrelations, hdepth]
            | ok u => simp [hdepth, map_eq_ok_iff]
      · have hwrap (inner : Option Predicate) :
            inner.map (FieldPath.wrap ⟨[], ctx.source.model, f.path⟩) = inner := by
          cases inner <;> rfl
        simp [hdot, FieldPath.resolve_of_notMem hdot, hwrap]

theorem evalField_eq_ok {depth : Nat} {f : FieldFilter} {r : Option Predicate}
    (h : ctx.evalField depth f = .ok r) :
    ctx.checkField f.path = .ok () ∧
      ∃ relations column m inner,
        Text.split '.' f.path = relations ++ [column] ∧
        ctx.source.catalog.followAll ctx.source.model relations = .ok m ∧
        ctx.applyCondition m column f.condition f.path = .ok inner ∧
        r = inner.map (relations.foldr .related) := by
  obtain ⟨hcheck, p, hresolve, -, inner, hinner, rfl⟩ := evalField_eq_ok_iff.mp h
  obtain ⟨hsplit, hfollow⟩ := FieldPath.resolve_eq_ok_iff.mp hresolve
  exact ⟨hcheck, p.relations, p.column, p.model, inner, hsplit, hfollow, hinner, rfl⟩

theorem evalGroup_eq_ok {depth : Nat} {c : Connective} {filters : List FilterNode}
    {nested : List FilterGroup} {r : Option Predicate}
    (h : ctx.evalGroup depth (.mk c filters nested) = .ok r) :
    ctx.checkDepth FilterSpec.groupKey depth = .ok () ∧
      ∃ members groups,
        ctx.evalNodes depth filters = .ok members ∧
        ctx.evalGroups (depth + 1) nested = .ok groups ∧
        r = Predicate.join c ((Predicate.join c members).toList ++ groups) := by
  rw [evalGroup] at h
  cases hdepth : ctx.checkDepth FilterSpec.groupKey depth with
  | error e => simp [hdepth] at h
  | ok u =>
      cases hmembers : ctx.evalNodes depth filters with
      | error e => simp [hdepth, hmembers] at h
      | ok members =>
          simp only [hdepth, hmembers] at h
          obtain ⟨groups, hgroups, rfl⟩ := map_eq_ok_iff.mp h
          exact ⟨rfl, members, groups, rfl, hgroups, rfl⟩

theorem evaluate_eq_ok {spec : FilterSpec} {r : Option Predicate}
    (h : ctx.evaluate spec = .ok r) :
    spec.length ≤ ctx.snapshot.settings.maxFilters ∧
      ∃ members, ctx.evalNodes 0 spec = .ok members ∧ r = Predicate.join .and members := by
  simp only [evaluate] at h
  split at h
  · cases h
  · rename_i hmax
    obtain ⟨members, hmembers, rfl⟩ := map_eq_ok_iff.mp h
    exact ⟨Nat.le_of_not_lt hmax, members, hmembers, rfl⟩

theorem column?_of_applyShaped {site : OperatorSite} {rule : Option CastRule} {o : Operator}
    {column : String} {operand : Operand} {p : Predicate}
    (h : ctx.applyShaped site rule o column operand = .ok p) : p.column? = some column := by
  simp only [applyShaped] at h
  split at h
  · unfold OperatorSite.comparison at h
    split at h
    · split at h <;> cases h <;> rfl
    · obtain ⟨w, -, rfl⟩ := map_eq_ok_iff.mp h
      rfl
  · rw [OperatorSite.pattern] at h
    split at h <;> cases h
    rfl
  · obtain ⟨ws, -, rfl⟩ := map_eq_ok_iff.mp h
    rfl
  · rw [OperatorSite.range] at h
    split at h
    · cases h
    · split at h
      · cases h
      · obtain ⟨u, -, rfl⟩ := map_eq_ok_iff.mp h
        rfl
  · cases h
    rfl
  · rw [OperatorSite.relativeDate] at h
    split at h
    · cases h
    · split at h <;> cases h
      rfl
  · cases h

theorem column?_of_applyOperator {m : Model} {column key path : String} {v : Value} {p : Predicate}
    (hkey : ctx.isHandlerKey key = false) (h : ctx.applyOperator m column key v path = .ok p) :
    p.column? = some column := by
  simp only [applyOperator] at h
  split at h
  · split at h
    · cases h
    · exact column?_of_applyShaped h
  · rename_i hget
    split at h
    · rename_i handler hlookup
      simp [isHandlerKey, hget, hlookup] at hkey
    · cases h

theorem applyCondition_eq_ok {m : Model} {column path : String} {condition : Condition}
    {r : Option Predicate} (h : ctx.applyCondition m column condition path = .ok r) :
    ∃ c ps, r = Predicate.join c ps ∧
      ∀ p ∈ ps, p = .null column false ∨
        ∃ key ∈ condition.keys, ∃ v, ctx.applyOperator m column key v path = .ok p := by
  have hsingle {key : String} {v : Value} (hkey : key ∈ condition.keys)
      (h : (ctx.applyOperator m column key v path).map some = .ok r) :
      ∃ c ps, r = Predicate.join c ps ∧
        ∀ p ∈ ps, p = .null column false ∨
          ∃ key ∈ condition.keys, ∃ v, ctx.applyOperator m column key v path = .ok p := by
    obtain ⟨p, hp, rfl⟩ := map_eq_ok_iff.mp h
    refine ⟨.and, [p], rfl, ?_⟩
    rintro q hq
    obtain rfl := List.mem_singleton.mp hq
    exact .inr ⟨key, hkey, v, hp⟩
  cases condition with
  | operators c entries =>
      obtain ⟨ps, hps, rfl⟩ := map_eq_ok_iff.mp h
      rw [applyOperators_eq_mapM, mapM_eq_ok_iff] at hps
      refine ⟨c, ps, rfl, fun p hp => .inr ?_⟩
      obtain ⟨e, he, hp⟩ := exists_of_mem_traversal hps hp
      exact ⟨e.1, List.mem_map_of_mem he, e.2, hp⟩
  | literal v =>
      cases v with
      | null =>
          cases h
          exact ⟨.and, [.null column false], rfl, by simp⟩
      | array items =>
          simp only [applyCondition, applyLiteral] at h
          split at h
          · cases h
            exact ⟨.and, [], rfl, by simp⟩
          · exact hsingle (by simp [Condition.keys]) h
      | _ => exact hsingle (by simp [Condition.keys]) h

theorem exists_of_mem_evalNodes {depth : Nat} {ns : List FilterNode} {ps : List Predicate}
    (h : ctx.evalNodes depth ns = .ok ps) {p : Predicate} (hp : p ∈ ps) :
    ∃ n ∈ ns, ctx.evalNode depth n = .ok (some p) := by
  rw [evalNodes_eq_mapM] at h
  obtain ⟨rs, hrs, rfl⟩ := map_eq_ok_iff.mp h
  obtain ⟨r, hr, hp⟩ := List.mem_flatMap.mp hp
  obtain rfl := Option.mem_toList.mp hp
  exact exists_of_mem_traversal (mapM_eq_ok_iff.mp hrs) hr

theorem exists_of_mem_evalGroups {depth : Nat} {gs : List FilterGroup} {ps : List Predicate}
    (h : ctx.evalGroups depth gs = .ok ps) {p : Predicate} (hp : p ∈ ps) :
    ∃ g ∈ gs, ctx.evalGroup depth g = .ok (some p) := by
  rw [evalGroups_eq_mapM] at h
  obtain ⟨rs, hrs, rfl⟩ := map_eq_ok_iff.mp h
  obtain ⟨r, hr, hp⟩ := List.mem_flatMap.mp hp
  obtain rfl := Option.mem_toList.mp hp
  exact exists_of_mem_traversal (mapM_eq_ok_iff.mp hrs) hr

/-- Induction over the predicates of nodes and groups, whose properties may depend on the depth.
What the fields in a node give has the property of nodes at every depth. A group at some depth joins
the predicates of nodes at this depth, and then those of groups one level further in. -/
theorem evalNode_induction {N G : Nat → Predicate → Prop}
    (group : ∀ depth p, G (depth + 1) p → N depth p)
    (mk : ∀ depth c members groups p, ctx.checkDepth FilterSpec.groupKey depth = .ok () →
      (∀ q ∈ members, N depth q) → (∀ q ∈ groups, G (depth + 1) q) →
      Predicate.join c ((Predicate.join c members).toList ++ groups) = some p → G depth p)
    (n : FilterNode) : ∀ depth p,
      (∀ f ∈ n.fields, ∀ depth p, ctx.evalField depth f = .ok (some p) → N depth p) →
      ctx.evalNode depth n = .ok (some p) → N depth p := by
  induction n using FilterNode.treeInduction
    (G := fun g => ∀ depth p,
      (∀ f ∈ g.fields, ∀ depth p, ctx.evalField depth f = .ok (some p) → N depth p) →
      ctx.evalGroup depth g = .ok (some p) → G depth p) with
  | field f =>
      intro depth p hfield h
      exact hfield f (by simp [FilterNode.fields]) depth p h
  | group g ih =>
      intro depth p hfield h
      exact group depth p (ih (depth + 1) p hfield h)
  | mk c filters nested ihf ihg =>
      rename_i depth p hfield h
      rw [FilterGroup.fields, FilterSpec.fields_eq_flatMap,
        FilterGroup.fieldsOf_eq_flatMap] at hfield
      obtain ⟨hdepth, members, groups, hmembers, hgroups, hp⟩ := evalGroup_eq_ok h
      refine mk depth c members groups p hdepth (fun q hq => ?_) (fun q hq => ?_) hp.symm
      · obtain ⟨n, hn, hq⟩ := exists_of_mem_evalNodes hmembers hq
        exact ihf n hn depth q (fun f hf => hfield f <|
          List.mem_append_left _ (List.mem_flatMap_of_mem hn hf)) hq
      · obtain ⟨g, hg, hq⟩ := exists_of_mem_evalGroups hgroups hq
        exact ihg g hg (depth + 1) q (fun f hf => hfield f <|
          List.mem_append_right _ (List.mem_flatMap_of_mem hg hf)) hq

section

variable {P : Predicate → Prop}

theorem forall_of_evaluate_of_two_le
    (hgroup : ∀ c members, 2 ≤ members.length → (∀ p ∈ members, P p) → P (.group c members))
    {spec : FilterSpec} {r : Option Predicate}
    (hfield : ∀ f ∈ FilterSpec.fields spec, ∀ depth p, ctx.evalField depth f = .ok (some p) → P p)
    (h : ctx.evaluate spec = .ok r) : ∀ p ∈ r, P p := by
  obtain ⟨-, members, hmembers, rfl⟩ := evaluate_eq_ok h
  refine Predicate.forall_join_of_two_le (hgroup _ _) ?_
  intro p hp
  obtain ⟨n, hn, hp⟩ := exists_of_mem_evalNodes hmembers hp
  refine evalNode_induction (N := fun _ => P) (G := fun _ => P) (fun _ _ hp => hp) ?_ n 0 p
    (fun f hf => hfield f ?_) hp
  · intro depth c members groups p _ hmembers hgroups hp
    refine Predicate.forall_join_of_two_le (hgroup c _) ?_ p hp
    rw [List.forall_mem_append]
    refine ⟨fun q hq => ?_, hgroups⟩
    exact Predicate.forall_join_of_two_le (hgroup c _) hmembers q (Option.mem_toList.mp hq)
  · rw [FilterSpec.fields_eq_flatMap]
    exact List.mem_flatMap_of_mem hn hf

/-- A property of predicates that passes to groups holds of the predicate of a filter once it holds
of the predicates of all fields in it. -/
theorem forall_of_evaluate
    (hgroup : ∀ c members, (∀ p ∈ members, P p) → P (.group c members))
    {spec : FilterSpec} {r : Option Predicate}
    (hfield : ∀ f ∈ FilterSpec.fields spec, ∀ depth p, ctx.evalField depth f = .ok (some p) → P p)
    (h : ctx.evaluate spec = .ok r) : ∀ p ∈ r, P p :=
  forall_of_evaluate_of_two_le (fun c members _ => hgroup c members) hfield h

end

end FilterContext

end RequestQuery
