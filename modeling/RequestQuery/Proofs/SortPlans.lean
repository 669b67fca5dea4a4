import RequestQuery.Proofs.CallEffects
import RequestQuery.Proofs.SortSteps
import RequestQuery.Proofs.SpacedText

namespace RequestQuery

theorem exists_forall₂_iff {α β : Type} {R : α → β → Prop} {as : List α} :
    (∃ bs, List.Forall₂ R as bs) ↔ ∀ a ∈ as, ∃ b, R a b := by
  constructor
  · rintro ⟨bs, h⟩ a ha
    obtain ⟨b, -, hb⟩ := exists_of_mem_traversal h.flip ha
    exact ⟨b, hb⟩
  · intro h
    induction as with
    | nil => exact ⟨[], .nil⟩
    | cons a rest ih =>
        rw [List.forall_mem_cons] at h
        obtain ⟨b, hb⟩ := h.1
        obtain ⟨bs, hbs⟩ := ih h.2
        exact ⟨b :: bs, .cons hb hbs⟩

/-- The ordering of its own that a call has for a field. -/
def AllowedSorts.ordering? (field : String) :
    Option AllowedSorts → Option (Direction → List OrderKey)
  | some (custom orderings) => orderings.lookup field
  | some (list _) | none => none

namespace SortDirective

/-- A field may be sorted by. What the call says goes before what the model says, and that before
the settings. -/
inductive Permits (source : Source) (snapshot : Snapshot) (field : String) :
    Option AllowedSorts → Prop
  | listed {fields} : field ∈ fields → Permits source snapshot field (some (.list fields))
  | custom {orderings ordering} : (field, ordering) ∈ orderings →
      Permits source snapshot field (some (.custom orderings))
  | sortable {fields} : source.model.sortable = some fields → field ∈ fields →
      Permits source snapshot field none
  | anyColumn : source.model.sortable = none → snapshot.settings.sort.allowAnyColumn = true →
      Permits source snapshot field none

/-- The call takes the directive. Relations have to be known only where the call has no ordering of
its own for the field. -/
structure IsTaken (source : Source) (snapshot : Snapshot) (allowed : Option AllowedSorts)
    (d : SortDirective) : Prop where
  isFieldPath : Text.isFieldPath d.field = true
  permits : Permits source snapshot d.field allowed
  resolves : AllowedSorts.ordering? d.field allowed = none →
    ∃ relations column m, Text.split '.' d.field = relations ++ [column] ∧
      source.catalog.followAll source.model relations = .ok m

/-- The steps that a directive stands for: the keys of an ordering for its field, the field as a
key, or a load in the order of what comes behind the first relation, and the joined column. -/
inductive StandsFor (source : Source) (allowed : Option AllowedSorts) (d : SortDirective) :
    List SortStep → Prop
  | ordering {ordering} : AllowedSorts.ordering? d.field allowed = some ordering →
      StandsFor source allowed d ((ordering d.direction).map .order)
  | column : AllowedSorts.ordering? d.field allowed = none → '.' ∉ d.field.toList →
      StandsFor source allowed d [.order ⟨d.field, d.direction⟩]
  | related {relation rest : String} {r : Relation} :
      AllowedSorts.ordering? d.field allowed = none → d.field = relation ++ "." ++ rest →
      '.' ∉ relation.toList → source.model.relation? relation = some r →
      StandsFor source allowed d
        [.load relation ⟨rest, d.direction⟩, .order ⟨r.parentColumn, d.direction⟩]

end SortDirective

theorem FieldPath.exists_resolve_iff {c : Catalog} {root : Model} {path : String} :
    (∃ p, resolve c root path = .ok p) ↔
      ∃ relations column m, Text.split '.' path = relations ++ [column] ∧
        c.followAll root relations = .ok m := by
  constructor
  · rintro ⟨p, hp⟩
    exact ⟨p.relations, p.column, p.model, resolve_eq_ok_iff.mp hp⟩
  · rintro ⟨relations, column, m, hsplit, hfollow⟩
    exact ⟨⟨relations, m, column⟩, resolve_eq_ok_iff.mpr ⟨hsplit, hfollow⟩⟩

theorem FieldPath.column_eq_of_resolve {c : Catalog} {root : Model} {path : String} {p : FieldPath}
    (h : resolve c root path = .ok p) (hrelations : p.relations = []) :
    p.column = path ∧ '.' ∉ path.toList := by
  have hdot := (relations_eq_nil_iff h).mp hrelations
  rw [resolve_of_notMem hdot] at h
  cases h
  exact ⟨rfl, hdot⟩

theorem FieldPath.eq_append_of_resolve {c : Catalog} {root : Model} {path relation : String}
    {inner : List String} {p : FieldPath} (h : resolve c root path = .ok p)
    (hrelations : p.relations = relation :: inner) :
    path = relation ++ "." ++ String.intercalate "." (inner ++ [p.column]) ∧
      '.' ∉ relation.toList := by
  have hsplit := (resolve_eq_ok_iff.mp h).1
  rw [hrelations, List.cons_append] at hsplit
  constructor
  · have hjoin := Text.intercalate_split '.' path
    rw [hsplit, String.intercalate_cons_of_ne_nil (by simp)] at hjoin
    exact hjoin.symm
  · apply Text.notMem_of_mem_split (s := path)
    rw [hsplit]
    exact List.mem_cons_self

theorem Catalog.exists_relation?_of_followAll {c : Catalog} {m target : Model} {relation : String}
    {inner : List String} (h : c.followAll m (relation :: inner) = .ok target) :
    ∃ r, m.relation? relation = some r := by
  unfold followAll follow related? at h
  cases hr : m.relation? relation with
  | some r => exact ⟨r, rfl⟩
  | none => simp [hr] at h

namespace SortPlan

variable {source : Source} {snapshot : Snapshot} {allowed : Option AllowedSorts}

theorem apply_eq (plan : SortPlan) (q : Query) :
    plan.apply q = { q with
      orders := q.orders ++ plan.steps.filterMap SortStep.order?
      eagerLoads := q.eagerLoads ++ plan.steps.filterMap SortStep.load? } := by
  rw [← Effect.ofPlan_apply]
  simp [Effect.apply, Effect.ofPlan, Effect.none]

theorem isPermitted_iff {field : String} :
    isPermitted source snapshot allowed field = true ↔
      SortDirective.Permits source snapshot field allowed := by
  constructor
  · intro h
    rcases allowed with _ | ⟨fields⟩ | ⟨orderings⟩
    · cases hsortable : source.model.sortable with
      | none => exact .anyColumn hsortable (by simpa [isPermitted, hsortable] using h)
      | some fields => exact .sortable hsortable (by simpa [isPermitted, hsortable] using h)
    · exact .listed (by simpa [isPermitted] using h)
    · obtain ⟨ordering, hordering⟩ := Option.isSome_iff_exists.mp h
      exact .custom (mem_of_lookup hordering)
  · rintro (h | h | ⟨hsortable, h⟩ | ⟨hsortable, h⟩)
    · simpa [isPermitted] using h
    · rw [isPermitted, Option.isSome_iff_ne_none, Ne, lookup_eq_none_iff_notMem, not_not]
      exact List.mem_map_of_mem h
    · simpa [isPermitted, hsortable] using h
    · simpa [isPermitted, hsortable] using h

theorem directiveSteps_eq (source : Source) (allowed : Option AllowedSorts) (d : SortDirective) :
    directiveSteps source allowed d =
      match AllowedSorts.ordering? d.field allowed with
      | some ordering => .ok ((ordering d.direction).map .order)
      | none => fieldSteps source d := by
  rcases allowed with _ | ⟨fields⟩ | ⟨orderings⟩
  · rfl
  · rfl
  · rfl

theorem exists_directiveSteps_iff {d : SortDirective} :
    (∃ steps, directiveSteps source allowed d = .ok steps) ↔
      (AllowedSorts.ordering? d.field allowed = none →
        ∃ p, FieldPath.resolve source.catalog source.model d.field = .ok p) := by
  rw [directiveSteps_eq]
  cases AllowedSorts.ordering? d.field allowed with
  | some ordering => simp
  | none =>
      dsimp only [fieldSteps]
      cases FieldPath.resolve source.catalog source.model d.field with
      | error e => simp
      | ok p =>
          dsimp only
          split <;> simp

theorem standsFor_of_fieldSteps {d : SortDirective} {steps : List SortStep}
    (hordering : AllowedSorts.ordering? d.field allowed = none)
    (h : fieldSteps source d = .ok steps) : d.StandsFor source allowed steps := by
  unfold fieldSteps at h
  split at h
  · cases h
  · rename_i p hresolve
    split at h
    · rename_i hrelations
      cases h
      obtain ⟨hcolumn, hdot⟩ := FieldPath.column_eq_of_resolve hresolve hrelations
      rw [hcolumn]
      exact .column hordering hdot
    · rename_i relation inner hrelations
      obtain ⟨hfield, hdot⟩ := FieldPath.eq_append_of_resolve hresolve hrelations
      have hfollow := (FieldPath.resolve_eq_ok_iff.mp hresolve).2
      rw [hrelations] at hfollow
      obtain ⟨r, hr⟩ := Catalog.exists_relation?_of_followAll hfollow
      rw [hr] at h
      cases h
      exact .related hordering hfield hdot hr

theorem standsFor_of_directiveSteps {d : SortDirective} {steps : List SortStep}
    (h : directiveSteps source allowed d = .ok steps) : d.StandsFor source allowed steps := by
  rw [directiveSteps_eq] at h
  split at h
  · rename_i ordering hordering
    cases h
    exact .ordering hordering
  · rename_i hordering
    exact standsFor_of_fieldSteps hordering h

theorem ofInput_eq_ok_iff {input : SortInput} (hinput : input.isEmpty = false) {plan : SortPlan} :
    ofInput source snapshot input allowed = .ok plan ↔
      List.Forall₂ (fun raw d => SortDirective.parse snapshot raw = .ok d ∧
        checkField source snapshot allowed d.field = .ok ())
        (input.directives snapshot) plan.directives ∧
      ∃ parts, List.Forall₂ (fun d steps => directiveSteps source allowed d = .ok steps)
        plan.directives parts ∧ parts.flatten = plan.steps := by
  obtain ⟨ds, steps⟩ := plan
  rw [ofInput, hinput, if_neg Bool.false_ne_true]
  constructor
  · intro h
    split at h
    · cases h
    · rename_i ds' hds
      obtain ⟨steps', hsteps, hplan⟩ := map_eq_ok_iff.mp h
      cases hplan
      rw [stepsFor_eq_mapM] at hsteps
      obtain ⟨parts, hparts, hflat⟩ := map_eq_ok_iff.mp hsteps
      exact ⟨parseAll_eq_ok_iff.mp hds, parts, mapM_eq_ok_iff.mp hparts, hflat⟩
  · rintro ⟨hds, parts, hparts, hflat⟩
    rw [parseAll_eq_ok_iff.mpr hds]
    refine map_eq_ok_iff.mpr ⟨steps, ?_, rfl⟩
    rw [stepsFor_eq_mapM]
    exact map_eq_ok_iff.mpr ⟨parts, mapM_eq_ok_iff.mpr hparts, hflat⟩

theorem exists_ofInput_iff {input : SortInput} (hinput : input.isEmpty = false) :
    (∃ plan, ofInput source snapshot input allowed = .ok plan) ↔
      ∀ raw ∈ input.directives snapshot, ∃ d, SortDirective.parse snapshot raw = .ok d ∧
        d.IsTaken source snapshot allowed := by
  have htaken (d : SortDirective) : d.IsTaken source snapshot allowed ↔
      checkField source snapshot allowed d.field = .ok () ∧
        ∃ steps, directiveSteps source allowed d = .ok steps := by
    rw [checkField_eq_ok_iff, isPermitted_iff, exists_directiveSteps_iff,
      FieldPath.exists_resolve_iff]
    constructor
    · rintro ⟨hpath, hpermits, hresolves⟩
      exact ⟨⟨hpath, hpermits⟩, hresolves⟩
    · rintro ⟨⟨hpath, hpermits⟩, hresolves⟩
      exact ⟨hpath, hpermits, hresolves⟩
  constructor
  · rintro ⟨plan, hplan⟩
    obtain ⟨hds, parts, hparts, -⟩ := (ofInput_eq_ok_iff hinput).mp hplan
    intro raw hraw
    obtain ⟨d, hd, hparse, hcheck⟩ := exists_of_mem_traversal hds.flip hraw
    obtain ⟨steps, -, hsteps⟩ := exists_of_mem_traversal hparts.flip hd
    exact ⟨d, hparse, (htaken d).mpr ⟨hcheck, steps, hsteps⟩⟩
  · intro h
    obtain ⟨ds, hds⟩ := exists_forall₂_iff.mpr h
    obtain ⟨parts, hparts⟩ := exists_forall₂_iff.mpr fun d (hd : d ∈ ds) => by
      obtain ⟨raw, -, -, hd⟩ := exists_of_mem_traversal hds hd
      exact ((htaken d).mp hd).2
    refine ⟨⟨ds, parts.flatten⟩, (ofInput_eq_ok_iff hinput).mpr ⟨?_, parts, hparts, rfl⟩⟩
    exact hds.imp fun raw d hd => ⟨hd.1, ((htaken d).mp hd.2).1⟩

/-- A call that names something to sort by gets a plan exactly if it takes every directive. The plan
has the directives in the order of the input, and for each of them the steps that it stands for.
Applied to a query, it puts the keys and loads of these steps behind those of the query, and changes
nothing else. -/
theorem exists_ofInput_apply_eq (q : Query) (snapshot : Snapshot) (allowed : Option AllowedSorts)
    {input : SortInput} (hinput : input.isEmpty = false) :
    ((∃ plan, ofInput q.source snapshot input allowed = .ok plan) ↔
      ∀ raw ∈ input.directives snapshot, ∃ d, SortDirective.parse snapshot raw = .ok d ∧
        d.IsTaken q.source snapshot allowed) ∧
    ∀ plan, ofInput q.source snapshot input allowed = .ok plan →
      List.Forall₂ (fun raw d => SortDirective.parse snapshot raw = .ok d)
        (input.directives snapshot) plan.directives ∧
      ∃ parts, List.Forall₂ (SortDirective.StandsFor q.source allowed) plan.directives parts ∧
        plan.apply q = { q with
          orders := q.orders ++ parts.flatten.filterMap SortStep.order?
          eagerLoads := q.eagerLoads ++ parts.flatten.filterMap SortStep.load? } := by
  refine ⟨exists_ofInput_iff hinput, fun plan hplan => ?_⟩
  obtain ⟨hds, parts, hparts, hsteps⟩ := (ofInput_eq_ok_iff hinput).mp hplan
  refine ⟨hds.imp fun raw d hd => hd.1, parts, ?_, ?_⟩
  · exact hparts.imp fun d steps => standsFor_of_directiveSteps
  · rw [hsteps]
    exact apply_eq plan q

theorem exists_ofInput_apply_eq_replies :
    let input : SortInput := .delimited " title ,-replies.author.name,views, Desc"
    let plan : SortPlan :=
      ⟨[⟨"title", .ascending⟩, ⟨"replies.author.name", .descending⟩, ⟨"views", .descending⟩],
        [.order ⟨"title", .ascending⟩, .load "replies" ⟨"author.name", .descending⟩,
          .order ⟨"id", .descending⟩, .order ⟨"views", .descending⟩]⟩
    let snapshot := FilterContext.posts.snapshot
    let q := Query.posts
    input.isEmpty = false ∧ ofInput q.source snapshot input none = .ok plan ∧
      (∀ raw ∈ input.directives snapshot, ∃ d, SortDirective.parse snapshot raw = .ok d ∧
        d.IsTaken q.source snapshot none) ∧
      ∃ parts, List.Forall₂ (SortDirective.StandsFor q.source none) plan.directives parts ∧
        plan.apply q = { q with
          orders := q.orders ++ parts.flatten.filterMap SortStep.order?
          eagerLoads := q.eagerLoads ++ parts.flatten.filterMap SortStep.load? } := by
  intro input plan snapshot q
  have hinput : input.isEmpty = false := by decide
  have hplan : ofInput q.source snapshot input none = .ok plan := by decide +kernel
  obtain ⟨htaken, happly⟩ := exists_ofInput_apply_eq q snapshot none hinput
  exact ⟨hinput, hplan, htaken.mp ⟨plan, hplan⟩, (happly plan hplan).2⟩

end SortPlan

end RequestQuery
