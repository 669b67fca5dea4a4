import RequestQuery.Proofs.FilterTree
import RequestQuery.Proofs.QueryGrowth

namespace RequestQuery

open Json (Value)

namespace Predicate

mutual

/-- The leaves of a tree: the relations around each, from outside in, and then its column. -/
def leafPaths : Predicate → List (List String)
  | compare column .. | pattern column .. | member column .. | between column .. | null column _ =>
    [[column]]
  | related relation inner => inner.leafPaths.map (relation :: ·)
  | group _ members => leafPathsOf members

def leafPathsOf : List Predicate → List (List String)
  | [] => []
  | p :: rest => p.leafPaths ++ leafPathsOf rest

end

theorem leafPaths_group (c : Connective) (members : List Predicate) :
    (group c members).leafPaths = members.flatMap leafPaths := by
  rw [leafPaths]
  induction members with
  | nil => rfl
  | cons p rest ih => rw [leafPathsOf, ih, List.flatMap_cons]

theorem leafPaths_of_column? {p : Predicate} {column : String} (h : p.column? = some column) :
    p.leafPaths = [[column]] := by
  cases p <;> simp_all [column?, leafPaths]

theorem leafPaths_foldr_related (relations : List String) (p : Predicate) :
    (relations.foldr .related p).leafPaths = p.leafPaths.map (relations ++ ·) := by
  induction relations with
  | nil => simp
  | cons r rest ih => simp [leafPaths, ih]

end Predicate

namespace FilterContext

/-- The list in force has the field: the one of the root model, or else the global one, which is not
in force when it is empty. -/
def Permits (ctx : FilterContext) (path : String) : Prop :=
  match ctx.source.model.filterable with
  | some fields => path ∈ fields
  | none =>
    ctx.snapshot.settings.globalWhitelist ≠ [] → path ∈ ctx.snapshot.settings.globalWhitelist

/-- Every leaf is one of the given fields, spelt as an identifier path, and permitted. -/
def Guards (ctx : FilterContext) (fields : List FieldFilter) (p : Predicate) : Prop :=
  ∀ segments ∈ p.leafPaths,
    String.intercalate "." segments ∈ fields.map FieldFilter.path ∧
      Text.isFieldPath (String.intercalate "." segments) = true ∧
      ctx.Permits (String.intercalate "." segments)

variable {ctx : FilterContext}

theorem permits_iff_allowedFields {path : String} :
    ctx.Permits path ↔ ∀ fields, ctx.allowedFields = some fields → path ∈ fields := by
  unfold Permits allowedFields
  cases ctx.source.model.filterable with
  | some fields => simp
  | none => cases ctx.snapshot.settings.globalWhitelist <;> simp

theorem checkField_eq_ok_iff {path : String} :
    ctx.checkField path = .ok () ↔ Text.isFieldPath path = true ∧ ctx.Permits path := by
  rw [permits_iff_allowedFields, checkField]
  cases hpath : Text.isFieldPath path with
  | false => simp
  | true =>
      cases ctx.allowedFields with
      | none => simp
      | some fields => by_cases hmem : path ∈ fields <;> simp [hmem]

theorem guards_group {fields : List FieldFilter} (c : Connective) (members : List Predicate)
    (h : ∀ p ∈ members, ctx.Guards fields p) : ctx.Guards fields (.group c members) := by
  intro segments hsegments
  rw [Predicate.leafPaths_group] at hsegments
  obtain ⟨p, hp, hsegments⟩ := List.mem_flatMap.mp hsegments
  exact h p hp segments hsegments

theorem leafPaths_of_applyCondition {m : Model} {column path : String} {condition : Condition}
    {p : Predicate} (hkeys : ∀ key ∈ condition.keys, ctx.isHandlerKey key = false)
    (h : ctx.applyCondition m column condition path = .ok (some p)) :
    ∀ segments ∈ p.leafPaths, segments = [column] := by
  obtain ⟨c, ps, hjoin, hps⟩ := applyCondition_eq_ok h
  refine Predicate.forall_join (P := fun p => ∀ segments ∈ p.leafPaths, segments = [column])
    ?_ ?_ p hjoin.symm
  · intro hmembers segments hsegments
    rw [Predicate.leafPaths_group] at hsegments
    obtain ⟨q, hq, hsegments⟩ := List.mem_flatMap.mp hsegments
    exact hmembers q hq segments hsegments
  · intro q hq segments hsegments
    have hcolumn : q.column? = some column := by
      rcases hps q hq with rfl | ⟨key, hkey, v, hq⟩
      · rfl
      · exact column?_of_applyOperator (hkeys key hkey) hq
    rw [Predicate.leafPaths_of_column? hcolumn] at hsegments
    exact List.mem_singleton.mp hsegments

theorem guards_of_evalField {fields : List FieldFilter} {f : FieldFilter} (hf : f ∈ fields)
    (hkeys : ∀ key ∈ f.condition.keys, ctx.isHandlerKey key = false) {depth : Nat} {p : Predicate}
    (h : ctx.evalField depth f = .ok (some p)) : ctx.Guards fields p := by
  obtain ⟨hcheck, relations, column, m, inner, hpath, -, hcondition, hp⟩ := evalField_eq_ok h
  obtain ⟨q, rfl, rfl⟩ := Option.map_eq_some_iff.mp hp.symm
  intro segments hsegments
  rw [Predicate.leafPaths_foldr_related] at hsegments
  obtain ⟨leaf, hleaf, rfl⟩ := List.mem_map.mp hsegments
  rw [leafPaths_of_applyCondition hkeys hcondition leaf hleaf, ← hpath]
  have hspell : String.intercalate "." (Text.split '.' f.path) = f.path :=
    Text.intercalate_split '.' f.path
  rw [hspell]
  exact ⟨List.mem_map_of_mem hf, checkField_eq_ok_iff.mp hcheck⟩

theorem guards_of_evaluate {spec : FilterSpec} {r : Option Predicate}
    (hkeys : ctx.UsesNoHandler (FilterSpec.fields spec)) (h : ctx.evaluate spec = .ok r) :
    ∀ p ∈ r, ctx.Guards (FilterSpec.fields spec) p :=
  forall_of_evaluate guards_group (fun f hf _ _ => guards_of_evalField hf (hkeys f hf)) h

end FilterContext

namespace Engine

/-- What an input adds to a query is guarded: it is the predicate of a filter that reaches only
fields of that filter, as long as no handler takes part. -/
def Adds (e : Engine) (source : Source) (input : Value) (added : Option Predicate) : Prop :=
  ∃ spec, FilterSpec.ofValue input = .ok spec ∧
    ((e.filterContext source).UsesNoHandler (FilterSpec.fields spec) →
      ∀ p ∈ added, (e.filterContext source).Guards (FilterSpec.fields spec) p)

variable {e : Engine}

theorem adds_of_buildInput {source : Source} {input : Value} {added : Option Predicate}
    (h : e.buildInput source input = .ok added) : e.Adds source input added := by
  unfold buildInput at h
  split at h
  · cases h
  · rename_i spec hspec
    exact ⟨spec, hspec, fun hkeys => FilterContext.guards_of_evaluate hkeys h⟩

theorem adds_of_buildPreset {source : Source} {name : String} {added : Option Predicate}
    (h : e.buildPreset source name = .ok added) :
    ∃ input, e.snapshot.settings.presets.lookup name = some input ∧ e.Adds source input added := by
  unfold buildPreset at h
  split at h
  · cases h
  · rename_i input hinput
    exact ⟨input, hinput, adds_of_buildInput h⟩

/-- Every condition that a filter, a preset or the filters of a request come to is guarded. -/
theorem guards_conditions (e : Engine) (q : Query) :
    (∀ spec p, (e.filterContext q.source).UsesNoHandler (FilterSpec.fields spec) →
      (e.filterContext q.source).evaluate spec = .ok (some p) →
      (e.filterContext q.source).Guards (FilterSpec.fields spec) p) ∧
    (∀ name q', e.applyPreset q name = .ok q' →
      ∃ input added, e.snapshot.settings.presets.lookup name = some input ∧
        q'.conditions = q.conditions ++ added.toList.map (Connective.and, ·) ∧
        e.Adds q.source input added) ∧
    (∀ text allowed q' r, e.applyRequest q text allowed = .ok (q', r) →
      ∃ preset filters search,
        q'.conditions = q.conditions ++
          (preset.toList ++ filters.toList ++ search.toList).map (Connective.and, ·) ∧
        (∀ name ∈ r.preset, ∃ input, e.snapshot.settings.presets.lookup name = some input ∧
          e.Adds q.source input preset) ∧
        (r.preset = none → preset = none) ∧
        e.Adds q.source r.filterValue filters ∧
        e.requestSearch q.source r = .ok search) := by
  refine ⟨fun spec p hkeys h => FilterContext.guards_of_evaluate hkeys h p rfl, ?_, ?_⟩
  · intro name q' h
    rw [applyPreset_eq_map] at h
    obtain ⟨added, hadded, rfl⟩ := map_eq_ok_iff.mp h
    obtain ⟨input, hinput, hadds⟩ := adds_of_buildPreset hadded
    exact ⟨input, added, hinput, by simp, hadds⟩
  · intro text allowed q' r h
    rw [applyRequest_eq_map] at h
    obtain ⟨plan, hplan, hq⟩ := map_eq_ok_iff.mp h
    obtain ⟨rfl, rfl⟩ := Prod.mk.inj hq
    obtain ⟨hpreset, hfilters, hsearch, -⟩ := planRequest_eq_ok_iff.mp hplan
    refine ⟨plan.preset, plan.filters, plan.search, by simp, ?_, ?_, adds_of_buildInput hfilters,
      hsearch⟩
    · intro name hname
      rw [requestPreset, hname] at hpreset
      exact adds_of_buildPreset hpreset
    · intro hnone
      rw [requestPreset, hnone] at hpreset
      exact (Except.ok.inj hpreset).symm

theorem guards_conditions_posts :
    let settings := { Settings.default with
      globalWhitelist := ["title", "author.name"]
      presets := [("own", .object [("title", .string "a")])] }
    let e : Engine := ⟨{ FilterContext.posts.snapshot with settings := settings }, [], 0⟩
    let q := Query.ofSource Source.posts
    let spec : FilterSpec := [
      .group (.mk .or
        [.field ⟨"author.name", .operators .and [("ne", .string "b")]⟩,
          .field ⟨"title", .literal (.string "a")⟩] [])]
    let p : Predicate := .group .or [
      .related "author" (.compare "name" .ne (.string "b")), .compare "title" .eq (.string "a")]
    (e.filterContext Source.posts).UsesNoHandler (FilterSpec.fields spec) ∧
      (e.filterContext Source.posts).evaluate spec = .ok (some p) ∧
      (e.filterContext Source.posts).Guards (FilterSpec.fields spec) p ∧
      ∃ q' input added, e.applyPreset q "own" = .ok q' ∧
        settings.presets.lookup "own" = some input ∧
        q'.conditions = q.conditions ++ added.toList.map (Connective.and, ·) ∧
        e.Adds Source.posts input added := by
  intro settings e q spec p
  have hkeys : (e.filterContext Source.posts).UsesNoHandler (FilterSpec.fields spec) := by decide
  have h : (e.filterContext Source.posts).evaluate spec = .ok (some p) := rfl
  obtain ⟨hevaluate, hpreset, -⟩ := guards_conditions e q
  obtain ⟨q', hq'⟩ : ∃ q', e.applyPreset q "own" = .ok q' := ⟨_, rfl⟩
  obtain ⟨input, added, hinput, hconditions, hadds⟩ := hpreset "own" q' hq'
  exact ⟨hkeys, h, hevaluate spec p hkeys h, q', input, added, hq', hinput, hconditions, hadds⟩

end Engine

end RequestQuery
