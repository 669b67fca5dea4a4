import RequestQuery.Proofs.NamedSource
import RequestQuery.Proofs.PathSegments
import RequestQuery.Proofs.Traversal
import RequestQuery.Sort.Plan

namespace RequestQuery

/-- The names in a step are identifiers. What a relation is loaded in the order of may lie behind
more relations. -/
def SortStep.HasIdentifiers : SortStep → Prop
  | order key => Text.isIdentifier key.column = true
  | load relation key =>
    Text.isIdentifier relation = true ∧ Text.isFieldPath key.column = true

namespace SortPlan

variable {source : Source} {snapshot : Snapshot} {allowed : Option AllowedSorts}

theorem checkField_eq_ok_iff {field : String} :
    checkField source snapshot allowed field = .ok () ↔
      Text.isFieldPath field = true ∧ isPermitted source snapshot allowed field = true := by
  simp [checkField]

theorem parseAll_eq_ok_iff {raws : List String} {ds : List SortDirective} :
    parseAll source snapshot allowed raws = .ok ds ↔
      List.Forall₂ (fun raw d => SortDirective.parse snapshot raw = .ok d ∧
        checkField source snapshot allowed d.field = .ok ()) raws ds := by
  induction raws generalizing ds with
  | nil => cases ds <;> simp [parseAll]
  | cons raw rest ih =>
      rw [parseAll, List.forall₂_cons_left_iff]
      cases hraw : SortDirective.parse snapshot raw with
      | error e => simp
      | ok d =>
          dsimp only
          cases hfield : checkField source snapshot allowed d.field with
          | error e => simp [hfield]
          | ok _ =>
              simp only [map_eq_ok_iff, ih, Except.ok.injEq]
              constructor
              · rintro ⟨more, hmore, rfl⟩
                exact ⟨d, more, ⟨rfl, hfield⟩, hmore, rfl⟩
              · rintro ⟨-, more, ⟨rfl, -⟩, hmore, rfl⟩
                exact ⟨more, hmore, rfl⟩

theorem stepsFor_eq_mapM (source : Source) (allowed : Option AllowedSorts)
    (ds : List SortDirective) :
    stepsFor source allowed ds = (ds.mapM (directiveSteps source allowed)).map List.flatten := by
  induction ds with
  | nil => rfl
  | cons d rest ih =>
      rw [mapM_cons_eq_match, stepsFor, ih]
      cases directiveSteps source allowed d with
      | error e => rfl
      | ok steps => cases rest.mapM (directiveSteps source allowed) <;> rfl

theorem exists_directive_of_mem_steps {input : SortInput} {plan : SortPlan}
    (h : ofInput source snapshot input allowed = .ok plan) {step : SortStep}
    (hstep : step ∈ plan.steps) :
    ∃ d steps, checkField source snapshot allowed d.field = .ok () ∧
      directiveSteps source allowed d = .ok steps ∧ step ∈ steps := by
  unfold ofInput at h
  split at h
  · cases h
    simp at hstep
  · split at h
    · cases h
    · rename_i ds hds
      rw [stepsFor_eq_mapM] at h
      obtain ⟨steps, hsteps, rfl⟩ := map_eq_ok_iff.mp h
      obtain ⟨parts, hparts, rfl⟩ := map_eq_ok_iff.mp hsteps
      obtain ⟨part, hpart, hstep⟩ := List.mem_flatten.mp hstep
      obtain ⟨d, hd, hpart⟩ := exists_of_mem_traversal (mapM_eq_ok_iff.mp hparts) hpart
      obtain ⟨raw, -, -, hcheck⟩ := exists_of_mem_traversal (parseAll_eq_ok_iff.mp hds) hd
      exact ⟨d, part, hcheck, hpart, hstep⟩

theorem hasIdentifiers_of_fieldSteps (hroot : source.model.HasIdentifiers) {d : SortDirective}
    (hfield : Text.isFieldPath d.field = true) {steps : List SortStep}
    (h : fieldSteps source d = .ok steps) : ∀ step ∈ steps, step.HasIdentifiers := by
  unfold fieldSteps at h
  split at h
  · cases h
  · rename_i p hp
    have hsegments := Text.isFieldPath_iff.mp hfield
    rw [(FieldPath.resolve_eq_ok_iff.mp hp).1] at hsegments
    split at h
    · rename_i hrelations
      cases h
      simpa [hrelations, SortStep.HasIdentifiers] using hsegments
    · rename_i relation inner hrelations
      cases h
      -- The path without its first relation is still a path, and its column is among the rest.
      rw [hrelations, List.cons_append, List.forall_mem_cons] at hsegments
      rw [List.forall_mem_cons]
      refine ⟨⟨hsegments.1, Text.isFieldPath_intercalate (by simp) hsegments.2⟩, ?_⟩
      split
      · rename_i r hr
        have hkeys := hroot.keys _ (mem_of_lookup hr)
        simpa [SortStep.HasIdentifiers] using (Relation.isIdentifier_columns hkeys).2
      · simp

/-- Only an ordering of a caller's own can bring in a name that is no identifier. -/
theorem hasIdentifiers_of_ofInput (hroot : source.model.HasIdentifiers)
    (hallowed : ∀ orderings, allowed = some (.custom orderings) → orderings = [])
    {input : SortInput} {plan : SortPlan}
    (h : ofInput source snapshot input allowed = .ok plan) :
    ∀ step ∈ plan.steps, step.HasIdentifiers := by
  intro step hstep
  obtain ⟨d, steps, hcheck, hsteps, hstep⟩ := exists_directive_of_mem_steps h hstep
  have hfield : fieldSteps source d = .ok steps := by
    unfold directiveSteps at hsteps
    split at hsteps
    · rename_i orderings
      cases hallowed orderings rfl
      exact hsteps
    · exact hsteps
  exact hasIdentifiers_of_fieldSteps hroot (checkField_eq_ok_iff.mp hcheck).1 hfield step hstep

end SortPlan

end RequestQuery
