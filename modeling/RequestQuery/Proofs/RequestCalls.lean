import RequestQuery.Proofs.QueryGrowth
import RequestQuery.Proofs.Traversal

namespace RequestQuery.Engine

/-- The calls that a request stands for, in order. Filters and sort keys are always applied, the
other parts only if the request has them. -/
def requestCalls (e : Engine) (r : Request) (allowed : Option AllowedSorts) : List Call :=
  (r.preset.map .preset).toList ++ [.filter r.filterValue] ++
    (r.search.map fun raw => .search raw none none).toList ++
    [.sort (r.sortInput e.snapshot) allowed] ++
    if r.page.isSome || r.perPage.isSome then [.paginate r.page r.perPage] else []

variable (e : Engine) (q : Query) (r : Request) (allowed : Option AllowedSorts)

theorem mapError_map_eq_bind {α β ε ε' : Type} (x : Except ε α) (f : α → β) (g : ε → ε') :
    (x.map f).mapError g = x.mapError g >>= fun a => pure (f a) := by
  cases x <;> rfl

theorem foldlM_singleton (call : Call) : [call].foldlM e.perform q = e.perform q call :=
  bind_pure _

theorem foldlM_preset :
    (r.preset.map Call.preset).toList.foldlM e.perform q =
      (e.requestPreset q.source r).mapError .filter >>= fun p => pure (q.push? .and p) := by
  rw [← mapError_map_eq_bind, requestPreset]
  cases r.preset with
  | none => rfl
  | some name => exact (foldlM_singleton e q _).trans (perform_eq_match e q _)

theorem foldlM_filter (input : Json.Value) :
    [Call.filter input].foldlM e.perform q =
      (e.buildInput q.source input).mapError .filter >>= fun p => pure (q.push? .and p) := by
  rw [← mapError_map_eq_bind, foldlM_singleton, perform_eq_match]

theorem foldlM_search :
    (r.search.map fun raw => Call.search raw none none).toList.foldlM e.perform q =
      (e.requestSearch q.source r).mapError .search >>= fun p => pure (q.push? .and p) := by
  rw [← mapError_map_eq_bind, requestSearch]
  cases r.search with
  | none => rfl
  | some raw => exact (foldlM_singleton e q _).trans (perform_eq_match e q _)

theorem foldlM_sort (input : SortInput) :
    [Call.sort input allowed].foldlM e.perform q =
      (SortPlan.ofInput q.source e.snapshot input allowed).mapError .sort >>=
        fun plan => pure (plan.apply q) := by
  rw [← mapError_map_eq_bind, foldlM_singleton, perform_eq_match]

theorem foldlM_paginate :
    (if r.page.isSome || r.perPage.isSome then [Call.paginate r.page r.perPage] else []).foldlM
      e.perform q = pure (e.paginateRequest q r) := by
  unfold paginateRequest
  split <;> rfl

theorem planRequest_eq_bind (source : Source) :
    e.planRequest source r allowed = (do
      let preset ← (e.requestPreset source r).mapError .filter
      let filters ← (e.buildInput source r.filterValue).mapError .filter
      let search ← (e.requestSearch source r).mapError .search
      let sort ←
        (SortPlan.ofInput source e.snapshot (r.sortInput e.snapshot) allowed).mapError .sort
      return ⟨preset, filters, search, sort⟩) := by
  unfold planRequest
  cases e.requestPreset source r with
  | error err => rfl
  | ok preset =>
      cases e.buildInput source r.filterValue with
      | error err => rfl
      | ok filters =>
          cases e.requestSearch source r with
          | error err => rfl
          | ok search =>
              cases SortPlan.ofInput source e.snapshot (r.sortInput e.snapshot) allowed <;> rfl

/-- Every part is built for the source of the query, and no call changes the source. So it makes no
difference that each call finds what the calls before it have appended. -/
theorem applyRequest_eq_map_foldlM (queryString : String) :
    e.applyRequest q queryString allowed =
      ((e.requestCalls (e.parseRequest q.source queryString) allowed).foldlM e.perform q).map
        fun q' => (q', e.parseRequest q.source queryString) := by
  rw [applyRequest_eq_map]
  generalize e.parseRequest q.source queryString = r
  simp only [requestCalls, List.foldlM_append, foldlM_preset, foldlM_filter, foldlM_search,
    foldlM_sort, foldlM_paginate, planRequest_eq_bind, map_eq_bind, bind_assoc, pure_bind,
    Query.source_push?]

/-- A request succeeds exactly if its calls do, with the query that they give. Otherwise it has the
error of the first call that fails, and the query stays what it was before all of them. -/
theorem applyRequest_iff_requestCalls (e : Engine) (q : Query) (allowed : Option AllowedSorts)
    (queryString : String) :
    let r := e.parseRequest q.source queryString
    let calls := e.requestCalls r allowed
    (∀ q' r', e.applyRequest q queryString allowed = .ok (q', r') ↔
      calls.foldlM e.perform q = .ok q' ∧ r' = r) ∧
    (∀ err, e.applyRequest q queryString allowed = .error err ↔
      ∃ done call rest reached, calls = done ++ call :: rest ∧
        done.foldlM e.perform q = .ok reached ∧ e.perform reached call = .error err) ∧
    e.step q (.request queryString allowed) =
      match calls.foldlM e.perform q with
      | .ok q' => q'
      | .error _ => q := by
  intro r calls
  have happly : e.applyRequest q queryString allowed =
      (calls.foldlM e.perform q).map fun q' => (q', r) :=
    applyRequest_eq_map_foldlM e q allowed queryString
  refine ⟨fun q' r' => ?_, fun err => ?_, ?_⟩
  · rw [happly, map_eq_ok_iff]
    simp [Prod.ext_iff, eq_comm]
  · rw [happly, ← foldlM_eq_error_iff]
    cases calls.foldlM e.perform q <;> simp [Except.map]
  · rw [step_eq_match, perform_request, happly]
    cases calls.foldlM e.perform q <;> rfl

end RequestQuery.Engine
