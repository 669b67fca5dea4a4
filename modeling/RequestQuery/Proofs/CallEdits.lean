import RequestQuery.Engine
import RequestQuery.Proofs.Edits

namespace RequestQuery

namespace Engine

variable {ε : Type} (e : Engine) (q : Query)

/-- What a request appends: the conditions of its preset, filters and search, and its sort plan. -/
structure RequestPlan where
  preset : Option Predicate
  filters : Option Predicate
  search : Option Predicate
  sort : SortPlan

/-- Builds all parts of a request, up to the first error. -/
def planRequest (e : Engine) (source : Source) (r : Request) (allowed : Option AllowedSorts) :
    Except QueryError RequestPlan :=
  match e.requestPreset source r with
  | .error err => .error (.filter err)
  | .ok preset =>
    match e.buildInput source r.filterValue with
    | .error err => .error (.filter err)
    | .ok filters =>
      match e.requestSearch source r with
      | .error err => .error (.search err)
      | .ok search =>
        match SortPlan.ofInput source e.snapshot (r.sortInput e.snapshot) allowed with
        | .error err => .error (.sort err)
        | .ok sort => .ok ⟨preset, filters, search, sort⟩

theorem isSafe_append (build : Source → Except ε (Option Predicate)) :
    Edit.IsSafe (append build) :=
  Edit.isReading_get.bind fun q => (Edit.isReading_ofExcept (build q.source)).bind fun _ =>
    (Edit.completes_modify _).isSafe

theorem isSafe_sortInPlace (input : SortInput) (allowed : Option AllowedSorts) :
    (e.sortInPlace input allowed).IsSafe := by
  refine Edit.isReading_get.bind fun q => (Edit.isReading_ofExcept _).bind fun plan => ?_
  exact ((Edit.completes_modify plan.apply).bind fun _ => Edit.completes_pure _).isSafe

/-- All parts of a request are built before the first of them is appended, and from then on nothing
fails. -/
theorem isSafe_requestInPlace (queryString : String) (allowed : Option AllowedSorts) :
    (e.requestInPlace queryString allowed).IsSafe := by
  refine Edit.isReading_get.bind fun q => ?_
  refine (Edit.isReading_ofExcept _).bind fun preset => ?_
  refine (Edit.isReading_ofExcept _).bind fun filters => ?_
  refine (Edit.isReading_ofExcept _).bind fun search => ?_
  refine (Edit.isReading_ofExcept _).bind fun sort => Edit.Completes.isSafe ?_
  refine (Edit.completes_modify _).bind fun _ => (Edit.completes_modify _).bind fun _ => ?_
  refine (Edit.completes_modify _).bind fun _ => (Edit.completes_modify _).bind fun _ => ?_
  exact (Edit.completes_modify _).bind fun _ => Edit.completes_pure _

theorem isSafe_answer (call : Call) : (e.answer call).IsSafe := by
  cases call with
  | filter | filterSpec | preset | search => exact (isSafe_append _).adaptExcept _
  | sort input allowed => exact ((e.isSafe_sortInPlace input allowed).adaptExcept _).discard
  | paginate => exact (Edit.completes_modify _).isSafe
  | request text allowed => exact (e.isSafe_requestInPlace text allowed).discard

/-- A call that fails leaves the query as it was. -/
theorem step_eq_match (call : Call) :
    e.step q call = match e.perform q call with
      | .ok q' => q'
      | .error _ => q := by
  rw [step, (e.isSafe_answer call).leave_eq_match, perform]
  cases (e.answer call).result q <;> rfl

theorem result_append (build : Source → Except ε (Option Predicate)) :
    Edit.result (append build) q = (build q.source).map (q.push? .and) := by
  rw [Edit.result, append, Edit.outcome_get_bind]
  cases build q.source <;> rfl

theorem filter_eq_map (input : Json.Value) :
    e.filter q input = (e.buildInput q.source input).map (q.push? .and) :=
  result_append q _

theorem applyPreset_eq_map (name : String) :
    e.applyPreset q name = (e.buildPreset q.source name).map (q.push? .and) :=
  result_append q _

theorem sort_eq_map (input : SortInput) (allowed : Option AllowedSorts) :
    e.sort q input allowed =
      (SortPlan.ofInput q.source e.snapshot input allowed).map fun plan =>
        (plan.apply q, plan.directives) := by
  rw [sort, sortInPlace, Edit.outcome_get_bind]
  cases SortPlan.ofInput q.source e.snapshot input allowed <;> rfl

theorem applyRequest_eq_map (queryString : String) (allowed : Option AllowedSorts) :
    e.applyRequest q queryString allowed =
      (e.planRequest q.source (e.parseRequest q.source queryString) allowed).map fun plan =>
        let q' := ((q.push? .and plan.preset).push? .and plan.filters).push? .and plan.search
        (e.paginateRequest (plan.sort.apply q') (e.parseRequest q.source queryString),
          e.parseRequest q.source queryString) := by
  rw [applyRequest, requestInPlace, Edit.outcome_get_bind, planRequest]
  dsimp only
  generalize e.parseRequest q.source queryString = r
  cases e.requestPreset q.source r with
  | error err => rfl
  | ok preset =>
      cases e.buildInput q.source r.filterValue with
      | error err => rfl
      | ok filters =>
          cases e.requestSearch q.source r with
          | error err => rfl
          | ok search =>
              cases SortPlan.ofInput q.source e.snapshot (r.sortInput e.snapshot) allowed <;> rfl

theorem perform_eq_match (call : Call) :
    e.perform q call = match call with
      | .filter input => ((e.buildInput q.source input).map (q.push? .and)).mapError .filter
      | .filterSpec spec => ((e.buildFilter q.source spec).map (q.push? .and)).mapError .filter
      | .preset name => ((e.buildPreset q.source name).map (q.push? .and)).mapError .filter
      | .search raw fields mode =>
        ((e.buildSearch q.source raw fields mode).map (q.push? .and)).mapError .search
      | .sort input allowed =>
        ((SortPlan.ofInput q.source e.snapshot input allowed).map (·.apply q)).mapError .sort
      | .paginate number size => .ok (e.paginate q number size)
      | .request queryString allowed => (e.applyRequest q queryString allowed).map Prod.fst := by
  have happend {ε : Type} {build : Source → Except ε (Option Predicate)} {f : ε → QueryError} :
      Edit.result ((append build).adaptExcept f) q =
        ((build q.source).map (q.push? .and)).mapError f := by
    rw [Edit.result_adaptExcept, result_append]
  cases call with
  | filter | filterSpec | preset => exact happend
  | search => exact happend
  | sort input allowed =>
      have hsort : (e.sortInPlace input allowed).result q =
          (SortPlan.ofInput q.source e.snapshot input allowed).map (·.apply q) := by
        rw [Edit.result, ← sort, sort_eq_map]
        cases SortPlan.ofInput q.source e.snapshot input allowed <;> rfl
      dsimp only
      rw [perform, answer, Edit.result_discard, Edit.result_adaptExcept, hsort]
  | paginate => rfl
  | request text allowed => exact Edit.result_discard _ q

theorem perform_filter (input : Json.Value) :
    e.perform q (.filter input) = (e.filter q input).mapError .filter := by
  rw [filter_eq_map]
  exact perform_eq_match e q _

theorem perform_request (queryString : String) (allowed : Option AllowedSorts) :
    e.perform q (.request queryString allowed) =
      (e.applyRequest q queryString allowed).map Prod.fst :=
  perform_eq_match e q _

end Engine

end RequestQuery
