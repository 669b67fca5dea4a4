import RequestQuery.Proofs.QueryGrowth
import RequestQuery.Proofs.Traversal

namespace RequestQuery

theorem mapError_eq_ok_iff {α ε ε' : Type} {f : ε → ε'} {x : Except ε α} {a : α} :
    x.mapError f = .ok a ↔ x = .ok a := by
  cases x <;> simp [Except.mapError]

def SortStep.order? : SortStep → Option OrderKey
  | order key => some key
  | load .. => none

def SortStep.load? : SortStep → Option EagerLoad
  | order _ => none
  | load relation key => some ⟨relation, some key⟩

namespace Query

/-- The query after calls, each with the engine that answers it. -/
def after (q : Query) (history : List (Engine × Engine.Call)) : Query :=
  history.foldl (fun q call => call.1.step q call.2) q

theorem after_induction {motive : Query → Prop} {q : Query}
    {history : List (Engine × Engine.Call)} (init : motive q)
    (step : ∀ q, ∀ call ∈ history, motive q → motive (call.1.step q call.2)) :
    motive (q.after history) := by
  induction history generalizing q with
  | nil => exact init
  | cons call rest ih =>
      refine ih (step q call (by simp) init) fun q call hcall => ?_
      exact step q call (List.mem_cons_of_mem _ hcall)

/-- A query with conditions and sort steps appended. The row window is left open. -/
structure Extends (q' q : Query) (added : List Predicate) (steps : List SortStep) : Prop where
  source : q'.source = q.source
  conditions : q'.conditions = q.conditions ++ added.map fun p => (.and, p)
  orders : q'.orders = q.orders ++ steps.filterMap SortStep.order?
  eagerLoads : q'.eagerLoads = q.eagerLoads ++ steps.filterMap SortStep.load?

namespace Extends

variable {q q' q'' : Query} {added more : List Predicate} {steps others : List SortStep}

theorem refl (q : Query) : q.Extends q [] [] :=
  ⟨rfl, by simp, by simp, by simp⟩

theorem trans (h : q'.Extends q added steps) (h' : q''.Extends q' more others) :
    q''.Extends q (added ++ more) (steps ++ others) where
  source := h'.source.trans h.source
  conditions := by rw [h'.conditions, h.conditions, List.map_append, List.append_assoc]
  orders := by rw [h'.orders, h.orders, List.filterMap_append, List.append_assoc]
  eagerLoads := by rw [h'.eagerLoads, h.eagerLoads, List.filterMap_append, List.append_assoc]

theorem push? (q : Query) (p : Option Predicate) : (q.push? .and p).Extends q p.toList [] := by
  cases p with
  | none => exact refl q
  | some p =>
      rw [Query.push?, push_eq_record]
      exact ⟨rfl, rfl, by simp [record], by simp [record]⟩

theorem applyStep (q : Query) (step : SortStep) :
    (SortPlan.applyStep q step).Extends q [] [step] := by
  cases step with
  | order key => constructor <;> simp [SortPlan.applyStep, orderBy, SortStep.order?, SortStep.load?]
  | load relation key =>
      constructor <;> simp [SortPlan.applyStep, withRelation, SortStep.order?, SortStep.load?]

theorem applyPlan (plan : SortPlan) (q : Query) : (plan.apply q).Extends q [] plan.steps := by
  unfold SortPlan.apply
  induction plan.steps generalizing q with
  | nil => exact refl q
  | cons step rest ih => exact (applyStep q step).trans (ih (SortPlan.applyStep q step))

theorem paginate (e : Engine) (q : Query) (number size : Option Nat) :
    (e.paginate q number size).Extends q [] [] := by
  constructor <;> simp [Engine.paginate, Page.apply, setLimit, setOffset]

theorem paginateRequest (e : Engine) (q : Query) (r : Request) :
    (e.paginateRequest q r).Extends q [] [] := by
  unfold Engine.paginateRequest
  split
  · exact paginate e q r.page r.perPage
  · exact refl q

end Extends

end Query

namespace Engine

def Call.allowed : Call → Option AllowedSorts
  | .sort _ allowed | .request _ allowed => allowed
  | _ => none

inductive Builds (e : Engine) (source : Source) : Predicate → Prop
  | filter {spec p} : e.buildFilter source spec = .ok (some p) → Builds e source p
  | search {raw fields mode p} : e.buildSearch source raw fields mode = .ok (some p) →
      Builds e source p

def Plans (e : Engine) (source : Source) (allowed : Option AllowedSorts) (step : SortStep) : Prop :=
  ∃ input plan, SortPlan.ofInput source e.snapshot input allowed = .ok plan ∧ step ∈ plan.steps

variable {e : Engine} {source : Source} {r : Option Predicate}

theorem builds_of_buildFilter {spec : FilterSpec} (h : e.buildFilter source spec = .ok r) :
    ∀ p ∈ r.toList, e.Builds source p := by
  intro p hp
  rw [Option.mem_toList] at hp
  exact .filter (h.trans (congrArg Except.ok hp))

theorem builds_of_buildInput {input : Json.Value} (h : e.buildInput source input = .ok r) :
    ∀ p ∈ r.toList, e.Builds source p := by
  unfold buildInput at h
  split at h
  · cases h
  · exact builds_of_buildFilter h

theorem builds_of_buildPreset {name : String} (h : e.buildPreset source name = .ok r) :
    ∀ p ∈ r.toList, e.Builds source p := by
  unfold buildPreset at h
  split at h
  · cases h
  · exact builds_of_buildInput h

theorem builds_of_buildSearch {raw : String} {fields : Option (List String)} {mode : Option String}
    (h : e.buildSearch source raw fields mode = .ok r) : ∀ p ∈ r.toList, e.Builds source p := by
  intro p hp
  rw [Option.mem_toList] at hp
  exact .search (h.trans (congrArg Except.ok hp))

theorem builds_of_requestPreset {request : Request} (h : e.requestPreset source request = .ok r) :
    ∀ p ∈ r.toList, e.Builds source p := by
  unfold requestPreset at h
  split at h
  · exact builds_of_buildPreset h
  · cases h
    simp

theorem builds_of_requestSearch {request : Request} (h : e.requestSearch source request = .ok r) :
    ∀ p ∈ r.toList, e.Builds source p := by
  unfold requestSearch at h
  split at h
  · exact builds_of_buildSearch h
  · cases h
    simp

/-- A call that succeeds appends conditions that have been built and steps that have been planned,
and touches nothing else but the row window. -/
theorem extends_of_perform {q q' : Query} {call : Call} (h : e.perform q call = .ok q') :
    ∃ added steps, q'.Extends q added steps ∧ (∀ p ∈ added, e.Builds q.source p) ∧
      ∀ step ∈ steps, e.Plans q.source call.allowed step := by
  -- Filters, presets and searches append the one condition that they build, if any.
  have hcondition {ε : Type} {r : Except ε (Option Predicate)} {f : ε → QueryError}
      (hr : ∀ p, r = .ok p → ∀ p' ∈ p.toList, e.Builds q.source p')
      (h : (r.map (q.push? .and)).mapError f = .ok q') :
      ∃ added steps, q'.Extends q added steps ∧ (∀ p ∈ added, e.Builds q.source p) ∧
        ∀ step ∈ steps, e.Plans q.source call.allowed step := by
    obtain ⟨p, hp, rfl⟩ := map_eq_ok_iff.mp (mapError_eq_ok_iff.mp h)
    exact ⟨p.toList, [], .push? q p, hr p hp, by simp⟩
  rw [perform_eq_match] at h
  cases call with
  | filter input => exact hcondition (fun _ => builds_of_buildInput) h
  | filterSpec spec => exact hcondition (fun _ => builds_of_buildFilter) h
  | preset name => exact hcondition (fun _ => builds_of_buildPreset) h
  | search raw fields mode => exact hcondition (fun _ => builds_of_buildSearch) h
  | sort input allowed =>
      obtain ⟨plan, hplan, rfl⟩ := map_eq_ok_iff.mp (mapError_eq_ok_iff.mp h)
      exact ⟨[], plan.steps, .applyPlan plan q, by simp,
        fun step hstep => ⟨input, plan, hplan, hstep⟩⟩
  | paginate number size =>
      cases h
      exact ⟨[], [], .paginate e q number size, by simp, by simp⟩
  | request text allowed =>
      obtain ⟨result, hresult, rfl⟩ := map_eq_ok_iff.mp h
      rw [applyRequest_eq_map] at hresult
      obtain ⟨plan, hplan, rfl⟩ := map_eq_ok_iff.mp hresult
      obtain ⟨hpreset, hfilters, hsearch, hsort⟩ := planRequest_eq_ok_iff.mp hplan
      refine ⟨_, _, ((((Query.Extends.push? q plan.preset).trans (.push? _ plan.filters)).trans
        (.push? _ plan.search)).trans (.applyPlan plan.sort _)).trans
        (.paginateRequest e _ _), ?_, ?_⟩
      · simp only [List.append_nil, List.forall_mem_append]
        exact ⟨⟨builds_of_requestPreset hpreset, builds_of_buildInput hfilters⟩,
          builds_of_requestSearch hsearch⟩
      · simp only [List.nil_append, List.append_nil]
        exact fun step hstep => ⟨_, plan.sort, hsort, hstep⟩

end Engine

namespace Query

/-- All conditions of the query, and all of its sort keys and loads, have the given properties. -/
structure IsMadeOf (q : Query) (source : Source) (C : Predicate → Prop) (S : SortStep → Prop) :
    Prop where
  source : q.source = source
  conditions : ∀ c ∈ q.conditions, C c.2
  orders : ∀ key ∈ q.orders, S (.order key)
  eagerLoads : ∀ load ∈ q.eagerLoads, ∃ key, load.order = some key ∧ S (.load load.relation key)

variable {source : Source} {C : Predicate → Prop} {S : SortStep → Prop}

theorem IsMadeOf.of_extends {q q' : Query} {added : List Predicate} {steps : List SortStep}
    (hq : q.IsMadeOf source C S) (h : q'.Extends q added steps) (hadded : ∀ p ∈ added, C p)
    (hsteps : ∀ step ∈ steps, S step) : q'.IsMadeOf source C S where
  source := h.source.trans hq.source
  conditions := by
    rw [h.conditions, List.forall_mem_append]
    refine ⟨hq.conditions, ?_⟩
    simpa using hadded
  orders := by
    rw [h.orders, List.forall_mem_append]
    refine ⟨hq.orders, fun key hkey => ?_⟩
    obtain ⟨step, hstep, hkey⟩ := List.mem_filterMap.mp hkey
    cases step with
    | order key =>
        cases hkey
        exact hsteps _ hstep
    | load relation key => cases hkey
  eagerLoads := by
    rw [h.eagerLoads, List.forall_mem_append]
    refine ⟨hq.eagerLoads, fun load hload => ?_⟩
    obtain ⟨step, hstep, hload⟩ := List.mem_filterMap.mp hload
    cases step with
    | order key => cases hload
    | load relation key =>
        cases hload
        exact ⟨key, rfl, hsteps _ hstep⟩

theorem isMadeOf_after (source : Source) {history : List (Engine × Engine.Call)}
    (hbuilds : ∀ call ∈ history, ∀ p, call.1.Builds source p → C p)
    (hplans : ∀ call ∈ history, ∀ step, call.1.Plans source call.2.allowed step → S step) :
    ((ofSource source).after history).IsMadeOf source C S := by
  refine after_induction (motive := fun q => q.IsMadeOf source C S) ?_ fun q call hcall hq => ?_
  · exact ⟨rfl, by simp [ofSource], by simp [ofSource], by simp [ofSource]⟩
  · rw [Engine.step_eq_match]
    split
    · rename_i q' hperform
      -- The source never changes, so what a later call builds it builds for the same source.
      obtain ⟨added, steps, hextends, hadded, hsteps⟩ := Engine.extends_of_perform hperform
      rw [hq.source] at hadded hsteps
      exact hq.of_extends hextends (fun p hp => hbuilds call hcall p (hadded p hp))
        fun step hstep => hplans call hcall step (hsteps step hstep)
    · exact hq

end Query

end RequestQuery
