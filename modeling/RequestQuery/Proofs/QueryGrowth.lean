import RequestQuery.Proofs.CallEdits

namespace RequestQuery

namespace Query

@[simp] theorem source_push? (q : Query) (c : Connective) (p : Option Predicate) :
    (q.push? c p).source = q.source := by
  cases p with
  | none => rfl
  | some p => rw [push?, push_eq_record, record]

@[simp] theorem conditions_push? (q : Query) (c : Connective) (p : Option Predicate) :
    (q.push? c p).conditions = q.conditions ++ p.toList.map fun p => (c, p) := by
  cases p with
  | none => simp [push?]
  | some p => simp [push?, push_eq_record, record]

end Query

@[simp] theorem SortPlan.conditions_applyStep (q : Query) (step : SortStep) :
    (SortPlan.applyStep q step).conditions = q.conditions := by
  cases step <;> rfl

@[simp] theorem SortPlan.conditions_apply (plan : SortPlan) (q : Query) :
    (plan.apply q).conditions = q.conditions := by
  unfold SortPlan.apply
  induction plan.steps generalizing q with
  | nil => rfl
  | cons step rest ih => rw [List.foldl_cons, ih, SortPlan.conditions_applyStep]

@[simp] theorem Engine.conditions_paginateRequest (e : Engine) (q : Query) (r : Request) :
    (e.paginateRequest q r).conditions = q.conditions := by
  unfold Engine.paginateRequest
  split <;> rfl

theorem Engine.planRequest_eq_ok_iff {e : Engine} {source : Source} {r : Request}
    {allowed : Option AllowedSorts} {plan : RequestPlan} :
    e.planRequest source r allowed = .ok plan ↔
      e.requestPreset source r = .ok plan.preset ∧
      e.buildInput source r.filterValue = .ok plan.filters ∧
      e.requestSearch source r = .ok plan.search ∧
      SortPlan.ofInput source e.snapshot (r.sortInput e.snapshot) allowed = .ok plan.sort := by
  obtain ⟨preset, filters, search, sort⟩ := plan
  unfold Engine.planRequest
  cases e.requestPreset source r with
  | error err => simp
  | ok preset =>
      cases e.buildInput source r.filterValue with
      | error err => simp
      | ok filters =>
          cases e.requestSearch source r with
          | error err => simp
          | ok search =>
              cases SortPlan.ofInput source e.snapshot (r.sortInput e.snapshot) allowed <;> simp

end RequestQuery
