import RequestQuery.Edit

namespace RequestQuery

namespace Edit

variable {σ ε ε' α β : Type} {edit : Edit σ ε α} {next : α → Edit σ ε β}

/-- The edit leaves every state as it is. -/
def IsReading (edit : Edit σ ε α) : Prop :=
  ∀ s, edit.leave s = s

/-- The edit fails on no state. -/
def Completes (edit : Edit σ ε α) : Prop :=
  ∀ s, ∃ a s', edit.run s = .ok a s'

/-- The edit leaves a state as it is if it fails on it. -/
def IsSafe (edit : Edit σ ε α) : Prop :=
  ∀ s e s', edit.run s = .error e s' → s' = s

theorem isReading_get : (get : Edit σ ε σ).IsReading :=
  fun _ => rfl

theorem isReading_ofExcept (x : Except ε α) : (ofExcept x : Edit σ ε α).IsReading := by
  intro s
  cases x <;> rfl

theorem completes_modify (f : σ → σ) : (modify f : Edit σ ε Unit).Completes :=
  fun s => ⟨(), f s, rfl⟩

theorem completes_pure (a : α) : (pure a : Edit σ ε α).Completes :=
  fun s => ⟨a, s, rfl⟩

theorem Completes.bind (h : edit.Completes) (hnext : ∀ a, (next a).Completes) :
    (edit >>= next).Completes := by
  intro s
  obtain ⟨a, s', hs'⟩ := h s
  obtain ⟨b, s'', hs''⟩ := hnext a s'
  refine ⟨b, s'', ?_⟩
  rw [EStateM.run_bind, hs']
  exact hs''

theorem Completes.isSafe (h : edit.Completes) : edit.IsSafe := by
  intro s e s' hs'
  obtain ⟨a, s'', hs''⟩ := h s
  rw [hs''] at hs'
  cases hs'

theorem IsReading.bind (h : edit.IsReading) (hnext : ∀ a, (next a).IsSafe) :
    (edit >>= next).IsSafe := by
  intro s e s' hs'
  have hleave := h s
  rw [leave] at hleave
  rw [EStateM.run_bind] at hs'
  cases hrun : edit.run s with
  | ok a s'' =>
      rw [hrun] at hs' hleave
      rw [← hleave]
      exact hnext a s'' e s' hs'
  | error e' s'' =>
      rw [hrun] at hs' hleave
      cases hs'
      exact hleave

theorem IsSafe.adaptExcept (h : edit.IsSafe) (f : ε → ε') : IsSafe (edit.adaptExcept f) := by
  intro s e s' hs'
  rw [EStateM.run_adaptExcept] at hs'
  cases hrun : edit.run s with
  | ok a s'' =>
      rw [hrun] at hs'
      cases hs'
  | error e' s'' =>
      rw [hrun] at hs'
      cases hs'
      exact h s e' s' hrun

theorem run_discard (edit : Edit σ ε α) (s : σ) :
    EStateM.run (discard edit) s =
      match edit.run s with
      | .ok _ s' => .ok () s'
      | .error e s' => .error e s' := by
  change EStateM.map (fun _ => ()) edit s = _
  rw [EStateM.map, EStateM.run]
  cases edit s <;> rfl

theorem IsSafe.discard (h : edit.IsSafe) : IsSafe (discard edit) := by
  intro s e s' hs'
  rw [run_discard] at hs'
  split at hs'
  · cases hs'
  · rename_i hrun
    cases hs'
    exact h s e s' hrun

theorem IsSafe.leave_eq_match (h : edit.IsSafe) (s : σ) :
    edit.leave s = match edit.result s with
      | .ok s' => s'
      | .error _ => s := by
  rw [leave, result, outcome]
  cases hrun : edit.run s with
  | ok a s' => rfl
  | error e s' => exact h s e s' hrun

theorem outcome_get_bind (next : σ → Edit σ ε β) (s : σ) :
    outcome (get >>= next) s = (next s).outcome s :=
  rfl

theorem result_adaptExcept (edit : Edit σ ε α) (f : ε → ε') (s : σ) :
    result (edit.adaptExcept f) s = (edit.result s).mapError f := by
  rw [result, result, outcome, outcome, EStateM.run_adaptExcept]
  cases edit.run s <;> rfl

theorem result_discard (edit : Edit σ ε α) (s : σ) :
    result (Functor.discard edit) s = edit.result s := by
  rw [result, result, outcome, outcome, run_discard]
  cases edit.run s <;> rfl

end Edit

end RequestQuery
