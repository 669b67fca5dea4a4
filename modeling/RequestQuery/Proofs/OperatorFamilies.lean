import RequestQuery.Operator.Table
import RequestQuery.Proofs.NamedSource

namespace RequestQuery.OperatorTable

/-- Every operator stands under its own key, and its kind works with store operators of the family
that its own is of. -/
structure IsCoherent (t : OperatorTable) : Prop where
  key : ∀ e ∈ t.entries, e.2.key = e.1
  family : ∀ e ∈ t.entries, e.2.kind.family = e.2.store.family

variable {t : OperatorTable} {key : String} {o : Operator}

theorem isCoherent_builtin : builtin.IsCoherent where
  key := by decide
  family := by decide

@[simp] theorem family_kindFor (t : OperatorTable) (key : String) (store : StoreOperator) :
    (t.kindFor key store).family = store.family := by
  unfold kindFor
  split
  · split
    · rename_i h
      exact beq_iff_eq.mp h
    · exact OperatorKind.family_ofFamily _
  · exact OperatorKind.family_ofFamily _

theorem mem_insertEntry {e : String × Operator} {entries : List (String × Operator)}
    (h : e ∈ insertEntry o entries) : e = (o.key, o) ∨ e ∈ entries := by
  induction entries with
  | nil => exact .inl (List.mem_singleton.mp h)
  | cons head rest ih =>
      rw [insertEntry] at h
      split at h
      · rename_i hkey
        rcases List.mem_cons.mp h with rfl | hrest
        · exact .inl (by rw [beq_iff_eq.mp hkey])
        · exact .inr (List.mem_cons_of_mem _ hrest)
      · rcases List.mem_cons.mp h with rfl | hrest
        · exact .inr (by simp)
        · exact (ih hrest).imp_right (List.mem_cons_of_mem _)

theorem IsCoherent.register (h : t.IsCoherent) (key : String) (store : StoreOperator) :
    (t.register key store).IsCoherent where
  key := by
    intro e he
    rcases mem_insertEntry he with rfl | he
    · rfl
    · exact h.key e he
  family := by
    intro e he
    rcases mem_insertEntry he with rfl | he
    · exact family_kindFor t key store
    · exact h.family e he

theorem IsCoherent.override {overrides : List (String × String)} {t' : OperatorTable}
    (h : t.IsCoherent) (ht' : t.override overrides = .ok t') : t'.IsCoherent := by
  induction overrides generalizing t with
  | nil =>
      cases ht'
      exact h
  | cons entry rest ih =>
      rw [OperatorTable.override] at ht'
      split at ht'
      · cases ht'
      · exact ih (h.register _ _) ht'

/-- Whatever overrides are configured, they give a table in which kinds and families agree. -/
theorem isCoherent_of_withOverrides {overrides : List (String × String)}
    (h : withOverrides overrides = .ok t) : t.IsCoherent :=
  isCoherent_builtin.override h

theorem IsCoherent.family_of_get? (h : t.IsCoherent) (ho : t.get? key = some o) :
    o.kind.family = o.store.family :=
  h.family _ (mem_of_lookup ho)

end RequestQuery.OperatorTable
