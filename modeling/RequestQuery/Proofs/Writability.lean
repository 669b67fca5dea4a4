import RequestQuery.Proofs.FieldCondition
import RequestQuery.Proofs.Rendering

namespace RequestQuery

namespace Predicate

variable {catalog : Catalog} {m : Model} {p : Predicate}

/-- The condition can be written, whatever the rows of `m` are called and wherever they stand. -/
def IsWritable (catalog : Catalog) (m : Model) (p : Predicate) : Prop :=
  ∀ scope depth, ∃ ts, p.tokens catalog m scope depth = .ok ts

theorem isWritable_of_column? {column : String} (h : p.column? = some column) :
    p.IsWritable catalog m := by
  intro scope depth
  cases p with
  | compare | pattern | between | null => exact ⟨_, rfl⟩
  | member column values negated => cases values <;> exact ⟨_, rfl⟩
  | related | group => cases h

theorem isWritable_group {c : Connective} {members : List Predicate}
    (h : ∀ p ∈ members, p.IsWritable catalog m) : (group c members).IsWritable catalog m := by
  intro scope depth
  cases members with
  | nil => exact ⟨_, rfl⟩
  | cons p rest =>
      obtain ⟨parts, hparts⟩ := exists_mapM_eq_ok_iff.mpr fun p hp => h p hp scope depth
      rw [tokens, memberTokens_eq_mapM, hparts]
      exact ⟨_, rfl⟩

theorem isWritable_related {relation : String} {r : Relation} {target : Model} {inner : Predicate}
    (hrelated : catalog.related? m relation = some (r, target))
    (h : inner.IsWritable catalog target) : (related relation inner).IsWritable catalog m := by
  intro scope depth
  obtain ⟨ts, hts⟩ := h (Statement.aliasFor relation (depth + 1)) (depth + 1)
  simp only [tokens, hrelated, hts]
  exact ⟨_, rfl⟩

theorem isWritable_foldr_related {relations : List String} {target : Model} {inner : Predicate}
    (hfollow : catalog.followAll m relations = .ok target)
    (h : inner.IsWritable catalog target) :
    (relations.foldr related inner).IsWritable catalog m := by
  induction relations generalizing m with
  | nil =>
      cases hfollow
      exact h
  | cons relation rest ih =>
      rw [Catalog.followAll, Catalog.follow] at hfollow
      cases hrelated : catalog.related? m relation with
      | none => simp [hrelated] at hfollow
      | some next =>
          simp only [hrelated] at hfollow
          exact isWritable_related hrelated (ih hfollow)

theorem IsOn.isWritable {column : String} (h : p.IsOn column) : p.IsWritable catalog m := by
  induction h with
  | leaf h => exact isWritable_of_column? h
  | group _ ih => exact isWritable_group ih

theorem IsScoped.isWritable {source : Source} (h : p.IsScoped source) :
    p.IsWritable source.catalog source.model := by
  induction h with
  | field _ _ hfollow hinner => exact isWritable_foldr_related hfollow hinner.isWritable
  | group _ ih => exact isWritable_group ih

end Predicate

namespace Query

theorem exists_joinedTokens {source : Source} {conditions : List (Connective × Predicate)}
    (h : ∀ c ∈ conditions, c.2.IsWritable source.catalog source.model) :
    ∃ ts, joinedTokens source conditions = .ok ts := by
  induction conditions with
  | nil => exact ⟨[], rfl⟩
  | cons c rest ih =>
      rw [List.forall_mem_cons] at h
      obtain ⟨ts, hts⟩ := h.1 source.model.table 0
      obtain ⟨more, hmore⟩ := ih h.2
      simp only [joinedTokens, hts, hmore]
      exact ⟨_, rfl⟩

theorem exists_conditionTokens {q : Query}
    (h : ∀ c ∈ q.conditions, c.2.IsWritable q.source.catalog q.source.model) :
    ∃ ts, q.conditionTokens = .ok ts := by
  obtain ⟨ts, hts⟩ := exists_joinedTokens h
  rw [conditionTokens, hts]
  exact ⟨_, rfl⟩

theorem exists_conditionTokens_after (source : Source) {history : List (Engine × Engine.Call)}
    (h : ∀ call ∈ history, call.1.handlers = []) :
    ∃ ts, ((ofSource source).after history).conditionTokens = .ok ts := by
  have hmade := isMadeOf_after source (C := Predicate.IsScoped source) (S := fun _ => True)
    (fun call hcall p hp => hp.isScoped (h call hcall)) fun _ _ _ _ => trivial
  refine exists_conditionTokens fun c hc => ?_
  rw [hmade.source]
  exact (hmade.conditions c hc).isWritable

theorem exists_statementTokens_after (source : Source) {history : List (Engine × Engine.Call)}
    (h : ∀ call ∈ history, call.1.handlers = []) :
    ∃ ts, ((ofSource source).after history).statementTokens = .ok ts := by
  obtain ⟨ts, hts⟩ := exists_conditionTokens_after source h
  rw [statementTokens, hts]
  exact ⟨_, rfl⟩

/-- After any history of calls without handlers on a fresh query, those that fail included, both the
statement and its condition alone can be written. -/
theorem exists_statement_after (source : Source) {history : List (Engine × Engine.Call)}
    (h : ∀ call ∈ history, call.1.handlers = []) :
    (∃ f, ((ofSource source).after history).statement = .ok f) ∧
      ∃ f, ((ofSource source).after history).whereClause = .ok f := by
  obtain ⟨ts, hts⟩ := exists_statementTokens_after source h
  obtain ⟨conditions, hconditions⟩ := exists_conditionTokens_after source h
  constructor
  · rw [statement_eq_map, hts]
    exact ⟨_, rfl⟩
  · rw [whereClause_eq_map, hconditions]
    exact ⟨_, rfl⟩

theorem exists_statement_after_posts :
    let e : Engine := ⟨FilterContext.posts.snapshot, [], 0⟩
    let history : List (Engine × Engine.Call) :=
      [(e, .filter (.object [("replies.replies.author.name", .string "a")])),
        (e, .filter (.object [("title", .string "b"), ("replies.ghost.name", .string "c")])),
        (e, .preset "ghost"),
        (e, .sort (.delimited "-author.name,title") none)]
    let q := (ofSource Source.posts).after history
    (∀ call ∈ history, call.1.handlers = []) ∧ q.conditions.length = 1 ∧ q.orders.length = 2 ∧
      (∃ f, q.statement = .ok f) ∧ ∃ f, q.whereClause = .ok f := by
  intro e history q
  have hhandlers : ∀ call ∈ history, call.1.handlers = [] := by simp [history, e]
  have hconditions : q.conditions.length = 1 := by decide +kernel
  have horders : q.orders.length = 2 := by decide +kernel
  exact ⟨hhandlers, hconditions, horders, exists_statement_after Source.posts hhandlers⟩

end Query

end RequestQuery
