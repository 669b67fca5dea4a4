import RequestQuery.Proofs.SortSteps
import RequestQuery.Proofs.StatementWords
import RequestQuery.Proofs.Writability

namespace RequestQuery

open Json (Value)
open Statement

namespace Predicate

variable {p : Predicate}

theorem IsOn.every_hasIdentifier {column : String} (hcolumn : Text.isIdentifier column = true)
    (h : p.IsOn column) : p.Every HasIdentifier := by
  induction h with
  | @leaf p h =>
      cases p with
      | compare | pattern | member | between | null =>
          cases h
          exact hcolumn
      | related | group => cases h
  | group _ ih => exact every_group.mpr ⟨trivial, ih⟩

theorem IsScoped.every_hasIdentifier {source : Source} (h : p.IsScoped source) :
    p.Every HasIdentifier := by
  induction h with
  | field hpath hsplit _ hinner =>
      have hsegments := Text.isFieldPath_iff.mp hpath
      rw [hsplit, List.forall_mem_append, List.forall_mem_singleton] at hsegments
      exact every_foldr_related (fun relation hrelation _ => hsegments.1 relation hrelation)
        (hinner.every_hasIdentifier hsegments.2)
  | group _ ih => exact every_group.mpr ⟨trivial, ih⟩

end Predicate

namespace Engine

/-- The call brings in no ordering of its caller's own. -/
def Call.HasNoOrderings (call : Call) : Prop :=
  ∀ orderings, call.allowed = some (.custom orderings) → orderings = []

theorem Plans.hasIdentifiers {e : Engine} {source : Source} {call : Call} {step : SortStep}
    (hroot : source.model.HasIdentifiers) (hcall : call.HasNoOrderings)
    (h : e.Plans source call.allowed step) : step.HasIdentifiers := by
  obtain ⟨input, plan, hplan, hstep⟩ := h
  exact SortPlan.hasIdentifiers_of_ofInput hroot hcall hplan step hstep

end Engine

namespace Query

/-- All names that a query writes, and all relations that it loads, are identifiers. -/
structure HasIdentifiers (q : Query) : Prop where
  names : ∀ name ∈ q.names, Text.isIdentifier name = true
  eagerLoads : ∀ load ∈ q.eagerLoads, Text.isIdentifier load.relation = true ∧
    ∃ key, load.order = some key ∧ Text.isFieldPath key.column = true

theorem hasIdentifiers_after {source : Source} (hsource : source.HasIdentifiers)
    {history : List (Engine × Engine.Call)}
    (h : ∀ call ∈ history, call.1.handlers = [] ∧ call.2.HasNoOrderings) :
    ((ofSource source).after history).HasIdentifiers := by
  have hmade := isMadeOf_after source (C := fun p => p.Every Predicate.HasIdentifier)
    (S := SortStep.HasIdentifiers)
    (fun call hcall p hp => (hp.isScoped (h call hcall).1).every_hasIdentifier)
    (fun call hcall step hstep => hstep.hasIdentifiers hsource.root (h call hcall).2)
  have hidentifiers : ((ofSource source).after history).source.HasIdentifiers := by
    rw [hmade.source]
    exact hsource
  constructor
  · exact isIdentifier_of_mem_names hidentifiers hmade.conditions hmade.orders
  · intro load hload
    obtain ⟨key, hkey, hrelation, hcolumn⟩ := hmade.eagerLoads load hload
    exact ⟨hrelation, key, hkey, hcolumn⟩

/-- For a model of a catalog that has been read from text, after any history of calls without
handlers and orderings of the caller's own, the statement can be written, its words are names of the
query, counts of rows or fixed, and all names, those of relations to load included, are
identifiers. -/
theorem writes_identifiers_after {text key : String} {dialect : Dialect} {catalog : Catalog}
    {source : Source} (hcatalog : Catalog.ofText text = .ok catalog)
    (hsource : Source.ofKey? catalog key dialect = some source)
    {history : List (Engine × Engine.Call)}
    (h : ∀ call ∈ history, call.1.handlers = [] ∧ call.2.HasNoOrderings) :
    let q := (ofSource source).after history
    q.HasIdentifiers ∧ ∃ ts, q.statement = .ok (Fragment.ofTokens ts) ∧
      ∀ s, .word s ∈ ts → s ∈ q.names ∨ s ∈ q.rowCounts ∨ s ∈ fixedWords := by
  intro q
  obtain ⟨ts, hts⟩ := exists_statementTokens_after source fun call hcall => (h call hcall).1
  refine ⟨hasIdentifiers_after (Source.hasIdentifiers_of_ofText hcatalog hsource) h, ts, ?_, ?_⟩
  · rw [statement_eq_map, hts]
    rfl
  · intro s hs
    rcases isAmong_statementTokens hts _ hs with hword | hfixed
    · exact (List.mem_append.mp hword).imp_right .inl
    · exact .inr (.inr hfixed)

theorem writes_identifiers_after_replies :
    let replies := Value.object [("kind", .string "has_many"), ("target", .string "posts"),
      ("foreign_key", .string "parent_id")]
    let text := Value.render (.object [("posts", .object
      [("table", .string "posts"), ("relations", .object [("replies", replies)])])])
    let posts : Model :=
      { name := "posts", table := "posts", primaryKey := "id", filterable := none,
        sortable := none, searchable := [], searchParam := none, casts := [],
        relations := [("replies", ⟨.hasMany, "posts", "parent_id", "id"⟩)] }
    let catalog : Catalog := ⟨[("posts", posts)]⟩
    let e : Engine := ⟨FilterContext.posts.snapshot, [], 0⟩
    let history : List (Engine × Engine.Call) :=
      [(e, .filter (.object [("replies.replies.title", .string "a")])),
        (e, .filter (.object [("title; --", .string "b")])),
        (e, .sort (.delimited "-replies.title,title") none),
        (e, .sort (.delimited "title; --") none),
        (e, .paginate (some 2) (some 10))]
    let q := (ofSource ⟨catalog, posts, .sqlite⟩).after history
    Catalog.ofText text = .ok catalog ∧
      Source.ofKey? catalog "posts" .sqlite = some ⟨catalog, posts, .sqlite⟩ ∧
      (∀ call ∈ history, call.1.handlers = [] ∧ call.2.HasNoOrderings) ∧
      q.names = ["posts", "posts", "replies_1", "parent_id", "posts", "id", "posts", "replies_2",
        "parent_id", "replies_1", "id", "replies_2", "title", "id", "title"] ∧
      q.rowCounts = ["10", "10"] ∧ q.eagerLoads.length = 1 ∧ q.HasIdentifiers ∧
      ∃ ts, q.statement = .ok (Fragment.ofTokens ts) ∧
        ∀ s, .word s ∈ ts → s ∈ q.names ∨ s ∈ q.rowCounts ∨ s ∈ fixedWords := by
  intro replies text posts catalog e history q
  have hcatalog : Catalog.ofText text = .ok catalog := by decide +kernel
  have hsource : Source.ofKey? catalog "posts" .sqlite = some ⟨catalog, posts, .sqlite⟩ := rfl
  have hcalls : ∀ call ∈ history, call.1.handlers = [] ∧ call.2.HasNoOrderings := by
    simp [history, e, Engine.Call.HasNoOrderings, Engine.Call.allowed]
  have hnames : q.names = ["posts", "posts", "replies_1", "parent_id", "posts", "id", "posts",
      "replies_2", "parent_id", "replies_1", "id", "replies_2", "title", "id", "title"] := by
    decide +kernel
  have hcounts : q.rowCounts = ["10", "10"] := by decide +kernel
  have hloads : q.eagerLoads.length = 1 := by decide +kernel
  exact ⟨hcatalog, hsource, hcalls, hnames, hcounts, hloads,
    writes_identifiers_after hcatalog hsource hcalls⟩

end Query

end RequestQuery
