import RequestQuery.Proofs.KeyedEntries
import RequestQuery.Proofs.PredicateTree
import RequestQuery.Query

namespace RequestQuery

/-- The names that a model brings into a statement are identifiers. -/
structure Model.HasIdentifiers (m : Model) : Prop where
  table : Text.isIdentifier m.table = true
  keys : ∀ e ∈ m.relations,
    Text.isIdentifier e.2.foreignKey = true ∧ Text.isIdentifier e.2.ownerKey = true

structure Source.HasIdentifiers (s : Source) : Prop where
  root : s.model.HasIdentifiers
  models : ∀ e ∈ s.catalog.models, e.2.HasIdentifiers

/-- The name that a node of a predicate brings into a statement is an identifier. -/
def Predicate.HasIdentifier : Predicate → Prop
  | compare column .. | pattern column .. | member column .. | between column .. | null column _ =>
    Text.isIdentifier column = true
  | related relation _ => Text.isIdentifier relation = true
  | group .. => True

theorem Catalog.mem_of_related? {c : Catalog} {m target : Model} {relation : String} {r : Relation}
    (h : c.related? m relation = some (r, target)) :
    (relation, r) ∈ m.relations ∧ (r.target, target) ∈ c.models := by
  simp only [Catalog.related?, Model.relation?, Catalog.get?, Option.bind_eq_bind,
    Option.bind_eq_some_iff, Option.pure_def, Option.some.injEq, Prod.mk.injEq] at h
  obtain ⟨r', hr, target', htarget, rfl, rfl⟩ := h
  exact ⟨mem_of_lookup hr, mem_of_lookup htarget⟩

theorem Relation.isIdentifier_columns {r : Relation}
    (h : Text.isIdentifier r.foreignKey = true ∧ Text.isIdentifier r.ownerKey = true) :
    Text.isIdentifier r.relatedColumn = true ∧ Text.isIdentifier r.parentColumn = true := by
  unfold Relation.relatedColumn Relation.parentColumn
  cases r.kind with
  | belongsTo => exact h.symm
  | hasOne | hasMany => exact h

theorem Catalog.problems_eq_nil_of_ofText {text : String} {c : Catalog} (h : ofText text = .ok c) :
    c.problems = [] := by
  unfold ofText at h
  split at h
  · cases h
  · unfold ofValue at h
    split at h
    · split at h
      · cases h
      · split at h
        · rename_i hproblems
          cases h
          exact hproblems
        · cases h
    · cases h

theorem Catalog.hasIdentifiers_of_problems_eq_nil {c : Catalog} (h : c.problems = []) :
    ∀ e ∈ c.models, e.2.HasIdentifiers := by
  intro e he
  have hmodel : c.modelProblems e.1 e.2 = [] := by
    rw [problems, ← List.length_eq_zero_iff, List.length_mergeSort, List.length_eq_zero_iff,
      List.flatMap_eq_nil_iff] at h
    exact h e he
  simp only [modelProblems, List.append_eq_nil_iff, List.flatMap_eq_nil_iff] at hmodel
  obtain ⟨⟨htable, -⟩, hrelations⟩ := hmodel
  refine ⟨by simpa using htable, fun r hr => ?_⟩
  have hkeys := (List.append_eq_nil_iff.mp (hrelations r hr)).2
  simpa using hkeys

theorem Source.hasIdentifiers_of_ofText {text key : String} {dialect : Dialect} {c : Catalog}
    {s : Source} (hcatalog : Catalog.ofText text = .ok c)
    (hsource : ofKey? c key dialect = some s) : s.HasIdentifiers := by
  have hmodels : ∀ e ∈ c.models, e.2.HasIdentifiers := by
    apply Catalog.hasIdentifiers_of_problems_eq_nil
    exact Catalog.problems_eq_nil_of_ofText hcatalog
  obtain ⟨m, hm, rfl⟩ := Option.map_eq_some_iff.mp hsource
  exact ⟨hmodels (key, m) (mem_of_lookup hm), hmodels⟩

/-- Posts with their authors and their replies, which are posts again. -/
def Source.posts : Source :=
  let posts : Model :=
    { name := "posts", table := "posts", primaryKey := "id", filterable := none, sortable := none,
      searchable := ["title"], searchParam := none, casts := [("views", .int)],
      relations := [("author", ⟨.belongsTo, "users", "author_id", "id"⟩),
        ("replies", ⟨.hasMany, "posts", "parent_id", "id"⟩)] }
  let users : Model :=
    { name := "users", table := "users", primaryKey := "id", filterable := none, sortable := none,
      searchable := [], searchParam := none, casts := [], relations := [] }
  ⟨⟨[("posts", posts), ("users", users)]⟩, posts, .sqlite⟩

theorem Source.hasIdentifiers_posts : Source.posts.HasIdentifiers where
  root := ⟨by decide, by decide⟩
  models := by
    intro e he
    simp only [Source.posts, List.mem_cons, List.not_mem_nil, or_false] at he
    rcases he with rfl | rfl
    · exact ⟨by decide, by decide⟩
    · exact ⟨by decide, by decide⟩

/-- Posts whose replies, or the authors of those, meet conditions of their own. -/
def Query.posts : Query where
  source := .posts
  conditions :=
    [(.and, .compare "views" .gte (.number (.int 10))),
      (.and, .group .or
        [.between "id" (.number (.int 1)) (.number (.int 9)) true, .null "parent_id" true,
          .related "replies" (.group .and
            [.pattern "title" .like "%a%" true, .member "id" [] false,
              .related "author"
                (.member "name" [.string "x", .null, .bool true] false)])]),
      (.and, .compare "title" .ne (.string "AND"))]
  orders := [⟨"title", .ascending⟩, ⟨"id", .descending⟩]
  eagerLoads := []
  limit := some 10
  offset := some 30

end RequestQuery
