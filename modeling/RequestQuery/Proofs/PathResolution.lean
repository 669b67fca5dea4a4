import RequestQuery.Proofs.NamedSource
import RequestQuery.Proofs.PathSegments
import RequestQuery.Proofs.SpacedText

namespace RequestQuery

/-- The parts of a text between its separators. -/
structure Text.HasParts (sep : Char) (s : String) (parts : List String) : Prop where
  ne_nil : parts ≠ []
  notMem : ∀ part ∈ parts, sep ∉ part.toList
  joined : String.intercalate (String.singleton sep) parts = s

theorem Text.split_eq_iff {sep : Char} {s : String} {parts : List String} :
    split sep s = parts ↔ HasParts sep s parts := by
  have hsep : String.singleton sep = String.ofList [sep] := String.singleton_eq_ofList
  constructor
  · rintro rfl
    refine ⟨split_ne_nil sep s, fun part => notMem_of_mem_split, ?_⟩
    rw [hsep, intercalate_split]
  · rintro ⟨hne, hparts, rfl⟩
    rw [hsep]
    exact split_intercalate hne hparts

namespace Catalog

variable {c : Catalog} {m next target : Model} {name : String}

/-- Relations that lead from one model to another. Each is declared by the model that those before
it lead to. -/
inductive Leads (c : Catalog) : Model → List String → Model → Prop
  | refl (m : Model) : Leads c m [] m
  | step {m next target name names relation} : m.relation? name = some relation →
      c.get? relation.target = some next → Leads c next names target →
      Leads c m (name :: names) target

/-- A relation cannot be followed: the model does not declare it, or the catalog lacks the model
that it leads to. -/
def Misses (c : Catalog) (m : Model) (name : String) : Prop :=
  ∀ relation, m.relation? name = some relation → c.get? relation.target = none

theorem Leads.exists_between {before after : List String}
    (h : c.Leads m (before ++ after) target) :
    ∃ next, c.Leads m before next ∧ c.Leads next after target := by
  induction before generalizing m with
  | nil => exact ⟨m, .refl m, h⟩
  | cons name names ih =>
      cases h with
      | step hrelation hget hrest =>
          obtain ⟨next, hnames, hafter⟩ := ih hrest
          exact ⟨next, .step hrelation hget hnames, hafter⟩

theorem follow_eq_ok_iff :
    c.follow m name = .ok next ↔
      ∃ relation, m.relation? name = some relation ∧ c.get? relation.target = some next := by
  unfold follow related?
  cases m.relation? name with
  | none => simp
  | some relation => cases hget : c.get? relation.target <;> simp [hget]

theorem follow_eq_error_iff {e : UnknownRelation} :
    c.follow m name = .error e ↔ c.Misses m name ∧ e = ⟨m.name, name⟩ := by
  unfold follow related? Misses
  cases m.relation? name with
  | none => simp [eq_comm]
  | some relation => cases hget : c.get? relation.target <;> simp [hget, eq_comm]

theorem followAll_eq_ok_iff {names : List String} :
    c.followAll m names = .ok target ↔ c.Leads m names target := by
  induction names generalizing m with
  | nil =>
      constructor
      · rintro ⟨⟩
        exact .refl _
      · rintro ⟨⟩
        rfl
  | cons name names ih =>
      rw [followAll]
      constructor
      · intro h
        split at h
        · cases h
        · rename_i next hfollow
          obtain ⟨relation, hrelation, hget⟩ := follow_eq_ok_iff.mp hfollow
          exact .step hrelation hget (ih.mp h)
      · intro h
        cases h with
        | step hrelation hget hrest =>
            rw [follow_eq_ok_iff.mpr ⟨_, hrelation, hget⟩]
            exact ih.mpr hrest

theorem followAll_eq_error_iff {names : List String} {e : UnknownRelation} :
    c.followAll m names = .error e ↔
      ∃ before name after last, names = before ++ name :: after ∧ c.Leads m before last ∧
        c.Misses last name ∧ e = ⟨last.name, name⟩ := by
  induction names generalizing m with
  | nil => simp [followAll]
  | cons head names ih =>
      rw [followAll]
      constructor
      · intro h
        split at h
        · rename_i err hfollow
          cases h
          obtain ⟨hmisses, rfl⟩ := follow_eq_error_iff.mp hfollow
          exact ⟨[], head, names, m, rfl, .refl m, hmisses, rfl⟩
        · rename_i next hfollow
          obtain ⟨relation, hrelation, hget⟩ := follow_eq_ok_iff.mp hfollow
          obtain ⟨before, name, after, last, rfl, hleads, hmisses, rfl⟩ := ih.mp h
          exact ⟨head :: before, name, after, last, rfl, .step hrelation hget hleads, hmisses, rfl⟩
      · rintro ⟨before, name, after, last, hnames, hleads, hmisses, rfl⟩
        cases hleads with
        | refl =>
            obtain ⟨rfl, rfl⟩ := List.cons.inj hnames
            rw [follow_eq_error_iff.mpr ⟨hmisses, rfl⟩]
        | step hrelation hget hrest =>
            obtain ⟨rfl, rfl⟩ := List.cons.inj hnames
            rw [follow_eq_ok_iff.mpr ⟨_, hrelation, hget⟩]
            exact ih.mpr ⟨_, name, after, last, rfl, hrest, hmisses, rfl⟩

end Catalog

/-- A condition inside existence conditions on relations, the first of them outermost. -/
inductive Predicate.Nests (inner : Predicate) : List String → Predicate → Prop
  | refl : Nests inner [] inner
  | related {name names p} : Nests inner names p → Nests inner (name :: names) (.related name p)

namespace FieldPath

variable {c : Catalog} {root : Model} {path : String}

/-- The relations with dots between them, and behind them where there are any, and the column. -/
def spelling (p : FieldPath) : String :=
  (if p.relations = [] then "" else String.intercalate "." p.relations ++ ".") ++ p.column

theorem spelling_eq_intercalate (p : FieldPath) :
    p.spelling = String.intercalate "." (p.relations ++ [p.column]) := by
  unfold spelling
  split
  · rename_i hnil
    simp [hnil]
  · rename_i hne
    rw [String.intercalate_append_of_ne_nil hne (by simp), String.intercalate_singleton]

theorem hasParts_iff_spelling {p : FieldPath} :
    Text.HasParts '.' path (p.relations ++ [p.column]) ↔
      (∀ segment ∈ p.relations ++ [p.column], '.' ∉ segment.toList) ∧ p.spelling = path := by
  rw [spelling_eq_intercalate]
  constructor
  · rintro ⟨-, hdots, hjoined⟩
    exact ⟨hdots, hjoined⟩
  · rintro ⟨hdots, hjoined⟩
    exact ⟨by simp, hdots, hjoined⟩

theorem nests_iff_wrap_eq {p : FieldPath} {inner q : Predicate} :
    inner.Nests p.relations q ↔ p.wrap inner = q := by
  unfold wrap
  induction p.relations generalizing q with
  | nil =>
      constructor
      · rintro ⟨⟩
        rfl
      · rintro rfl
        exact .refl
  | cons name names ih =>
      constructor
      · rintro (_ | hnests)
        rw [List.foldr_cons, ih.mp hnests]
      · rintro rfl
        exact .related (ih.mpr rfl)

theorem resolve_eq_error_iff {e : UnknownRelation} :
    resolve c root path = .error e ↔
      c.followAll root (Text.split '.' path).dropLast = .error e := by
  rw [resolve]
  split <;> simp_all

/-- A path is resolved exactly to the relations and the column that spell it, if each relation can
be followed from the model that those before it lead to. A condition on the column is nested in
just these relations. Otherwise the error names the first segment, the last one apart, that cannot
be followed, and the model that it was looked up on. -/
theorem resolve_iff_leads (c : Catalog) (root : Model) (path : String) :
    (∀ p, resolve c root path = .ok p ↔
      (∀ segment ∈ p.relations ++ [p.column], '.' ∉ segment.toList) ∧ p.spelling = path ∧
        c.Leads root p.relations p.model) ∧
    (∀ p, resolve c root path = .ok p →
      (∀ before name after, p.relations = before ++ name :: after →
        ∃ m relation, c.Leads root before m ∧ m.relation? name = some relation) ∧
      ∀ inner q, p.wrap inner = q ↔ inner.Nests p.relations q) ∧
    ∀ e, resolve c root path = .error e ↔
      ∃ before name after m, Text.HasParts '.' path (before ++ name :: after) ∧ after ≠ [] ∧
        c.Leads root before m ∧ c.Misses m name ∧ e = ⟨m.name, name⟩ := by
  refine ⟨fun p => ?_, fun p hp => ⟨?_, fun inner q => nests_iff_wrap_eq.symm⟩, fun e => ?_⟩
  · rw [resolve_eq_ok_iff, Text.split_eq_iff, hasParts_iff_spelling, Catalog.followAll_eq_ok_iff,
      and_assoc]
  · intro before name after hrelations
    have hleads := Catalog.followAll_eq_ok_iff.mp (resolve_eq_ok_iff.mp hp).2
    rw [hrelations] at hleads
    obtain ⟨m, hbefore, hafter⟩ := hleads.exists_between
    cases hafter with
    | step hrelation _ _ => exact ⟨m, _, hbefore, hrelation⟩
  · rw [resolve_eq_error_iff, Catalog.followAll_eq_error_iff]
    constructor
    · rintro ⟨before, name, after, m, hsplit, hleads, hmisses, rfl⟩
      have hne := Text.split_ne_nil '.' path
      refine ⟨before, name, after ++ [(Text.split '.' path).getLast hne], m,
        Text.split_eq_iff.mp ?_, by simp, hleads, hmisses, rfl⟩
      rw [← List.cons_append, ← List.append_assoc, ← hsplit, List.dropLast_concat_getLast]
    · rintro ⟨before, name, after, m, hparts, hafter, hleads, hmisses, rfl⟩
      refine ⟨before, name, after.dropLast, m, ?_, hleads, hmisses, rfl⟩
      rw [Text.split_eq_iff.mpr hparts, List.dropLast_append_of_ne_nil (by simp),
        List.dropLast_cons_of_ne_nil hafter]

theorem resolve_iff_leads_replies :
    let c := Source.posts.catalog
    let posts := Source.posts.model
    let p : FieldPath := ⟨["replies", "replies"], posts, "title"⟩
    let e : UnknownRelation := ⟨"users", "replies"⟩
    (resolve c posts "replies.replies.title" = .ok p ∧ p.spelling = "replies.replies.title" ∧
      c.Leads posts ["replies", "replies"] posts ∧
      (∃ m relation, c.Leads posts ["replies"] m ∧ m.relation? "replies" = some relation) ∧
      (Predicate.null "title" false).Nests ["replies", "replies"]
        (.related "replies" (.related "replies" (.null "title" false)))) ∧
    resolve c posts "author.replies.id" = .error e ∧
    ∃ before name after m, Text.HasParts '.' "author.replies.id" (before ++ name :: after) ∧
      after ≠ [] ∧ c.Leads posts before m ∧ c.Misses m name ∧ e = ⟨m.name, name⟩ := by
  intro c posts p e
  have hok : resolve c posts "replies.replies.title" = .ok p := by decide +kernel
  have herror : resolve c posts "author.replies.id" = .error e := by decide +kernel
  obtain ⟨-, hspelling, hleads⟩ := ((resolve_iff_leads c posts _).1 p).mp hok
  obtain ⟨hdeclared, hnests⟩ := (resolve_iff_leads c posts _).2.1 p hok
  exact ⟨⟨hok, hspelling, hleads, hdeclared ["replies"] "replies" [] rfl, (hnests _ _).mp rfl⟩,
    herror, ((resolve_iff_leads c posts _).2.2 e).mp herror⟩

end FieldPath

end RequestQuery
