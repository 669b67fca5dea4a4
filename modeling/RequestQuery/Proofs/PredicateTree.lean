import Mathlib.Data.List.Basic
import RequestQuery.FieldPath

namespace RequestQuery.Predicate

@[induction_eliminator]
theorem treeInduction {motive : Predicate → Prop}
    (compare : ∀ column op value, motive (.compare column op value))
    (pattern : ∀ column op text caseInsensitive,
      motive (.pattern column op text caseInsensitive))
    (member : ∀ column values negated, motive (.member column values negated))
    (between : ∀ column low high negated, motive (.between column low high negated))
    (null : ∀ column negated, motive (.null column negated))
    (related : ∀ relation inner, motive inner → motive (.related relation inner))
    (group : ∀ connective members, (∀ p ∈ members, motive p) →
      motive (.group connective members)) : ∀ p, motive p
  | .compare column op value => compare column op value
  | .pattern column op text caseInsensitive => pattern column op text caseInsensitive
  | .member column values negated => member column values negated
  | .between column low high negated => between column low high negated
  | .null column negated => null column negated
  | .related relation inner =>
      related relation inner
        (treeInduction compare pattern member between null related group inner)
  | .group connective members =>
      group connective members fun p _ =>
        treeInduction compare pattern member between null related group p

/-- The column that a leaf is about. -/
def column? : Predicate → Option String
  | compare column .. | pattern column .. | member column .. | between column .. | null column _ =>
    some column
  | related .. | group .. => none

mutual

/-- Every node of the tree has a property. -/
def Every (P : Predicate → Prop) : Predicate → Prop
  | related relation inner => P (related relation inner) ∧ inner.Every P
  | group connective members => P (group connective members) ∧ EveryOf P members
  | p => P p

def EveryOf (P : Predicate → Prop) : List Predicate → Prop
  | [] => True
  | p :: rest => p.Every P ∧ EveryOf P rest

end

theorem everyOf_iff {P : Predicate → Prop} {members : List Predicate} :
    EveryOf P members ↔ ∀ p ∈ members, p.Every P := by
  induction members with
  | nil => simp [EveryOf]
  | cons p rest ih => simp [EveryOf, ih]

theorem every_group {P : Predicate → Prop} {connective : Connective} {members : List Predicate} :
    (group connective members).Every P ↔
      P (group connective members) ∧ ∀ p ∈ members, p.Every P := by
  rw [Every, everyOf_iff]

theorem every_of_column? {P : Predicate → Prop} {p : Predicate} {column : String}
    (hcolumn : p.column? = some column) (h : P p) : p.Every P := by
  cases p with
  | related | group => cases hcolumn
  | _ => exact h

theorem every_foldr_related {P : Predicate → Prop} {relations : List String} {inner : Predicate}
    (hrelations : ∀ relation ∈ relations, ∀ p, P (related relation p)) (h : inner.Every P) :
    (relations.foldr related inner).Every P := by
  induction relations with
  | nil => exact h
  | cons relation rest ih =>
      rw [List.forall_mem_cons] at hrelations
      exact ⟨hrelations.1 _, ih hrelations.2⟩

/-- What is left of a join has a property once all members have it and groups get it from their
members. Only two members or more make a group. -/
theorem forall_join_of_two_le {P : Predicate → Prop} {connective : Connective}
    {members : List Predicate}
    (hgroup : 2 ≤ members.length → (∀ p ∈ members, P p) → P (group connective members))
    (h : ∀ p ∈ members, P p) : ∀ p ∈ join connective members, P p := by
  match members with
  | [] => simp [join]
  | [p] => simpa [join] using h
  | p :: q :: rest => simpa [join] using hgroup (by simp) h

theorem exists_join_eq_some (connective : Connective) {members : List Predicate}
    (h : members ≠ []) : ∃ p, join connective members = some p := by
  match members with
  | [] => exact absurd rfl h
  | [p] => exact ⟨p, rfl⟩
  | _ :: _ :: _ => exact ⟨_, rfl⟩

theorem forall_join {P : Predicate → Prop} {connective : Connective} {members : List Predicate}
    (hgroup : (∀ p ∈ members, P p) → P (group connective members)) (h : ∀ p ∈ members, P p) :
    ∀ p ∈ join connective members, P p :=
  forall_join_of_two_le (fun _ => hgroup) h

end RequestQuery.Predicate
