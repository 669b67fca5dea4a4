import Mathlib.Data.List.Forall2
import RequestQuery.Filter.Evaluation
import RequestQuery.Proofs.StatementTokens

/-!
Lists that are read or written item by item, up to the first error. All of them are `List.mapM`, so
that one lemma tells what a successful traversal gives.
-/
namespace RequestQuery

variable {α β ε : Type}

theorem map_eq_ok_iff {f : α → β} {x : Except ε α} {b : β} :
    x.map f = .ok b ↔ ∃ a, x = .ok a ∧ f a = b := by
  cases x <;> simp [Except.map]

theorem map_eq_error_iff {f : α → β} {x : Except ε α} {e : ε} :
    x.map f = .error e ↔ x = .error e := by
  cases x <;> simp [Except.map]

theorem exists_map_eq_ok_iff {f : α → β} {x : Except ε α} :
    (∃ b, x.map f = .ok b) ↔ ∃ a, x = .ok a := by
  cases x <;> simp [Except.map]

theorem map_eq_bind (f : α → β) (x : Except ε α) : x.map f = x >>= fun a => pure (f a) := by
  cases x <;> rfl

theorem map_map_of_comm {α' β' : Type} {f : α → β} {v : β → β'} (u : α → α') (g : α' → β')
    (hcomm : ∀ a, v (f a) = g (u a)) (x : Except ε α) : (x.map f).map v = (x.map u).map g := by
  cases x <;> simp [Except.map, hcomm]

theorem mapM_cons_eq_match (f : α → Except ε β) (a : α) (rest : List α) :
    (a :: rest).mapM f =
      match f a with
      | .error e => .error e
      | .ok b => (rest.mapM f).map fun bs => b :: bs := by
  rw [List.mapM_cons]
  cases f a with
  | error e => rfl
  | ok b => cases rest.mapM f <;> rfl

theorem mapM_eq_ok_iff {f : α → Except ε β} {as : List α} {bs : List β} :
    as.mapM f = .ok bs ↔ List.Forall₂ (fun a b => f a = .ok b) as bs := by
  induction as generalizing bs with
  | nil =>
      cases bs <;> simp [pure, Except.pure]
  | cons a rest ih =>
      rw [mapM_cons_eq_match]
      cases ha : f a with
      | error e => cases bs <;> simp [ha]
      | ok b =>
          simp only [map_eq_ok_iff, ih]
          constructor
          · rintro ⟨bs, hrest, rfl⟩
            exact .cons ha hrest
          · intro h
            cases h with
            | cons hhead hrest =>
                rw [ha] at hhead
                cases hhead
                exact ⟨_, hrest, rfl⟩

theorem exists_mapM_eq_ok_iff {f : α → Except ε β} {as : List α} :
    (∃ bs, as.mapM f = .ok bs) ↔ ∀ a ∈ as, ∃ b, f a = .ok b := by
  induction as with
  | nil => simp [pure, Except.pure]
  | cons a rest ih =>
      rw [mapM_cons_eq_match, List.forall_mem_cons, ← ih]
      cases ha : f a with
      | error e => simp
      | ok b => simp [map_eq_ok_iff]

theorem map_mapM_congr {γ : Type} {f g : α → Except ε β} {u : β → γ} {as : List α}
    (h : ∀ a ∈ as, (f a).map u = (g a).map u) :
    (as.mapM f).map (List.map u) = (as.mapM g).map (List.map u) := by
  induction as with
  | nil => rfl
  | cons a rest ih =>
      rw [List.forall_mem_cons] at h
      have hrest := ih h.2
      have hhead := h.1
      rw [mapM_cons_eq_match, mapM_cons_eq_match]
      cases hf : f a with
      | error e =>
          rw [hf] at hhead
          cases hg : g a with
          | error e' => simpa [hg, Except.map] using hhead
          | ok b => simp [hg, Except.map] at hhead
      | ok b =>
          rw [hf] at hhead
          cases hg : g a with
          | error e => simp [hg, Except.map] at hhead
          | ok b' =>
              have hb : u b = u b' := by simpa [hg, Except.map] using hhead
              have hcons (c : β) (bs : List β) : (c :: bs).map u = u c :: bs.map u := rfl
              rw [map_map_of_comm _ _ (hcons b), map_map_of_comm _ _ (hcons b'), hrest, hb]

theorem mapM_eq_map_mapM {γ : Type} {f : α → Except ε β} {g : α → Except ε γ} {u : β → γ}
    {as : List α} (h : ∀ a ∈ as, g a = (f a).map u) : as.mapM g = (as.mapM f).map (List.map u) := by
  induction as with
  | nil => rfl
  | cons a rest ih =>
      rw [List.forall_mem_cons] at h
      rw [mapM_cons_eq_match, mapM_cons_eq_match, h.1, ih h.2]
      cases f a with
      | error e => rfl
      | ok b => cases rest.mapM f <;> rfl

theorem foldlM_eq_error_iff {f : β → α → Except ε β} {as : List α} {b : β} {err : ε} :
    as.foldlM f b = .error err ↔
      ∃ done a rest reached, as = done ++ a :: rest ∧ done.foldlM f b = .ok reached ∧
        f reached a = .error err := by
  induction as generalizing b with
  | nil => simp [pure, Except.pure]
  | cons a rest ih =>
      rw [List.foldlM_cons]
      constructor
      · intro h
        cases ha : f b a with
        | error e =>
            rw [ha] at h
            cases h
            exact ⟨[], a, rest, b, rfl, rfl, ha⟩
        | ok next =>
            rw [ha] at h
            obtain ⟨done, failing, later, reached, rfl, hdone, hfailing⟩ := ih.mp h
            refine ⟨a :: done, failing, later, reached, rfl, ?_, hfailing⟩
            rw [List.foldlM_cons, ha]
            exact hdone
      · rintro ⟨done, failing, later, reached, hsplit, hdone, hfailing⟩
        cases done with
        | nil =>
            cases hdone
            cases hsplit
            rw [hfailing]
            rfl
        | cons head done =>
            obtain ⟨rfl, rfl⟩ := List.cons.inj hsplit
            rw [List.foldlM_cons] at hdone
            cases ha : f b a with
            | error e =>
                rw [ha] at hdone
                cases hdone
            | ok next =>
                rw [ha] at hdone
                exact ih.mpr ⟨done, failing, later, reached, rfl, hdone, hfailing⟩

theorem exists_of_mem_traversal {R : α → β → Prop} {as : List α} {bs : List β}
    (h : List.Forall₂ R as bs) {b : β} (hb : b ∈ bs) : ∃ a ∈ as, R a b := by
  induction h with
  | nil => simp at hb
  | cons hhead _ ih =>
      rcases List.mem_cons.mp hb with rfl | hb
      · exact ⟨_, by simp, hhead⟩
      · obtain ⟨a, ha, hab⟩ := ih hb
        exact ⟨a, by simp [ha], hab⟩

theorem forall₂_of_forall_mem {R S : α → β → Prop} {as : List α} {bs : List β}
    (h : List.Forall₂ R as bs) (hmem : ∀ a ∈ as, ∀ b, R a b → S a b) : List.Forall₂ S as bs := by
  have hboth := (List.forall₂_and_left _ _).mpr ⟨hmem, h⟩
  apply hboth.imp
  rintro a b ⟨himp, hab⟩
  exact himp b hab

theorem OperatorSite.castAll_eq_mapM (site : OperatorSite) (rule : Option CastRule)
    (vs : List Json.Value) : site.castAll rule vs = vs.mapM (site.cast rule) := by
  induction vs with
  | nil => rfl
  | cons v rest ih =>
      rw [mapM_cons_eq_match, castAll, ih]
      cases site.cast rule v <;> rfl

namespace FilterContext

theorem applyOperators_eq_mapM (ctx : FilterContext) (m : Model) (column path : String)
    (entries : List (String × Json.Value)) :
    ctx.applyOperators m column path entries =
      entries.mapM fun e => ctx.applyOperator m column e.1 e.2 path := by
  induction entries with
  | nil => rfl
  | cons e rest ih =>
      rw [mapM_cons_eq_match, ← ih, applyOperators]
      cases ctx.applyOperator m column e.1 e.2 path <;> rfl

theorem evalNodes_eq_mapM (ctx : FilterContext) (depth : Nat) (nodes : List FilterNode) :
    ctx.evalNodes depth nodes =
      (nodes.mapM (ctx.evalNode depth)).map (List.flatMap Option.toList) := by
  induction nodes with
  | nil => rfl
  | cons n rest ih =>
      rw [mapM_cons_eq_match, evalNodes, ih]
      cases ctx.evalNode depth n with
      | error e => rfl
      | ok p => cases rest.mapM (ctx.evalNode depth) <;> rfl

theorem evalGroups_eq_mapM (ctx : FilterContext) (depth : Nat) (groups : List FilterGroup) :
    ctx.evalGroups depth groups =
      (groups.mapM (ctx.evalGroup depth)).map (List.flatMap Option.toList) := by
  induction groups with
  | nil => rfl
  | cons g rest ih =>
      rw [mapM_cons_eq_match, evalGroups, ih]
      cases ctx.evalGroup depth g with
      | error e => rfl
      | ok p => cases rest.mapM (ctx.evalGroup depth) <;> rfl

end FilterContext

namespace Predicate

theorem memberTokens_eq_mapM (catalog : Catalog) (m : Model) (scope : String) (depth : Nat)
    (members : List Predicate) :
    memberTokens catalog m scope depth members =
      members.mapM (tokens catalog m scope depth) := by
  induction members with
  | nil => rfl
  | cons p rest ih =>
      rw [mapM_cons_eq_match, memberTokens, ih]
      cases tokens catalog m scope depth p <;> rfl

end Predicate

namespace Query

open Statement (Token)

/-- A condition after its connective. -/
def joinedPart (source : Source) (c : Connective × Predicate) :
    Except UnknownRelation (List Token) :=
  (c.2.tokens source.catalog source.model source.model.table 0).map (.word c.1.keyword :: ·)

theorem joinedTokens_eq_mapM (source : Source) (conditions : List (Connective × Predicate)) :
    joinedTokens source conditions =
      (conditions.mapM (joinedPart source)).map List.flatten := by
  induction conditions with
  | nil => rfl
  | cons head rest ih =>
      rw [mapM_cons_eq_match, joinedTokens, ih, joinedPart]
      cases head.2.tokens source.catalog source.model source.model.table 0 with
      | error e => rfl
      | ok ts => cases rest.mapM (joinedPart source) <;> rfl

end Query

end RequestQuery
