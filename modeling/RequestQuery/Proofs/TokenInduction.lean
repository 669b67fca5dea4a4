import RequestQuery.Proofs.PredicateTree
import RequestQuery.Proofs.Traversal

namespace RequestQuery

open Statement

namespace Predicate

section

variable {catalog : Catalog} {motive : Model → String → Nat → Predicate → List Token → Prop}

/-- The cases are those of the predicate, with empty lists and empty groups apart. Inside a subquery
the model, the scope and the depth are those of the related rows. -/
theorem tokens_induction {m : Model} {scope : String} {depth : Nat} {p : Predicate}
    {ts : List Token} (h : p.tokens catalog m scope depth = .ok ts)
    (compare : ∀ m scope depth name op value, motive m scope depth (.compare name op value)
      (column scope name ++ [.word op.token, bind value]))
    (pattern : ∀ m scope depth name op text caseInsensitive,
      motive m scope depth (.pattern name op text caseInsensitive)
        (patternTokens scope name op text caseInsensitive))
    (memberNone : ∀ m scope depth name negated, motive m scope depth (.member name [] negated)
      (constant negated))
    (member : ∀ m scope depth name values negated, values ≠ [] →
      motive m scope depth (.member name values negated)
        (column scope name ++
          [.word (if negated then StoreOperator.notIn else .isIn).token, .openParen] ++
          separated .comma (values.map fun v => [bind v]) ++ [.closeParen]))
    (between : ∀ m scope depth name low high negated,
      motive m scope depth (.between name low high negated)
        (column scope name ++
          [.word (if negated then StoreOperator.notBetween else .between).token, bind low,
            .word "AND", bind high]))
    (null : ∀ m scope depth name negated, motive m scope depth (.null name negated)
      (column scope name ++
        [.word (if negated then StoreOperator.isNotNull else .isNull).token]))
    (related : ∀ m scope depth relation inner r target ts,
      catalog.related? m relation = some (r, target) →
      motive target (aliasFor relation (depth + 1)) (depth + 1) inner ts →
      motive m scope depth (.related relation inner)
        (existsTokens scope (aliasFor relation (depth + 1)) r target ts))
    (groupNone : ∀ m scope depth c, motive m scope depth (.group c []) (constant (c == .and)))
    (group : ∀ m scope depth c members parts, members ≠ [] →
      List.Forall₂ (motive m scope depth) members parts →
      motive m scope depth (.group c members)
        (.openParen :: separated (.word c.keyword) parts ++ [.closeParen])) :
    motive m scope depth p ts := by
  induction p generalizing m scope depth ts with
  | compare name op value =>
      cases h
      exact compare m scope depth name op value
  | pattern name op text caseInsensitive =>
      cases h
      exact pattern m scope depth name op text caseInsensitive
  | member name values negated =>
      cases values with
      | nil =>
          cases h
          exact memberNone m scope depth name negated
      | cons v vs =>
          cases h
          exact member m scope depth name (v :: vs) negated (by simp)
  | between name low high negated =>
      cases h
      exact between m scope depth name low high negated
  | null name negated =>
      cases h
      exact null m scope depth name negated
  | related relation inner ih =>
      rw [tokens] at h
      split at h
      · cases h
      · rename_i r target hrelated
        obtain ⟨inside, hinside, rfl⟩ := map_eq_ok_iff.mp h
        exact related m scope depth relation inner r target inside hrelated (ih hinside)
  | group c members ih =>
      cases members with
      | nil =>
          cases h
          exact groupNone m scope depth c
      | cons p rest =>
          rw [tokens, memberTokens_eq_mapM] at h
          obtain ⟨parts, hparts, rfl⟩ := map_eq_ok_iff.mp h
          refine group m scope depth c (p :: rest) parts (by simp) ?_
          apply forall₂_of_forall_mem (mapM_eq_ok_iff.mp hparts)
          intro q hq ts hts
          exact ih q hq hts

end

end Predicate

namespace Query

theorem joinedTokens_induction {source : Source}
    {motive : List (Connective × Predicate) → List Token → Prop}
    {conditions : List (Connective × Predicate)} {ts : List Token}
    (h : joinedTokens source conditions = .ok ts) (nil : motive [] [])
    (cons : ∀ c p rest ts more, p.tokens source.catalog source.model source.model.table 0 = .ok ts →
      motive rest more → motive ((c, p) :: rest) (.word c.keyword :: ts ++ more)) :
    motive conditions ts := by
  induction conditions generalizing ts with
  | nil =>
      cases h
      exact nil
  | cons head rest ih =>
      obtain ⟨c, p⟩ := head
      rw [joinedTokens] at h
      split at h
      · cases h
      · rename_i ts hts
        obtain ⟨more, hmore, rfl⟩ := map_eq_ok_iff.mp h
        exact cons c p rest ts more hts (ih hmore)

end Query

end RequestQuery
