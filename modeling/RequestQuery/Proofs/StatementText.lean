import RequestQuery.Proofs.NamedSource
import RequestQuery.Proofs.PathSegments
import RequestQuery.Proofs.SpacedText
import RequestQuery.Proofs.StatementTokens

namespace RequestQuery

open Statement

namespace Text

theorem isNameList_append {s t : List Char} (hs : isNameList s = true)
    (ht : ∀ c ∈ t, isNamePart c = true) : isNameList (s ++ t) = true := by
  cases s with
  | nil => simp [isNameList] at hs
  | cons c rest =>
      simp only [List.cons_append, isNameList, Bool.and_eq_true, List.all_eq_true] at hs ⊢
      refine ⟨hs.1, fun d hd => ?_⟩
      rcases List.mem_append.mp hd with hd | hd
      · exact hs.2 d hd
      · exact ht d hd

theorem isNamePart_of_isDigit {c : Char} (h : c.isDigit = true) : isNamePart c = true := by
  simp [isNamePart, Char.isAlphanum, h]

end Text

namespace Statement

theorem toList_aliasFor (relation : String) (depth : Nat) :
    (aliasFor relation depth).toList = relation.toList ++ ('_' :: Nat.toDigits 10 depth) := by
  simp [aliasFor, String.toList_append]

theorem isIdentifier_aliasFor {relation : String} (h : Text.isIdentifier relation = true)
    (depth : Nat) : Text.isIdentifier (aliasFor relation depth) = true := by
  rw [Text.isIdentifier, toList_aliasFor]
  refine Text.isNameList_append h fun c hc => ?_
  rcases List.mem_cons.mp hc with rfl | hc
  · decide
  · exact Text.isNamePart_of_isDigit (Nat.isDigit_of_mem_toDigits (by decide) (by decide) hc)

/-- Whatever follows a word or a bound value sets it off. -/
def IsBoundary (rest : List Char) : Prop :=
  ∀ c ∈ rest.head?, c ∈ [' ', '.', ',', '(', ')']

theorem isBoundary_textAfter (n : Nat) (ts : List Token) : IsBoundary (textAfter false n ts) := by
  cases ts with
  | nil => simp [IsBoundary, textAfter]
  | cons t rest =>
      cases t <;> simp [IsBoundary, textAfter, Token.joinsLeft, Token.text]

theorem IsBoundary.isNamePart {rest : List Char} (h : IsBoundary rest) :
    ∀ c ∈ rest.head?, Text.isNamePart c = false := by
  intro c hc
  have hmem := h c hc
  simp only [List.mem_cons, List.not_mem_nil, or_false] at hmem
  rcases hmem with rfl | rfl | rfl | rfl | rfl <;> decide

theorem IsBoundary.isDigit {rest : List Char} (h : IsBoundary rest) :
    ∀ c ∈ rest.head?, c.isDigit = false := by
  intro c hc
  have hname := h.isNamePart c hc
  rw [← Bool.not_eq_true] at hname ⊢
  exact fun hdigit => hname (Text.isNamePart_of_isDigit hdigit)

end Statement

end RequestQuery
