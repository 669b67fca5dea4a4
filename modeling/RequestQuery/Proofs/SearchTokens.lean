import RequestQuery.Proofs.SearchTerms

namespace RequestQuery.Search

open Text

/-- A text and its tokens, read from left to right. A double quote that is closed later on begins a
phrase, which reaches up to the next double quote; any other character but white space begins a run,
which reaches up to white space. -/
inductive FallsInto : List Char → List (List Char) → Prop
  | nil : FallsInto [] []
  | blank {c rest ts} : isBlank c = true → FallsInto rest ts → FallsInto (c :: rest) ts
  | phrase {inner rest ts} : '"' ∉ inner → FallsInto rest ts →
      FallsInto ('"' :: (inner ++ '"' :: rest)) (inner :: ts)
  | run {c cs rest ts} : (∀ d ∈ c :: cs, isBlank d = false) → (∀ d ∈ rest.head?, isBlank d = true) →
      (c = '"' → '"' ∉ cs ++ rest) → FallsInto rest ts →
      FallsInto (c :: (cs ++ rest)) ((c :: cs) :: ts)

theorem tokens_eq_of_fallsInto {s : List Char} {ts : List (List Char)} (h : FallsInto s ts) :
    tokens s = ts := by
  induction h with
  | nil => exact tokens_nil
  | blank hc _ ih => rw [tokens_cons_of_isBlank hc, ih]
  | phrase hinner _ ih => rw [tokens_cons_of_not_isBlank rfl, firstToken_phrase hinner, ih]
  | run hrun hrest hopen _ ih =>
      rw [List.forall_mem_cons] at hrun
      rw [tokens_cons_of_not_isBlank hrun.1, firstToken_run hrun.2 hrest hopen, ih]

theorem fallsInto_tokens (s : List Char) : FallsInto s (tokens s) := by
  fun_induction tokens s with
  | case1 => exact .nil
  | case2 c rest hblank ih => exact .blank hblank ih
  | case3 c rest hblank ih =>
      rw [Bool.not_eq_true] at hblank
      rcases firstToken_cases c rest with ⟨inner, after, rfl, hinner, rfl⟩ | hopen
      · rw [firstToken_phrase hinner] at ih ⊢
        exact .phrase hinner ih
      · rw [firstToken_eq_run hopen] at ih ⊢
        have hsplit := List.takeWhile_append_dropWhile (p := (!isBlank ·)) (l := rest)
        have hrest : ∀ d ∈ (rest.dropWhile (!isBlank ·)).head?, isBlank d = true := by
          intro d hd
          have hhead := List.head?_dropWhile_not (!isBlank ·) rest
          rw [hd] at hhead
          simpa using hhead
        rw [← hsplit] at hopen
        have hrun : ∀ d ∈ c :: rest.takeWhile (!isBlank ·), isBlank d = false := by
          refine List.forall_mem_cons.mpr ⟨hblank, fun d hd => ?_⟩
          simpa using List.mem_takeWhile_imp hd
        have hfalls := FallsInto.run hrun hrest hopen ih
        rwa [hsplit] at hfalls

theorem fallsInto_iff {s : List Char} {ts : List (List Char)} :
    FallsInto s ts ↔ ts = tokens s := by
  constructor
  · exact fun h => (tokens_eq_of_fallsInto h).symm
  · rintro rfl
    exact fallsInto_tokens s

/-- A search text falls into tokens in one way. It is refused for the first token that comes to an
empty or too short term, listed or not, however many stand before it. Otherwise its terms are those
of the tokens that are not listed, as many from the front as are wanted, and white space stands in
them as single spaces between words only. -/
theorem exists_fallsInto_terms_iff (settings : SearchSettings) (raw : String) :
    ∃ ts, (∀ us, FallsInto (collapse (foldText settings.caseSensitive raw.toList)) us ↔ us = ts) ∧
      (∀ e, terms settings raw = .error e ↔
        ∃ before token after, ts = before ++ token :: after ∧
          (∀ t ∈ before, IsLongEnough settings (trimToken t)) ∧
          fault? settings (trimToken token) = some e) ∧
      (∀ found, terms settings raw = .ok found ↔
        (∀ t ∈ ts, IsLongEnough settings (trimToken t)) ∧
          found = (((ts.map trimToken).filter fun t => ∀ word ∈ settings.blacklist,
            foldText false word.toList ≠ foldText false t).map String.ofList).take
              settings.maxTerms) ∧
      ∀ found, terms settings raw = .ok found → ∀ term ∈ found,
        IsTidy term.toList ∧ IsLongEnough settings term.toList ∧
          ∀ word ∈ settings.blacklist,
            foldText false word.toList ≠ foldText false term.toList := by
  refine ⟨tokens (collapse (foldText settings.caseSensitive raw.toList)),
    fun us => fallsInto_iff, fun e => ?_, fun found => ?_, fun found h term hterm => ?_⟩
  · rw [terms, map_eq_error_iff, collect_eq_error_iff]
  · have hlisted (t : List Char) :
        decide (∀ word ∈ settings.blacklist, foldText false word.toList ≠ foldText false t) =
          !isListed settings.blacklist t := by
      rw [Bool.eq_iff_iff, decide_eq_true_iff, ← isListed_eq_false_iff, Bool.not_eq_true']
    simp only [terms, map_eq_ok_iff, collect_eq_ok_iff, hlisted]
    constructor
    · rintro ⟨all, ⟨hlong, rfl⟩, rfl⟩
      exact ⟨hlong, rfl⟩
    · rintro ⟨hlong, rfl⟩
      exact ⟨_, ⟨hlong, rfl⟩, rfl⟩
  · obtain ⟨hshape, -, hlong, hlisted⟩ := isTerm_of_terms h term hterm
    exact ⟨hshape.toIsTidy, hlong, isListed_eq_false_iff.mp hlisted⟩

theorem exists_fallsInto_terms_iff_listed :
    let settings : SearchSettings := ⟨2, 1, ["Thé"], .and, false⟩
    terms settings "the \"Foo  Bar\"" = .ok ["foo bar"] ∧
      (IsTidy "foo bar".toList ∧ IsLongEnough settings "foo bar".toList ∧
        ∀ word ∈ settings.blacklist, foldText false word.toList ≠ foldText false "foo bar".toList) ∧
      terms settings "né \"Foo  Bar\" 'x'" = .error (.tooShort "x" 2) := by
  intro settings
  obtain ⟨-, -, -, -, hterms⟩ := exists_fallsInto_terms_iff settings "the \"Foo  Bar\""
  have h : terms settings "the \"Foo  Bar\"" = .ok ["foo bar"] := by decide +kernel
  exact ⟨h, hterms _ h "foo bar" (by simp), by decide +kernel⟩

end RequestQuery.Search
