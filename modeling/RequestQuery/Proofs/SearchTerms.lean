import RequestQuery.Proofs.FoldedText
import RequestQuery.Proofs.SpacedText
import RequestQuery.Proofs.Traversal

namespace RequestQuery.Search

open Text

theorem firstToken_phrase {inner : List Char} (h : '"' ∉ inner) (rest : List Char) :
    firstToken '"' (inner ++ '"' :: rest) = (inner, rest) := by
  rw [firstToken, splitOnce_append h]
  rfl

theorem firstToken_eq_run {c : Char} {rest : List Char} (h : c = '"' → '"' ∉ rest) :
    firstToken c rest = (c :: rest.takeWhile (!isBlank ·), rest.dropWhile (!isBlank ·)) := by
  unfold firstToken
  split
  · rename_i hc
    rw [splitOnce_eq_none_iff.mpr (h (beq_iff_eq.mp hc))]
    rfl
  · rfl

theorem firstToken_run {c : Char} {cs rest : List Char} (hrun : ∀ d ∈ cs, isBlank d = false)
    (hrest : ∀ d ∈ rest.head?, isBlank d = true) (h : c = '"' → '"' ∉ cs ++ rest) :
    firstToken c (cs ++ rest) = (c :: cs, rest) := by
  have hend : rest.takeWhile (!isBlank ·) = [] ∧ rest.dropWhile (!isBlank ·) = rest := by
    cases rest with
    | nil => simp
    | cons d more => simp [hrest d rfl]
  have hpass : ∀ d ∈ cs, (!isBlank d) = true := by simpa using hrun
  rw [firstToken_eq_run h, List.takeWhile_append_of_pos hpass, List.dropWhile_append_of_pos hpass,
    hend.1, hend.2, List.append_nil]

/-- The first token is a phrase between two double quotes, or else a run up to white space. -/
theorem firstToken_cases (c : Char) (rest : List Char) :
    (∃ inner after, c = '"' ∧ '"' ∉ inner ∧ rest = inner ++ '"' :: after) ∨
      (c = '"' → '"' ∉ rest) := by
  refine or_iff_not_imp_right.mpr fun h => ?_
  obtain ⟨hc, hmem⟩ := Classical.not_imp.mp h
  obtain ⟨inner, after, hrest, hinner⟩ := List.eq_append_cons_of_mem (not_not.mp hmem)
  exact ⟨inner, after, hc, hinner, hrest⟩

theorem firstToken_append (c : Char) (rest : List Char) :
    (firstToken c rest).1 <:+: c :: rest ∧ (firstToken c rest).2 <:+: c :: rest := by
  rcases firstToken_cases c rest with ⟨inner, after, rfl, hinner, rfl⟩ | hopen
  · rw [firstToken_phrase hinner]
    exact ⟨⟨['"'], '"' :: after, by simp⟩, ⟨'"' :: inner ++ ['"'], [], by simp⟩⟩
  · have hrun : (c :: rest.takeWhile (!isBlank ·)) ++ rest.dropWhile (!isBlank ·) = c :: rest := by
      rw [List.cons_append, List.takeWhile_append_dropWhile]
    rw [firstToken_eq_run hopen]
    exact ⟨⟨[], _, hrun⟩, ⟨_, [], by rw [List.append_nil]; exact hrun⟩⟩

theorem firstToken_shape {c : Char} (hc : isBlank c = false) (rest : List Char) :
    '"' ∉ (firstToken c rest).1 ∨ ∀ d ∈ (firstToken c rest).1, isBlank d = false := by
  rcases firstToken_cases c rest with ⟨inner, after, rfl, hinner, rfl⟩ | hopen
  · rw [firstToken_phrase hinner]
    exact .inl hinner
  · rw [firstToken_eq_run hopen]
    refine .inr (List.forall_mem_cons.mpr ⟨hc, fun d hd => ?_⟩)
    simpa using List.mem_takeWhile_imp hd

theorem tokens_nil : tokens [] = [] := by
  unfold tokens
  rfl

theorem tokens_cons_of_isBlank {c : Char} (h : isBlank c = true) (rest : List Char) :
    tokens (c :: rest) = tokens rest := by
  conv => lhs; unfold tokens
  exact if_pos h

theorem tokens_cons_of_not_isBlank {c : Char} (h : isBlank c = false) (rest : List Char) :
    tokens (c :: rest) = (firstToken c rest).1 :: tokens (firstToken c rest).2 := by
  conv => lhs; unfold tokens
  exact if_neg (by simp [h])

theorem isInfix_of_mem_tokens {s : List Char} : ∀ token ∈ tokens s, token <:+: s := by
  fun_induction tokens s with
  | case1 => simp
  | case2 c rest hblank ih =>
      intro token htoken
      exact (ih token htoken).trans (List.suffix_cons c rest).isInfix
  | case3 c rest hblank ih =>
      obtain ⟨hfirst, hrest⟩ := firstToken_append c rest
      exact List.forall_mem_cons.mpr ⟨hfirst, fun token htoken => (ih token htoken).trans hrest⟩

theorem shape_of_mem_tokens {s : List Char} :
    ∀ token ∈ tokens s, '"' ∉ token ∨ ∀ d ∈ token, isBlank d = false := by
  fun_induction tokens s with
  | case1 => simp
  | case2 c rest hblank ih => exact ih
  | case3 c rest hblank ih =>
      exact List.forall_mem_cons.mpr ⟨firstToken_shape (by simpa using hblank) rest, ih⟩

def isQuote (c : Char) : Bool :=
  c == '"' || c == '\''

/-- What can be written as a term: tidy, and without double quotes if it has a space. -/
structure IsTerm (t : List Char) : Prop extends IsTidy t where
  ne_nil : t ≠ []
  unquoted : '"' ∉ t ∨ ' ' ∉ t
  head_ne : ∀ c ∈ t.head?, c ≠ '"'
  last_ne : ∀ c ∈ t.getLast?, c ≠ '"'

theorem trimToken_isInfix (token : List Char) : trimToken token <:+: token :=
  (dropEnds_isInfix _ _).trans ((dropEnds_isInfix _ _).trans (dropEnds_isInfix _ _))

theorem trimToken_eq_self_iff {t : List Char} (h : IsTidy t) :
    trimToken t = t ↔ (∀ c ∈ t.head?, isQuote c = false) ∧ ∀ c ∈ t.getLast?, isQuote c = false := by
  rw [← dropEnds_eq_self_iff, trimToken, h.strip_eq]
  change strip (dropEnds isQuote t) = t ↔ _
  constructor
  · intro htrim
    have hinner : strip (dropEnds isQuote t) <:+: dropEnds isQuote t := dropEnds_isInfix _ _
    have houter : dropEnds isQuote t <:+: t := dropEnds_isInfix _ _
    rw [htrim] at hinner
    exact houter.eq_of_length (Nat.le_antisymm houter.length_le hinner.length_le)
  · intro hquotes
    rw [hquotes, h.strip_eq]

theorem isTerm_trimToken {token : List Char} (hspaced : IsSpaced token)
    (hshape : '"' ∉ token ∨ ∀ d ∈ token, isBlank d = false) (hne : trimToken token ≠ []) :
    IsTerm (trimToken token) := by
  have htidy : IsTidy (trimToken token) := isTidy_strip
    ((hspaced.of_isInfix (dropEnds_isInfix _ _)).of_isInfix (dropEnds_isInfix _ _))
  rcases hshape with hphrase | hrun
  · have hnone : '"' ∉ trimToken token := fun hmem =>
      hphrase ((trimToken_isInfix token).subset hmem)
    refine ⟨htidy, hne, .inl hnone, ?_, ?_⟩
    · rintro c hc rfl
      exact hnone (List.mem_of_mem_head? hc)
    · rintro c hc rfl
      exact hnone (List.mem_of_mem_getLast? hc)
  · -- Nothing but quotes is trimmed off a run.
    have hquotes : trimToken token = dropEnds isQuote token := by
      rw [trimToken, (isTidy_of_not_isBlank hrun).strip_eq]
      refine (isTidy_of_not_isBlank fun d hd => hrun d ?_).strip_eq
      exact (dropEnds_isInfix _ _).subset hd
    refine ⟨htidy, hne, .inr fun hmem => ?_, ?_, ?_⟩
    · have hblank := hrun ' ' ((trimToken_isInfix token).subset hmem)
      cases hblank
    · rw [hquotes]
      rintro c hc rfl
      cases head_dropEnds _ hc
    · rw [hquotes]
      rintro c hc rfl
      cases getLast_dropEnds _ hc

theorem isListed_eq_false_iff {blacklist : List String} {term : List Char} :
    isListed blacklist term = false ↔
      ∀ word ∈ blacklist, foldText false word.toList ≠ foldText false term := by
  simp [isListed]

/-- A term that is neither empty nor too short. -/
def IsLongEnough (settings : SearchSettings) (term : List Char) : Prop :=
  term ≠ [] ∧ settings.minTermLength ≤ term.length

/-- What is wrong with a term that is empty or too short. -/
def fault? (settings : SearchSettings) (term : List Char) : Option SearchError :=
  if term = [] then some .emptyTerm
  else if term.length < settings.minTermLength then
    some (.tooShort (String.ofList term) settings.minTermLength)
  else none

theorem fault?_eq_none_iff {settings : SearchSettings} {term : List Char} :
    fault? settings term = none ↔ IsLongEnough settings term := by
  unfold fault?
  split
  · rename_i hnil
    simp [IsLongEnough, hnil]
  · rename_i hne
    simp [IsLongEnough, hne]

theorem collect_cons (settings : SearchSettings) (token : List Char) (rest : List (List Char)) :
    collect settings (token :: rest) =
      match fault? settings (trimToken token) with
      | some e => .error e
      | none =>
        if isListed settings.blacklist (trimToken token) then collect settings rest
        else (collect settings rest).map fun found => String.ofList (trimToken token) :: found := by
  simp only [collect, fault?, List.isEmpty_iff]
  split
  · rfl
  · split
    · rfl
    · rfl

/-- The terms among the tokens are what is left of them when the listed ones are taken out, provided
that all of them, listed or not, are long enough. -/
theorem collect_eq_ok_iff {settings : SearchSettings} {ts : List (List Char)}
    {found : List String} :
    collect settings ts = .ok found ↔
      (∀ token ∈ ts, IsLongEnough settings (trimToken token)) ∧
        ((ts.map trimToken).filter (!isListed settings.blacklist ·)).map String.ofList = found := by
  induction ts generalizing found with
  | nil => simp [collect]
  | cons token rest ih =>
      rw [collect_cons, List.forall_mem_cons, List.map_cons, List.filter_cons,
        ← fault?_eq_none_iff]
      cases hfault : fault? settings (trimToken token) with
      | some e => simp
      | none =>
          cases hlisted : isListed settings.blacklist (trimToken token) with
          | true => simp [ih]
          | false =>
              simp only [Bool.false_eq_true, if_false, map_eq_ok_iff, ih, true_and,
                Bool.not_false, if_true, List.map_cons]
              constructor
              · rintro ⟨more, ⟨hrest, rfl⟩, rfl⟩
                exact ⟨hrest, rfl⟩
              · rintro ⟨hrest, rfl⟩
                exact ⟨_, ⟨hrest, rfl⟩, rfl⟩

theorem collect_eq_error_iff {settings : SearchSettings} {ts : List (List Char)} {e : SearchError} :
    collect settings ts = .error e ↔
      ∃ before token after, ts = before ++ token :: after ∧
        (∀ t ∈ before, IsLongEnough settings (trimToken t)) ∧
        fault? settings (trimToken token) = some e := by
  have hfirst : collect settings ts = .error e ↔
      ts.findSome? (fun t => fault? settings (trimToken t)) = some e := by
    induction ts with
    | nil => simp [collect]
    | cons token rest ih =>
        rw [collect_cons, List.findSome?_cons]
        cases fault? settings (trimToken token) with
        | some e' => simp
        | none =>
            cases isListed settings.blacklist (trimToken token) with
            | true => exact ih
            | false =>
                rw [← ih]
                exact map_eq_error_iff
  simp only [hfirst, List.findSome?_eq_some_iff, fault?_eq_none_iff, and_comm]

theorem collect_map_toList {settings : SearchSettings} {found : List String}
    (htrim : ∀ term ∈ found, trimToken term.toList = term.toList)
    (hfound : ∀ term ∈ found, IsLongEnough settings term.toList ∧
      isListed settings.blacklist term.toList = false) :
    collect settings (found.map String.toList) = .ok found := by
  have hmap : (found.map String.toList).map trimToken = found.map String.toList := by
    refine (List.map_congr_left ?_).trans (List.map_id _)
    rw [List.forall_mem_map]
    exact htrim
  rw [collect_eq_ok_iff, hmap, List.filter_eq_self.mpr, List.map_map]
  · refine ⟨?_, (List.map_congr_left fun term _ => String.ofList_toList).trans (List.map_id found)⟩
    rw [List.forall_mem_map]
    intro term hterm
    rw [htrim term hterm]
    exact (hfound term hterm).1
  · rw [List.forall_mem_map]
    exact fun term hterm => by rw [(hfound term hterm).2]; rfl

/-- A term as it stands in a search text. -/
def quoted (t : List Char) : List Char :=
  if ' ' ∈ t then '"' :: t ++ ['"'] else t

theorem toList_toQueryString (found : List String) :
    (toQueryString found).toList =
      List.intercalate [' '] ((found.map String.toList).map quoted) := by
  have hquote (t : String) : (quoteTerm t).toList = quoted t.toList := by
    rw [quoteTerm, quoted, String.contains_char_eq]
    split <;> simp_all
  rw [toQueryString, String.toList_intercalate, List.map_map, List.map_map]
  simp [Function.comp_def, hquote]

theorem tokens_quoted_append {t : List Char} (h : IsTerm t) {rest : List Char}
    (hrest : ∀ c ∈ rest.head?, isBlank c = true) :
    tokens (quoted t ++ rest) = t :: tokens rest := by
  by_cases hspace : ' ' ∈ t
  · have hnone : '"' ∉ t := h.unquoted.resolve_right (not_not_intro hspace)
    rw [quoted, if_pos hspace, List.cons_append, List.cons_append, List.append_assoc,
      List.singleton_append, tokens_cons_of_not_isBlank rfl, firstToken_phrase hnone]
  · have hrun : ∀ c ∈ t, isBlank c = false := by
      intro c hc
      rw [← Bool.not_eq_true]
      intro hblank
      rw [h.space c hc hblank] at hc
      exact hspace hc
    cases t with
    | nil => exact absurd rfl h.ne_nil
    | cons c cs =>
        rw [List.forall_mem_cons] at hrun
        rw [quoted, if_neg hspace, List.cons_append, tokens_cons_of_not_isBlank hrun.1,
          firstToken_run hrun.2 hrest fun hc => absurd hc (h.head_ne c rfl)]

theorem tokens_intercalate_quoted {ts : List (List Char)} (h : ∀ t ∈ ts, IsTerm t) :
    tokens (List.intercalate [' '] (ts.map quoted)) = ts := by
  induction ts with
  | nil => exact tokens_nil
  | cons t rest ih =>
      rw [List.forall_mem_cons] at h
      cases rest with
      | nil =>
          have htokens : tokens (quoted t ++ []) = t :: tokens [] :=
            tokens_quoted_append h.1 (by simp)
          rw [List.append_nil, tokens_nil] at htokens
          simpa using htokens
      | cons next more =>
          rw [List.map_cons, List.map_cons, List.intercalate_cons_cons, List.append_assoc,
            tokens_quoted_append h.1 (by rintro c ⟨⟩; rfl), List.singleton_append,
            tokens_cons_of_isBlank rfl]
          exact congrArg _ (ih h.2)

theorem isTidy_quoted {t : List Char} (h : IsTerm t) : IsTidy (quoted t) ∧ quoted t ≠ [] := by
  rw [quoted]
  split
  · have hmark : IsTidy ['"'] := isTidy_of_not_isBlank (List.forall_mem_singleton.mpr rfl)
    exact ⟨(hmark.append h.toIsTidy).append hmark, by simp⟩
  · exact ⟨h.toIsTidy, h.ne_nil⟩

theorem IsFoldedText.quoted {caseSensitive : Bool} {t : List Char}
    (h : IsFoldedText caseSensitive t) : IsFoldedText caseSensitive (quoted t) := by
  have hmark : '"'.toNat ∉ Case.capitals := by decide +kernel
  rw [Search.quoted]
  split
  · exact IsFoldedText.nil.append_cons (h.append_cons .nil (by decide) hmark) (by decide) hmark
  · exact h

theorem tokens_collapse_toQueryString {found : List String} (h : ∀ t ∈ found, IsTerm t.toList) :
    tokens (collapse (toQueryString found).toList) = found.map String.toList := by
  have hterms : ∀ t ∈ found.map String.toList, IsTerm t := by simpa using h
  have htidy : ∀ part ∈ (found.map String.toList).map quoted, IsTidy part ∧ part ≠ [] := by
    rw [List.forall_mem_map]
    exact fun t ht => isTidy_quoted (hterms t ht)
  rw [toList_toQueryString, (IsTidy.intercalate htidy).1.collapse_eq,
    tokens_intercalate_quoted hterms]

variable {settings : SearchSettings} {raw : String} {found : List String}

theorem terms_toQueryString_eq (hterms : ∀ t ∈ found, IsTerm t.toList)
    (hfold : foldText settings.caseSensitive (toQueryString found).toList =
      (toQueryString found).toList) :
    terms settings (toQueryString found) =
      (collect settings (found.map String.toList)).map fun all => all.take settings.maxTerms := by
  rw [terms, hfold, tokens_collapse_toQueryString hterms]

theorem isFoldedText_collapse {caseSensitive : Bool} {s : List Char}
    (h : IsFoldedText caseSensitive s) : IsFoldedText caseSensitive (collapse s) := by
  apply IsFoldedText.intercalate
  intro word hword
  exact h.of_isInfix (isInfix_of_mem_splitWhere word (List.mem_of_mem_filter hword))

theorem isTerm_of_terms (h : terms settings raw = .ok found) :
    ∀ term ∈ found, IsTerm term.toList ∧ IsFoldedText settings.caseSensitive term.toList ∧
      IsLongEnough settings term.toList ∧ isListed settings.blacklist term.toList = false := by
  obtain ⟨all, hall, rfl⟩ := map_eq_ok_iff.mp h
  obtain ⟨hlong, rfl⟩ := collect_eq_ok_iff.mp hall
  intro term hterm
  have hmem := List.mem_of_mem_take hterm
  simp only [List.mem_map, List.mem_filter, Bool.not_eq_true'] at hmem
  obtain ⟨-, ⟨⟨token, htoken, rfl⟩, hlisted⟩, rfl⟩ := hmem
  have hinfix := isInfix_of_mem_tokens token htoken
  have hspaced := (isTidy_collapse (foldText settings.caseSensitive raw.toList)).toIsSpaced
  have hfolded := isFoldedText_collapse (isFoldedText_foldText settings.caseSensitive raw.toList)
  rw [String.toList_ofList]
  exact ⟨isTerm_trimToken (hspaced.of_isInfix hinfix) (shape_of_mem_tokens token htoken)
    (hlong token htoken).1, hfolded.of_isInfix ((trimToken_isInfix token).trans hinfix),
    hlong token htoken, hlisted⟩

theorem length_le_of_terms (h : terms settings raw = .ok found) :
    found.length ≤ settings.maxTerms := by
  obtain ⟨all, -, rfl⟩ := map_eq_ok_iff.mp h
  exact List.length_take_le _ _

theorem IsTerm.trimToken_eq_self_iff {t : List Char} (h : IsTerm t) :
    trimToken t = t ↔ t.head? ≠ some '\'' ∧ t.getLast? ≠ some '\'' := by
  have hquote {o : Option Char} (ho : ∀ c ∈ o, c ≠ '"') :
      (∀ c ∈ o, isQuote c = false) ↔ o ≠ some '\'' := by
    cases o with
    | none => simp
    | some c => simpa [isQuote] using fun _ => ho c rfl
  rw [Search.trimToken_eq_self_iff h.toIsTidy, hquote h.head_ne, hquote h.last_ne]

/-- A search text that is written from the terms of another is read as the same terms exactly if
none of them has a single quote at an end. -/
theorem terms_toQueryString_iff (h : terms settings raw = .ok found) :
    terms settings (toQueryString found) = .ok found ↔
      ∀ term ∈ found, term.toList.head? ≠ some '\'' ∧ term.toList.getLast? ≠ some '\'' := by
  have hfound := isTerm_of_terms h
  have hfolded : IsFoldedText settings.caseSensitive (toQueryString found).toList := by
    rw [toList_toQueryString]
    refine IsFoldedText.intercalate ?_
    simp only [List.forall_mem_map]
    exact fun term hterm => (hfound term hterm).2.1.quoted
  have hends : (∀ term ∈ found, term.toList.head? ≠ some '\'' ∧ term.toList.getLast? ≠ some '\'') ↔
      ∀ term ∈ found, trimToken term.toList = term.toList :=
    forall₂_congr fun term hterm => (hfound term hterm).1.trimToken_eq_self_iff.symm
  rw [terms_toQueryString_eq (fun term hterm => (hfound term hterm).1) hfolded.foldText_eq_self,
    hends, map_eq_ok_iff]
  constructor
  · rintro ⟨all, hall, htake⟩
    obtain ⟨-, rfl⟩ := collect_eq_ok_iff.mp hall
    -- As many terms as before are left only if no token was listed and none lost a character.
    have hsub : List.Sublist found
        (((found.map String.toList).map trimToken).map String.ofList) := by
      conv => lhs; rw [← htake]
      exact (List.take_sublist _ _).trans (List.filter_sublist.map _)
    have hall := hsub.eq_of_length (by simp)
    rw [List.map_map, List.map_map] at hall
    intro term hterm
    have hterms := List.map_inj_left.mp (hall.symm.trans (List.map_id found).symm) term hterm
    exact String.ofList_injective (hterms.trans String.ofList_toList.symm)
  · intro htrim
    refine ⟨found, collect_map_toList htrim ?_, List.take_of_length_le (length_le_of_terms h)⟩
    exact fun term hterm => (hfound term hterm).2.2

theorem terms_toQueryString_iff_phrase :
    let settings : SearchSettings := { Settings.default.search with blacklist := ["the"] }
    let raw := "Né The \"Foo  Bar\" O'Neil"
    let found := ["ne", "foo bar", "o'neil"]
    terms settings raw = .ok found ∧
      toQueryString found = "ne \"foo bar\" o'neil" ∧
      terms settings (toQueryString found) = .ok found := by
  intro settings raw found
  have h : terms settings raw = .ok found := by decide +kernel
  have hquery : toQueryString found = "ne \"foo bar\" o'neil" := by
    apply String.toList_inj.mp
    rw [toList_toQueryString]
    decide +kernel
  exact ⟨h, hquery, (terms_toQueryString_iff h).mpr (by decide +kernel)⟩

/-- The space between two quotes keeps the second one, which is trimmed off the next time. -/
theorem terms_toQueryString_quote :
    let settings := Settings.default.search
    terms settings "\"' 'a b\"" = .ok ["'a b"] ∧ toQueryString ["'a b"] = "\"'a b\"" ∧
      terms settings "\"'a b\"" = .ok ["a b"] := by
  intro settings
  have hquery : toQueryString ["'a b"] = "\"'a b\"" := by
    apply String.toList_inj.mp
    rw [toList_toQueryString]
    decide +kernel
  exact ⟨by decide +kernel, hquery, by decide +kernel⟩

/-- A text that is searched for as it is: words with one space between two of them, without double
quotes and without single quotes at its ends, long enough, and not listed. -/
structure IsPlainTerm (settings : SearchSettings) (t : List Char) : Prop extends IsTidy t where
  ne_nil : t ≠ []
  quote_notMem : '"' ∉ t
  head_ne : t.head? ≠ some '\''
  last_ne : t.getLast? ≠ some '\''
  minTermLength_le : settings.minTermLength ≤ t.length
  not_listed : ∀ word ∈ settings.blacklist, foldText false word.toList ≠ foldText false t

namespace IsPlainTerm

variable {t : List Char}

theorem isTerm (h : IsPlainTerm settings t) : IsTerm t where
  toIsTidy := h.toIsTidy
  ne_nil := h.ne_nil
  unquoted := .inl h.quote_notMem
  head_ne := by
    rintro c hc rfl
    exact h.quote_notMem (List.mem_of_mem_head? hc)
  last_ne := by
    rintro c hc rfl
    exact h.quote_notMem (List.mem_of_mem_getLast? hc)

theorem trimToken_eq (h : IsPlainTerm settings t) : trimToken t = t :=
  h.isTerm.trimToken_eq_self_iff.mpr ⟨h.head_ne, h.last_ne⟩

end IsPlainTerm

/-- Plain terms, not more of them than are searched for, are found again in the text that is written
from them, if folding leaves the text as it is. -/
theorem terms_toQueryString_of_isPlainTerm (hlength : found.length ≤ settings.maxTerms)
    (hterms : ∀ term ∈ found, IsPlainTerm settings term.toList)
    (hfold : foldText settings.caseSensitive (toQueryString found).toList =
      (toQueryString found).toList) :
    terms settings (toQueryString found) = .ok found := by
  have hcollect : collect settings (found.map String.toList) = .ok found := by
    refine collect_map_toList (fun term hterm => (hterms term hterm).trimToken_eq) ?_
    intro term hterm
    have hplain := hterms term hterm
    exact ⟨⟨hplain.ne_nil, hplain.minTermLength_le⟩,
      isListed_eq_false_iff.mpr hplain.not_listed⟩
  rw [terms_toQueryString_eq (fun term hterm => (hterms term hterm).isTerm) hfold, hcollect]
  exact congrArg Except.ok (List.take_of_length_le hlength)

theorem terms_toQueryString_of_isPlainTerm_quotes :
    let settings : SearchSettings := ⟨1, 3, ["The", "né"], .and, true⟩
    let found := ["O'Neil", "rock 'n' roll", "Σ"]
    found.length ≤ settings.maxTerms ∧
      (∀ term ∈ found, IsPlainTerm settings term.toList) ∧
      foldText settings.caseSensitive (toQueryString found).toList = (toQueryString found).toList ∧
      terms settings (toQueryString found) = .ok found := by
  intro settings found
  have htidy {s : List Char} (h : collapse s = s) : IsTidy s := h ▸ isTidy_collapse s
  have hterms : ∀ term ∈ found, IsPlainTerm settings term.toList := by
    simp only [found, List.forall_mem_cons]
    refine ⟨⟨htidy (by decide +kernel), ?_, ?_, ?_, ?_, ?_, ?_⟩,
      ⟨htidy (by decide +kernel), ?_, ?_, ?_, ?_, ?_, ?_⟩,
      ⟨htidy (by decide +kernel), ?_, ?_, ?_, ?_, ?_, ?_⟩, nofun⟩
    all_goals decide +kernel
  have hfold : foldText settings.caseSensitive (toQueryString found).toList =
      (toQueryString found).toList := by
    rw [toList_toQueryString]
    decide +kernel
  have hlength : found.length ≤ settings.maxTerms := by decide
  exact ⟨hlength, hterms, hfold, terms_toQueryString_of_isPlainTerm hlength hterms hfold⟩

end RequestQuery.Search
