import Mathlib.Data.List.Infix
import RequestQuery.Predicate

/-!
The texts that a pattern matches in a store that is told the escape mark. A text with a mark
wherever one is needed is a pattern of itself. Without them the marks of the text are marks of the
pattern, and one at the end takes a wildcard behind it its meaning.
-/
namespace RequestQuery.Pattern

/-- What a place in a pattern stands for. -/
inductive Element where
  | char (c : Char)
  | anyChar
  | anyText

def Element.ofChar (c : Char) : Element :=
  if c == '%' then .anyText else if c == '_' then .anyChar else .char c

/-- The elements of a pattern, or of what is left of it behind a mark: the character there stands
for itself. A pattern does not end in such a mark. -/
def elements? (marked : Bool) : List Char → Option (List Element)
  | [] => if marked then none else some []
  | c :: rest =>
    if !marked && c == escapeMark then elements? true rest
    else (elements? false rest).map ((if marked then .char c else .ofChar c) :: ·)

def accepts : List Element → List Char → Bool
  | [], text => text.isEmpty
  | .char c :: rest, text =>
    match text with
    | [] => false
    | d :: text => c == d && accepts rest text
  | .anyChar :: rest, text =>
    match text with
    | [] => false
    | _ :: text => accepts rest text
  | .anyText :: rest, text => text.tails.any (accepts rest)

/-- The pattern matches the text, where case counts. -/
def Matches (pattern text : String) : Prop :=
  ∃ es, elements? false pattern.toList = some es ∧ accepts es text.toList = true

/-- A text without the marks that a pattern would have there. -/
def unescape (marked : Bool) : List Char → List Char
  | [] => []
  | c :: rest =>
    if !marked && c == escapeMark then unescape true rest else c :: unescape false rest

/-- Whether a text ends in a mark of the pattern that it is. -/
def endsInMark (marked : Bool) : List Char → Bool
  | [] => marked
  | c :: rest => endsInMark (!marked && c == escapeMark) rest

/-- A mark before every occurrence of one character. -/
def markBefore (c : Char) (s : List Char) : List Char :=
  s.flatMap fun d => if d == c then [escapeMark, d] else [d]

theorem escapeChars_eq_markBefore (s : List Char) :
    escapeChars s = markBefore '_' (markBefore '%' (markBefore escapeMark s)) := by
  simp only [escapeChars, markBefore, List.flatMap_assoc]
  congr 1
  funext c
  by_cases hmark : c = escapeMark
  · subst hmark
    decide
  by_cases hpercent : c = '%'
  · subst hpercent
    decide
  by_cases hunderscore : c = '_'
  · subst hunderscore
    decide
  simp [isWild, hmark, hpercent, hunderscore]

variable {p q s t : List Char} {es : List Element} {marked : Bool}

theorem elements?_append (h : elements? marked p = some es) (q : List Char) :
    elements? marked (p ++ q) = (elements? false q).map (es ++ ·) := by
  induction p generalizing marked es with
  | nil =>
      cases marked <;> cases h
      simp
  | cons c p ih =>
      rw [elements?] at h
      rw [List.cons_append, elements?]
      split at h
      · rename_i hc
        rw [if_pos hc, ih h]
      · rename_i hc
        obtain ⟨es, hes, rfl⟩ := Option.map_eq_some_iff.mp h
        rw [if_neg hc, ih hes]
        simp [Function.comp_def]

theorem isWild_eq_false_of_mem (hpercent : '%' ∉ s) (hunderscore : '_' ∉ s) :
    ∀ c ∈ s, isWild c = false := by
  intro c hc
  have hne {d : Char} (hd : d ∉ s) : (c == d) = false := by
    rw [beq_eq_false_iff_ne]
    rintro rfl
    exact hd hc
  rw [isWild, hne hpercent, hne hunderscore, Bool.or_self]

theorem ofChar_of_not_isWild {c : Char} (h : isWild c = false) : Element.ofChar c = .char c := by
  simp only [isWild, Bool.or_eq_false_iff] at h
  simp [Element.ofChar, h]

theorem elements?_escapeChars (s : List Char) :
    elements? false (escapeChars s) = some (s.map .char) := by
  induction s with
  | nil => rfl
  | cons c s ih =>
      have hcons : escapeChars (c :: s) =
          (if isWild c || c == escapeMark then [escapeMark, c] else [c]) ++ escapeChars s := rfl
      rw [hcons]
      split
      · simp [elements?, ih]
      · rename_i hc
        rw [Bool.not_eq_true, Bool.or_eq_false_iff] at hc
        simp [elements?, ih, ofChar_of_not_isWild hc.1, hc.2]

theorem elements?_of_not_isWild (hplain : ∀ c ∈ s, isWild c = false) :
    elements? marked s =
      if endsInMark marked s then none else some ((unescape marked s).map .char) := by
  induction s generalizing marked with
  | nil => cases marked <;> rfl
  | cons c s ih =>
      rw [List.forall_mem_cons] at hplain
      rw [elements?, endsInMark, unescape, ofChar_of_not_isWild hplain.1, ih hplain.2, ih hplain.2,
        ite_self]
      by_cases hc : (!marked && c == escapeMark) = true
      · rw [if_pos hc, if_pos hc, hc]
      · rw [if_neg hc, if_neg hc, Bool.eq_false_iff.mpr hc]
        split <;> simp

theorem elements?_of_endsInMark (hplain : ∀ c ∈ s, isWild c = false)
    (h : endsInMark marked s = true) (c : Char) :
    elements? marked (s ++ [c]) = some ((unescape marked (s ++ [c])).map .char) := by
  induction s generalizing marked with
  | nil =>
      obtain rfl : marked = true := h
      rfl
  | cons d s ih =>
      rw [List.forall_mem_cons] at hplain
      rw [endsInMark] at h
      rw [List.cons_append, elements?, unescape, ofChar_of_not_isWild hplain.1, ite_self]
      by_cases hd : (!marked && d == escapeMark) = true
      · rw [hd] at h
        rw [if_pos hd, if_pos hd, ih hplain.2 h]
      · rw [Bool.eq_false_iff.mpr hd] at h
        rw [if_neg hd, if_neg hd, ih hplain.2 h]
        rfl

theorem accepts_chars_append :
    accepts (s.map .char ++ es) t = true ↔ ∃ u, t = s ++ u ∧ accepts es u = true := by
  induction s generalizing t with
  | nil => simp
  | cons c s ih =>
      cases t with
      | nil => simp [accepts]
      | cons d t =>
          rw [List.map_cons, List.cons_append, accepts, Bool.and_eq_true, beq_iff_eq, ih]
          simp only [List.cons_append, List.cons.injEq]
          constructor
          · rintro ⟨rfl, u, rfl, hu⟩
            exact ⟨u, ⟨rfl, rfl⟩, hu⟩
          · rintro ⟨u, ⟨rfl, rfl⟩, hu⟩
            exact ⟨rfl, u, rfl, hu⟩

theorem accepts_chars : accepts (s.map .char) t = true ↔ t = s := by
  rw [← List.append_nil (s.map Element.char), accepts_chars_append]
  simp [accepts]

theorem accepts_anyText :
    accepts (.anyText :: es) t = true ↔ ∃ u, u <:+ t ∧ accepts es u = true := by
  simp [accepts, List.any_eq_true, List.mem_tails]

theorem accepts_anyText_nil (t : List Char) : accepts [.anyText] t = true :=
  accepts_anyText.mpr ⟨[], List.nil_suffix, rfl⟩

theorem accepts_front_iff : accepts (s.map .char ++ [.anyText]) t = true ↔ s <+: t := by
  rw [accepts_chars_append]
  constructor
  · rintro ⟨u, rfl, -⟩
    exact List.prefix_append s u
  · rintro ⟨u, rfl⟩
    exact ⟨u, rfl, accepts_anyText_nil u⟩

theorem accepts_back_iff : accepts (.anyText :: s.map .char) t = true ↔ s <:+ t := by
  rw [accepts_anyText]
  constructor
  · rintro ⟨u, hu, haccepts⟩
    rwa [accepts_chars.mp haccepts] at hu
  · exact fun h => ⟨s, h, accepts_chars.mpr rfl⟩

theorem accepts_between_iff :
    accepts (.anyText :: (s.map .char ++ [.anyText])) t = true ↔ s <:+: t := by
  rw [accepts_anyText, List.infix_iff_prefix_suffix]
  simp only [accepts_front_iff, and_comm]

/-- The place where a text is sought in a stored one. -/
def Finds (style : PatternStyle) (s t : List Char) : Prop :=
  match style with
  | .startsWith => s <+: t
  | .endsWith => s <:+ t
  | .wrap | .contains => s <:+: t

theorem exists_elements?_iff {style : PatternStyle} (hstyle : style ≠ .wrap) :
    (∃ es, elements? false (ofChars style s) = some es ∧ accepts es t = true) ↔
      Finds style s t := by
  have hanyText : elements? false ['%'] = some [.anyText] := rfl
  cases style with
  | wrap => exact absurd rfl hstyle
  | startsWith =>
      rw [ofChars, elements?_append (elements?_escapeChars s), hanyText]
      simp [accepts_front_iff, Finds]
  | endsWith =>
      rw [ofChars, ← List.singleton_append, elements?_append hanyText, elements?_escapeChars]
      simp [accepts_back_iff, Finds]
  | contains =>
      rw [ofChars, List.cons_append, ← List.singleton_append, elements?_append hanyText,
        elements?_append (elements?_escapeChars s), hanyText]
      simp [accepts_between_iff, Finds]

theorem unescape_eq_self (h : escapeMark ∉ s) : unescape false s = s := by
  induction s with
  | nil => rfl
  | cons c s ih =>
      rw [List.mem_cons, not_or] at h
      rw [unescape, if_neg (by simpa using Ne.symm h.1), ih h.2]

theorem endsInMark_eq_false (h : escapeMark ∉ s) : endsInMark false s = false := by
  induction s with
  | nil => rfl
  | cons c s ih =>
      rw [List.mem_cons, not_or] at h
      have hc : (!false && c == escapeMark) = false := by simpa using Ne.symm h.1
      rw [endsInMark, hc, ih h.2]

theorem length_unescape_le (marked : Bool) (s : List Char) :
    (unescape marked s).length ≤ s.length := by
  induction s generalizing marked with
  | nil => exact Nat.le_refl 0
  | cons c s ih =>
      rw [unescape]
      split
      · exact Nat.le_succ_of_le (ih true)
      · exact Nat.succ_le_succ (ih false)

theorem length_unescape_lt (h : escapeMark ∈ s) : (unescape false s).length < s.length := by
  induction s with
  | nil => cases h
  | cons c s ih =>
      rw [unescape]
      split
      · exact Nat.lt_succ_of_le (length_unescape_le true s)
      · rename_i hc
        have hne : escapeMark ≠ c := fun heq => hc (by simp [heq])
        exact Nat.succ_lt_succ (ih ((List.mem_cons.mp h).resolve_left hne))

theorem mem_unescape_append (marked : Bool) (s : List Char) {c : Char} (hc : c ≠ escapeMark) :
    c ∈ unescape marked (s ++ [c]) := by
  induction s generalizing marked with
  | nil => simp [unescape, hc]
  | cons d s ih =>
      rw [List.cons_append, unescape]
      split
      · exact ih true
      · exact List.mem_cons_of_mem _ (ih false)

/-- What a text without wildcards finds when wildcards are put around it: itself without its marks,
and at the end only, before a percent sign, when its last mark is that of the wildcard behind it. -/
theorem exists_elements?_wrap_iff (hplain : ∀ c ∈ s, isWild c = false) :
    (∃ es, elements? false (ofChars .wrap s) = some es ∧ accepts es t = true) ↔
      if endsInMark false s then unescape false (s ++ ['%']) <:+ t
      else unescape false s <:+: t := by
  have hanyText : elements? false ['%'] = some [.anyText] := rfl
  have hwrap : ofChars .wrap s = ['%'] ++ (s ++ ['%']) := by
    rw [ofChars, if_neg]
    · rfl
    · rw [List.any_eq_true]
      rintro ⟨c, hc, hwild⟩
      rw [hplain c hc] at hwild
      cases hwild
  rw [hwrap, elements?_append hanyText]
  split
  · rename_i hmark
    rw [elements?_of_endsInMark hplain hmark]
    simp [accepts_back_iff]
  · rename_i hmark
    have hread : elements? false s = some ((unescape false s).map .char) := by
      rw [elements?_of_not_isWild hplain, if_neg hmark]
    rw [elements?_append hread, hanyText]
    simp [accepts_between_iff]

theorem wrap_finds_iff (hplain : ∀ c ∈ s, isWild c = false) :
    (∀ t, (if endsInMark false s then unescape false (s ++ ['%']) <:+ t
      else unescape false s <:+: t) ↔ s <:+: t) ↔ escapeMark ∉ s := by
  constructor
  · intro h hmark
    cases hend : endsInMark false s with
    | true =>
        -- A text that is followed by a percent sign is found in none without one.
        simp only [hend, if_true] at h
        have hmem := ((h s).mpr (List.infix_refl s)).subset
          (mem_unescape_append false s (c := '%') (by decide))
        exact Bool.noConfusion (hplain '%' hmem)
    | false =>
        -- What is left without the marks is found, and it is too short for the text itself.
        simp only [hend, Bool.false_eq_true, if_false] at h
        have hle := ((h (unescape false s)).mp (List.infix_refl _)).length_le
        exact Nat.not_le_of_lt (length_unescape_lt hmark) hle
  · intro hmark t
    rw [endsInMark_eq_false hmark, unescape_eq_self hmark]
    exact Iff.rfl

theorem matches_ofText_iff {style : PatternStyle} (hstyle : style ≠ .wrap) (s t : String) :
    Matches (ofText style s) t ↔ Finds style s.toList t.toList := by
  rw [Matches, ofText, String.toList_ofList]
  exact exists_elements?_iff hstyle

theorem matches_ofText_wrap_iff {s : String} (hplain : ∀ c ∈ s.toList, isWild c = false)
    (t : String) :
    Matches (ofText .wrap s) t ↔
      if endsInMark false s.toList then unescape false (s.toList ++ ['%']) <:+ t.toList
      else unescape false s.toList <:+: t.toList := by
  rw [Matches, ofText, String.toList_ofList]
  exact exists_elements?_wrap_iff hplain

end RequestQuery.Pattern
