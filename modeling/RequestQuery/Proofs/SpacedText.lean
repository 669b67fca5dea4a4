import Mathlib.Data.List.Chain
import Mathlib.Data.List.DropRight
import RequestQuery.Text.Blank

namespace RequestQuery.Text

theorem takeWhile_append_eq {p : Char → Bool} {s rest : List Char} (hs : ∀ c ∈ s, p c = true)
    (hrest : ∀ c ∈ rest.head?, p c = false) : (s ++ rest).takeWhile p = s := by
  rw [List.takeWhile_append_of_pos hs]
  cases rest with
  | nil => simp
  | cons c rest => simp [hrest c rfl]

theorem dropWhile_append_eq {p : Char → Bool} {s rest : List Char} (hs : ∀ c ∈ s, p c = true)
    (hrest : ∀ c ∈ rest.head?, p c = false) : (s ++ rest).dropWhile p = rest := by
  rw [List.dropWhile_append_of_pos hs]
  cases rest with
  | nil => simp
  | cons c rest => simp [hrest c rfl]

theorem dropEnds_eq_rdropWhile (p : Char → Bool) (s : List Char) :
    dropEnds p s = (s.dropWhile p).rdropWhile p :=
  rfl

theorem dropEnds_isInfix (p : Char → Bool) (s : List Char) : dropEnds p s <:+: s :=
  (List.rdropWhile_prefix p _).isInfix.trans (List.dropWhile_suffix p).isInfix

theorem head_dropEnds {p : Char → Bool} {s : List Char} :
    ∀ c ∈ (dropEnds p s).head?, p c = false := by
  intro c hc
  obtain ⟨after, hprefix⟩ := List.rdropWhile_prefix p (s.dropWhile p)
  have hhead : (s.dropWhile p).head? = some c := by
    rw [← hprefix, List.head?_append_of_ne_nil]
    · exact hc
    · rintro hnil
      rw [dropEnds_eq_rdropWhile, hnil] at hc
      cases hc
  have hfirst := List.head?_dropWhile_not p s
  rw [hhead] at hfirst
  exact hfirst

theorem getLast_dropEnds {p : Char → Bool} {s : List Char} :
    ∀ c ∈ (dropEnds p s).getLast?, p c = false := by
  intro c hc
  obtain ⟨hne, hlast⟩ := List.mem_getLast?_eq_getLast hc
  rw [hlast, ← Bool.not_eq_true]
  exact List.rdropWhile_last_not p (s.dropWhile p) hne

theorem dropEnds_eq_self_iff {p : Char → Bool} {s : List Char} :
    dropEnds p s = s ↔ (∀ c ∈ s.head?, p c = false) ∧ ∀ c ∈ s.getLast?, p c = false := by
  constructor
  · intro h
    rw [← h]
    exact ⟨head_dropEnds, getLast_dropEnds⟩
  · rintro ⟨hhead, hlast⟩
    have hfront : s.dropWhile p = s := by
      cases s with
      | nil => rfl
      | cons c rest => rw [List.dropWhile_cons_of_neg (by simp [hhead c rfl])]
    rw [dropEnds_eq_rdropWhile, hfront, List.rdropWhile_eq_self_iff]
    intro hne
    rw [hlast _ (List.getLast?_eq_getLast_of_ne_nil hne)]
    simp

/-- A run of white space, possibly an empty one. -/
def IsGap (s : List Char) : Prop :=
  ∀ c ∈ s, isBlank c = true

theorem strip_gap_append {gap : List Char} (h : IsGap gap) (s : List Char) :
    strip (gap ++ s) = strip s := by
  rw [strip, strip, dropEnds, dropEnds, List.dropWhile_append_of_pos h]

theorem strip_append_gap {gap : List Char} (h : IsGap gap) (s : List Char) :
    strip (s ++ gap) = strip s := by
  have hgap : IsGap gap.reverse := fun c hc => h c (List.mem_reverse.mp hc)
  rw [strip, strip, dropEnds, dropEnds, List.dropWhile_append]
  split
  · rename_i hnil
    rw [List.isEmpty_iff.mp hnil, List.dropWhile_eq_nil_iff.mpr h]
  · rw [List.reverse_append, List.dropWhile_append_of_pos hgap]

theorem exists_strip (s : List Char) :
    ∃ before after, IsGap before ∧ IsGap after ∧ s = before ++ strip s ++ after := by
  refine ⟨s.takeWhile isBlank, (s.dropWhile isBlank).rtakeWhile isBlank, ?_, ?_, ?_⟩
  · exact fun c hc => List.mem_takeWhile_imp hc
  · exact fun c hc => List.mem_rtakeWhile_imp hc
  · rw [strip, dropEnds_eq_rdropWhile, List.append_assoc, List.rdropWhile_append_rtakeWhile,
      List.takeWhile_append_dropWhile]

theorem IsGap.eq_nil_of_last {s gap : List Char} (h : IsGap gap)
    (hlast : ∀ c ∈ (s ++ gap).getLast?, isBlank c = false) : gap = [] := by
  by_contra hne
  rw [List.getLast?_append_of_ne_nil _ hne, List.getLast?_eq_getLast_of_ne_nil hne] at hlast
  have hblank := h _ (List.getLast_mem hne)
  rw [hlast _ rfl] at hblank
  cases hblank

theorem IsGap.eq_nil_of_head {s gap : List Char} (h : IsGap gap)
    (hhead : ∀ c ∈ (gap ++ s).head?, isBlank c = false) : gap = [] := by
  cases gap with
  | nil => rfl
  | cons c rest =>
      have hblank := h c List.mem_cons_self
      rw [hhead c rfl] at hblank
      cases hblank

theorem exists_strip_append {s rest : List Char}
    (hhead : ∀ c ∈ (s ++ rest).head?, isBlank c = false) :
    ∃ gap, IsGap gap ∧ s = strip s ++ gap := by
  obtain ⟨before, after, hbefore, hafter, hcut⟩ := exists_strip s
  have hnil : before = [] := by
    apply hbefore.eq_nil_of_head (s := strip s ++ after ++ rest)
    rw [hcut] at hhead
    simpa using hhead
  rw [hnil, List.nil_append] at hcut
  exact ⟨after, hafter, hcut⟩

theorem exists_append_strip {t s : List Char}
    (hlast : ∀ c ∈ (t ++ s).getLast?, isBlank c = false) :
    ∃ gap, IsGap gap ∧ s = gap ++ strip s := by
  obtain ⟨before, after, hbefore, hafter, hcut⟩ := exists_strip s
  have hnil : after = [] := by
    apply hafter.eq_nil_of_last (s := t ++ (before ++ strip s))
    rw [hcut] at hlast
    simpa using hlast
  rw [hnil, List.append_nil] at hcut
  exact ⟨before, hbefore, hcut⟩

/-- White space occurs as single spaces only. -/
structure IsSpaced (s : List Char) : Prop where
  space : ∀ c ∈ s, isBlank c = true → c = ' '
  single : s.IsChain fun a b => isBlank a = true → isBlank b = false

theorem IsSpaced.of_isInfix {s t : List Char} (h : IsSpaced t) (hs : s <:+: t) : IsSpaced s :=
  ⟨fun c hc => h.space c (hs.subset hc), List.IsChain.infix h.single hs⟩

/-- White space occurs as single spaces between words only. -/
structure IsTidy (s : List Char) : Prop extends IsSpaced s where
  head : ∀ c ∈ s.head?, isBlank c = false
  last : ∀ c ∈ s.getLast?, isBlank c = false

theorem isTidy_strip {s : List Char} (h : IsSpaced s) : IsTidy (strip s) where
  toIsSpaced := h.of_isInfix (dropEnds_isInfix isBlank s)
  head := head_dropEnds
  last := getLast_dropEnds

theorem IsTidy.strip_eq {s : List Char} (h : IsTidy s) : strip s = s :=
  dropEnds_eq_self_iff.mpr ⟨h.head, h.last⟩

theorem isTidy_of_not_isBlank {s : List Char} (h : ∀ c ∈ s, isBlank c = false) : IsTidy s where
  space c hc hblank := by simp [h c hc] at hblank
  single := by
    refine List.Pairwise.isChain (List.pairwise_iff_forall_sublist.mpr ?_)
    exact fun hsub _ => h _ (hsub.subset (by simp))
  head c hc := h c (List.mem_of_mem_head? hc)
  last c hc := h c (List.mem_of_mem_getLast? hc)

theorem IsTidy.append {s t : List Char} (hs : IsTidy s) (ht : IsTidy t) : IsTidy (s ++ t) where
  space := List.forall_mem_append.mpr ⟨hs.space, ht.space⟩
  single := by
    refine List.isChain_append.mpr ⟨hs.single, ht.single, ?_⟩
    rintro a ha - - hblank
    rw [hs.last a ha] at hblank
    cases hblank
  head := by
    cases s with
    | nil => exact ht.head
    | cons c rest => exact hs.head
  last := by
    cases t with
    | nil => simpa using hs.last
    | cons c rest =>
        rw [List.getLast?_append_of_ne_nil _ (by simp)]
        exact ht.last

theorem IsTidy.append_space {s t : List Char} (hs : IsTidy s) (ht : IsTidy t) (hs' : s ≠ [])
    (ht' : t ≠ []) : IsTidy (s ++ ' ' :: t) where
  space := by
    rw [List.forall_mem_append, List.forall_mem_cons]
    exact ⟨hs.space, fun _ => rfl, ht.space⟩
  single := by
    refine List.isChain_append.mpr ⟨hs.single, List.isChain_cons.mpr ⟨?_, ht.single⟩, ?_⟩
    · exact fun c hc _ => ht.head c hc
    · rintro a ha - - hblank
      rw [hs.last a ha] at hblank
      cases hblank
  head := by
    rw [List.head?_append_of_ne_nil _ hs']
    exact hs.head
  last := by
    rw [List.getLast?_append_of_ne_nil _ (by simp), List.getLast?_cons_of_ne_nil ht']
    exact ht.last

theorem IsTidy.intercalate {parts : List (List Char)}
    (h : ∀ part ∈ parts, IsTidy part ∧ part ≠ []) :
    IsTidy (List.intercalate [' '] parts) ∧ (List.intercalate [' '] parts = [] → parts = []) := by
  induction parts with
  | nil => exact ⟨isTidy_of_not_isBlank (by simp [List.intercalate]), fun _ => rfl⟩
  | cons part rest ih =>
      rw [List.forall_mem_cons] at h
      obtain ⟨hrest, hne⟩ := ih h.2
      cases rest with
      | nil => simpa using h.1
      | cons next rest =>
          rw [List.intercalate_cons_cons, List.append_assoc]
          exact ⟨h.1.1.append_space hrest h.1.2 fun hnil => absurd (hne hnil) (by simp), by simp⟩

theorem splitWhere_cons_of_neg {p : Char → Bool} {c : Char} (h : p c = false) (s : List Char) :
    ∃ part parts,
      splitWhere p s = part :: parts ∧ splitWhere p (c :: s) = (c :: part) :: parts := by
  cases hsplit : splitWhere p s with
  | nil => exact absurd hsplit (splitWhere_ne_nil p s)
  | cons part parts =>
      refine ⟨part, parts, rfl, ?_⟩
      rw [splitWhere, h, hsplit]
      rfl

theorem mem_of_mem_splitWhere {p : Char → Bool} {s : List Char} :
    ∀ part ∈ splitWhere p s, ∀ c ∈ part, p c = false := by
  induction s with
  | nil => simp [splitWhere]
  | cons c rest ih =>
      cases hc : p c with
      | true =>
          rw [splitWhere, hc, if_pos rfl]
          exact List.forall_mem_cons.mpr ⟨by simp, ih⟩
      | false =>
          obtain ⟨part, parts, hsplit, hcons⟩ := splitWhere_cons_of_neg hc rest
          rw [hsplit, List.forall_mem_cons] at ih
          rw [hcons, List.forall_mem_cons, List.forall_mem_cons]
          exact ⟨⟨hc, ih.1⟩, ih.2⟩

theorem notMem_of_mem_split {sep : Char} {s part : String} (h : part ∈ split sep s) :
    sep ∉ part.toList := by
  obtain ⟨chars, hchars, rfl⟩ := List.mem_map.mp h
  rw [String.toList_ofList]
  intro hsep
  simpa using mem_of_mem_splitWhere chars hchars sep hsep

theorem isPrefix_of_splitWhere {p : Char → Bool} {s part : List Char} {parts : List (List Char)}
    (h : splitWhere p s = part :: parts) : part <+: s := by
  induction s generalizing part parts with
  | nil =>
      cases h
      exact List.prefix_rfl
  | cons c rest ih =>
      cases hc : p c with
      | true =>
          rw [splitWhere, hc, if_pos rfl] at h
          cases h
          exact List.nil_prefix
      | false =>
          obtain ⟨first, others, hsplit, hcons⟩ := splitWhere_cons_of_neg hc rest
          rw [hcons] at h
          cases h
          exact (List.prefix_cons_inj c).mpr (ih hsplit)

theorem isInfix_of_mem_splitWhere {p : Char → Bool} {s : List Char} :
    ∀ part ∈ splitWhere p s, part <:+: s := by
  induction s with
  | nil => simp [splitWhere]
  | cons c rest ih =>
      have hrest : ∀ part ∈ splitWhere p rest, part <:+: c :: rest := fun part hpart =>
        (ih part hpart).trans (List.suffix_cons c rest).isInfix
      cases hc : p c with
      | true =>
          rw [splitWhere, hc, if_pos rfl]
          exact List.forall_mem_cons.mpr ⟨List.nil_infix, hrest⟩
      | false =>
          obtain ⟨part, parts, hsplit, hcons⟩ := splitWhere_cons_of_neg hc rest
          rw [hsplit, List.forall_mem_cons] at hrest
          rw [hcons]
          exact List.forall_mem_cons.mpr ⟨(isPrefix_of_splitWhere hcons).isInfix, hrest.2⟩

theorem nil_notMem_tail_splitWhere {p : Char → Bool} {s : List Char}
    (hsingle : s.IsChain fun a b => p a = true → p b = false)
    (hlast : ∀ c ∈ s.getLast?, p c = false) : [] ∉ (splitWhere p s).tail := by
  induction s with
  | nil => simp [splitWhere]
  | cons c rest ih =>
      cases rest with
      | nil =>
          rw [splitWhere, hlast c rfl]
          simp [splitWhere]
      | cons d more =>
          obtain ⟨hcd, hsingle⟩ := List.isChain_cons_cons.mp hsingle
          have hrest := ih hsingle hlast
          cases hc : p c with
          | true =>
              -- The part after this separator begins with `d`.
              obtain ⟨part, parts, -, hcons⟩ := splitWhere_cons_of_neg (hcd hc) more
              rw [hcons] at hrest
              rw [splitWhere, hc, if_pos rfl, hcons]
              simpa using hrest
          | false =>
              obtain ⟨part, parts, hsplit, hcons⟩ := splitWhere_cons_of_neg hc (d :: more)
              rw [hsplit] at hrest
              rwa [hcons]

theorem splitOnce_append {sep : Char} {before : List Char} (h : sep ∉ before)
    (after : List Char) : splitOnce sep (before ++ sep :: after) = some (before, after) := by
  induction before with
  | nil => simp [splitOnce]
  | cons c rest ih =>
      rw [List.mem_cons, not_or] at h
      rw [List.cons_append, splitOnce, ih h.2, if_neg (by simpa using Ne.symm h.1)]
      rfl

theorem splitOnce_eq_none_iff {sep : Char} {s : List Char} : splitOnce sep s = none ↔ sep ∉ s := by
  constructor
  · intro h hmem
    obtain ⟨before, after, rfl, hbefore⟩ := List.eq_append_cons_of_mem hmem
    rw [splitOnce_append hbefore] at h
    cases h
  · intro h
    cases hsplit : splitOnce sep s with
    | none => rfl
    | some parts =>
        obtain ⟨rfl, -⟩ := eq_append_of_splitOnce hsplit
        exact absurd (by simp) h

theorem splitWhere_congr {p q : Char → Bool} {s : List Char} (h : ∀ c ∈ s, p c = q c) :
    splitWhere p s = splitWhere q s := by
  induction s with
  | nil => rfl
  | cons c rest ih =>
      rw [List.forall_mem_cons] at h
      rw [splitWhere, splitWhere, h.1, ih h.2]

theorem isTidy_collapse (s : List Char) : IsTidy (collapse s) := by
  refine (IsTidy.intercalate fun word hword => ?_).1
  obtain ⟨hword, hne⟩ := List.mem_filter.mp hword
  exact ⟨isTidy_of_not_isBlank (mem_of_mem_splitWhere word hword), by simpa using hne⟩

theorem IsTidy.collapse_eq {s : List Char} (h : IsTidy s) : collapse s = s := by
  cases s with
  | nil => rfl
  | cons c rest =>
      have hsplit : splitWhere isBlank (c :: rest) = splitAtChar ' ' (c :: rest) := by
        refine splitWhere_congr fun d hd => ?_
        rw [Bool.eq_iff_iff, beq_iff_eq]
        refine ⟨h.space d hd, ?_⟩
        rintro rfl
        rfl
      have hparts : [] ∉ splitWhere isBlank (c :: rest) := by
        have htail := nil_notMem_tail_splitWhere h.single h.last
        obtain ⟨part, parts, -, hcons⟩ := splitWhere_cons_of_neg (h.head c rfl) rest
        rw [hcons] at htail ⊢
        simpa using htail
      have hwords : words (c :: rest) = splitAtChar ' ' (c :: rest) := by
        rw [words, List.filter_eq_self.mpr, hsplit]
        intro part hpart
        rw [Bool.not_eq_true', List.isEmpty_eq_false_iff]
        rintro rfl
        exact hparts hpart
      rw [collapse, hwords, intercalate_splitAtChar]

end RequestQuery.Text
