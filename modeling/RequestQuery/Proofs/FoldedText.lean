import Mathlib.Data.List.Chain
import RequestQuery.Proofs.CharacterTables
import RequestQuery.Search.Terms

namespace RequestQuery

namespace Text

namespace Folding

/-- The characters with a spelling of more than themselves, or of another character. -/
def spelt : List Char :=
  ['ß', 'æ', 'Æ', 'œ', 'Œ', 'ø', 'Ø', 'ł', 'Ł', 'đ', 'Đ', 'þ', 'Þ', '𖵨', '𖵩', '𖵪']

theorem toNat_of_mem_spelt {c : Char} (h : c ∈ spelt) :
    0x80 ≤ c.toNat ∧ ¬ (0xAC00 ≤ c.toNat ∧ c.toNat ≤ 0xD7A3) := by
  have hcodes : ∀ n ∈ spelt.map Char.toNat, 0x80 ≤ n ∧ ¬ (0xAC00 ≤ n ∧ n ≤ 0xD7A3) := by decide
  exact hcodes c.toNat (List.mem_map_of_mem h)

theorem spellOut_of_notMem {c : Char} (h : c ∉ spelt) : spellOut c = [c] := by
  unfold spellOut
  split <;> first | rfl | exact absurd (by decide) h

theorem isPlain_of_ascii {c : Char} (h : c.toNat < 0x80) : IsPlain c where
  not_mark := by
    have hranges : ∀ range ∈ markRanges, 0x80 ≤ range.1 := by decide +kernel
    rw [← Bool.not_eq_true, isMark_iff]
    rintro ⟨range, hrange, hfirst, -⟩
    have hbeyond := hranges range hrange
    omega
  base_eq := by
    rw [base, if_pos]
    omega

/-- A plain character that is spelt as it is. -/
structure IsSimple (c : Char) : Prop extends IsPlain c where
  spellOut_eq : spellOut c = [c]

/-- A plain character that its spelling composes to again. -/
structure IsSettled (c : Char) : Prop extends IsPlain c where
  compose_spellOut : compose (spellOut c) = [c]

theorem IsSimple.isSettled {c : Char} (h : IsSimple c) : IsSettled c where
  toIsPlain := h.toIsPlain
  compose_spellOut := by
    rw [h.spellOut_eq]
    rfl

theorem isSimple_of_ascii {c : Char} (h : c.toNat < 0x80) : IsSimple c where
  toIsPlain := isPlain_of_ascii h
  spellOut_eq := by
    apply spellOut_of_notMem
    intro hc
    have hbeyond := toNat_of_mem_spelt hc
    omega

theorem isSimple_of_mem_spellOut {c : Char} (h : IsPlain c) : ∀ d ∈ spellOut c, IsSimple d := by
  by_cases hc : c ∈ spelt
  · have hspellings : (spelt.all fun c => (spellOut c).all fun d =>
        d.toNat < 0x80 || d == '𖵣' || d == '𖵧') = true := by
      decide
    simp only [List.all_eq_true, Bool.or_eq_true, decide_eq_true_eq, beq_iff_eq,
      or_assoc] at hspellings
    intro d hd
    rcases hspellings c hc d hd with hascii | rfl | rfl
    · exact isSimple_of_ascii hascii
    · exact ⟨isPlain_of_inBlock (by decide), rfl⟩
    · exact ⟨isPlain_of_inBlock (by decide), rfl⟩
  · rw [spellOut_of_notMem hc]
    intro d hd
    rw [List.mem_singleton.mp hd]
    exact ⟨h, spellOut_of_notMem hc⟩

theorem compose?_cases {a b both : Char} (h : compose? a b = some both) :
    (0xAC00 ≤ both.toNat ∧ both.toNat ≤ 0xD7A3) ∨ (a = '𖵧' ∧ both = '𖵨') ∨
      both = '𖵩' ∨ both = '𖵪' := by
  have hleft {d : Char} (hd : a.toNat = d.toNat) : a = d := by
    rw [← Char.ofNat_toNat a, hd, Char.ofNat_toNat]
  simp only [compose?, Bool.and_eq_true, decide_eq_true_eq, beq_iff_eq] at h
  split at h
  · rw [← Option.some.inj h, toNat_ofNat (.inl (by omega))]
    omega
  · split at h
    · rw [← Option.some.inj h, toNat_ofNat (.inl (by omega))]
      omega
    · split at h
      · split at h
        · rename_i ha
          exact .inr (.inl ⟨hleft ha, (Option.some.inj h).symm⟩)
        · split at h
          · exact .inr (.inr (.inl (Option.some.inj h).symm))
          · split at h
            · exact .inr (.inr (.inr (Option.some.inj h).symm))
            · cases h
      · cases h

theorem compose?_eq_none_of_ascii {a : Char} (h : a.toNat < 0x80) (b : Char) :
    compose? a b = none := by
  simp only [compose?, Bool.and_eq_true, decide_eq_true_eq, beq_iff_eq]
  rw [if_neg (by omega), if_neg (by omega)]
  split
  · rw [if_neg (by omega), if_neg (by omega), if_neg (by omega)]
  · rfl

theorem compose?_eq_none {b : Char}
    (h : b.toNat < 0x1161 ∨ 0x11C2 < b.toNat ∧ b.toNat ≠ 0x16D67) (a : Char) :
    compose? a b = none := by
  simp only [compose?, Bool.and_eq_true, decide_eq_true_eq, beq_iff_eq]
  rw [if_neg (by omega), if_neg (by omega), if_neg (by omega)]

/-- A character composes with no spelling of the one after it. -/
def Apart (a b : Char) : Prop :=
  ∀ d ∈ (spellOut b).head?, compose? a d = none

theorem IsSimple.apart_iff {b : Char} (h : IsSimple b) (a : Char) :
    Apart a b ↔ compose? a b = none := by
  simp [Apart, h.spellOut_eq]

theorem apart_of_ascii_left {a : Char} (h : a.toNat < 0x80) (b : Char) : Apart a b :=
  fun d _ => compose?_eq_none_of_ascii h d

theorem apart_of_ascii_right {b : Char} (h : b.toNat < 0x80) (a : Char) : Apart a b := by
  rw [(isSimple_of_ascii h).apart_iff]
  exact compose?_eq_none (by omega) a

theorem isSettled_of_compose? {a b both : Char} (h : compose? a b = some both) :
    IsSettled both := by
  rcases compose?_cases h with hsyllable | ⟨-, rfl⟩ | rfl | rfl
  · have hplain : IsPlain both := isPlain_of_inBlock ⟨(0xAC00, 0xD7A3), by decide, hsyllable⟩
    have hspelling := spellOut_of_notMem fun hboth => (toNat_of_mem_spelt hboth).2 hsyllable
    exact (IsSimple.mk hplain hspelling).isSettled
  · exact ⟨isPlain_of_inBlock (by decide), by decide⟩
  · exact ⟨isPlain_of_inBlock (by decide), by decide⟩
  · exact ⟨isPlain_of_inBlock (by decide), by decide⟩

theorem Apart.of_compose? {a b c both : Char} (h : Apart a b) (hboth : compose? b c = some both) :
    Apart a both := by
  rcases compose?_cases hboth with hsyllable | ⟨rfl, rfl⟩ | rfl | rfl
  · rw [Apart, spellOut_of_notMem fun hspelt => (toNat_of_mem_spelt hspelt).2 hsyllable]
    intro d hd
    cases hd
    exact compose?_eq_none (by omega) a
  · exact h
  · intro d hd
    cases hd
    exact compose?_eq_none (by decide) a
  · intro d hd
    cases hd
    exact compose?_eq_none (by decide) a

theorem composeFrom_append {a c : Char} {s : List Char} (h : composeFrom a s = [c])
    (t : List Char) : composeFrom a (s ++ t) = composeFrom c t := by
  have hne (a : Char) (s : List Char) : composeFrom a s ≠ [] := by
    induction s generalizing a with
    | nil => simp [composeFrom]
    | cons d rest ih =>
        rw [composeFrom]
        split
        · exact ih _
        · simp
  induction s generalizing a with
  | nil =>
      cases h
      rfl
  | cons d rest ih =>
      rw [composeFrom] at h
      rw [List.cons_append, composeFrom]
      split at h
      · exact ih h
      · exact absurd (List.cons.inj h).2 (hne d rest)

theorem IsSettled.exists_spellOut_eq_cons {c : Char} (h : IsSettled c) :
    ∃ a s, spellOut c = a :: s ∧ composeFrom a s = [c] := by
  have hspelling := h.compose_spellOut
  cases hcons : spellOut c with
  | nil =>
      rw [hcons] at hspelling
      cases hspelling
  | cons a s =>
      rw [hcons] at hspelling
      exact ⟨a, s, rfl, hspelling⟩

/-- Texts that folding leaves as they are. -/
structure IsFolded (s : List Char) : Prop where
  settled : ∀ c ∈ s, IsSettled c
  apart : s.IsChain Apart

theorem composeFrom_flatMap_spellOut {c : Char} {s : List Char} (h : IsFolded (c :: s)) :
    composeFrom c (s.flatMap spellOut) = c :: s := by
  induction s generalizing c with
  | nil => rfl
  | cons d rest ih =>
      have hapart := List.isChain_cons_cons.mp h.apart
      have hrest : IsFolded (d :: rest) :=
        ⟨(List.forall_mem_cons.mp h.settled).2, hapart.2⟩
      obtain ⟨a, s, hspelling, hcompose⟩ := (hrest.settled d (by simp)).exists_spellOut_eq_cons
      rw [List.flatMap_cons, hspelling, List.cons_append, composeFrom,
        hapart.1 a (by simp [hspelling]), composeFrom_append hcompose, ih hrest]

theorem fold_eq_self {s : List Char} (h : IsFolded s) : fold s = s := by
  have hmarks : s.filter (!isMark ·) = s := by
    rw [List.filter_eq_self]
    intro c hc
    simp [(h.settled c hc).not_mark]
  have hbases : s.map base = s :=
    (List.map_congr_left fun c hc => (h.settled c hc).base_eq).trans (List.map_id _)
  rw [fold, hmarks, hbases]
  cases s with
  | nil => rfl
  | cons c rest =>
      obtain ⟨a, s, hspelling, hcompose⟩ := (h.settled c (by simp)).exists_spellOut_eq_cons
      rw [List.flatMap_cons, hspelling, List.cons_append, compose, composeFrom_append hcompose]
      exact composeFrom_flatMap_spellOut h

theorem isFolded_composeFrom {c : Char} (hc : IsSettled c) {s : List Char}
    (hs : ∀ d ∈ s, IsSimple d) :
    IsFolded (composeFrom c s) ∧ ∀ a, Apart a c → ∀ d ∈ (composeFrom c s).head?, Apart a d := by
  -- `c` may have grown already. What stands before it was kept apart from its first part, so that
  -- the second half has to go through the induction too.
  induction s generalizing c with
  | nil => exact ⟨⟨by simpa [composeFrom] using hc, by simp [composeFrom]⟩, by simp [composeFrom]⟩
  | cons d rest ih =>
      rw [List.forall_mem_cons] at hs
      rw [composeFrom]
      split
      · rename_i both hboth
        obtain ⟨hfolded, hhead⟩ := ih (isSettled_of_compose? hboth) hs.2
        exact ⟨hfolded, fun a ha => hhead a (ha.of_compose? hboth)⟩
      · rename_i hnone
        obtain ⟨hfolded, hhead⟩ := ih hs.1.isSettled hs.2
        refine ⟨⟨List.forall_mem_cons.mpr ⟨hc, hfolded.settled⟩, ?_⟩, by simp⟩
        exact List.isChain_cons.mpr ⟨hhead c ((hs.1.apart_iff c).mpr hnone), hfolded.apart⟩

theorem isFolded_fold (s : List Char) : IsFolded (fold s) := by
  have hsimple : ∀ c ∈ ((s.filter (!isMark ·)).map base).flatMap spellOut, IsSimple c := by
    simp only [List.mem_flatMap, List.mem_map, List.mem_filter, Bool.not_eq_true']
    rintro c ⟨b, ⟨d, ⟨-, hd⟩, rfl⟩, hc⟩
    exact isSimple_of_mem_spellOut (isPlain_base hd) c hc
  rw [fold]
  cases hspelling : ((s.filter (!isMark ·)).map base).flatMap spellOut with
  | nil => exact ⟨by simp [compose], by simp [compose]⟩
  | cons c rest =>
      rw [hspelling, List.forall_mem_cons] at hsimple
      exact (isFolded_composeFrom hsimple.1.isSettled hsimple.2).1

theorem IsFolded.of_isInfix {s t : List Char} (h : IsFolded t) (hs : s <:+: t) : IsFolded s :=
  ⟨fun c hc => h.settled c (hs.subset hc), List.IsChain.infix h.apart hs⟩

theorem IsFolded.append_cons {s t : List Char} (hs : IsFolded s) (ht : IsFolded t) {c : Char}
    (hc : c.toNat < 0x80) : IsFolded (s ++ c :: t) where
  settled := by
    rw [List.forall_mem_append, List.forall_mem_cons]
    exact ⟨hs.settled, (isSimple_of_ascii hc).isSettled, ht.settled⟩
  apart := by
    refine List.isChain_append.mpr ⟨hs.apart, List.isChain_cons.mpr ⟨?_, ht.apart⟩, ?_⟩
    · exact fun d _ => apart_of_ascii_left hc d
    · rintro a - b hb
      cases hb
      exact apart_of_ascii_right hc a

end Folding

namespace Case

theorem lower_eq_self {s : List Char} (h : ∀ c ∈ s, c.toNat ∉ capitals) : lower s = s := by
  have hsigma : 'Σ'.toNat ∈ capitals := by decide +kernel
  suffices hafter : ∀ before, lowerAfter before s = s from hafter []
  induction s with
  | nil => exact fun _ => rfl
  | cons c rest ih =>
      intro before
      rw [List.forall_mem_cons] at h
      have hc : (c == 'Σ') = false := by
        rw [beq_eq_false_iff_ne]
        rintro rfl
        exact h.1 hsigma
      rw [lowerAfter, hc, ih h.2, lowerChar_eq_self h.1]
      rfl

theorem notMem_capitals_of_mem_lower {s : List Char} : ∀ d ∈ lower s, d.toNat ∉ capitals := by
  suffices hafter : ∀ before, ∀ d ∈ lowerAfter before s, d.toNat ∉ capitals from hafter []
  induction s with
  | nil => simp [lowerAfter]
  | cons c rest ih =>
      intro before
      rw [lowerAfter, List.forall_mem_append]
      refine ⟨fun d hd => ?_, ih _⟩
      split at hd
      · split at hd
        · rw [List.mem_singleton.mp hd]
          decide +kernel
        · rw [List.mem_singleton.mp hd]
          decide +kernel
      · exact notMem_capitals_of_mem_lowerChar hd

end Case

namespace Folding

theorem notMem_capitals_of_mem_composeFrom {c : Char} {s : List Char}
    (hc : c.toNat ∉ Case.capitals) (hs : ∀ d ∈ s, d.toNat ∉ Case.capitals) :
    ∀ d ∈ composeFrom c s, d.toNat ∉ Case.capitals := by
  induction s generalizing c with
  | nil => simpa [composeFrom] using hc
  | cons d rest ih =>
      rw [List.forall_mem_cons] at hs
      rw [composeFrom]
      split
      · rename_i both hboth
        refine ih (fun hcapital => not_inBlock_of_mem_capitals _ hcapital ?_) hs.2
        rcases compose?_cases hboth with hsyllable | ⟨-, rfl⟩ | rfl | rfl
        · exact ⟨(0xAC00, 0xD7A3), by decide, hsyllable⟩
        · decide
        · decide
        · decide
      · exact List.forall_mem_cons.mpr ⟨hc, ih hs.1 hs.2⟩

theorem notMem_capitals_of_mem_fold {s : List Char} (h : ∀ c ∈ s, c.toNat ∉ Case.capitals) :
    ∀ c ∈ fold s, c.toNat ∉ Case.capitals := by
  have hspelt : (spelt.all fun c => (maskOf Case.capitals).testBit c.toNat ||
      (spellOut c).all fun d => !(maskOf Case.capitals).testBit d.toNat) = true := by
    decide +kernel
  simp only [List.all_eq_true, Bool.or_eq_true, Bool.not_eq_true', ← Bool.not_eq_true,
    testBit_maskOf] at hspelt
  have hspelling : ∀ c ∈ ((s.filter (!isMark ·)).map base).flatMap spellOut,
      c.toNat ∉ Case.capitals := by
    simp only [List.mem_flatMap, List.mem_map, List.mem_filter]
    rintro d ⟨c, ⟨b, ⟨hb, -⟩, rfl⟩, hd⟩
    have hbase := base_notMem_capitals (h b hb)
    by_cases hc : base b ∈ spelt
    · exact (hspelt _ hc).resolve_left hbase d hd
    · rw [spellOut_of_notMem hc, List.mem_singleton] at hd
      rwa [hd]
  rw [fold]
  cases hcons : ((s.filter (!isMark ·)).map base).flatMap spellOut with
  | nil => simp [compose]
  | cons c rest =>
      rw [hcons, List.forall_mem_cons] at hspelling
      exact notMem_capitals_of_mem_composeFrom hspelling.1 hspelling.2

end Folding

end Text

namespace Search

/-- Texts that folding leaves as they are, and lower case too unless case matters. -/
structure IsFoldedText (caseSensitive : Bool) (s : List Char) : Prop where
  folded : Text.Folding.IsFolded s
  small : caseSensitive = false → ∀ c ∈ s, c.toNat ∉ Text.Case.capitals

namespace IsFoldedText

variable {caseSensitive : Bool} {s t : List Char}

theorem nil : IsFoldedText caseSensitive [] where
  folded := ⟨by simp, by simp⟩
  small := by simp

theorem of_isInfix (h : IsFoldedText caseSensitive t) (hs : s <:+: t) :
    IsFoldedText caseSensitive s where
  folded := h.folded.of_isInfix hs
  small hcase c hc := h.small hcase c (hs.subset hc)

theorem append_cons (hs : IsFoldedText caseSensitive s) (ht : IsFoldedText caseSensitive t)
    {c : Char} (hc : c.toNat < 0x80) (hcapital : c.toNat ∉ Text.Case.capitals) :
    IsFoldedText caseSensitive (s ++ c :: t) where
  folded := hs.folded.append_cons ht.folded hc
  small hcase := by
    rw [List.forall_mem_append, List.forall_mem_cons]
    exact ⟨hs.small hcase, hcapital, ht.small hcase⟩

theorem intercalate {parts : List (List Char)}
    (h : ∀ part ∈ parts, IsFoldedText caseSensitive part) :
    IsFoldedText caseSensitive (List.intercalate [' '] parts) := by
  induction parts with
  | nil => exact nil
  | cons part rest ih =>
      rw [List.forall_mem_cons] at h
      cases rest with
      | nil => simpa using h.1
      | cons next rest =>
          rw [List.intercalate_cons_cons, List.append_assoc]
          exact h.1.append_cons (ih h.2) (by decide) (by decide +kernel)

theorem foldText_eq_self (h : IsFoldedText caseSensitive s) : foldText caseSensitive s = s := by
  rw [foldText]
  cases caseSensitive with
  | true => exact Text.Folding.fold_eq_self h.folded
  | false =>
      rw [Text.Case.lower_eq_self (h.small rfl)]
      exact Text.Folding.fold_eq_self h.folded

end IsFoldedText

theorem isFoldedText_foldText (caseSensitive : Bool) (s : List Char) :
    IsFoldedText caseSensitive (foldText caseSensitive s) where
  folded := Text.Folding.isFolded_fold _
  small := by
    rintro rfl
    exact Text.Folding.notMem_capitals_of_mem_fold Text.Case.notMem_capitals_of_mem_lower

end Search

end RequestQuery
