import Mathlib.Data.Nat.Bitwise
import RequestQuery.Text.Case
import RequestQuery.Text.Folding

/-!
What the character tables say about each other: no lower case has a lower case of its own, and no
base of a character is a mark or has another base. A number is looked up in a long list as a bit of
one number, so that the tables are gone through only once.
-/
namespace RequestQuery.Text

/-- The number that has the bits of a list set. -/
def maskOf (ns : List Nat) : Nat :=
  ns.foldr (fun n mask => mask ||| 1 <<< n) 0

/-- The number that has the bits of ranges set. -/
def maskOfRanges (ranges : List (Nat × Nat)) : Nat :=
  ranges.foldr (fun range mask => mask ||| (2 ^ (range.2 + 1 - range.1) - 1) <<< range.1) 0

theorem testBit_maskOf (ns : List Nat) (n : Nat) : (maskOf ns).testBit n = true ↔ n ∈ ns := by
  induction ns with
  | nil => simp [maskOf]
  | cons m rest ih =>
      change (maskOf rest ||| 1 <<< m).testBit n = true ↔ _
      rw [Nat.testBit_or, Bool.or_eq_true, ih, Nat.one_shiftLeft, Nat.testBit_two_pow,
        decide_eq_true_eq, List.mem_cons, or_comm, eq_comm]

theorem testBit_maskOfRanges (ranges : List (Nat × Nat)) (n : Nat) :
    (maskOfRanges ranges).testBit n = true ↔ ∃ range ∈ ranges, range.1 ≤ n ∧ n ≤ range.2 := by
  induction ranges with
  | nil => simp [maskOfRanges]
  | cons range rest ih =>
      change
        (maskOfRanges rest ||| (2 ^ (range.2 + 1 - range.1) - 1) <<< range.1).testBit n = true ↔ _
      have hrange : ((2 ^ (range.2 + 1 - range.1) - 1) <<< range.1).testBit n = true ↔
          range.1 ≤ n ∧ n ≤ range.2 := by
        rw [Nat.testBit_shiftLeft, Nat.testBit_two_pow_sub_one, Bool.and_eq_true,
          decide_eq_true_eq, decide_eq_true_eq]
        omega
      rw [Nat.testBit_or, Bool.or_eq_true, ih, hrange]
      simp [or_comm]

theorem notMem_of_mask {ns ms : List Nat}
    (h : (ms.all fun m => !(maskOf ns).testBit m) = true) : ∀ m ∈ ms, m ∉ ns := by
  intro m hm
  have hbit := List.all_eq_true.mp h m hm
  rw [← testBit_maskOf]
  simpa using hbit

theorem toNat_ofNat {n : Nat} (h : n.isValidChar) : (Char.ofNat n).toNat = n := by
  rw [Char.ofNat, dif_pos h]
  rfl

namespace Case

/-- Whether a row of the table is about a character, by its number. -/
def inRow (n : Nat) (row : Nat × Nat × Nat × Int) : Bool :=
  row.1 ≤ n && n ≤ row.2.1 && (n - row.1) % row.2.2.1 == 0

/-- All that a row is about. -/
def rowCodes (row : Nat × Nat × Nat × Int) : List Nat :=
  (List.range ((row.2.1 - row.1) / row.2.2.1 + 1)).map fun k => row.1 + k * row.2.2.1

def loweredCode (row : Nat × Nat × Nat × Int) (n : Nat) : Nat :=
  Int.toNat (Int.ofNat n + row.2.2.2)

/-- All characters that are not their own lower case. -/
def capitals : List Nat :=
  List.range' 0x41 26 ++ 0x130 :: lowerRows.flatMap rowCodes

theorem mem_rowCodes_of_inRow {row : Nat × Nat × Nat × Int} {n : Nat} (h : inRow n row = true) :
    n ∈ rowCodes row := by
  simp only [inRow, Bool.and_eq_true, decide_eq_true_eq, beq_iff_eq] at h
  obtain ⟨⟨hfirst, hlast⟩, hstep⟩ := h
  refine List.mem_map.mpr ⟨(n - row.1) / row.2.2.1, ?_, ?_⟩
  · have hle := Nat.div_le_div_right (c := row.2.2.1) (Nat.sub_le_sub_right hlast row.1)
    exact List.mem_range.mpr (by omega)
  · rw [Nat.div_mul_cancel (Nat.dvd_of_mod_eq_zero hstep)]
    omega

theorem inRow_of_mem_rowCodes : ∀ row ∈ lowerRows, ∀ n ∈ rowCodes row, inRow n row = true := by
  decide +kernel

theorem notMem_capitals_of_ascii : ∀ n < 0x80, (Char.ofNat n).toLower.toNat ∉ capitals := by
  have hall : ∀ m ∈ (List.range 0x80).map fun n => (Char.ofNat n).toLower.toNat, m ∉ capitals := by
    apply notMem_of_mask
    decide +kernel
  intro n hn
  exact hall _ (List.mem_map.mpr ⟨n, List.mem_range.mpr hn, rfl⟩)

theorem loweredCode_notMem_capitals :
    ∀ row ∈ lowerRows, ∀ n ∈ rowCodes row, loweredCode row n ∉ capitals := by
  have hall : ∀ n ∈ lowerRows.flatMap fun row => (rowCodes row).map (loweredCode row),
      n ∉ capitals := by
    apply notMem_of_mask
    decide +kernel
  intro row hrow n hn
  exact hall _ (List.mem_flatMap_of_mem hrow (List.mem_map_of_mem hn))

theorem isValidChar_loweredCode :
    ∀ row ∈ lowerRows, ∀ n ∈ rowCodes row, (loweredCode row n).isValidChar := by
  decide +kernel

theorem lowerChar_eq_getD {c : Char} (hascii : ¬ c.toNat < 0x80) (hdotted : c.toNat ≠ 0x130) :
    lowerChar c = ((lowerRows.find? (inRow c.toNat)).map fun row =>
      [Char.ofNat (loweredCode row c.toNat)]).getD [c] := by
  rw [lowerChar, if_neg hascii, if_neg (by simpa using hdotted)]
  split
  · -- The definition takes rows apart by a pattern, `inRow` by projections.
    rename_i first last step offset hrow
    have hfind : lowerRows.find? (inRow c.toNat) = some (first, last, step, offset) := hrow
    rw [hfind]
    rfl
  · rename_i hnone
    have hfind : lowerRows.find? (inRow c.toNat) = none := hnone
    rw [hfind]
    rfl

theorem lowerChar_eq_self {c : Char} (h : c.toNat ∉ capitals) : lowerChar c = [c] := by
  simp only [capitals, List.mem_append, List.mem_cons, not_or] at h
  obtain ⟨hletter, hdotted, hrows⟩ := h
  by_cases hascii : c.toNat < 0x80
  · rw [List.mem_range'_1] at hletter
    rw [lowerChar, if_pos hascii, toLower_eq_self (by omega)]
  · have hnone : lowerRows.find? (inRow c.toNat) = none := by
      rw [List.find?_eq_none]
      intro row hrow hin
      exact hrows (List.mem_flatMap_of_mem hrow (mem_rowCodes_of_inRow hin))
    rw [lowerChar_eq_getD hascii hdotted, hnone]
    rfl

theorem notMem_capitals_of_mem_lowerChar {c d : Char} (h : d ∈ lowerChar c) :
    d.toNat ∉ capitals := by
  by_cases hascii : c.toNat < 0x80
  · rw [lowerChar, if_pos hascii, List.mem_singleton] at h
    rw [h, ← Char.ofNat_toNat c]
    exact notMem_capitals_of_ascii c.toNat hascii
  · by_cases hdotted : c.toNat = 0x130
    · rw [lowerChar, if_neg hascii, if_pos (by simpa using hdotted)] at h
      simp only [List.mem_cons, List.not_mem_nil, or_false] at h
      rcases h with rfl | rfl
      · decide +kernel
      · decide +kernel
    · rw [lowerChar_eq_getD hascii hdotted] at h
      cases hfind : lowerRows.find? (inRow c.toNat) with
      | some row =>
          rw [hfind] at h
          have hrow := List.mem_of_find?_eq_some hfind
          have hcode := mem_rowCodes_of_inRow (List.find?_some hfind)
          rw [List.mem_singleton.mp h, toNat_ofNat (isValidChar_loweredCode row hrow _ hcode)]
          exact loweredCode_notMem_capitals row hrow _ hcode
      | none =>
          rw [hfind] at h
          rw [List.find?_eq_none] at hfind
          rw [List.mem_singleton.mp h]
          simp only [capitals, List.mem_append, List.mem_cons, not_or, List.mem_flatMap, not_exists,
            not_and]
          refine ⟨?_, hdotted, fun row hrow hcode => ?_⟩
          · rw [List.mem_range'_1]
            omega
          · exact hfind row hrow (inRow_of_mem_rowCodes row hrow _ hcode)

end Case

namespace Folding

/-- All characters that a row of the table has another base for. -/
def forms : List Nat :=
  baseRows.flatMap Prod.snd

/-- Unified ideographs, Hangul syllables and the Kirat Rai script. -/
def blocks : List (Nat × Nat) :=
  [(0x3400, 0x9FFF), (0xAC00, 0xD7A3), (0x16D40, 0x16D7F), (0x20000, 0x2F7FF)]

def InBlock (n : Nat) : Prop :=
  ∃ block ∈ blocks, block.1 ≤ n ∧ n ≤ block.2

instance (n : Nat) : Decidable (InBlock n) :=
  inferInstanceAs (Decidable (∃ block ∈ blocks, block.1 ≤ n ∧ n ≤ block.2))

/-- Characters that folding neither drops nor replaces by their base. -/
structure IsPlain (c : Char) : Prop where
  not_mark : isMark c = false
  base_eq : base c = c

theorem isMark_iff (c : Char) :
    isMark c = true ↔ ∃ range ∈ markRanges, range.1 ≤ c.toNat ∧ c.toNat ≤ range.2 := by
  simp [isMark]

theorem not_isMark_of_mask {ns : List Nat}
    (h : (ns.all fun n => !(maskOfRanges markRanges).testBit n) = true) {c : Char}
    (hc : c.toNat ∈ ns) : isMark c = false := by
  have hbit := List.all_eq_true.mp h _ hc
  rw [← Bool.not_eq_true, isMark_iff, ← testBit_maskOfRanges]
  simpa using hbit

theorem not_inBlock_of_mask {ns : List Nat}
    (h : (ns.all fun n => !(maskOfRanges blocks).testBit n) = true) : ∀ n ∈ ns, ¬ InBlock n := by
  intro n hn
  have hbit := List.all_eq_true.mp h n hn
  rw [InBlock, ← testBit_maskOfRanges]
  simpa using hbit

theorem not_inBlock_of_mem_forms : ∀ n ∈ forms, ¬ InBlock n := by
  apply not_inBlock_of_mask
  decide +kernel

theorem not_inBlock_of_mem_capitals : ∀ n ∈ Case.capitals, ¬ InBlock n := by
  apply not_inBlock_of_mask
  decide +kernel

theorem not_isMark_of_inBlock {c : Char} (h : InBlock c.toNat) : isMark c = false := by
  have happart : ∀ range ∈ markRanges, ∀ block ∈ blocks, range.2 < block.1 ∨ block.2 < range.1 := by
    decide +kernel
  obtain ⟨block, hblock, hin⟩ := h
  rw [← Bool.not_eq_true, isMark_iff]
  rintro ⟨range, hrange, hmark⟩
  have hdisjoint := happart range hrange block hblock
  omega

/-- The string of a row is short enough not to reach the next block of compatibility ideographs, and
spells unified ideographs. -/
def isRowOfIdeographs (first : Nat) (targets : List Char) : Bool :=
  targets.all (fun c => decide (InBlock c.toNat)) &&
    (first + targets.length ≤ 0xFB00 || 0x2F800 ≤ first)

set_option maxRecDepth 20000 in
theorem isRowOfIdeographs_of_mem :
    ∀ row ∈ ideographRows, isRowOfIdeographs row.1 row.2.toList = true := by
  simp only [ideographRows, List.forall_mem_cons, String.toList_append]
  -- A string literal is the string of its characters, which the rewriting finds.
  repeat rw [String.toList_ofList]
  decide +kernel

theorem inBlock_of_ideograph? {n : Nat} {c : Char} (h : ideograph? n = some c) :
    InBlock c.toNat := by
  obtain ⟨⟨first, targets⟩, hrow, htarget⟩ := List.exists_of_findSome?_eq_some h
  have hok := isRowOfIdeographs_of_mem _ hrow
  simp only [isRowOfIdeographs, Bool.and_eq_true, List.all_eq_true, decide_eq_true_eq]
    at hok htarget
  split at htarget
  · exact hok.1 c (List.mem_of_getElem? htarget)
  · cases htarget

theorem ideograph?_eq_none {n : Nat} (hlow : 0xFB00 ≤ n) (hhigh : n < 0x2F800) :
    ideograph? n = none := by
  rw [ideograph?, List.findSome?_eq_none_iff]
  rintro ⟨first, targets⟩ hrow
  have hok := isRowOfIdeographs_of_mem _ hrow
  simp only [isRowOfIdeographs, Bool.and_eq_true, Bool.or_eq_true, decide_eq_true_eq] at hok ⊢
  split
  · rw [List.getElem?_eq_none]
    omega
  · rfl

theorem base_cases (c : Char) :
    base c = c ∨ (∃ row ∈ baseRows, c.toNat ∈ row.2 ∧ base c = Char.ofNat row.1) ∨
      InBlock (base c).toNat := by
  rw [base]
  split
  · exact .inl rfl
  · split
    · rename_i b forms hfind
      refine .inr (.inl ⟨(b, forms), List.mem_of_find?_eq_some hfind, ?_, rfl⟩)
      have hcontains := List.find?_some hfind
      exact List.contains_iff_mem.mp hcontains
    · split
      · cases h : ideograph? c.toNat with
        | none => exact .inl rfl
        | some t => exact .inr (.inr (inBlock_of_ideograph? h))
      · exact .inl rfl

theorem base_eq_self {c : Char} (hforms : c.toNat ∉ forms)
    (h : c.toNat < 0xF900 ∨ 0xFB00 ≤ c.toNat ∧ c.toNat < 0x2F800) : base c = c := by
  rw [base]
  split
  · rfl
  · split
    · rename_i b row hfind
      have hcontains := List.find?_some hfind
      have hmem : c.toNat ∈ row := List.contains_iff_mem.mp hcontains
      exact absurd (List.mem_flatMap_of_mem (List.mem_of_find?_eq_some hfind) hmem) hforms
    · split
      · rw [ideograph?_eq_none (by omega) (by omega)]
        rfl
      · rfl

theorem isPlain_of_inBlock {c : Char} (h : InBlock c.toNat) : IsPlain c where
  not_mark := not_isMark_of_inBlock h
  base_eq := by
    refine base_eq_self (fun hc => not_inBlock_of_mem_forms _ hc h) ?_
    obtain ⟨block, hblock, hin⟩ := h
    simp only [blocks, List.mem_cons, List.not_mem_nil, or_false] at hblock
    rcases hblock with rfl | rfl | rfl | rfl <;> simp only at hin <;> omega

theorem isValidChar_base : ∀ row ∈ baseRows, row.1.isValidChar := by
  decide +kernel

theorem isPlain_ofNat_base : ∀ row ∈ baseRows, IsPlain (Char.ofNat row.1) := by
  intro row hrow
  have hforms : ∀ n ∈ baseRows.map Prod.fst, n ∉ forms := by
    apply notMem_of_mask
    decide +kernel
  have hplaces : ∀ row ∈ baseRows, row.1 < 0xF900 ∨ 0xFB00 ≤ row.1 ∧ row.1 < 0x2F800 := by
    decide +kernel
  have hmarks : ((baseRows.map Prod.fst).all fun n => !(maskOfRanges markRanges).testBit n) =
      true := by
    decide +kernel
  have hmem : row.1 ∈ baseRows.map Prod.fst := List.mem_map_of_mem hrow
  have hcode := toNat_ofNat (isValidChar_base row hrow)
  constructor
  · apply not_isMark_of_mask hmarks
    rwa [hcode]
  · apply base_eq_self
    · rw [hcode]
      exact hforms row.1 hmem
    · rw [hcode]
      exact hplaces row hrow

theorem isPlain_base {c : Char} (h : isMark c = false) : IsPlain (base c) := by
  rcases base_cases c with hbase | ⟨row, hrow, -, hbase⟩ | hblock
  · rw [hbase]
    exact ⟨h, hbase⟩
  · rw [hbase]
    exact isPlain_ofNat_base row hrow
  · exact isPlain_of_inBlock hblock

theorem base_notMem_capitals {c : Char} (h : c.toNat ∉ Case.capitals) :
    (base c).toNat ∉ Case.capitals := by
  have hrows : (baseRows.all fun row => !(maskOf Case.capitals).testBit row.1 ||
      row.2.all (maskOf Case.capitals).testBit) = true := by
    decide +kernel
  rcases base_cases c with hbase | ⟨row, hrow, hcode, hbase⟩ | hblock
  · rwa [hbase]
  · rw [hbase, toNat_ofNat (isValidChar_base row hrow), ← testBit_maskOf]
    rcases Bool.or_eq_true_iff.mp (List.all_eq_true.mp hrows row hrow) with hsmall | hcapitals
    · simpa using hsmall
    · have hcapital := List.all_eq_true.mp hcapitals _ hcode
      rw [testBit_maskOf] at hcapital
      exact absurd hcapital h
  · exact fun hcapital => not_inBlock_of_mem_capitals _ hcapital hblock

end Folding

end RequestQuery.Text
