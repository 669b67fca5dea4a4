import Mathlib.Algebra.Order.Ring.Int
import Mathlib.Data.Set.Pairwise.Lattice
import Mathlib.Order.CompletePartialOrder
import Mathlib.Order.Interval.Set.Basic
import RequestQuery.Page
import RequestQuery.Proofs.NamedSource
import RequestQuery.Proofs.SettingsStore

namespace RequestQuery

/-- The configured page size is neither zero nor above the largest. -/
structure PageSettings.IsValid (settings : PageSettings) : Prop where
  one_le_perPage : 1 ≤ settings.perPage
  perPage_le : settings.perPage ≤ settings.maxPerPage

theorem Settings.mem_report_iff {found : Bool} {p q : SettingsProblem} :
    p ∈ report found q ↔ found = true ∧ p = q := by
  cases found <;> simp [report]

theorem Settings.isValid_pagination_iff [Calendar.ZoneDatabase] {s : Settings} :
    s.pagination.IsValid ↔ .zeroPerPage ∉ s.problems ∧ .perPageAboveMax ∉ s.problems := by
  have hzero : .zeroPerPage ∈ s.problems ↔ s.pagination.perPage = 0 := by
    cases hoperators : OperatorTable.withOverrides s.operators <;>
      simp [problems, mem_report_iff, hoperators]
  have habove : .perPageAboveMax ∈ s.problems ↔ s.pagination.maxPerPage < s.pagination.perPage := by
    cases hoperators : OperatorTable.withOverrides s.operators <;>
      simp [problems, mem_report_iff, hoperators]
  rw [hzero, habove]
  constructor
  · rintro ⟨hpos, hle⟩
    omega
  · rintro ⟨hpos, hle⟩
    exact ⟨by omega, by omega⟩

/-- The positions of the rows that limit and offset leave, counted from zero. -/
def Query.window (q : Query) : Set Nat :=
  {row | q.offset.getD 0 ≤ row ∧ ∀ n ∈ q.limit, row < q.offset.getD 0 + n}

namespace Page

variable {settings : PageSettings} {p : Page}

/-- The offset in words of 64 bits, nothing if the subtraction wraps around. A product that does not
fit into a word comes to the largest word. -/
def offsetWord? (number size : BitVec 64) : Option (BitVec 64) :=
  if number.usubOverflow 1 then none
  else some (if (number - 1).umulOverflow size then BitVec.allOnes 64 else (number - 1) * size)

theorem window_apply (p : Page) (q : Query) :
    (p.apply q).window = Set.Ico p.offset (p.offset + p.size) := by
  ext row
  simp [Query.window, apply, Query.setLimit, Query.setOffset]

theorem one_le_number_resolve (settings : PageSettings) (number size : Option Nat) :
    1 ≤ (resolve settings number size).number :=
  Nat.le_max_right _ 1

theorem one_le_size_resolve (h : settings.IsValid) (number size : Option Nat) :
    1 ≤ (resolve settings number size).size := by
  obtain ⟨hpos, hle⟩ := h
  apply Nat.le_min.mpr
  refine ⟨?_, Nat.le_trans hpos hle⟩
  split
  · exact hpos
  · exact hpos
  · rename_i n hn
    exact Nat.one_le_iff_ne_zero.mpr hn

theorem size_resolve_le (settings : PageSettings) (number size : Option Nat) :
    (resolve settings number size).size ≤ settings.maxPerPage :=
  Nat.min_le_right _ _

theorem number_resolve_lt {number : Option Nat} (h : ∀ n ∈ number, n < 2 ^ 64) (size : Option Nat) :
    (resolve settings number size).number < 2 ^ 64 := by
  cases number with
  | none => exact Nat.max_lt.mpr ⟨by decide, by decide⟩
  | some n => exact Nat.max_lt.mpr ⟨h n rfl, by decide⟩

theorem offset_eq_ite (p : Page) :
    p.offset =
      if (p.number - 1) * p.size < 2 ^ 64 then (p.number - 1) * p.size else 2 ^ 64 - 1 := by
  have hmax : maxOffset = 2 ^ 64 - 1 := rfl
  rw [offset, hmax]
  split <;> omega

theorem offset_lt (p : Page) : p.offset < 2 ^ 64 := by
  rw [offset_eq_ite]
  split
  · assumption
  · decide

theorem offsetWord?_eq_some (hpos : 1 ≤ p.number) (hnumber : p.number < 2 ^ 64)
    (hsize : p.size < 2 ^ 64) :
    offsetWord? (.ofNat 64 p.number) (.ofNat 64 p.size) = some (.ofNat 64 p.offset) := by
  have hone : ((BitVec.ofNat 64 p.number).usubOverflow 1) = false := by
    simp [BitVec.usubOverflow]
    omega
  have hbefore : (BitVec.ofNat 64 p.number - 1).toNat = p.number - 1 := by
    simp
    omega
  rw [offsetWord?, hone, offset_eq_ite]
  simp only [BitVec.umulOverflow, hbefore, BitVec.toNat_ofNat, Nat.mod_eq_of_lt hsize]
  split
  · contradiction
  · apply congrArg some
    -- The word for the product is right if the product fits, and not looked at otherwise.
    by_cases hfits : (p.number - 1) * p.size < 2 ^ 64
    · rw [if_pos hfits, if_neg (by simpa using hfits)]
      apply BitVec.eq_of_toNat_eq
      rw [BitVec.toNat_mul, hbefore, BitVec.toNat_ofNat, BitVec.toNat_ofNat, Nat.mod_eq_of_lt hsize]
    · rw [if_neg hfits, if_pos (by simpa using hfits)]
      rfl

theorem toNat_offsetWord? (hpos : 1 ≤ p.number) (hnumber : p.number < 2 ^ 64)
    (hsize : p.size < 2 ^ 64) :
    (offsetWord? (.ofNat 64 p.number) (.ofNat 64 p.size)).map BitVec.toNat = some p.offset := by
  rw [offsetWord?_eq_some hpos hnumber hsize, Option.map_some, BitVec.toNat_ofNat,
    Nat.mod_eq_of_lt p.offset_lt]

theorem mem_window_apply_iff {page row : Nat} {size : Option Nat} {n : Nat} (q : Query)
    (hsize : (resolve settings (some page) size).size = n) (hn : 1 ≤ n) (hpage : 1 ≤ page)
    (hfits : (page - 1) * n < 2 ^ 64) :
    row ∈ ((resolve settings (some page) size).apply q).window ↔ row / n + 1 = page := by
  have hnumber : (resolve settings (some page) size).number = page := Nat.max_eq_left hpage
  obtain ⟨before, rfl⟩ := Nat.exists_eq_add_of_le' hpage
  rw [window_apply, offset_eq_ite, hnumber, hsize, if_pos hfits, Set.mem_Ico, Nat.add_sub_cancel,
    Nat.add_right_cancel_iff, ← Nat.succ_mul, ← Nat.le_div_iff_mul_le hn,
    ← Nat.div_lt_iff_lt_mul hn]
  omega

theorem resolve_windows {size : Option Nat} {n k : Nat} (q : Query)
    (hsize : ∀ page, (resolve settings (some page) size).size = n) (hn : 1 ≤ n)
    (hfits : (k - 1) * n < 2 ^ 64) :
    (Set.Icc 1 k).PairwiseDisjoint
        (fun page => ((resolve settings (some page) size).apply q).window) ∧
      ⋃ page ∈ Set.Icc 1 k, ((resolve settings (some page) size).apply q).window =
        Set.Iio (k * n) := by
  -- The page of a row is its quotient by the size, so no other page has the row.
  have hrow : ∀ page ∈ Set.Icc 1 k, ∀ row,
      row ∈ ((resolve settings (some page) size).apply q).window ↔ row / n + 1 = page := by
    rintro page ⟨hpage, hlast⟩ row
    refine mem_window_apply_iff q (hsize page) hn hpage (Nat.lt_of_le_of_lt ?_ hfits)
    exact Nat.mul_le_mul_right n (Nat.sub_le_sub_right hlast 1)
  constructor
  · intro page hpage other hother hne
    apply Set.disjoint_left.mpr
    intro row hin hon
    exact hne (((hrow page hpage row).mp hin).symm.trans ((hrow other hother row).mp hon))
  · ext row
    rw [Set.mem_iUnion₂, Set.mem_Iio, ← Nat.div_lt_iff_lt_mul hn]
    constructor
    · rintro ⟨page, hpage, hin⟩
      have hlast : page ≤ k := hpage.2
      have hon := (hrow page hpage row).mp hin
      omega
    · intro hlt
      have hpage : row / n + 1 ∈ Set.Icc 1 k := ⟨Nat.le_add_left 1 _, hlt⟩
      exact ⟨row / n + 1, hpage, (hrow _ hpage row).mpr rfl⟩

/-- Whatever page and size are asked for, in words of 64 bits and under settings without problems,
the page is numbered from one and holds a row at least and not more than the settings allow. Its
offset is counted without wrapping around, and stops at the largest word. The pages of one size
share no row and leave out none, up to the last that the offset can count. -/
theorem resolve_tiles_rows (hvalid : settings.IsValid) (hword : settings.maxPerPage < 2 ^ 64)
    (number size : Option (BitVec 64)) (q : Query) :
    let asked := fun number => resolve settings number (size.map BitVec.toNat)
    let p := asked (number.map BitVec.toNat)
    1 ≤ p.number ∧ p.number < 2 ^ 64 ∧ 1 ≤ p.size ∧ p.size ≤ settings.maxPerPage ∧
      (offsetWord? (.ofNat 64 p.number) (.ofNat 64 p.size)).map BitVec.toNat = some p.offset ∧
      p.offset =
        (if (p.number - 1) * p.size < 2 ^ 64 then (p.number - 1) * p.size else 2 ^ 64 - 1) ∧
      (p.apply q).window = Set.Ico p.offset (p.offset + p.size) ∧
      ∀ k, (k - 1) * p.size < 2 ^ 64 →
        (Set.Icc 1 k).PairwiseDisjoint (fun page => ((asked (some page)).apply q).window) ∧
        ⋃ page ∈ Set.Icc 1 k, ((asked (some page)).apply q).window = Set.Iio (k * p.size) := by
  intro asked p
  have hpos : 1 ≤ p.number := one_le_number_resolve settings _ _
  have hnumber : p.number < 2 ^ 64 := by
    apply number_resolve_lt
    intro n hn
    obtain ⟨w, -, rfl⟩ := Option.mem_map.mp hn
    exact w.isLt
  have hone : 1 ≤ p.size := one_le_size_resolve hvalid _ _
  have hmax : p.size ≤ settings.maxPerPage := size_resolve_le settings _ _
  exact ⟨hpos, hnumber, hone, hmax, toNat_offsetWord? hpos hnumber (by omega), offset_eq_ite p,
    window_apply p q, fun k hfits => resolve_windows q (fun _ => rfl) hone hfits⟩

theorem resolve_tiles_rows_default :
    let settings := Settings.default.pagination
    let q := Query.ofSource .posts
    let last := resolve settings (some (2 ^ 64 - 1)) (some 200)
    settings.IsValid ∧ settings.maxPerPage < 2 ^ 64 ∧ last.number = 2 ^ 64 - 1 ∧ last.size = 100 ∧
      (offsetWord? (.ofNat 64 (2 ^ 64 - 1)) (.ofNat 64 100)).map BitVec.toNat =
        some last.offset ∧
      last.offset = 2 ^ 64 - 1 ∧
      (Set.Icc 1 3).PairwiseDisjoint
        (fun page => ((resolve settings (some page) none).apply q).window) ∧
      ⋃ page ∈ Set.Icc 1 3, ((resolve settings (some page) none).apply q).window = Set.Iio 45 := by
  intro settings q last
  have hvalid : settings.IsValid := Settings.isValid_pagination_iff.mpr (by decide +kernel)
  have hword : settings.maxPerPage < 2 ^ 64 := by decide
  obtain ⟨-, -, -, -, hcounted, hoffset, -⟩ :=
    resolve_tiles_rows hvalid hword (some (.allOnes 64)) (some 200) q
  obtain ⟨-, -, -, -, -, -, -, hwindows⟩ := resolve_tiles_rows hvalid hword none none q
  exact ⟨hvalid, hword, rfl, rfl, hcounted, hoffset.trans (if_neg (by decide)),
    hwindows 3 (by decide)⟩

end Page

end RequestQuery
