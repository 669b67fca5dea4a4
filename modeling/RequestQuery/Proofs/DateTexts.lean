import Mathlib.Algebra.Order.Ring.Int
import RequestQuery.Calendar.Range
import RequestQuery.Calendar.Zone.Table
import RequestQuery.Proofs.PeriodDays
import RequestQuery.Settings.Basic

namespace RequestQuery

namespace Calendar.LocalTime

/-- A number in exactly `width` decimal places, which have to be enough for it. -/
def places (width n : Nat) : List Char :=
  padTo width '0' (Nat.toDigits 10 n)

theorem digitChar_lt_iff {m n : Nat} (hm : m < 10) (hn : n < 10) :
    m.digitChar < n.digitChar ↔ m < n := by
  have hall : ∀ m < 10, ∀ n < 10, (Nat.digitChar m < Nat.digitChar n ↔ m < n) := by decide
  exact hall m hm n hn

theorem digitChar_inj {m n : Nat} (hm : m < 10) (hn : n < 10) :
    m.digitChar = n.digitChar ↔ m = n := by
  have hall : ∀ m < 10, ∀ n < 10, (Nat.digitChar m = Nat.digitChar n ↔ m = n) := by decide
  exact hall m hm n hn

theorem places_one {n : Nat} (hn : n < 10) : places 1 n = [n.digitChar] := by
  rw [places, Nat.toDigits_of_lt_base hn]
  rfl

theorem places_succ {width : Nat} (hwidth : 0 < width) (n : Nat) :
    places (width + 1) n = places width (n / 10) ++ [(n % 10).digitChar] := by
  by_cases hn : n < 10
  · obtain ⟨width, rfl⟩ := Nat.exists_eq_succ_of_ne_zero (Nat.pos_iff_ne_zero.mp hwidth)
    rw [places, places, Nat.div_eq_of_lt hn, Nat.mod_eq_of_lt hn, Nat.toDigits_of_lt_base hn]
    simp [padTo, List.replicate_succ']
  · have hdigits : Nat.toDigits 10 n = Nat.toDigits 10 (n / 10) ++ [(n % 10).digitChar] := by
      have hlast := Nat.toDigits_append_toDigits (b := 10) (n := n / 10) (d := n % 10) (by decide)
        (by omega) (by omega)
      rw [Nat.toDigits_of_lt_base (by omega : n % 10 < 10), Nat.div_add_mod] at hlast
      exact hlast.symm
    rw [places, places, hdigits, padTo, padTo, List.length_append, List.length_singleton,
      Nat.add_sub_add_right, List.append_assoc]

theorem places_append_lt_iff {width m n : Nat} {s t : List Char} (hm : m < 10 ^ width)
    (hn : n < 10 ^ width) (hwidth : 0 < width) :
    places width m ++ s < places width n ++ t ↔ m < n ∨ m = n ∧ s < t := by
  -- On the width: the last digit goes over to what stands behind the number.
  induction width generalizing m n s t with
  | zero => cases hwidth
  | succ width ih =>
      rcases Nat.eq_zero_or_pos width with rfl | hwidth
      · rw [places_one hm, places_one hn, List.singleton_append, List.singleton_append,
          List.cons_lt_cons_iff, digitChar_lt_iff hm hn, digitChar_inj hm hn]
      · rw [pow_succ] at hm hn
        rw [places_succ hwidth, places_succ hwidth, List.append_assoc, List.append_assoc,
          List.singleton_append, List.singleton_append, ih (by omega) (by omega) hwidth,
          List.cons_lt_cons_iff, digitChar_lt_iff (by omega) (by omega),
          digitChar_inj (by omega) (by omega)]
        have hlt : m < n ↔ m / 10 < n / 10 ∨ m / 10 = n / 10 ∧ m % 10 < n % 10 := by omega
        have heq : m = n ↔ m / 10 = n / 10 ∧ m % 10 = n % 10 := by omega
        rw [hlt, heq, and_or_left, or_assoc, and_assoc]

theorem places_append_cons_lt_iff {width m n : Nat} {c : Char} {s t : List Char}
    (hm : m < 10 ^ width) (hn : n < 10 ^ width) (hwidth : 0 < width) :
    places width m ++ c :: s < places width n ++ c :: t ↔ m < n ∨ m = n ∧ s < t := by
  rw [places_append_lt_iff hm hn hwidth, List.cons_lt_cons_iff]
  simp

theorem yearText_zero {y : Int} (hy : 0 ≤ y ∧ y ≤ 9999) :
    yearText .zero y = places 4 y.toNat := by
  have hsign : ¬ y < 0 := by omega
  have habs : y.natAbs = y.toNat := by omega
  rw [yearText, if_pos (by omega)]
  simp [wide, hsign, habs, places]

theorem twoPlaces_zero {n : Nat} (hn : n < 10 ^ 2) : twoPlaces .zero n = places 2 n := by
  have hdigit : ∀ d < 10, Char.ofNat (48 + d) = Nat.digitChar d := by decide
  have hbyte : ((n : Int) % 256).toNat = n := by omega
  rw [places_succ (by decide), places_one (by omega), ← hdigit _ (by omega), ← hdigit _ (by omega)]
  simp [twoPlaces, hbyte]

/-- Year, month, day, hour, minute and second in fixed places. -/
def sortable (t : LocalTime) : List Char :=
  places 4 t.day.year.toNat ++ '-' :: (places 2 t.day.month ++ '-' ::
    (places 2 t.day.dayOfMonth.toNat ++ ' ' :: (places 2 t.hour ++ ':' ::
      (places 2 t.minute ++ ':' :: places 2 t.secondOfMinute))))

/-- A time of a day in a year that four digits can hold. -/
structure IsPlain (t : LocalTime) : Prop where
  year : 0 ≤ t.day.year ∧ t.day.year ≤ 9999
  second : t.second < 86400

variable {t t' : LocalTime} {d : Day}

theorem isPlain_startOf (h : 0 ≤ d.year ∧ d.year ≤ 9999) : (startOf d).IsPlain :=
  ⟨h, Nat.zero_lt_succ 86399⟩

theorem isPlain_endOf (h : 0 ≤ d.year ∧ d.year ≤ 9999) : (endOf d).IsPlain :=
  ⟨h, Nat.lt_succ_self 86399⟩

theorem IsPlain.fits (h : t.IsPlain) : t.day.year.toNat < 10 ^ 4 ∧ t.day.month < 10 ^ 2 ∧
    t.day.dayOfMonth.toNat < 10 ^ 2 ∧ t.hour < 10 ^ 2 ∧ t.minute < 10 ^ 2 ∧
    t.secondOfMinute < 10 ^ 2 := by
  have hyear := h.year
  have hsecond := h.second
  have hmonth := t.day.month_spec.1
  have hday := t.day.dayOfMonth_bounds
  simp only [hour, minute, secondOfMinute]
  omega

theorem format?_default (h : t.IsPlain) :
    t.format? Settings.default.dates.pattern = some (String.ofList t.sortable) := by
  have hitems : PatternItem.parse? Settings.default.dates.pattern.toList =
      some [.number .year .zero, .text ['-'], .number .month .zero, .text ['-'],
        .number .day .zero, .text [' '], .number .hour .zero, .text [':'], .number .minute .zero,
        .text [':'], .number .second .zero] := by
    decide
  obtain ⟨-, hmonth, hday, hhour, hminute, hsecond⟩ := h.fits
  have hcast : (t.day.dayOfMonth.toNat : Int) = t.day.dayOfMonth :=
    Int.toNat_of_nonneg (Int.le_trans (by decide) t.day.dayOfMonth_bounds.1)
  rw [format?, hitems, Option.bind_some]
  simp only [itemsText?, itemText?, numberText]
  rw [yearText_zero h.year, ← hcast, twoPlaces_zero hmonth, twoPlaces_zero hday,
    twoPlaces_zero hhour, twoPlaces_zero hminute, twoPlaces_zero hsecond]
  simp [sortable]

theorem IsPlain.epoch_iff (h : t.IsPlain) (h' : t'.IsPlain) :
    (t.day.epoch < t'.day.epoch ↔ t.day.year.toNat < t'.day.year.toNat ∨
        t.day.year.toNat = t'.day.year.toNat ∧ (t.day.month < t'.day.month ∨
          t.day.month = t'.day.month ∧ t.day.dayOfMonth.toNat < t'.day.dayOfMonth.toNat)) ∧
      (t.day.epoch = t'.day.epoch ↔ t.day.year.toNat = t'.day.year.toNat ∧
        t.day.month = t'.day.month ∧ t.day.dayOfMonth.toNat = t'.day.dayOfMonth.toNat) := by
  have hyear := h.year
  have hyear' := h'.year
  have hday := t.day.dayOfMonth_bounds
  have hday' := t'.day.dayOfMonth_bounds
  have hbefore : t.day.epoch < t'.day.epoch ↔ _ := Day.epoch_lt_iff
  have hafter : t'.day.epoch < t.day.epoch ↔ _ := Day.epoch_lt_iff
  constructor
  · omega
  · omega

/-- Plain times are in the order of their texts. -/
theorem sortable_lt_iff (h : t.IsPlain) (h' : t'.IsPlain) :
    t.sortable < t'.sortable ↔ t.day.epoch < t'.day.epoch ∨
      t.day.epoch = t'.day.epoch ∧ t.second < t'.second := by
  obtain ⟨hyear, hmonth, hday, hhour, hminute, hsecond⟩ := h.fits
  obtain ⟨hyear', hmonth', hday', hhour', hminute', hsecond'⟩ := h'.fits
  have hlast : places 2 t.secondOfMinute < places 2 t'.secondOfMinute ↔
      t.secondOfMinute < t'.secondOfMinute := by
    simpa using places_append_lt_iff (s := []) (t := []) hsecond hsecond' (by decide)
  rw [sortable, sortable, places_append_cons_lt_iff hyear hyear' (by decide),
    places_append_cons_lt_iff hmonth hmonth' (by decide),
    places_append_cons_lt_iff hday hday' (by decide),
    places_append_cons_lt_iff hhour hhour' (by decide),
    places_append_cons_lt_iff hminute hminute' (by decide), hlast]
  have htime : t.second < t'.second ↔ t.hour < t'.hour ∨ t.hour = t'.hour ∧
      (t.minute < t'.minute ∨ t.minute = t'.minute ∧ t.secondOfMinute < t'.secondOfMinute) := by
    simp only [hour, minute, secondOfMinute]
    omega
  obtain ⟨hbefore, hsame⟩ := h.epoch_iff h'
  rw [hbefore, hsame, htime]
  simp only [and_or_left, or_assoc, and_assoc]

end Calendar.LocalTime

open Calendar

namespace Period

theorem le_text_and_text_le_iff {t : LocalTime} {first last : Day} (h : t.IsPlain)
    (hfirst : 0 ≤ first.year ∧ first.year ≤ 9999) (hlast : 0 ≤ last.year ∧ last.year ≤ 9999) :
    String.ofList (LocalTime.startOf first).sortable ≤ String.ofList t.sortable ∧
        String.ofList t.sortable ≤ String.ofList (LocalTime.endOf last).sortable ↔
      first ≤ t.day ∧ t.day ≤ last := by
  -- Texts are compared by their first different characters.
  have hle (a b : List Char) : String.ofList a ≤ String.ofList b ↔ ¬ b < a := by
    change ¬ (String.ofList b).toList < (String.ofList a).toList ↔ _
    rw [String.toList_ofList, String.toList_ofList]
  have hstart := LocalTime.isPlain_startOf hfirst
  have hend := LocalTime.isPlain_endOf hlast
  have hsecond := h.second
  rw [hle, hle, LocalTime.sortable_lt_iff h hstart, LocalTime.sortable_lt_iff hend h]
  simp only [LocalTime.startOf, LocalTime.endOf, Day.le_iff]
  omega

variable {period : Period} {count : Nat} {instant : Int} {zone : Zone} {low high : String}
  {first last : Day}

/-- In the pattern that is meant by default, and in years that four digits can hold, the texts from
the one end of a period to the other are the texts of the times on its days. -/
theorem le_text_and_text_le_iff_covers
    (hrange : period.textRange? count instant zone Settings.default.dates.pattern =
      some (low, high))
    (hdays : period.days? (zone.dayAt instant) count = some (first, last))
    (hfirst : 0 ≤ first.year ∧ first.year ≤ 9999) (hlast : 0 ≤ last.year ∧ last.year ≤ 9999)
    {t : LocalTime} (h : t.IsPlain) :
    ∃ text, t.format? Settings.default.dates.pattern = some text ∧
      (low ≤ text ∧ text ≤ high ↔ period.Covers (zone.dayAt instant) count t.day) := by
  refine ⟨_, LocalTime.format?_default h, ?_⟩
  have hstart := LocalTime.isPlain_startOf hfirst
  have hend := LocalTime.isPlain_endOf hlast
  obtain ⟨rfl, rfl⟩ : String.ofList (LocalTime.startOf first).sortable = low ∧
      String.ofList (LocalTime.endOf last).sortable = high := by
    simpa [textRange?, hdays, LocalTime.format?_default hstart, LocalTime.format?_default hend]
      using hrange
  rw [le_text_and_text_le_iff h hfirst hlast, covers_iff_ends, ends_eq_of_days? hdays]

theorem le_text_and_text_le_iff_covers_auckland :
    let first := monthStart 2024 2
    let last := first.add 28
    let t := LocalTime.endOf last
    Period.lastMonth.textRange? 0 1709208000 .auckland Settings.default.dates.pattern =
        some ("2024-02-01 00:00:00", "2024-02-29 23:59:59") ∧
      Period.lastMonth.days? (Zone.auckland.dayAt 1709208000) 0 = some (first, last) ∧
      (first.year = 2024 ∧ last.year = 2024) ∧ t.IsPlain ∧
      ∃ text, t.format? Settings.default.dates.pattern = some text ∧
        ("2024-02-01 00:00:00" ≤ text ∧ text ≤ "2024-02-29 23:59:59" ↔
          Period.lastMonth.Covers (Zone.auckland.dayAt 1709208000) 0 t.day) := by
  intro first last t
  have hrange : Period.lastMonth.textRange? 0 1709208000 .auckland Settings.default.dates.pattern =
      some ("2024-02-01 00:00:00", "2024-02-29 23:59:59") := by
    decide +kernel
  have hdays : Period.lastMonth.days? (Zone.auckland.dayAt 1709208000) 0 = some (first, last) := by
    decide +kernel
  have hyears : first.year = 2024 ∧ last.year = 2024 := by decide
  have hplain : t.IsPlain := ⟨by decide, by decide⟩
  exact ⟨hrange, hdays, hyears, hplain,
    le_text_and_text_le_iff_covers hrange hdays (by decide) (by decide) hplain⟩

end Period

end RequestQuery
