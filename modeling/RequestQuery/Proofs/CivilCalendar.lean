import RequestQuery.Calendar.Period

namespace RequestQuery.Calendar

theorem yearStart_succ (y : Int) :
    yearStart (y + 1) = yearStart y + if isLeap y then 366 else 365 := by
  unfold yearStart isLeap
  simp only [Bool.and_eq_true, Bool.or_eq_true, beq_iff_eq, bne_iff_ne, ne_eq]
  split <;> omega

theorem yearStart_parts {q c o y : Int} (hc : 0 ≤ c ∧ c ≤ 3) (ho : 0 ≤ o ∧ o ≤ 24)
    (hy : 0 ≤ y ∧ y ≤ 3) :
    yearStart (400 * q + 100 * c + 4 * o + y + 1) =
      146097 * q + 36524 * c + 1461 * o + 365 * y - 719162 := by
  unfold yearStart
  omega

theorem yearStart_add_le (y : Int) : yearStart y + 365 ≤ yearStart (y + 1) := by
  rw [yearStart_succ]
  split <;> omega

theorem yearStart_mono {a b : Int} (h : a ≤ b) : yearStart a ≤ yearStart b := by
  unfold yearStart
  omega

@[simp] theorem daysBeforeMonth_one (leap : Bool) : daysBeforeMonth leap 1 = 0 := by
  cases leap <;> rfl

theorem daysBeforeMonth_lt_iff (leap : Bool) {m n : Nat} (hm : 1 ≤ m ∧ m ≤ 13)
    (hn : 1 ≤ n ∧ n ≤ 13) : daysBeforeMonth leap m < daysBeforeMonth leap n ↔ m < n := by
  have hall : ∀ leap, ∀ m ≤ 13, ∀ n ≤ 13, 1 ≤ m → 1 ≤ n →
      (daysBeforeMonth leap m < daysBeforeMonth leap n ↔ m < n) := by
    decide
  exact hall leap m hm.2 n hn.2 hm.1 hn.1

theorem yearStart_succ_eq (y : Int) :
    yearStart (y + 1) = yearStart y + daysBeforeMonth (isLeap y) 13 := by
  rw [yearStart_succ]
  cases isLeap y <;> rfl

namespace Day

/-- A day by centuries, olympiads and years of its cycle, and by the days left over. -/
theorem exists_parts (d : Day) : ∃ q c o y r, (0 ≤ c ∧ c ≤ 3) ∧ (0 ≤ o ∧ o ≤ 24) ∧
    (0 ≤ y ∧ y ≤ 3) ∧ 0 ≤ r ∧ (r ≤ 364 ∨ r = 365 ∧ y = 3 ∧ (o ≤ 23 ∨ c = 3)) ∧
    d.year = 400 * q + 100 * c + 4 * o + y + 1 ∧
    d.epoch = 146097 * q + 36524 * c + 1461 * o + 365 * y + r - 719162 := by
  simp only [year]
  generalize hn : d.epoch + 719162 = n
  generalize hq : n / 146097 = q
  generalize hr : n % 146097 = r
  generalize hc : min (r / 36524) 3 = c
  generalize hr' : r - 36524 * c = r'
  generalize ho : r' / 1461 = o
  generalize hs : r' % 1461 = s
  generalize hy : min (s / 365) 3 = y
  -- Each quotient is bounded before the next is looked at; all at once they are too many.
  have hcycle : n = 146097 * q + r := by omega
  have hcentury : (0 ≤ c ∧ c ≤ 3) ∧ r' = r - 36524 * c ∧ 0 ≤ r' ∧ r' ≤ 36524 ∧
      (r' = 36524 → c = 3) := by
    omega
  have holympiad : (0 ≤ o ∧ o ≤ 24) ∧ 0 ≤ s ∧ s ≤ 1460 ∧ r' = 1461 * o + s := by omega
  have hyear : (0 ≤ y ∧ y ≤ 3) ∧ 0 ≤ s - 365 * y ∧ (s - 365 * y ≤ 364 ∨ s = 1460 ∧ y = 3) := by
    omega
  clear hq hr hc hr' ho hs hy
  refine ⟨q, c, o, y, s - 365 * y, hcentury.1, holympiad.1, hyear.1, hyear.2.1, ?_, rfl, ?_⟩
  · rcases hyear.2.2 with hcommon | ⟨rfl, rfl⟩
    · exact .inl hcommon
    · omega
  · omega

theorem yearStart_year_le (d : Day) : yearStart d.year ≤ d.epoch := by
  obtain ⟨q, c, o, y, r, hc, ho, hy, hr, -, hyear, hepoch⟩ := d.exists_parts
  rw [hyear, hepoch, yearStart_parts hc ho hy]
  omega

theorem lt_yearStart_year_succ (d : Day) : d.epoch < yearStart (d.year + 1) := by
  obtain ⟨q, c, o, y, r, hc, ho, hy, hr, hlast, hyear, hepoch⟩ := d.exists_parts
  have hstart := yearStart_parts (q := q) hc ho hy
  rw [← hyear] at hstart
  rcases hlast with hlast | ⟨rfl, rfl, hleap⟩
  · have hnext := yearStart_add_le d.year
    omega
  · have hleap : isLeap d.year = true := by
      rw [hyear]
      simp only [isLeap, Bool.and_eq_true, Bool.or_eq_true, beq_iff_eq, bne_iff_ne, ne_eq]
      constructor
      · omega
      · omega
    rw [yearStart_succ, if_pos hleap]
    omega

theorem le_year_iff {d : Day} {y : Int} : y ≤ d.year ↔ yearStart y ≤ d.epoch := by
  constructor
  · intro h
    exact Int.le_trans (yearStart_mono h) d.yearStart_year_le
  · intro h
    apply Int.not_lt.mp
    intro hlt
    have hstart : yearStart (d.year + 1) ≤ yearStart y := yearStart_mono hlt
    have hend := d.lt_yearStart_year_succ
    omega

theorem year_lt_iff {d : Day} {y : Int} : d.year < y ↔ d.epoch < yearStart y := by
  rw [← Int.not_le, ← Int.not_le, le_year_iff]

theorem year_eq_iff {d : Day} {y : Int} :
    d.year = y ↔ yearStart y ≤ d.epoch ∧ d.epoch < yearStart (y + 1) := by
  rw [← le_year_iff, ← year_lt_iff]
  omega

theorem inCalendar_iff {d : Day} : d.inCalendar = true ↔ -262143 ≤ d.year ∧ d.year ≤ 262142 := by
  have hlatest : d.year ≤ 262142 ↔ d.epoch ≤ yearStart 262143 - 1 := by
    rw [← Int.lt_add_one_iff, year_lt_iff, ← Int.lt_add_one_iff, Int.sub_add_cancel]
    exact Iff.rfl
  rw [le_year_iff, hlatest, inCalendar, Bool.and_eq_true, decide_eq_true_iff, decide_eq_true_iff]
  exact Iff.rfl

theorem within?_eq_some {d : Day} (h : -262143 ≤ d.year ∧ d.year ≤ 262142) :
    d.within? = some d :=
  if_pos (inCalendar_iff.mpr h)

@[simp] theorem epoch_add (d : Day) (n : Int) : (d.add n).epoch = d.epoch + n :=
  rfl

theorem add_add (d : Day) (m n : Int) : (d.add m).add n = d.add (m + n) := by
  simp only [add, Int.add_assoc]

theorem year_add {d : Day} {n : Int} (hn : -365 ≤ n ∧ n ≤ 365) :
    d.year - 1 ≤ (d.add n).year ∧ (d.add n).year < d.year + 2 := by
  have hbefore := yearStart_add_le (d.year - 1)
  have hafter := yearStart_add_le (d.year + 1)
  have hstart := d.yearStart_year_le
  have hend := d.lt_yearStart_year_succ
  rw [Int.sub_add_cancel] at hbefore
  have htwo : d.year + 2 = d.year + 1 + 1 := by omega
  rw [le_year_iff, year_lt_iff, htwo, epoch_add]
  omega

theorem year_yearStart (y : Int) : (Day.mk (yearStart y)).year = y := by
  have hnext := yearStart_add_le y
  exact year_eq_iff.mpr ⟨Int.le_refl _, by simp only; omega⟩

theorem dayOfYear_bounds (d : Day) :
    0 ≤ d.dayOfYear ∧ d.dayOfYear < daysBeforeMonth (isLeap d.year) 13 := by
  have hstart := d.yearStart_year_le
  have hend := d.lt_yearStart_year_succ
  rw [yearStart_succ_eq] at hend
  rw [dayOfYear]
  omega

theorem month_spec (d : Day) : (1 ≤ d.month ∧ d.month ≤ 12) ∧
    daysBeforeMonth (isLeap d.year) d.month ≤ d.dayOfYear ∧
      d.dayOfYear < daysBeforeMonth (isLeap d.year) (d.month + 1) := by
  obtain ⟨hlow, hhigh⟩ := d.dayOfYear_bounds
  simp only [month]
  cases hfind : (List.range 12).find? fun m =>
      decide (d.dayOfYear < daysBeforeMonth (isLeap d.year) (m + 2)) with
  | none =>
      have hlast := List.find?_eq_none.mp hfind 11 (by decide)
      exact absurd hhigh (by simpa using hlast)
  | some k =>
      obtain ⟨hbelow, hmem, hearlier⟩ := List.find?_range_eq_some.mp hfind
      rw [List.mem_range] at hmem
      rw [Option.getD_some]
      refine ⟨⟨by omega, by omega⟩, ?_, of_decide_eq_true hbelow⟩
      cases k with
      | zero => simpa using hlow
      | succ k => simpa using hearlier k (by omega)

theorem month_eq_iff {d : Day} {m : Nat} (hm : 1 ≤ m ∧ m ≤ 12) :
    d.month = m ↔ daysBeforeMonth (isLeap d.year) m ≤ d.dayOfYear ∧
      d.dayOfYear < daysBeforeMonth (isLeap d.year) (m + 1) := by
  obtain ⟨hmonth, hlow, hhigh⟩ := d.month_spec
  constructor
  · rintro rfl
    exact ⟨hlow, hhigh⟩
  · rintro ⟨hlow', hhigh'⟩
    have hle : m < d.month + 1 := (daysBeforeMonth_lt_iff (isLeap d.year) (by omega) (by omega)).mp
      (Int.lt_of_le_of_lt hlow' hhigh)
    have hge : d.month < m + 1 := (daysBeforeMonth_lt_iff (isLeap d.year) (by omega) (by omega)).mp
      (Int.lt_of_le_of_lt hlow hhigh')
    omega

end Day

section MonthStart

variable {y : Int} {m : Nat}

@[simp] theorem epoch_monthStart (y : Int) (m : Nat) :
    (monthStart y m).epoch = yearStart y + daysBeforeMonth (isLeap y) m :=
  rfl

theorem year_monthStart (hm : 1 ≤ m ∧ m ≤ 12) : (monthStart y m).year = y := by
  have hstart : daysBeforeMonth (isLeap y) 1 ≤ daysBeforeMonth (isLeap y) m := by
    rw [← Int.not_lt, daysBeforeMonth_lt_iff (isLeap y) (by omega) (by omega)]
    omega
  have hend : daysBeforeMonth (isLeap y) m < daysBeforeMonth (isLeap y) 13 := by
    rw [daysBeforeMonth_lt_iff (isLeap y) (by omega) (by omega)]
    omega
  rw [daysBeforeMonth_one] at hstart
  rw [Day.year_eq_iff, yearStart_succ_eq, epoch_monthStart]
  omega

theorem dayOfYear_monthStart (hm : 1 ≤ m ∧ m ≤ 12) :
    (monthStart y m).dayOfYear = daysBeforeMonth (isLeap y) m := by
  rw [Day.dayOfYear, year_monthStart hm, epoch_monthStart]
  omega

theorem month_monthStart (hm : 1 ≤ m ∧ m ≤ 12) : (monthStart y m).month = m := by
  rw [Day.month_eq_iff hm, dayOfYear_monthStart hm, year_monthStart hm,
    daysBeforeMonth_lt_iff (isLeap y) (by omega) (by omega)]
  exact ⟨Int.le_refl _, Nat.lt_succ_self m⟩

theorem year_startOfMonth (d : Day) : d.startOfMonth.year = d.year :=
  year_monthStart d.month_spec.1

theorem month_startOfMonth (d : Day) : d.startOfMonth.month = d.month :=
  month_monthStart d.month_spec.1

theorem year_shiftMonth (d : Day) (n : Int) :
    (shiftMonth d n).year = (12 * d.year + (d.month - 1 : Nat) + n) / 12 := by
  rw [shiftMonth]
  exact year_monthStart (by omega)

end MonthStart

section MonthNumber

/-- The number of the month of a day when all months are counted on, twelve to a year. -/
def Day.monthNumber (d : Day) : Int :=
  12 * d.year + (d.month - 1 : Nat)

/-- The first day of the month with the number. -/
def firstOfMonth (k : Int) : Day :=
  monthStart (k / 12) ((k % 12).toNat + 1)

variable {d : Day} {k : Int}

theorem shiftMonth_eq (d : Day) (n : Int) : shiftMonth d n = firstOfMonth (d.monthNumber + n) :=
  rfl

theorem Day.year_eq_and_month_eq_iff {y : Int} {m : Nat} (hm : 1 ≤ m ∧ m ≤ 12) :
    d.year = y ∧ d.month = m ↔ (monthStart y m).epoch ≤ d.epoch ∧
      d.epoch < yearStart y + daysBeforeMonth (isLeap y) (m + 1) := by
  have hfirst : 0 ≤ daysBeforeMonth (isLeap y) m := by
    rw [← daysBeforeMonth_one (isLeap y), ← Int.not_lt,
      daysBeforeMonth_lt_iff (isLeap y) (by omega) (by omega)]
    omega
  have hlast : daysBeforeMonth (isLeap y) (m + 1) ≤ daysBeforeMonth (isLeap y) 13 := by
    rw [← Int.not_lt, daysBeforeMonth_lt_iff (isLeap y) (by omega) (by omega)]
    omega
  rw [epoch_monthStart]
  constructor
  · rintro ⟨rfl, rfl⟩
    have hmonth := d.month_spec.2
    rw [dayOfYear] at hmonth
    omega
  · intro h
    have hyear : d.year = y := by
      rw [year_eq_iff, yearStart_succ_eq]
      omega
    subst hyear
    refine ⟨rfl, (month_eq_iff hm).mpr ?_⟩
    rw [dayOfYear]
    omega

theorem epoch_firstOfMonth_succ (k : Int) : (firstOfMonth (k + 1)).epoch =
    yearStart (k / 12) + daysBeforeMonth (isLeap (k / 12)) ((k % 12).toNat + 1 + 1) := by
  by_cases hlast : k % 12 = 11
  · have hyear : (k + 1) / 12 = k / 12 + 1 := by omega
    have hmonth : (k + 1) % 12 = 0 := by omega
    rw [firstOfMonth, hyear, hmonth, hlast, epoch_monthStart, yearStart_succ_eq]
    simp
  · have hyear : (k + 1) / 12 = k / 12 := by omega
    have hmonth : ((k + 1) % 12).toNat = (k % 12).toNat + 1 := by omega
    rw [firstOfMonth, hyear, hmonth, epoch_monthStart]

theorem Day.monthNumber_eq_iff :
    d.monthNumber = k ↔ (firstOfMonth k).epoch ≤ d.epoch ∧
      d.epoch < (firstOfMonth (k + 1)).epoch := by
  have hparts : d.monthNumber = k ↔ d.year = k / 12 ∧ d.month = (k % 12).toNat + 1 := by
    have hmonth := d.month_spec.1
    rw [monthNumber]
    omega
  rw [hparts, year_eq_and_month_eq_iff (by omega), epoch_firstOfMonth_succ]
  exact Iff.rfl

theorem startOfMonth_eq_firstOfMonth (d : Day) : d.startOfMonth = firstOfMonth d.monthNumber := by
  have hmonth := d.month_spec.1
  have hyear : d.monthNumber / 12 = d.year := by
    rw [Day.monthNumber]
    omega
  have hnumber : (d.monthNumber % 12).toNat + 1 = d.month := by
    rw [Day.monthNumber]
    omega
  rw [firstOfMonth, hyear, hnumber, Day.startOfMonth]

theorem monthNumber_startOfMonth (d : Day) : d.startOfMonth.monthNumber = d.monthNumber := by
  rw [Day.monthNumber, year_startOfMonth, month_startOfMonth, Day.monthNumber]

theorem monthNumber_firstOfMonth (k : Int) : (firstOfMonth k).monthNumber = k := by
  have hmonth : 1 ≤ (k % 12).toNat + 1 ∧ (k % 12).toNat + 1 ≤ 12 := by omega
  rw [Day.monthNumber, firstOfMonth, year_monthStart hmonth, month_monthStart hmonth]
  omega

theorem epoch_firstOfMonth_lt (k : Int) : (firstOfMonth k).epoch < (firstOfMonth (k + 1)).epoch :=
  (Day.monthNumber_eq_iff.mp (monthNumber_firstOfMonth k)).2

end MonthNumber

namespace Day

variable {d d' : Day}

theorem epoch_lt_of_year_lt (h : d.year < d'.year) : d.epoch < d'.epoch :=
  Int.lt_of_lt_of_le d.lt_yearStart_year_succ (le_year_iff.mp h)

theorem epoch_lt_of_month_lt (hyear : d.year = d'.year) (h : d.month < d'.month) :
    d.epoch < d'.epoch := by
  obtain ⟨hmonth, -, hend⟩ := d.month_spec
  obtain ⟨hmonth', hstart, -⟩ := d'.month_spec
  have hbetween : daysBeforeMonth (isLeap d.year) (d.month + 1) ≤
      daysBeforeMonth (isLeap d.year) d'.month := by
    rw [← Int.not_lt, daysBeforeMonth_lt_iff (isLeap d.year) (by omega) (by omega)]
    omega
  rw [hyear] at hend hbetween
  rw [dayOfYear] at hend hstart
  rw [hyear] at hend
  omega

theorem epoch_lt_iff : d.epoch < d'.epoch ↔ d.year < d'.year ∨ d.year = d'.year ∧
    (d.month < d'.month ∨ d.month = d'.month ∧ d.dayOfMonth < d'.dayOfMonth) := by
  rcases Int.lt_trichotomy d.year d'.year with hyear | hyear | hyear
  · have hepoch := epoch_lt_of_year_lt hyear
    omega
  · rcases Nat.lt_trichotomy d.month d'.month with hmonth | hmonth | hmonth
    · have hepoch := epoch_lt_of_month_lt hyear hmonth
      omega
    · have hday : d.dayOfMonth < d'.dayOfMonth ↔ d.epoch < d'.epoch := by
        simp only [dayOfMonth, dayOfYear, hyear, hmonth]
        omega
      omega
    · have hepoch := epoch_lt_of_month_lt hyear.symm hmonth
      omega
  · have hepoch := epoch_lt_of_year_lt hyear
    omega

theorem dayOfMonth_bounds (d : Day) : 1 ≤ d.dayOfMonth ∧ d.dayOfMonth ≤ 31 := by
  have hall : ∀ leap, ∀ m ≤ 12, 1 ≤ m →
      daysBeforeMonth leap (m + 1) - daysBeforeMonth leap m ≤ 31 := by
    decide
  obtain ⟨hmonth, hstart, hend⟩ := d.month_spec
  have hlength := hall (isLeap d.year) d.month hmonth.2 hmonth.1
  rw [dayOfMonth]
  omega

end Day

end RequestQuery.Calendar
