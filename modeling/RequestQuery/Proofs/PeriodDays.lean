import RequestQuery.Proofs.CivilCalendar

namespace RequestQuery

namespace Calendar

namespace Day

variable {d d' monday : Day}

theorem le_iff : d ≤ d' ↔ d.epoch ≤ d'.epoch :=
  Iff.rfl

theorem eq_iff : d = d' ↔ d.epoch = d'.epoch := by
  obtain ⟨n⟩ := d
  obtain ⟨n'⟩ := d'
  rw [mk.injEq]

theorem eq_some_of_within?_bind {α : Type} {f : Day → Option α} {a : α}
    (h : d.within?.bind f = some a) : f d = some a := by
  rw [within?] at h
  split at h
  · exact h
  · cases h

/-- A day lies in the week that begins with the given Monday. -/
def InWeek (monday d : Day) : Prop :=
  monday.weekday = 0 ∧ monday ≤ d ∧ d ≤ monday.add 6

theorem inWeek_iff : InWeek monday d ↔ monday = d.monday := by
  simp only [InWeek, eq_iff, le_iff, Day.monday, weekday, epoch_add]
  omega

end Day

end Calendar

open Calendar

namespace Period

/-- What it means that a day belongs to a period as seen from `today`. -/
def Covers (period : Period) (today : Day) (count : Nat) (d : Day) : Prop :=
  match period with
  | .today => d = today
  | .yesterday => d.add 1 = today
  | .thisWeek => ∃ monday, Day.InWeek monday today ∧ Day.InWeek monday d
  | .lastWeek => ∃ monday, Day.InWeek (monday.add 7) today ∧ Day.InWeek monday d
  | .thisMonth => d.year = today.year ∧ d.month = today.month
  | .lastMonth =>
    if today.month = 1 then d.year + 1 = today.year ∧ d.month = 12
    else d.year = today.year ∧ d.month + 1 = today.month
  | .thisYear => d.year = today.year
  | .lastYear => d.year + 1 = today.year
  | .lastDays => today.add (-count) ≤ d ∧ d ≤ today
  | .nextDays => today ≤ d ∧ d ≤ today.add count

/-- The period that follows on one of the past. -/
def current? : Period → Option Period
  | .yesterday => some .today
  | .lastWeek => some .thisWeek
  | .lastMonth => some .thisMonth
  | .lastYear => some .thisYear
  | _ => none

/-- The first and the last day of a period, in the calendar or not. -/
def ends (period : Period) (today : Day) (count : Nat) : Day × Day :=
  match period with
  | .today => (today, today)
  | .yesterday => (today.add (-1), today.add (-1))
  | .thisWeek => (today.monday, today.monday.add 6)
  | .lastWeek => (today.monday.add (-7), today.monday.add (-1))
  | .thisMonth =>
    (firstOfMonth today.monthNumber, (firstOfMonth (today.monthNumber + 1)).add (-1))
  | .lastMonth =>
    (firstOfMonth (today.monthNumber - 1), (firstOfMonth today.monthNumber).add (-1))
  | .thisYear => (⟨yearStart today.year⟩, ⟨yearStart (today.year + 1) - 1⟩)
  | .lastYear => (⟨yearStart (today.year - 1)⟩, ⟨yearStart today.year - 1⟩)
  | .lastDays => (today.add (-count), today)
  | .nextDays => (today, today.add count)

variable {period current : Period} {today first last : Day} {count : Nat}

theorem ends_eq_of_days? (h : period.days? today count = some (first, last)) :
    period.ends today count = (first, last) := by
  have h := Day.eq_some_of_within?_bind h
  cases period with
  | today | thisYear => exact Option.some.inj h
  | yesterday | thisWeek | lastYear | lastDays | nextDays =>
      exact Option.some.inj (Day.eq_some_of_within?_bind h)
  | lastWeek =>
      have h := Day.eq_some_of_within?_bind h
      exact Option.some.inj (Day.eq_some_of_within?_bind h)
  | thisMonth | lastMonth =>
      have h := Day.eq_some_of_within?_bind h
      rw [shiftMonth_eq, monthNumber_startOfMonth, startOfMonth_eq_firstOfMonth] at h
      exact Option.some.inj h

theorem covers_thisMonth_iff {d : Day} :
    Covers .thisMonth today count d ↔ d.monthNumber = today.monthNumber := by
  have hmonth := d.month_spec.1
  have hmonth' := today.month_spec.1
  rw [Covers, Day.monthNumber, Day.monthNumber]
  omega

theorem covers_lastMonth_iff {d : Day} :
    Covers .lastMonth today count d ↔ d.monthNumber = today.monthNumber - 1 := by
  have hmonth := d.month_spec.1
  have hmonth' := today.month_spec.1
  rw [Covers, Day.monthNumber, Day.monthNumber]
  split <;> omega

theorem covers_iff_ends (period : Period) (today : Day) (count : Nat) (d : Day) :
    period.Covers today count d ↔
      (period.ends today count).1 ≤ d ∧ d ≤ (period.ends today count).2 := by
  cases period with
  | today | yesterday =>
      simp only [Covers, ends, Day.eq_iff, Day.le_iff, Day.epoch_add]
      omega
  | thisWeek | lastWeek =>
      -- There is one Monday that can begin the week, which is found first.
      simp only [Covers, ends, Day.inWeek_iff, exists_eq_right]
      simp only [Day.eq_iff, Day.le_iff, Day.monday, Day.weekday, Day.epoch_add]
      omega
  | thisMonth =>
      rw [covers_thisMonth_iff, Day.monthNumber_eq_iff]
      simp only [ends, Day.le_iff, Day.epoch_add]
      omega
  | lastMonth =>
      rw [covers_lastMonth_iff, Day.monthNumber_eq_iff, Int.sub_add_cancel]
      simp only [ends, Day.le_iff, Day.epoch_add]
      omega
  | thisYear =>
      simp only [Covers, ends, Day.le_iff, Day.year_eq_iff]
      omega
  | lastYear =>
      have hyear : d.year + 1 = today.year ↔ d.year = today.year - 1 := by omega
      rw [Covers, hyear, Day.year_eq_iff, Int.sub_add_cancel]
      simp only [ends, Day.le_iff]
      omega
  | lastDays | nextDays => exact Iff.rfl

theorem ends_fst_le_snd (period : Period) (today : Day) (count : Nat) :
    (period.ends today count).1 ≤ (period.ends today count).2 := by
  cases period with
  | today | yesterday => exact Int.le_refl _
  | thisWeek | lastWeek | lastDays | nextDays =>
      simp only [ends, Day.le_iff, Day.epoch_add]
      omega
  | thisMonth =>
      have hmonth := epoch_firstOfMonth_lt today.monthNumber
      simp only [ends, Day.le_iff, Day.epoch_add]
      omega
  | lastMonth =>
      have hmonth := epoch_firstOfMonth_lt (today.monthNumber - 1)
      rw [Int.sub_add_cancel] at hmonth
      simp only [ends, Day.le_iff, Day.epoch_add]
      omega
  | thisYear =>
      have hyear := yearStart_add_le today.year
      simp only [ends, Day.le_iff]
      omega
  | lastYear =>
      have hyear := yearStart_add_le (today.year - 1)
      rw [Int.sub_add_cancel] at hyear
      simp only [ends, Day.le_iff]
      omega

theorem ends_snd_add_one (h : period.current? = some current) (today : Day) (count n : Nat) :
    (period.ends today count).2.add 1 = (current.ends today n).1 := by
  cases period with
  | yesterday | lastWeek | lastMonth | lastYear =>
      obtain rfl := Option.some.inj h
      simp only [ends, Day.eq_iff, Day.epoch_add]
      omega
  | _ => cases h

/-- A period that is not refused goes from its first day to its last. Its first day is not after its
last, and a past period ends on the day before the current one begins. -/
theorem le_and_le_iff_covers (h : period.days? today count = some (first, last)) :
    (∀ d, first ≤ d ∧ d ≤ last ↔ period.Covers today count d) ∧ first ≤ last ∧
      ∀ current, period.current? = some current → ∀ n first' last',
        current.days? today n = some (first', last') → last.add 1 = first' := by
  have hends := ends_eq_of_days? h
  refine ⟨fun d => ?_, ?_, fun current hcurrent n first' last' h' => ?_⟩
  · rw [covers_iff_ends, hends]
  · simpa only [hends] using period.ends_fst_le_snd today count
  · simpa only [hends, ends_eq_of_days? h'] using ends_snd_add_one hcurrent today count n

theorem le_and_le_iff_covers_lastMonth :
    let today := (monthStart (-4) 1).add 30
    let first := monthStart (-5) 12
    let last := first.add 30
    Period.lastMonth.days? today 0 = some (first, last) ∧
      Period.thisMonth.days? today 0 = some (monthStart (-4) 1, today) ∧
      (∀ d, first ≤ d ∧ d ≤ last ↔ d.year + 1 = -4 ∧ d.month = 12) ∧
      last.add 1 = monthStart (-4) 1 := by
  intro today first last
  have hdays : Period.lastMonth.days? today 0 = some (first, last) := by decide +kernel
  have hcurrent : Period.thisMonth.days? today 0 = some (monthStart (-4) 1, today) := by
    decide +kernel
  obtain ⟨hcovers, -, hnext⟩ := le_and_le_iff_covers hdays
  exact ⟨hdays, hcurrent, hcovers, hnext .thisMonth rfl 0 _ _ hcurrent⟩

end Period

end RequestQuery
