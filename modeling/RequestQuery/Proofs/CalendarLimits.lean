import RequestQuery.Proofs.PeriodDays

/-!
Periods at the ends of the calendar. A period one of whose days lies outside the calendar is
refused. So are two kinds that lie in it: whatever is asked for on the first four days of the
calendar, whose week begins before it, and the last month, whose end is looked for from the first
day of the next.
-/
namespace RequestQuery

namespace Calendar

theorem epoch_earliest : Day.earliest.epoch = -96465292 := by decide

theorem epoch_latest : Day.latest.epoch = 95026236 := by decide

section

variable {d : Day} {y k : Int}

theorem Day.inCalendar_iff_epoch :
    d.inCalendar = true ↔ -96465292 ≤ d.epoch ∧ d.epoch ≤ 95026236 := by
  rw [inCalendar, Bool.and_eq_true, decide_eq_true_iff, decide_eq_true_iff, le_iff, le_iff,
    epoch_earliest, epoch_latest]

theorem Day.inCalendar_iff_monthNumber :
    d.inCalendar = true ↔ -262143 ≤ d.monthNumber / 12 ∧ d.monthNumber / 12 ≤ 262142 := by
  have hmonth := d.month_spec.1
  rw [inCalendar_iff, monthNumber]
  omega

theorem Day.within?_bind_eq_none_iff {α : Type} {f : Day → Option α} :
    d.within?.bind f = none ↔ d.inCalendar = false ∨ f d = none := by
  rw [within?]
  cases d.inCalendar <;> simp

theorem inCalendar_firstOfMonth_iff :
    (firstOfMonth k).inCalendar = true ↔ -262143 ≤ k / 12 ∧ k / 12 ≤ 262142 := by
  rw [Day.inCalendar_iff_monthNumber, monthNumber_firstOfMonth]

theorem inCalendar_firstOfMonth_sub_one_iff :
    ((firstOfMonth k).add (-1)).inCalendar = true ↔
      -262143 ≤ (k - 1) / 12 ∧ (k - 1) / 12 ≤ 262142 := by
  have hmonth := epoch_firstOfMonth_lt (k - 1)
  have hnumber : ((firstOfMonth k).add (-1)).monthNumber = k - 1 := by
    rw [Int.sub_add_cancel] at hmonth
    rw [Day.monthNumber_eq_iff, Int.sub_add_cancel, Day.epoch_add]
    omega
  rw [Day.inCalendar_iff_monthNumber, hnumber]

theorem inCalendar_yearStart_iff :
    (Day.mk (yearStart y)).inCalendar = true ↔ -262143 ≤ y ∧ y ≤ 262142 := by
  rw [Day.inCalendar_iff, Day.year_yearStart]

theorem inCalendar_yearStart_sub_one_iff :
    (Day.mk (yearStart y - 1)).inCalendar = true ↔ -262143 ≤ y - 1 ∧ y - 1 ≤ 262142 := by
  have hyear := yearStart_add_le (y - 1)
  have hlast : (Day.mk (yearStart y - 1)).year = y - 1 := by
    rw [Int.sub_add_cancel] at hyear
    rw [Day.year_eq_iff, Int.sub_add_cancel]
    dsimp only
    omega
  rw [Day.inCalendar_iff, hlast]

theorem Day.inCalendar_monday_eq_false_iff (h : d.inCalendar = true) :
    d.monday.inCalendar = false ↔ d ≤ earliest.add 3 := by
  rw [inCalendar_iff_epoch] at h
  rw [← Bool.not_eq_true, inCalendar_iff_epoch, monday, weekday, le_iff, epoch_add, epoch_add,
    epoch_earliest]
  omega

end

end Calendar

open Calendar

namespace Period

variable {period : Period} {today : Day} {count : Nat}

/-- The days that are looked up on the way to the ends of a period, besides the Monday of this week,
which is looked up for all of them. -/
def stops (period : Period) (today : Day) (count : Nat) : List Day :=
  match period with
  | .today | .thisYear => []
  | .yesterday => [today.add (-1)]
  | .thisWeek => [today.monday.add 6]
  | .lastWeek => [today.monday.add (-7), today.monday.add (-1)]
  | .thisMonth => [firstOfMonth (today.monthNumber + 1)]
  | .lastMonth => [firstOfMonth (today.monthNumber - 1)]
  | .lastYear => [⟨yearStart (today.year - 1)⟩]
  | .lastDays => [today.add (-count)]
  | .nextDays => [today.add count]

theorem days?_eq_none_iff_stops :
    period.days? today count = none ↔
      today.monday.inCalendar = false ∨ ∃ d ∈ period.stops today count, d.inCalendar = false := by
  cases period <;>
    simp [days?, stops, Day.within?_bind_eq_none_iff, shiftMonth_eq, monthNumber_startOfMonth,
      Int.sub_eq_add_neg, -Option.bind_eq_none_iff]

theorem exists_covers_iff_ends :
    (∃ d, period.Covers today count d ∧ d.inCalendar = false) ↔
      (period.ends today count).1.inCalendar = false ∨
        (period.ends today count).2.inCalendar = false := by
  have hle := period.ends_fst_le_snd today count
  simp only [covers_iff_ends, ← Bool.not_eq_true, Day.inCalendar_iff_epoch, Day.le_iff] at hle ⊢
  constructor
  · rintro ⟨d, hd, hout⟩
    omega
  · rintro (hout | hout)
    · exact ⟨_, ⟨Int.le_refl _, hle⟩, hout⟩
    · exact ⟨_, ⟨hle, Int.le_refl _⟩, hout⟩

/-- Seen from a day in the calendar, a period is refused exactly if one of its days lies outside,
or on the first four days of the calendar, or if it is the last month of the calendar. -/
theorem days?_eq_none_iff (h : today.inCalendar = true) (period : Period) (count : Nat) :
    period.days? today count = none ↔
      (∃ d, period.Covers today count d ∧ d.inCalendar = false) ∨
        today ≤ Day.earliest.add 3 ∨
          period = .thisMonth ∧ today.year = 262142 ∧ today.month = 12 := by
  have hepoch := Day.inCalendar_iff_epoch.mp h
  have hyear := Day.inCalendar_iff.mp h
  have hmonth := today.month_spec.1
  have hnumber : today.monthNumber = 12 * today.year + (today.month - 1 : Nat) := rfl
  rw [days?_eq_none_iff_stops, Day.inCalendar_monday_eq_false_iff h, exists_covers_iff_ends]
  cases period with
  | today | yesterday | thisWeek | lastWeek | lastDays | nextDays =>
      simp only [stops, ends, List.mem_cons, List.not_mem_nil, exists_eq_or_imp, exists_eq_left,
        or_false, false_and, exists_false, reduceCtorEq, ← Bool.not_eq_true,
        Day.inCalendar_iff_epoch, Day.le_iff, Day.monday, Day.weekday, Day.epoch_add,
        epoch_earliest]
      omega
  | thisMonth | lastMonth =>
      simp only [stops, ends, List.mem_singleton, exists_eq_left, or_false, false_and, true_and,
        reduceCtorEq, ← Bool.not_eq_true, inCalendar_firstOfMonth_iff,
        inCalendar_firstOfMonth_sub_one_iff, Day.le_iff]
      omega
  | thisYear | lastYear =>
      simp only [stops, ends, List.mem_singleton, List.not_mem_nil, exists_eq_left, or_false,
        false_and, exists_false, reduceCtorEq, ← Bool.not_eq_true, inCalendar_yearStart_iff,
        inCalendar_yearStart_sub_one_iff, Day.le_iff]
      omega

theorem days?_eq_none_iff_latest :
    Day.latest.inCalendar = true ∧ Period.thisWeek.days? Day.latest 0 = none ∧
      ∃ d, Period.thisWeek.Covers Day.latest 0 d ∧ d.inCalendar = false := by
  have h : Day.latest.inCalendar = true := by decide +kernel
  have hnone : Period.thisWeek.days? Day.latest 0 = none := by decide +kernel
  rcases (days?_eq_none_iff h .thisWeek 0).mp hnone with hout | hfirst | ⟨hperiod, -⟩
  · exact ⟨h, hnone, hout⟩
  · exact absurd hfirst (by decide)
  · cases hperiod

/-- On its first day the calendar has no today, and on its last day no month, although the days of
both lie in it. -/
theorem days?_earliest_and_latest :
    (Day.earliest.inCalendar = true ∧ Period.today.days? Day.earliest 0 = none ∧
      ∀ d, Period.today.Covers Day.earliest 0 d → d.inCalendar = true) ∧
    Day.latest.inCalendar = true ∧ Period.thisMonth.days? Day.latest 0 = none ∧
      ∀ d, Period.thisMonth.Covers Day.latest 0 d → d.inCalendar = true := by
  refine ⟨⟨by decide +kernel, by decide +kernel, ?_⟩, by decide +kernel, by decide +kernel, ?_⟩
  · rintro d rfl
    decide +kernel
  · rintro d ⟨hyear, -⟩
    have hlatest : Day.latest.year = 262142 := by decide +kernel
    rw [Day.inCalendar_iff]
    omega

end Period

end RequestQuery
