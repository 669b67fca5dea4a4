import RequestQuery.Filter.Condition
import RequestQuery.Proofs.CivilCalendar
import RequestQuery.Proofs.NamedSource
import RequestQuery.Proofs.SettingsStore

namespace RequestQuery

open Calendar

namespace Period

variable {period : Period} {today : Day}

theorem exists_days? (hperiod : period.takesDayCount = false)
    (hyear : -262142 ≤ today.year ∧ today.year ≤ 262141) (count : Nat) :
    ∃ range, period.days? today count = some range := by
  have hdays {n : Int} (hn : -365 ≤ n ∧ n ≤ 365) : (today.add n).within? = some (today.add n) := by
    have hnear := Day.year_add (d := today) hn
    exact Day.within?_eq_some (by omega)
  have hweekday : 0 ≤ today.weekday ∧ today.weekday ≤ 6 := by
    rw [Day.weekday]
    omega
  have hmonday : today.monday.within? = some today.monday := hdays (by omega)
  have hweek {n : Int} (hn : -7 ≤ n ∧ n ≤ 6) :
      (today.monday.add n).within? = some (today.monday.add n) := by
    rw [Day.monday, Day.add_add]
    exact hdays (by omega)
  have hmonth {n : Int} (hn : -1 ≤ n ∧ n ≤ 1) : (shiftMonth today.startOfMonth n).within? =
      some (shiftMonth today.startOfMonth n) := by
    have hmonth := today.startOfMonth.month_spec.1
    apply Day.within?_eq_some
    rw [year_shiftMonth, year_startOfMonth]
    omega
  have hlast : (Day.mk (yearStart (today.year - 1))).within? =
      some (Day.mk (yearStart (today.year - 1))) := by
    apply Day.within?_eq_some
    rw [Day.year_yearStart]
    omega
  unfold days?
  rw [hmonday, Option.bind_eq_bind, Option.bind_some]
  cases period with
  | today | thisYear => exact ⟨_, rfl⟩
  | yesterday => simp [hdays]
  | thisWeek => simp [hweek]
  | lastWeek => simp [hweek]
  | thisMonth => simp [hmonth]
  | lastMonth => simp [hmonth]
  | lastYear => simp [hlast]
  | lastDays | nextDays => cases hperiod

end Period

namespace Calendar.LocalTime

theorem exists_itemText?_iff {t : LocalTime} {item : PatternItem} :
    (∃ text, t.itemText? item = some text) ↔ ¬ .offset = item := by
  cases item <;> simp [itemText?]

theorem exists_itemsText?_iff {t : LocalTime} {items : List PatternItem} :
    (∃ text, t.itemsText? items = some text) ↔ .offset ∉ items := by
  induction items with
  | nil => simp [itemsText?]
  | cons item rest ih =>
      rw [List.mem_cons, not_or, ← ih, ← exists_itemText?_iff (t := t), itemsText?]
      cases t.itemText? item <;> cases t.itemsText? rest <;> simp

/-- Whether a pattern is written out does not depend on the time. -/
theorem exists_format?_iff {pattern : String} {items : List PatternItem}
    (hitems : PatternItem.parse? pattern.toList = some items) (t : LocalTime) :
    (∃ text, t.format? pattern = some text) ↔ .offset ∉ items := by
  rw [format?, hitems, Option.bind_some, ← exists_itemsText?_iff (t := t)]
  cases t.itemsText? items <;> simp

end Calendar.LocalTime

namespace Period

variable {period : Period} {pattern : String} {items : List PatternItem}

theorem textRange?_eq_none (hitems : PatternItem.parse? pattern.toList = some items)
    (hoffset : .offset ∈ items) (count : Nat) (instant : Int) (zone : Zone) :
    period.textRange? count instant zone pattern = none := by
  have hformat (t : LocalTime) : t.format? pattern = none := by
    rw [Option.eq_none_iff_forall_ne_some]
    intro text htext
    exact (LocalTime.exists_format?_iff hitems t).mp ⟨text, htext⟩ hoffset
  simp [textRange?, hformat]

theorem exists_textRange?_of_parse? (hitems : PatternItem.parse? pattern.toList = some items)
    (hperiod : period.takesDayCount = false) {instant : Int} {zone : Zone}
    (hyear : -262142 ≤ (zone.dayAt instant).year ∧ (zone.dayAt instant).year ≤ 262141)
    (count : Nat) :
    (∃ range, period.textRange? count instant zone pattern = some range) ↔ .offset ∉ items := by
  constructor
  · rintro ⟨range, hrange⟩ hoffset
    rw [textRange?_eq_none hitems hoffset] at hrange
    cases hrange
  · intro hoffset
    obtain ⟨⟨first, last⟩, hdays⟩ := exists_days? hperiod hyear count
    obtain ⟨low, hlow⟩ := (LocalTime.exists_format?_iff hitems (.startOf first)).mpr hoffset
    obtain ⟨high, hhigh⟩ := (LocalTime.exists_format?_iff hitems (.endOf last)).mpr hoffset
    exact ⟨(low, high), by simp [textRange?, hdays, hlow, hhigh]⟩

end Period

namespace Snapshot

/-- A pattern in force can be read. Periods that take no number of days have a range whenever it
does not ask for the offset from UTC, and otherwise never. -/
theorem exists_textRange?_iff [ZoneDatabase] {settings : Settings} {s : Snapshot}
    (hbuild : build settings = .ok s) {period : Period} (hperiod : period.takesDayCount = false)
    {instant : Int}
    (hyear : 2 ≤ (s.zone.dayAt instant).year ∧ (s.zone.dayAt instant).year ≤ 9998) (count : Nat) :
    ∃ items, PatternItem.parse? s.settings.dates.pattern.toList = some items ∧
      ((∃ range, period.textRange? count instant s.zone s.settings.dates.pattern = some range) ↔
        .offset ∉ items) := by
  obtain ⟨hvalid, -, -, rfl, -⟩ := build_eq_ok_iff.mp hbuild
  obtain ⟨-, -, hpattern, -⟩ := Settings.exists_of_problems_eq_nil hvalid
  rw [Settings.isDatePattern, Bool.and_eq_true] at hpattern
  obtain ⟨items, hitems⟩ := Option.isSome_iff_exists.mp hpattern.2
  exact ⟨items, hitems, Period.exists_textRange?_of_parse? hitems hperiod (by omega) count⟩

theorem exists_textRange?_iff_default :
    let s : Snapshot := ⟨.default, .builtin, .utc, Settings.default.indicatorChars⟩
    build .default = .ok s ∧ (s.zone.dayAt 1710331200).year = 2024 ∧
      ∃ items, PatternItem.parse? s.settings.dates.pattern.toList = some items ∧
        ((∃ range, Period.lastWeek.textRange? 0 1710331200 s.zone s.settings.dates.pattern =
          some range) ↔ .offset ∉ items) := by
  intro s
  have hbuild : build .default = .ok s :=
    build_eq_ok_iff.mpr ⟨by decide +kernel, rfl, rfl, rfl, rfl⟩
  have hyear : (s.zone.dayAt 1710331200).year = 2024 := by decide
  exact ⟨hbuild, hyear, exists_textRange?_iff hbuild rfl (by omega) 0⟩

/-- A pattern with the offset from UTC passes every check, and then there is no today. -/
theorem applyOperator_today_offset :
    let settings : Settings :=
      { Settings.default with dates := ⟨"UTC", "%Y-%m-%d %H:%M:%S %z"⟩ }
    let s : Snapshot := ⟨settings, .builtin, .utc, settings.indicatorChars⟩
    let ctx : FilterContext := ⟨s, .posts, [], 1710331200⟩
    build settings = .ok s ∧ (s.zone.dayAt 1710331200).year = 2024 ∧
      Period.today.textRange? 0 1710331200 s.zone s.settings.dates.pattern = none ∧
      ctx.applyOperator ctx.source.model "created_at" "today" (.bool true) "created_at" =
        .error (.badOperand "created_at" "today" "number" .datesOutOfBounds) := by
  refine ⟨build_eq_ok_iff.mpr ⟨?_, rfl, rfl, rfl, rfl⟩, by decide, rfl, rfl⟩
  decide +kernel

end Snapshot

end RequestQuery
