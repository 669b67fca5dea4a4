import RequestQuery.Calendar.Day
import RequestQuery.Operator.Basic

namespace RequestQuery.Calendar

def shiftMonth (start : Day) (n : Int) : Day :=
  let months := 12 * start.year + (start.month - 1 : Nat) + n
  monthStart (months / 12) ((months % 12).toNat + 1)

end RequestQuery.Calendar

namespace RequestQuery.Period

open Calendar

/-- The first and last day of a period as seen from `today`. The day count matters for the two
periods that take one. Every period needs the Monday of this week. -/
def days? (period : Period) (today : Day) (count : Nat) : Option (Day × Day) := do
  let monday ← today.monday.within?
  let monthStart := today.startOfMonth
  let yearStart := today.startOfYear
  match period with
  | .today => some (today, today)
  | .yesterday => do
    let day ← (today.add (-1)).within?
    some (day, day)
  | .thisWeek => do
    let sunday ← (monday.add 6).within?
    some (monday, sunday)
  | .lastWeek => do
    let first ← (monday.add (-7)).within?
    let last ← (monday.add (-1)).within?
    some (first, last)
  | .thisMonth => do
    let next ← (shiftMonth monthStart 1).within?
    some (monthStart, next.add (-1))
  | .lastMonth => do
    let first ← (shiftMonth monthStart (-1)).within?
    some (first, monthStart.add (-1))
  | .thisYear => some (yearStart, ⟨Calendar.yearStart (today.year + 1) - 1⟩)
  | .lastYear => do
    let first ← (Day.mk (Calendar.yearStart (today.year - 1))).within?
    some (first, yearStart.add (-1))
  | .lastDays => do
    let first ← (today.add (-count)).within?
    some (first, today)
  | .nextDays => do
    let last ← (today.add count).within?
    some (today, last)

end RequestQuery.Period
