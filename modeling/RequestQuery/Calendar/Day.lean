namespace RequestQuery.Calendar

/-- A day, as the number of days since 1970-01-01. -/
structure Day where
  epoch : Int
deriving DecidableEq, Repr, Inhabited

/-- The months have their common lengths except that February grows in leap years. -/
def isLeap (year : Int) : Bool :=
  year % 4 == 0 && (year % 100 != 0 || year % 400 == 0)

/-- The days of a year before the first of a month; month 13 stands for the whole year. -/
def daysBeforeMonth (leap : Bool) (month : Nat) : Int :=
  let common : Int :=
    match month with
    | 0 | 1 => 0
    | 2 => 31
    | 3 => 59
    | 4 => 90
    | 5 => 120
    | 6 => 151
    | 7 => 181
    | 8 => 212
    | 9 => 243
    | 10 => 273
    | 11 => 304
    | 12 => 334
    | _ => 365
  if leap && 2 < month then common + 1 else common

def daysInMonth (year : Int) (month : Nat) : Int :=
  daysBeforeMonth (isLeap year) (month + 1) - daysBeforeMonth (isLeap year) month

def yearStart (year : Int) : Int :=
  365 * (year - 1) + (year - 1) / 4 - (year - 1) / 100 + (year - 1) / 400 - 719162

def monthStart (year : Int) (month : Nat) : Day :=
  ⟨yearStart year + daysBeforeMonth (isLeap year) month⟩

namespace Day

/-- The day a number of days later. -/
def add (d : Day) (n : Int) : Day :=
  ⟨d.epoch + n⟩

instance : LE Day := ⟨fun a b => a.epoch ≤ b.epoch⟩

instance (a b : Day) : Decidable (a ≤ b) :=
  inferInstanceAs (Decidable (a.epoch ≤ b.epoch))

/-- The year of the day: whole cycles of 400, 100, 4 and 1 years since year 1, where the last of the
four centuries of a cycle and the last of the four years of an olympiad are a day longer. -/
def year (d : Day) : Int :=
  let n := d.epoch + 719162
  let inCycle := n % 146097
  let century := min (inCycle / 36524) 3
  let inCentury := inCycle - 36524 * century
  let inOlympiad := inCentury % 1461
  400 * (n / 146097) + 100 * century + 4 * (inCentury / 1461) + min (inOlympiad / 365) 3 + 1

def dayOfYear (d : Day) : Int :=
  d.epoch - yearStart d.year

/-- The month, from 1 to 12. -/
def month (d : Day) : Nat :=
  let leap := isLeap d.year
  ((List.range 12).find? fun m => d.dayOfYear < daysBeforeMonth leap (m + 2)).getD 11 + 1

/-- The day of the month, from 1 on. -/
def dayOfMonth (d : Day) : Int :=
  d.dayOfYear - daysBeforeMonth (isLeap d.year) d.month + 1

/-- The weekday: Monday is 0 and Sunday is 6. -/
def weekday (d : Day) : Int :=
  (d.epoch + 3) % 7

/-- The Monday on or before the day. -/
def monday (d : Day) : Day :=
  d.add (-d.weekday)

/-- The first day of the supported calendar, -262143-01-01. -/
def earliest : Day :=
  ⟨yearStart (-262143)⟩

/-- The last day of the supported calendar, 262142-12-31. -/
def latest : Day :=
  ⟨yearStart 262143 - 1⟩

def inCalendar (d : Day) : Bool :=
  earliest ≤ d && d ≤ latest

/-- The day, unless it lies outside the calendar. -/
def within? (d : Day) : Option Day :=
  if d.inCalendar then some d else none

/-- The day with the given year, month and day of the month, if there is one. -/
def ofCivil? (year : Int) (month : Nat) (dayOfMonth : Int) : Option Day :=
  if 1 ≤ month ∧ month ≤ 12 ∧ 1 ≤ dayOfMonth ∧ dayOfMonth ≤ daysInMonth year month then
    ((monthStart year month).add (dayOfMonth - 1)).within?
  else none

def startOfMonth (d : Day) : Day :=
  monthStart d.year d.month

def startOfYear (d : Day) : Day :=
  ⟨yearStart d.year⟩

end Day

end RequestQuery.Calendar
