import RequestQuery.Calendar.Day
import RequestQuery.Text.Blank

/-!
Patterns for the text of a local date and time. A pattern is literal text with directives: a percent
sign, an optional choice of padding, and a letter.
-/
namespace RequestQuery.Calendar

inductive Pad where
  | none
  | zero
  | space
deriving DecidableEq, Repr

inductive NumberField where
  | year
  | century
  | yearOfCentury
  | isoYear
  | isoYearOfCentury
  | quarter
  | month
  | day
  | weekFromSunday
  | weekFromMonday
  | isoWeek
  | weekdayFromSunday
  | weekdayFromMonday
  | dayOfYear
  | hour
  | hour12
  | minute
  | second
  | nanosecond
  | timestamp
deriving DecidableEq, Repr

inductive WordField where
  | shortMonth
  | longMonth
  | shortWeekday
  | longWeekday
  | lowerHalf
  | upperHalf
deriving DecidableEq, Repr

/-- An item of a pattern: literal text, a number or a word of the date and time, or the offset from
UTC. -/
inductive PatternItem where
  | text (s : List Char)
  | number (field : NumberField) (pad : Pad)
  | word (field : WordField)
  /-- Something about the offset from UTC, which a local time does not have. -/
  | offset
deriving DecidableEq, Repr

namespace PatternItem

def time : List PatternItem :=
  [number .hour .zero, text [':'], number .minute .zero, text [':'], number .second .zero]

def slashedDate : List PatternItem :=
  [number .month .zero, text ['/'], number .day .zero, text ['/'], number .yearOfCentury .zero]

/-- The parts that a letter after the percent sign stands for. -/
def ofLetter? (c : Char) : Option (List PatternItem) :=
  match c with
  | 'A' => some [word .longWeekday]
  | 'B' => some [word .longMonth]
  | 'C' => some [number .century .zero]
  | 'D' => some slashedDate
  | 'F' => some [number .year .zero, text ['-'], number .month .zero, text ['-'], number .day .zero]
  | 'G' => some [number .isoYear .zero]
  | 'H' => some [number .hour .zero]
  | 'I' => some [number .hour12 .zero]
  | 'M' => some [number .minute .zero]
  | 'P' => some [word .lowerHalf]
  | 'R' => some [number .hour .zero, text [':'], number .minute .zero]
  | 'S' => some [number .second .zero]
  | 'T' => some time
  | 'U' => some [number .weekFromSunday .zero]
  | 'V' => some [number .isoWeek .zero]
  | 'W' => some [number .weekFromMonday .zero]
  | 'X' => some time
  | 'Y' => some [number .year .zero]
  | 'Z' => some [offset]
  | 'a' => some [word .shortWeekday]
  | 'b' => some [word .shortMonth]
  | 'c' =>
    some ([word .shortWeekday, text [' '], word .shortMonth, text [' '], number .day .space,
      text [' ']] ++ time ++ [text [' '], number .year .zero])
  | 'd' => some [number .day .zero]
  | 'e' => some [number .day .space]
  | 'f' => some [number .nanosecond .zero]
  | 'g' => some [number .isoYearOfCentury .zero]
  | 'h' => some [word .shortMonth]
  | 'j' => some [number .dayOfYear .zero]
  | 'k' => some [number .hour .space]
  | 'l' => some [number .hour12 .space]
  | 'm' => some [number .month .zero]
  | 'n' => some [text ['\n']]
  | 'p' => some [word .upperHalf]
  | 'q' => some [number .quarter .none]
  | 'r' =>
    some [number .hour12 .zero, text [':'], number .minute .zero, text [':'], number .second .zero,
      text [' '], word .upperHalf]
  | 's' => some [number .timestamp .none]
  | 't' => some [text ['\t']]
  | 'u' => some [number .weekdayFromMonday .none]
  | 'v' =>
    some [number .day .space, text ['-'], word .shortMonth, text ['-'], number .year .zero]
  | 'w' => some [number .weekdayFromSunday .none]
  | 'x' => some slashedDate
  | 'y' => some [number .yearOfCentury .zero]
  | 'z' => some [offset]
  | '+' => some [offset]
  | '%' => some [text ['%']]
  | _ => none

/-- A letter with a padding of its own; only a single number can be padded. -/
def ofPadded? (pad : Pad) (c : Char) : Option (List PatternItem) :=
  match ofLetter? c with
  | some [number field _] => some [number field pad]
  | _ => none

/-- The parts of a pattern, nothing if a directive is unknown or incomplete. -/
def parse? : List Char → Option (List PatternItem)
  | [] => some []
  | '%' :: rest =>
    match rest with
    | '-' :: c :: rest => more (ofPadded? .none c) (parse? rest)
    | '0' :: c :: rest => more (ofPadded? .zero c) (parse? rest)
    | '_' :: c :: rest => more (ofPadded? .space c) (parse? rest)
    | '#' :: 'z' :: rest => more (some [offset]) (parse? rest)
    | ':' :: ':' :: ':' :: 'z' :: rest => more (some [offset]) (parse? rest)
    | ':' :: ':' :: 'z' :: rest => more (some [offset]) (parse? rest)
    | ':' :: 'z' :: rest => more (some [offset]) (parse? rest)
    | '.' :: 'f' :: rest => more (some []) (parse? rest)
    | '.' :: '3' :: 'f' :: rest => more (some [text ['.', '0', '0', '0']]) (parse? rest)
    | '.' :: '6' :: 'f' :: rest => more (some [text ('.' :: List.replicate 6 '0')]) (parse? rest)
    | '.' :: '9' :: 'f' :: rest => more (some [text ('.' :: List.replicate 9 '0')]) (parse? rest)
    | '3' :: 'f' :: rest => more (some [text ['0', '0', '0']]) (parse? rest)
    | '6' :: 'f' :: rest => more (some [text (List.replicate 6 '0')]) (parse? rest)
    | '9' :: 'f' :: rest => more (some [text (List.replicate 9 '0')]) (parse? rest)
    | c :: rest => more (ofLetter? c) (parse? rest)
    | [] => none
  | c :: rest => more (some [text [c]]) (parse? rest)
where
  /-- Two readings one after the other. -/
  more (first rest : Option (List PatternItem)) : Option (List PatternItem) :=
    match first, rest with
    | some a, some b => some (a ++ b)
    | _, _ => none

end PatternItem

/-- A local time in whole seconds. -/
structure LocalTime where
  day : Day
  second : Nat
deriving DecidableEq, Repr

namespace LocalTime

def startOf (d : Day) : LocalTime :=
  ⟨d, 0⟩

def endOf (d : Day) : LocalTime :=
  ⟨d, 86399⟩

def hour (t : LocalTime) : Nat := t.second / 3600
def minute (t : LocalTime) : Nat := t.second / 60 % 60
def secondOfMinute (t : LocalTime) : Nat := t.second % 60
def hour12 (t : LocalTime) : Nat := if t.hour % 12 == 0 then 12 else t.hour % 12

/-- The Thursday of the week of a day; its year and week are those of the ISO week date. -/
def thursday (t : LocalTime) : Day :=
  t.day.monday.add 3

/-- The number of weeks of the year begun so far, the weeks starting when `sinceStart`, the number
of days since the start of the week, is zero. -/
def weeksBegun (t : LocalTime) (sinceStart : Int) : Int :=
  (t.day.dayOfYear + 1 - sinceStart + 6) / 7

/-- Digits at the right end of at least `width` places. -/
def padTo (width : Nat) (fill : Char) (s : List Char) : List Char :=
  List.replicate (width - s.length) fill ++ s

/-- A number in at least `width` places, the sign being one of them. The sign of a number that is
not negative is written on demand. -/
def wide (width : Nat) (pad : Pad) (plus : Bool) (n : Int) : List Char :=
  let digits := Nat.toDigits 10 n.natAbs
  let sign := if n < 0 then ['-'] else if plus then ['+'] else []
  match pad with
  | .none => sign ++ digits
  | .zero => sign ++ padTo (width - sign.length) '0' digits
  | .space => padTo width ' ' (sign ++ digits)

/-- A year: four digits, and a sign as a fifth place for years that four digits cannot hold. -/
def yearText (pad : Pad) (year : Int) : List Char :=
  if 0 ≤ year ∧ year < 10000 then wide 4 pad false year else wide 5 pad true year

/-- A number of two places. A number above ninety-nine, which only a century can be, is cut to a
byte and its tens are counted on from the character zero. -/
def twoPlaces (pad : Pad) (n : Int) : List Char :=
  let v := (n % 256).toNat
  let ones := Char.ofNat (48 + v % 10)
  match v / 10, pad with
  | 0, .none => [ones]
  | 0, .space => [' ', ones]
  | tens, _ => [Char.ofNat (48 + tens), ones]

def onePlace (n : Int) : List Char :=
  [Char.ofNat (48 + n.toNat)]

def numberText (t : LocalTime) (field : NumberField) (pad : Pad) : List Char :=
  let d := t.day
  match field with
  | .year => yearText pad d.year
  | .century => twoPlaces pad (d.year / 100)
  | .yearOfCentury => twoPlaces pad (d.year % 100)
  | .isoYear => yearText pad t.thursday.year
  | .isoYearOfCentury => twoPlaces pad (t.thursday.year % 100)
  | .quarter => onePlace ((d.month + 2) / 3 : Nat)
  | .month => twoPlaces pad d.month
  | .day => twoPlaces pad d.dayOfMonth
  | .weekFromSunday => twoPlaces pad (t.weeksBegun ((d.weekday + 1) % 7))
  | .weekFromMonday => twoPlaces pad (t.weeksBegun d.weekday)
  | .isoWeek => twoPlaces pad (t.thursday.dayOfYear / 7 + 1)
  | .weekdayFromSunday => onePlace ((d.weekday + 1) % 7)
  | .weekdayFromMonday => onePlace (d.weekday + 1)
  | .dayOfYear => wide 3 pad false (d.dayOfYear + 1)
  | .hour => twoPlaces pad t.hour
  | .hour12 => twoPlaces pad t.hour12
  | .minute => twoPlaces pad t.minute
  | .second => twoPlaces pad t.secondOfMinute
  | .nanosecond => wide 9 pad false 0
  | .timestamp => wide 9 pad false (d.epoch * 86400 + t.second)

def monthNames : List String :=
  ["January", "February", "March", "April", "May", "June", "July", "August", "September",
    "October", "November", "December"]

def weekdayNames : List String :=
  ["Monday", "Tuesday", "Wednesday", "Thursday", "Friday", "Saturday", "Sunday"]

def wordText (t : LocalTime) (field : WordField) : List Char :=
  let monthName := (monthNames.getD (t.day.month - 1) "").toList
  let weekdayName := (weekdayNames.getD t.day.weekday.toNat "").toList
  match field with
  | .shortMonth => monthName.take 3
  | .longMonth => monthName
  | .shortWeekday => weekdayName.take 3
  | .longWeekday => weekdayName
  | .lowerHalf => if t.hour < 12 then ['a', 'm'] else ['p', 'm']
  | .upperHalf => if t.hour < 12 then ['A', 'M'] else ['P', 'M']

/-- The text of one part of a pattern, which the offset from UTC does not have. -/
def itemText? (t : LocalTime) : PatternItem → Option (List Char)
  | .text s => some s
  | .number field pad => some (t.numberText field pad)
  | .word field => some (t.wordText field)
  | .offset => none

def itemsText? (t : LocalTime) : List PatternItem → Option (List Char)
  | [] => some []
  | item :: rest =>
    match t.itemText? item, t.itemsText? rest with
    | some a, some b => some (a ++ b)
    | _, _ => none

def format? (t : LocalTime) (pattern : String) : Option String :=
  (PatternItem.parse? pattern.toList).bind fun items =>
    (t.itemsText? items).map String.ofList

end LocalTime

end RequestQuery.Calendar
