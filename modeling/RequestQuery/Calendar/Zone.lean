import RequestQuery.Calendar.Day

namespace RequestQuery.Calendar

/-- A time zone: its name, its first offset from UTC in seconds, and the later offsets with their
starts in ascending order. -/
structure Zone where
  name : String
  initial : Int
  changes : List (Int × Int)
deriving DecidableEq, Repr

/-- The zones that settings may name. Which zones there are is not for this library to say. -/
class ZoneDatabase where
  /-- The zone of a name, if it is known. -/
  find? : String → Option Zone

namespace Zone

def utc : Zone :=
  ⟨"UTC", 0, []⟩

def find? [ZoneDatabase] (name : String) : Option Zone :=
  ZoneDatabase.find? name

/-- The offset of local time from UTC at an instant, in seconds. -/
def offsetAt (z : Zone) (instant : Int) : Int :=
  z.changes.foldl (fun offset (start, next) => if start ≤ instant then next else offset) z.initial

/-- The day that the local calendar shows at an instant. -/
def dayAt (z : Zone) (instant : Int) : Day :=
  ⟨(instant + z.offsetAt instant) / 86400⟩

end Zone

end RequestQuery.Calendar
