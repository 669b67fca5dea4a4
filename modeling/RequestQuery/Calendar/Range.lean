import RequestQuery.Calendar.Pattern
import RequestQuery.Calendar.Period
import RequestQuery.Calendar.Zone

namespace RequestQuery.Period

open Calendar

/-- The two ends of a period that contains or borders on the local day of an instant. -/
def textRange? (period : Period) (count : Nat) (instant : Int) (zone : Zone) (pattern : String) :
    Option (String × String) := do
  let (first, last) ← period.days? (zone.dayAt instant) count
  let low ← (LocalTime.startOf first).format? pattern
  let high ← (LocalTime.endOf last).format? pattern
  pure (low, high)

end RequestQuery.Period
