import RequestQuery.Text.Alphanumeric.Table

namespace RequestQuery.Text

/-- Characters that are Alphabetic or have the general category Number. -/
def isAlphanumeric (c : Char) : Bool :=
  Alphanumeric.ranges.any fun (first, last) => first ≤ c.toNat && c.toNat ≤ last

end RequestQuery.Text
