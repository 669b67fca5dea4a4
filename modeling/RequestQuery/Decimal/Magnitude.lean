namespace RequestQuery.Decimal

/-- The magnitude of a finite binary64 value: `mantissa * 2 ^ exponent`. -/
structure Magnitude where
  mantissa : Nat
  exponent : Int
  /-- Whether the values below are twice as dense as those above. -/
  atBinadeStart : Bool
deriving Repr, DecidableEq

/-- The magnitude behind the bits of a finite value, nothing for infinities and not-a-number. -/
def Magnitude.ofBits? (bits : UInt64) : Option Magnitude :=
  let biased := (bits >>> 52).toNat % 2048
  let fraction := bits.toNat % Nat.pow 2 52
  if biased == 2047 then none
  else if biased == 0 then some ⟨fraction, -1074, false⟩
  else some ⟨Nat.pow 2 52 + fraction, (biased : Int) - 1075, fraction == 0 && 1 < biased⟩

/-- The sign bit. -/
def isNegative (x : Float) : Bool :=
  x.toBits >>> 63 == 1

def Magnitude.floor (x : Magnitude) : Nat :=
  if 0 ≤ x.exponent then x.mantissa * Nat.pow 2 x.exponent.toNat
  else x.mantissa / Nat.pow 2 (-x.exponent).toNat

/-- The integer that remains when the fraction is cut off, for a finite value. -/
def truncate? (x : Float) : Option Int :=
  (Magnitude.ofBits? x.toBits).map fun m =>
    if isNegative x then -(m.floor : Int) else m.floor

end RequestQuery.Decimal
