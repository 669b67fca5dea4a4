import RequestQuery.Decimal.Shortest

namespace RequestQuery.Decimal

/-- The decisions of a number format. The place of the point is `k` where the number is
`0.DIGITS * 10 ^ k`. -/
structure Layout where
  /-- The places of the point for which the number is written without an exponent. -/
  positional : Int → Bool
  /-- What is written after a number without fraction digits. -/
  afterWhole : List Char
  /-- The digits to take when two shortest decimals are equally near. -/
  tie : Tie

/-- Digits without the zeros at their end. -/
def significant (digits : List Char) : List Char :=
  (digits.reverse.dropWhile (· == '0')).reverse

def Layout.writePositional (l : Layout) (digits : List Char) (point : Int) : List Char :=
  if point ≤ 0 then '0' :: '.' :: List.replicate (-point).toNat '0' ++ digits
  else
    let k := point.toNat
    if digits.length ≤ k then
      digits ++ List.replicate (k - digits.length) '0' ++ l.afterWhole
    else digits.take k ++ '.' :: digits.drop k

def writeScientific (digits : List Char) (point : Int) : List Char :=
  digits.take 1 ++ (if digits.length ≤ 1 then [] else '.' :: digits.drop 1) ++
    'e' :: (toString (point - 1)).toList

def Layout.writeNumeral (l : Layout) (d : Numeral) : List Char :=
  let all := Nat.toDigits 10 d.digits
  let digits := significant all
  let point := all.length + d.exponent
  if l.positional point then l.writePositional digits point else writeScientific digits point

def Layout.writeMagnitude (l : Layout) (x : Magnitude) : List Char :=
  if x.mantissa == 0 then '0' :: l.afterWhole else l.writeNumeral (x.shortest l.tie)

/-- The text of a finite number; a number that is not finite has none. -/
def Layout.write (l : Layout) (x : Float) : List Char :=
  match Magnitude.ofBits? x.toBits with
  | none => []
  | some m => (if isNegative x then ['-'] else []) ++ l.writeMagnitude m

end RequestQuery.Decimal
