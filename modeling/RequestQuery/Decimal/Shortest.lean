import RequestQuery.Decimal.Magnitude

/-!
The shortest decimal that reads back as a given binary64 value. A finite value is an exact fraction,
and so are the two ends of the interval of reals that round to it, so the search for digits is exact
arithmetic on natural numbers.
-/
namespace RequestQuery.Decimal

/-- An exact fraction. -/
structure Ratio where
  num : Nat
  den : Nat
deriving Repr, DecidableEq

/-- `n * base ^ e` as a fraction. -/
def Ratio.scaled (n base : Nat) (e : Int) : Ratio :=
  if 0 ≤ e then ⟨n * base.pow e.toNat, 1⟩ else ⟨n, base.pow (-e).toNat⟩

def Ratio.le (a b : Ratio) : Bool :=
  a.num * b.den ≤ b.num * a.den

/-- A decimal number `digits * 10 ^ exponent`. -/
structure Numeral where
  digits : Nat
  exponent : Int
deriving Repr, DecidableEq

def Numeral.value (d : Numeral) : Ratio :=
  Ratio.scaled d.digits 10 d.exponent

/-- Where a tie between two decimals goes. -/
inductive Tie where
  | toEven
  | up
deriving Repr, DecidableEq

/-- The number of decimal digits of a positive number. -/
def digitCount (n : Nat) : Nat :=
  (Nat.toDigits 10 n).length

/-- The least power of ten above a positive fraction. -/
def Ratio.decade (v : Ratio) : Int :=
  if v.den ≤ v.num then (digitCount (v.num / v.den) : Int)
  else 1 - (digitCount (v.den / v.num) : Int)

namespace Magnitude

def value (x : Magnitude) : Ratio :=
  Ratio.scaled x.mantissa 2 x.exponent

/-- The lower end of the interval of reals that round to the value. -/
def lower (x : Magnitude) : Ratio :=
  Ratio.scaled (4 * x.mantissa - (if x.atBinadeStart then 1 else 2)) 2 (x.exponent - 2)

/-- The upper end of that interval. -/
def upper (x : Magnitude) : Ratio :=
  Ratio.scaled (4 * x.mantissa + 2) 2 (x.exponent - 2)

/-- Whether a decimal number rounds to the value. The ends of the interval do when the mantissa is
even. -/
def accepts (x : Magnitude) (d : Numeral) : Bool :=
  let v := d.value
  if x.mantissa % 2 == 0 then x.lower.le v && v.le x.upper
  else !v.le x.lower && !x.upper.le v

/-- The multiple of `10 ^ exponent` to write for the value, if one of its two neighbours among those
multiples rounds to it. -/
def onGrid? (tie : Tie) (x : Magnitude) (exponent : Int) : Option Numeral :=
  let v := x.value
  let unit := Ratio.scaled 1 10 exponent
  let num := v.num * unit.den
  let den := v.den * unit.num
  let below : Numeral := ⟨num / den, exponent⟩
  let above : Numeral := ⟨num / den + 1, exponent⟩
  match x.accepts below, x.accepts above with
  | true, true =>
    let rest := 2 * (num % den)
    if rest < den then some below
    else if den < rest then some above
    else if tie == .toEven && below.digits % 2 == 0 then some below
    else some above
  | true, false => some below
  | false, true => some above
  | false, false => none

/-- The decimal with the fewest digits that rounds to the value. Seventeen digits always suffice. -/
def shortest (tie : Tie) (x : Magnitude) : Numeral :=
  let decade := x.value.decade
  ((List.range 17).findSome? fun n => x.onGrid? tie (decade - (n + 1 : Nat))).getD ⟨0, 0⟩

end Magnitude

end RequestQuery.Decimal
