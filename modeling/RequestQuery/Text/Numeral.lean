namespace RequestQuery.Text

/-- The number that a run of digits spells, after the digits already read. -/
def digitsFrom (value : Nat) (digits : List Char) : Nat :=
  digits.foldl (fun n c => 10 * n + (c.toNat - '0'.toNat)) value

/-- The number that a non-empty run of ASCII digits spells. -/
def readDigits? (s : List Char) : Option Nat :=
  if !s.isEmpty && s.all Char.isDigit then some (digitsFrom 0 s) else none

/-- Digits after an optional plus sign. -/
def readNat? : List Char → Option Nat
  | '+' :: digits => readDigits? digits
  | digits => readDigits? digits

/-- Digits after an optional sign. -/
def readInt? : List Char → Option Int
  | '-' :: digits => (readDigits? digits).map fun n => -(n : Int)
  | s => (readNat? s).map Int.ofNat

/-- The integers of a signed 64-bit word. -/
def inSigned64 (n : Int) : Bool :=
  -Int.pow 2 63 ≤ n && n < Int.pow 2 63

def readSigned64? (s : String) : Option Int :=
  (readInt? s.toList).filter inSigned64

def readUnsigned64? (s : String) : Option Nat :=
  (readNat? s.toList).filter (· < Nat.pow 2 64)

/-- The binary64 value nearest to `digits * 10 ^ exponent`. Beyond the three hundred odd powers of
ten that the format spans the answer is known without computing the power. -/
def floatOfDecimal (digits : Nat) (exponent : Int) : Float :=
  if digits == 0 then 0.0
  else
    let size : Int := (Nat.toDigits 10 digits).length + exponent
    if 310 < size then 1.0 / 0.0
    else if size < -330 then 0.0
    else Float.ofScientific digits (exponent < 0) exponent.natAbs

/-- The exponent part of a decimal number: nothing, or a marker and a signed run of digits. -/
def readExponent? : List Char → Option Int
  | [] => some 0
  | c :: s => if c == 'e' || c == 'E' then readInt? s else none

/-- A decimal number without its sign: digits around an optional point, at least one of them, and an
optional exponent. -/
def readDecimal? (s : List Char) : Option Float :=
  let whole := s.takeWhile Char.isDigit
  let afterWhole := s.dropWhile Char.isDigit
  let (fraction, rest) :=
    match afterWhole with
    | '.' :: t => (t.takeWhile Char.isDigit, t.dropWhile Char.isDigit)
    | t => ([], t)
  if whole.isEmpty && fraction.isEmpty then none
  else
    (readExponent? rest).map fun e =>
      floatOfDecimal (digitsFrom 0 (whole ++ fraction)) (e - fraction.length)

/-- A number without its sign, where infinity and not-a-number may be written out. -/
def readMagnitude? (s : List Char) : Option Float :=
  let word := s.map Char.toLower
  if word == "inf".toList || word == "infinity".toList then some (1.0 / 0.0)
  else if word == "nan".toList then some (0.0 / 0.0)
  else readDecimal? s

def readFloat? (s : String) : Option Float :=
  match s.toList with
  | '-' :: t => (readMagnitude? t).map Float.neg
  | '+' :: t => readMagnitude? t
  | t => readMagnitude? t

end RequestQuery.Text
