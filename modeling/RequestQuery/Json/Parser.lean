import RequestQuery.Json.Value
import RequestQuery.Text.Numeral

/-!
Reading JSON text. Every reader takes the characters that are left and returns what it read together
with the characters after it. Containers nest at most 127 deep.
-/
namespace RequestQuery.Json.Parser

def isSpace (c : Char) : Bool :=
  c == ' ' || c == '\t' || c == '\n' || c == '\r'

def skipSpace (s : List Char) : List Char :=
  s.dropWhile isSpace

def hexValue? (c : Char) : Option Nat :=
  let n := c.toNat
  if '0' ≤ c && c ≤ '9' then some (n - 48)
  else if 'a' ≤ c && c ≤ 'f' then some (n - 87)
  else if 'A' ≤ c && c ≤ 'F' then some (n - 55)
  else none

/-- The code unit that four hexadecimal digits spell. -/
def codeUnit? (a b c d : Char) : Option Nat := do
  let w ← hexValue? a
  let x ← hexValue? b
  let y ← hexValue? c
  let z ← hexValue? d
  pure (((w * 16 + x) * 16 + y) * 16 + z)

/-- The character that an escape of one letter stands for. -/
def plainEscape? (c : Char) : Option Char :=
  match c with
  | '"' => some '"'
  | '\\' => some '\\'
  | '/' => some '/'
  | 'b' => some '\x08'
  | 'f' => some '\x0c'
  | 'n' => some '\n'
  | 'r' => some '\r'
  | 't' => some '\t'
  | _ => none

def isHighSurrogate (n : Nat) : Bool :=
  0xD800 ≤ n && n ≤ 0xDBFF

def isLowSurrogate (n : Nat) : Bool :=
  0xDC00 ≤ n && n ≤ 0xDFFF

/-- The rest of a string after its opening quote. Surrogates come in pairs only, and control
characters have to be escaped. -/
def stringBody : List Char → Option (List Char × List Char)
  | [] => none
  | '"' :: rest => some ([], rest)
  | '\\' :: 'u' :: a :: b :: c :: d :: '\\' :: 'u' :: e :: f :: g :: h :: rest => do
    let n ← codeUnit? a b c d
    if isHighSurrogate n then
      let m ← codeUnit? e f g h
      if isLowSurrogate m then
        let (chars, after) ← stringBody rest
        pure (Char.ofNat (0x10000 + (n - 0xD800) * 0x400 + (m - 0xDC00)) :: chars, after)
      else none
    else if isLowSurrogate n then none
    else
      let (chars, after) ← stringBody ('\\' :: 'u' :: e :: f :: g :: h :: rest)
      pure (Char.ofNat n :: chars, after)
  | '\\' :: 'u' :: a :: b :: c :: d :: rest => do
    let n ← codeUnit? a b c d
    if isHighSurrogate n || isLowSurrogate n then none
    else
      let (chars, after) ← stringBody rest
      pure (Char.ofNat n :: chars, after)
  | '\\' :: c :: rest => do
    let plain ← plainEscape? c
    let (chars, after) ← stringBody rest
    pure (plain :: chars, after)
  | c :: rest =>
    if c == '\\' || c.toNat < 0x20 then none
    else do
      let (chars, after) ← stringBody rest
      pure (c :: chars, after)

/-- Whole digits without a leading zero. -/
def wholeDigits (s : List Char) : Option (List Char × List Char) :=
  let digits := s.takeWhile Char.isDigit
  let rest := s.dropWhile Char.isDigit
  match digits with
  | [] => none
  | '0' :: _ :: _ => none
  | _ => some (digits, rest)

def fractionDigits : List Char → Option (List Char × List Char)
  | '.' :: s =>
    let digits := s.takeWhile Char.isDigit
    if digits.isEmpty then none else some (digits, s.dropWhile Char.isDigit)
  | s => some ([], s)

/-- The digits of an exponent and whether it is negative, when there is an exponent. -/
def exponent (s : List Char) : Option (Option Int × List Char) :=
  match s with
  | [] => some (none, [])
  | c :: rest =>
    if c == 'e' || c == 'E' then
      let (sign, digitsOn) : Int × List Char :=
        match rest with
        | '-' :: t => (-1, t)
        | '+' :: t => (1, t)
        | t => (1, t)
      let digits := digitsOn.takeWhile Char.isDigit
      if digits.isEmpty then none
      else some (some (sign * Text.digitsFrom 0 digits), digitsOn.dropWhile Char.isDigit)
    else some (none, s)

/-- Takes digits into a number as long as 64 bits hold it, and leaves those from the first on that
do not go in. -/
def takeDigits (n : Nat) : List Char → Nat × List Char
  | [] => (n, [])
  | c :: rest =>
    let next := Text.digitsFrom n [c]
    if next < Nat.pow 2 64 then takeDigits next rest else (n, c :: rest)

/-- A number times a power of ten. The power is itself rounded, and what it has no room for is taken
in steps, so the result may miss the nearest number by a little. Infinity is refused. -/
def scale (x : Float) (exponent : Int) : Option Float :=
  if exponent.natAbs ≤ 308 then
    let power := Float.ofScientific 1 false exponent.natAbs
    if 0 ≤ exponent then
      let y := x * power
      if y.isInf then none else some y
    else some (x / power)
  else if x == 0.0 then some x
  else if 0 ≤ exponent then none
  else scale (x / Float.ofScientific 1 false 308) (exponent + 308)
termination_by (-exponent).toNat

/-- The number with the given parts. One without fraction and exponent is an integer as far as 64
bits hold it; minus zero is not an integer. All others are scaled from the digits that go into 64
bits. -/
def assemble (negative : Bool) (whole fraction : List Char) (e : Option Int) : Option Number :=
  let (n, beyond) := takeDigits 0 whole
  let isWhole := beyond.isEmpty && fraction.isEmpty && e.isNone
  if isWhole && !negative then some (.int n)
  else if isWhole && 0 < n && n ≤ Nat.pow 2 63 then some (.int (-n))
  else
    let (n, ignored) := takeDigits n fraction
    let taken : Int := fraction.length - ignored.length
    (scale n.toUInt64.toFloat (beyond.length - taken + e.getD 0)).map fun x =>
      .float (if negative then -x else x)

def unsigned (negative : Bool) (s : List Char) : Option (Number × List Char) := do
  let (whole, afterWhole) ← wholeDigits s
  let (fraction, afterFraction) ← fractionDigits afterWhole
  let (e, rest) ← exponent afterFraction
  let n ← assemble negative whole fraction e
  pure (n, rest)

def number : List Char → Option (Number × List Char)
  | '-' :: s => unsigned true s
  | s => unsigned false s

def after? : List Char → List Char → Option (List Char)
  | [], s => some s
  | c :: word, d :: s => if c == d then after? word s else none
  | _ :: _, [] => none

mutual

/-- One value. `depth` is the number of containers that may still be opened. -/
def value (depth : Nat) : Nat → List Char → Option (Value × List Char)
  | 0, _ => none
  | fuel + 1, s =>
    match skipSpace s with
    | [] => none
    | 'n' :: rest => (after? ['u', 'l', 'l'] rest).map fun t => (.null, t)
    | 't' :: rest => (after? ['r', 'u', 'e'] rest).map fun t => (.bool true, t)
    | 'f' :: rest => (after? ['a', 'l', 's', 'e'] rest).map fun t => (.bool false, t)
    | '"' :: rest => (stringBody rest).map fun (chars, t) => (.string (String.ofList chars), t)
    | '[' :: rest =>
      match depth with
      | 0 => none
      | depth + 1 =>
        match skipSpace rest with
        | ']' :: t => some (.array [], t)
        | t => (items depth fuel t).map fun (vs, u) => (.array vs, u)
    | '\x7b' :: rest =>
      match depth with
      | 0 => none
      | depth + 1 =>
        match skipSpace rest with
        | '\x7d' :: t => some (.object [], t)
        | t => (entries depth fuel t).map fun (es, u) => (.object es, u)
    | t => (number t).map fun (n, u) => (.number n, u)

def items (depth : Nat) : Nat → List Char → Option (List Value × List Char)
  | 0, _ => none
  | fuel + 1, s =>
    match value depth fuel s with
    | none => none
    | some (v, rest) =>
      match skipSpace rest with
      | ']' :: t => some ([v], t)
      | ',' :: t => (items depth fuel t).map fun (vs, u) => (v :: vs, u)
      | _ => none

/-- The entries of an object up to its closing brace, as they are written. -/
def entries (depth : Nat) : Nat → List Char → Option (Entries × List Char)
  | 0, _ => none
  | fuel + 1, s =>
    match skipSpace s with
    | '"' :: s =>
      match stringBody s with
      | none => none
      | some (key, s) =>
        match skipSpace s with
        | ':' :: s =>
          match value depth fuel s with
          | none => none
          | some (v, rest) =>
            let entry := (String.ofList key, v)
            match skipSpace rest with
            | '\x7d' :: t => some ([entry], t)
            | ',' :: t => (entries depth fuel t).map fun (es, u) => (entry :: es, u)
            | _ => none
        | _ => none
    | _ => none

end

end RequestQuery.Json.Parser

namespace RequestQuery.Json

/-- The value that a text spells, white space around it aside, where an object keeps every entry
that is written. Every two calls of the readers take a character at least, so twice the length is
fuel enough. -/
def parseWritten? (s : String) : Option Value :=
  match Parser.value 127 (2 * s.length + 2) s.toList with
  | some (v, rest) => if (Parser.skipSpace rest).isEmpty then some v else none
  | none => none

/-- The value that a text spells. Of the entries under one key the last value counts, in the place
of the first. -/
def parse? (s : String) : Option Value :=
  (parseWritten? s).map Value.merged

end RequestQuery.Json
