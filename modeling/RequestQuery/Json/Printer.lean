import RequestQuery.Decimal.Layout
import RequestQuery.Json.Value

namespace RequestQuery.Json

/-- Numbers are written without an exponent while the point stands at most sixteen places to the
right of the first digit or four to the left, and a whole number keeps one zero after the point. -/
def Number.layout : Decimal.Layout :=
  ⟨fun point => -5 < point && point ≤ 16, ['.', '0'], .toEven⟩

def Number.text : Number → List Char
  | int n => (toString n).toList
  | float x => Number.layout.write x

/-- The lower-case hexadecimal digit of a number below sixteen. -/
def hexDigit (n : Nat) : Char :=
  if n < 10 then Char.ofNat (48 + n) else Char.ofNat (87 + n)

/-- Quotes, backslashes and control characters are escaped. -/
def escapeChar (c : Char) : List Char :=
  if c == '"' then ['\\', '"']
  else if c == '\\' then ['\\', '\\']
  else if c == '\x08' then ['\\', 'b']
  else if c == '\x0c' then ['\\', 'f']
  else if c == '\n' then ['\\', 'n']
  else if c == '\r' then ['\\', 'r']
  else if c == '\t' then ['\\', 't']
  else if c.toNat < 0x20 then
    ['\\', 'u', '0', '0', hexDigit (c.toNat / 16), hexDigit (c.toNat % 16)]
  else [c]

def quote (s : String) : List Char :=
  '"' :: s.toList.flatMap escapeChar ++ ['"']

namespace Value

mutual

def text : Value → List Char
  | null => ['n', 'u', 'l', 'l']
  | bool true => ['t', 'r', 'u', 'e']
  | bool false => ['f', 'a', 'l', 's', 'e']
  | number n => n.text
  | string s => quote s
  | array items => '[' :: itemsText items ++ [']']
  | object entries => '\x7b' :: entriesText entries ++ ['\x7d']

def itemsText : List Value → List Char
  | [] => []
  | [v] => v.text
  | v :: w :: rest => v.text ++ ',' :: itemsText (w :: rest)

def entriesText : List (String × Value) → List Char
  | [] => []
  | [(k, v)] => quote k ++ ':' :: v.text
  | (k, v) :: e :: rest => quote k ++ ':' :: v.text ++ ',' :: entriesText (e :: rest)

end

/-- The compact text of a value. -/
def render (v : Value) : String :=
  String.ofList v.text

end Value

end RequestQuery.Json
