import RequestQuery.Text.Blank

/-!
Form encoding: names and values between ampersands, with plus signs for spaces and percent signs for
bytes. Bytes that are not UTF-8 are read as the replacement character, one for every longest start
of a character that does not go on.
-/
namespace RequestQuery.Text.Form

def isTail (b : Nat) : Bool :=
  0x80 ≤ b && b < 0xC0

def isSecondOfThree (a b : Nat) : Bool :=
  if a == 0xE0 then 0xA0 ≤ b && b < 0xC0
  else if a == 0xED then 0x80 ≤ b && b < 0xA0
  else isTail b

def isSecondOfFour (a b : Nat) : Bool :=
  if a == 0xF0 then 0x90 ≤ b && b < 0xC0
  else if a == 0xF4 then 0x80 ≤ b && b < 0x90
  else isTail b

def replacement : Char := '\uFFFD'

/-- The characters that bytes spell in UTF-8. -/
def decodeBytes : List Nat → List Char
  | [] => []
  | a :: rest =>
    if a < 0x80 then Char.ofNat a :: decodeBytes rest
    else if 0xC2 ≤ a && a < 0xE0 then
      match rest with
      | b :: more =>
        if isTail b then Char.ofNat ((a - 0xC0) * 64 + (b - 0x80)) :: decodeBytes more
        else replacement :: decodeBytes (b :: more)
      | [] => [replacement]
    else if 0xE0 ≤ a && a < 0xF0 then
      match rest with
      | b :: more =>
        if isSecondOfThree a b then
          match more with
          | c :: more =>
            if isTail c then
              Char.ofNat (((a - 0xE0) * 64 + (b - 0x80)) * 64 + (c - 0x80)) :: decodeBytes more
            else replacement :: decodeBytes (c :: more)
          | [] => [replacement]
        else replacement :: decodeBytes (b :: more)
      | [] => [replacement]
    else if 0xF0 ≤ a && a < 0xF5 then
      match rest with
      | b :: more =>
        if isSecondOfFour a b then
          match more with
          | c :: more =>
            if isTail c then
              match more with
              | d :: more =>
                if isTail d then
                  Char.ofNat ((((a - 0xF0) * 64 + (b - 0x80)) * 64 + (c - 0x80)) * 64 +
                    (d - 0x80)) :: decodeBytes more
                else replacement :: decodeBytes (d :: more)
              | [] => [replacement]
            else replacement :: decodeBytes (c :: more)
          | [] => [replacement]
        else replacement :: decodeBytes (b :: more)
      | [] => [replacement]
    else replacement :: decodeBytes rest

def hexValue? (b : Nat) : Option Nat :=
  if 0x30 ≤ b ∧ b ≤ 0x39 then some (b - 0x30)
  else if 0x41 ≤ b ∧ b ≤ 0x46 then some (b - 0x37)
  else if 0x61 ≤ b ∧ b ≤ 0x66 then some (b - 0x57)
  else none

/-- The bytes that an encoded name or value stands for. A percent sign without two digits after it
stands for itself. -/
def unescape : List Nat → List Nat
  | [] => []
  | 0x2B :: rest => 0x20 :: unescape rest
  | 0x25 :: a :: b :: rest =>
    match hexValue? a, hexValue? b with
    | some x, some y => (16 * x + y) :: unescape rest
    | _, _ => 0x25 :: unescape (a :: b :: rest)
  | b :: rest => b :: unescape rest

def decodePart (bytes : List Nat) : String :=
  String.ofList (decodeBytes (unescape bytes))

/-- The parts of a list between the occurrences of an element. -/
def splitBytes (sep : Nat) : List Nat → List (List Nat)
  | [] => [[]]
  | b :: rest =>
    if b == sep then [] :: splitBytes sep rest
    else
      match splitBytes sep rest with
      | part :: parts => (b :: part) :: parts
      | [] => [[b]]

/-- The name and value of one parameter; without an equals sign the value is empty. -/
def decodePair (bytes : List Nat) : String × String :=
  (decodePart (bytes.takeWhile (· != 0x3D)), decodePart ((bytes.dropWhile (· != 0x3D)).drop 1))

def decode (s : String) : List (String × String) :=
  ((splitBytes 0x26 (s.toUTF8.toList.map UInt8.toNat)).filter (!·.isEmpty)).map decodePair

end RequestQuery.Text.Form
