import RequestQuery.Text.Case.Table

namespace RequestQuery.Text.Case

def inRanges (ranges : List (Nat × Nat)) (n : Nat) : Bool :=
  ranges.any fun (first, last) => first ≤ n && n ≤ last

/-- Characters with the property Cased. -/
def isCased (c : Char) : Bool :=
  if c.toNat < 0x80 then c.isAlpha else inRanges casedRanges c.toNat

/-- Characters with the property Case_Ignorable, which the end of a word looks through. -/
def isIgnorable (c : Char) : Bool :=
  inRanges ignorableRanges c.toNat

/-- The lower case of a character that stands alone. -/
def lowerChar (c : Char) : List Char :=
  let n := c.toNat
  if n < 0x80 then [c.toLower]
  else if n == 0x130 then ['i', '\u0307']
  else
    match lowerRows.find? fun (first, last, step, _) =>
        first ≤ n && n ≤ last && (n - first) % step == 0 with
    | some (_, _, _, offset) => [Char.ofNat (Int.toNat (n + offset))]
    | none => [c]

theorem toLower_eq_self {c : Char} (h : ¬ (0x41 ≤ c.toNat ∧ c.toNat ≤ 0x5A)) : c.toLower = c :=
  dif_neg h

/-- Whether the first character that is not ignorable is cased. -/
def startsCased (s : List Char) : Bool :=
  match s.dropWhile isIgnorable with
  | c :: _ => isCased c
  | [] => false

/-- The lower case of a text whose characters before it were `before`, last one first. A capital
sigma after a cased character and not before one ends a word. -/
def lowerAfter (before : List Char) : List Char → List Char
  | [] => []
  | c :: rest =>
    (if c == 'Σ' then
        (if startsCased before && !startsCased rest then ['ς'] else ['σ'])
      else lowerChar c) ++ lowerAfter (c :: before) rest

/-- The lower case of a text. That of a capital sigma depends on its place: at the end of a word it
is the final form. -/
def lower (s : List Char) : List Char :=
  lowerAfter [] s

/-- The upper case of a character as far as keywords of ASCII letters are concerned: besides the
ASCII letters, only the dotless i and the long s have an ASCII letter as upper case. -/
def keywordChar (c : Char) : Char :=
  if c == 'ı' then 'I' else if c == 'ſ' then 'S' else c.toUpper

end RequestQuery.Text.Case

namespace RequestQuery.Text

def lowercase (s : String) : String :=
  String.ofList (Case.lower s.toList)

end RequestQuery.Text
