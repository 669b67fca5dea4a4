import RequestQuery.Text.Folding.Table

/-!
Folding of diacritics: every character gives way to the base of its canonical decomposition,
letters that are no base with a mark are spelt out, and what stands next to each other afterwards is
composed again. Since no mark is left, only the parts of a Hangul syllable and three vowel signs of
the Kirat Rai script can compose.
-/
namespace RequestQuery.Text.Folding

/-- Characters of general category Mark. -/
def isMark (c : Char) : Bool :=
  markRanges.any fun (first, last) => first ≤ c.toNat && c.toNat ≤ last

/-- The unified ideograph that a compatibility ideograph stands for. -/
def ideograph? (n : Nat) : Option Char :=
  ideographRows.findSome? fun (first, targets) =>
    if first ≤ n then targets.toList[n - first]? else none

/-- The base of a character's canonical decomposition, marks left out. -/
def base (c : Char) : Char :=
  let n := c.toNat
  if n < 0xC0 then c
  else
    match baseRows.find? fun (_, forms) => forms.contains n with
    | some (b, _) => Char.ofNat b
    | none => if 0xF900 ≤ n then (ideograph? n).getD c else c

/-- Letters that carry no mark and still have a plain spelling, and vowel signs that are made up of
others. -/
def spellOut (c : Char) : List Char :=
  match c with
  | 'ß' => ['s', 's']
  | 'æ' => ['a', 'e']
  | 'Æ' => ['A', 'E']
  | 'œ' => ['o', 'e']
  | 'Œ' => ['O', 'E']
  | 'ø' => ['o']
  | 'Ø' => ['O']
  | 'ł' => ['l']
  | 'Ł' => ['L']
  | 'đ' => ['d']
  | 'Đ' => ['D']
  | 'þ' => ['t', 'h']
  | 'Þ' => ['T', 'H']
  | '𖵨' => ['𖵧', '𖵧']
  | '𖵩' => ['𖵣', '𖵧']
  | '𖵪' => ['𖵣', '𖵧', '𖵧']
  | c => [c]

/-- The composition of two adjacent characters that are not marks. -/
def compose? (a b : Char) : Option Char :=
  let m := a.toNat
  let n := b.toNat
  if 0x1100 ≤ m && m ≤ 0x1112 && 0x1161 ≤ n && n ≤ 0x1175 then
    some (Char.ofNat (0xAC00 + ((m - 0x1100) * 21 + (n - 0x1161)) * 28))
  else if 0xAC00 ≤ m && m ≤ 0xD7A3 && (m - 0xAC00) % 28 == 0 && 0x11A8 ≤ n && n ≤ 0x11C2 then
    some (Char.ofNat (m + (n - 0x11A7)))
  else if n == 0x16D67 then
    if m == 0x16D67 then some (Char.ofNat 0x16D68)
    else if m == 0x16D63 then some (Char.ofNat 0x16D69)
    else if m == 0x16D69 then some (Char.ofNat 0x16D6A)
    else none
  else none

/-- Composes from left to right, `last` being the character that may still grow. -/
def composeFrom (last : Char) : List Char → List Char
  | [] => [last]
  | c :: rest =>
    match compose? last c with
    | some both => composeFrom both rest
    | none => last :: composeFrom c rest

def compose : List Char → List Char
  | [] => []
  | c :: rest => composeFrom c rest

/-- The text with its diacritics folded away. -/
def fold (s : List Char) : List Char :=
  compose (((s.filter (!isMark ·)).map base).flatMap spellOut)

end RequestQuery.Text.Folding

namespace RequestQuery.Text

def transliterate (s : String) : String :=
  String.ofList (Folding.fold s.toList)

end RequestQuery.Text
