namespace RequestQuery.Text

/-- The characters with the Unicode property White_Space. -/
def isBlank (c : Char) : Bool :=
  let n := c.toNat
  (0x9 ≤ n && n ≤ 0xD) || n == 0x20 || n == 0x85 || n == 0xA0 || n == 0x1680 ||
    (0x2000 ≤ n && n ≤ 0x200A) || n == 0x2028 || n == 0x2029 || n == 0x202F || n == 0x205F ||
    n == 0x3000

/-- What is left after the longest run of `p` at either end is dropped. -/
def dropEnds (p : Char → Bool) (s : List Char) : List Char :=
  ((s.dropWhile p).reverse.dropWhile p).reverse

def strip (s : List Char) : List Char :=
  dropEnds isBlank s

/-- The parts between the characters that satisfy `p`; there is one part more than there are such
characters. -/
def splitWhere (p : Char → Bool) : List Char → List (List Char)
  | [] => [[]]
  | c :: rest =>
    if p c then [] :: splitWhere p rest
    else
      match splitWhere p rest with
      | part :: parts => (c :: part) :: parts
      | [] => [[c]]

theorem splitWhere_ne_nil (p : Char → Bool) (s : List Char) : splitWhere p s ≠ [] := by
  cases s with
  | nil => simp [splitWhere]
  | cons c rest =>
    simp only [splitWhere]
    split
    · simp
    · split <;> simp

/-- The parts of a text between the occurrences of one character. -/
def splitAtChar (sep : Char) (s : List Char) : List (List Char) :=
  splitWhere (· == sep) s

theorem intercalate_splitAtChar (sep : Char) (s : List Char) :
    List.intercalate [sep] (splitAtChar sep s) = s := by
  unfold splitAtChar
  induction s with
  | nil => rfl
  | cons c rest ih =>
    have hne := splitWhere_ne_nil (· == sep) rest
    simp only [splitWhere]
    by_cases hc : c = sep
    · subst hc
      cases hp : splitWhere (· == c) rest with
      | nil => exact absurd hp hne
      | cons part parts =>
        rw [hp] at ih
        cases parts <;> simp_all [List.intercalate, List.intersperse]
    · have hc' : (c == sep) = false := by simp [hc]
      simp only [hc', Bool.false_eq_true, if_false]
      cases hp : splitWhere (· == sep) rest with
      | nil => exact absurd hp hne
      | cons part parts =>
        rw [hp] at ih
        cases parts <;> simp_all [List.intercalate, List.intersperse]

/-- The text before and after the first occurrence of a character. -/
def splitOnce (sep : Char) : List Char → Option (List Char × List Char)
  | [] => none
  | c :: rest =>
    if c == sep then some ([], rest)
    else (splitOnce sep rest).map fun (before, after) => (c :: before, after)

theorem eq_append_of_splitOnce {sep : Char} {s before after : List Char}
    (h : splitOnce sep s = some (before, after)) :
    s = before ++ sep :: after ∧ sep ∉ before := by
  induction s generalizing before with
  | nil => simp [splitOnce] at h
  | cons c rest ih =>
    simp only [splitOnce] at h
    by_cases hc : c = sep
    · subst hc
      simp only [beq_self_eq_true, if_true, Option.some.injEq, Prod.mk.injEq] at h
      obtain ⟨rfl, rfl⟩ := h
      simp
    · have hc' : (c == sep) = false := by simp [hc]
      simp only [hc', Bool.false_eq_true, if_false, Option.map_eq_some_iff, Prod.exists,
        Prod.mk.injEq] at h
      obtain ⟨b, a, hb, rfl, rfl⟩ := h
      obtain ⟨hs, hn⟩ := ih hb
      subst hs
      refine ⟨rfl, ?_⟩
      simp only [List.mem_cons, not_or]
      exact ⟨fun he => hc he.symm, hn⟩

/-- The maximal runs of characters that are not white space. -/
def words (s : List Char) : List (List Char) :=
  (splitWhere isBlank s).filter (!·.isEmpty)

/-- The words of a text with one space between two of them. -/
def collapse (s : List Char) : List Char :=
  List.intercalate [' '] (words s)

def trim (s : String) : String :=
  String.ofList (strip s.toList)

theorem toList_trim (s : String) : (trim s).toList = strip s.toList :=
  String.toList_ofList

/-- The parts of a string between the occurrences of one character. -/
def split (sep : Char) (s : String) : List String :=
  (splitAtChar sep s.toList).map String.ofList

theorem intercalate_split (sep : Char) (s : String) :
    String.intercalate (String.ofList [sep]) (split sep s) = s := by
  apply String.toList_inj.1
  simp [String.toList_intercalate, split, Function.comp_def, intercalate_splitAtChar]

end RequestQuery.Text
