import RequestQuery.Text.Blank

namespace RequestQuery.Text

/-- ASCII letters and the underscore. -/
def isNameStart (c : Char) : Bool :=
  c.isAlpha || c == '_'

/-- ASCII letters, digits and the underscore. -/
def isNamePart (c : Char) : Bool :=
  c.isAlphanum || c == '_'

/-- A letter or underscore, then letters, digits and underscores. -/
def isNameList : List Char → Bool
  | [] => false
  | c :: rest => isNameStart c && rest.all isNamePart

/-- Identifiers of ASCII letters, digits and underscores that do not start with a digit. -/
def isIdentifier (s : String) : Bool :=
  isNameList s.toList

/-- Identifiers joined with dots. -/
def isFieldPath (s : String) : Bool :=
  (splitAtChar '.' s.toList).all isNameList

theorem isNameList_ne_nil {s : List Char} (h : isNameList s = true) : s ≠ [] := by
  rintro rfl
  simp [isNameList] at h

theorem dot_notMem_of_isNameList {s : List Char} (h : isNameList s = true) : '.' ∉ s := by
  cases s with
  | nil => simp
  | cons c rest =>
    simp only [isNameList, Bool.and_eq_true, List.all_eq_true] at h
    intro hmem
    rcases List.mem_cons.1 hmem with rfl | hmem
    · exact absurd h.1 (by decide)
    · exact absurd (h.2 _ hmem) (by decide)

end RequestQuery.Text
