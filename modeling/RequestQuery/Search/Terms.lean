import RequestQuery.Settings.Basic
import RequestQuery.Schema.Catalog
import RequestQuery.Text.Case
import RequestQuery.Text.Folding

namespace RequestQuery

/-- Why a search text is refused. -/
inductive SearchError where
  | emptyTerm
  | tooShort (term : String) (least : Nat)
  | badMode (mode : String)
  | badField (field : String)
  | unknownRelation (e : UnknownRelation)
deriving DecidableEq, Repr

/-- The kind of an error, by which callers tell errors apart. -/
def SearchError.kind : SearchError → String
  | emptyTerm => "empty-search-term"
  | tooShort .. => "search-term-too-short"
  | badMode _ => "invalid-search-mode"
  | badField _ => "field-not-searchable"
  | unknownRelation _ => UnknownRelation.kind

def SearchError.message : SearchError → String
  | emptyTerm => "search term is empty"
  | tooShort term least =>
    "search term '" ++ term ++ "' is shorter than " ++ toString least ++ " characters"
  | badMode mode => "invalid search mode '" ++ mode ++ "', expected 'and' or 'or'"
  | badField field => "field '" ++ field ++ "' is not searchable: invalid field name"
  | unknownRelation e => e.message

namespace Search

def readMode (mode : String) : Except SearchError Connective :=
  match Connective.parse? mode with
  | some c => .ok c
  | none => .error (.badMode mode)

/-- The text between double quotes, or the run of characters up to white space, at the head of a
text whose first character is no white space; and what follows it. -/
def firstToken (c : Char) (rest : List Char) : List Char × List Char :=
  let run := (c :: rest.takeWhile (!Text.isBlank ·), rest.dropWhile (!Text.isBlank ·))
  if c == '"' then (Text.splitOnce '"' rest).getD run else run

theorem length_dropWhile_le (p : Char → Bool) (s : List Char) :
    (s.dropWhile p).length ≤ s.length := by
  induction s with
  | nil => simp
  | cons c rest ih =>
    simp only [List.dropWhile_cons]
    split
    · exact Nat.le_succ_of_le ih
    · exact Nat.le_refl _

theorem firstToken_length (c : Char) (rest : List Char) :
    (firstToken c rest).2.length ≤ rest.length := by
  have hrun := length_dropWhile_le (fun d => !Text.isBlank d) rest
  unfold firstToken
  split
  · cases h : Text.splitOnce '"' rest with
    | none => simpa using hrun
    | some parts =>
      obtain ⟨before, after⟩ := parts
      obtain ⟨hs, _⟩ := Text.eq_append_of_splitOnce h
      simp only [Option.getD_some]
      conv => rhs; rw [hs]
      simp only [List.length_append, List.length_cons]
      omega
  · exact hrun

def tokens : List Char → List (List Char)
  | [] => []
  | c :: rest =>
    if Text.isBlank c then tokens rest
    else (firstToken c rest).1 :: tokens (firstToken c rest).2
termination_by s => s.length
decreasing_by
  all_goals simp only [List.length_cons]
  all_goals have := firstToken_length c rest
  all_goals omega

/-- A token without white space and quotes around it. -/
def trimToken (token : List Char) : List Char :=
  Text.strip (Text.dropEnds (fun c => c == '"' || c == '\'') (Text.strip token))

/-- A text with its diacritics folded away, and its case too unless case matters. -/
def foldText (caseSensitive : Bool) (s : List Char) : List Char :=
  Text.Folding.fold (if caseSensitive then s else Text.Case.lower s)

/-- Whether a term is a listed word, disregarding case and diacritics. -/
def isListed (blacklist : List String) (term : List Char) : Bool :=
  let folded := foldText false term
  blacklist.any fun word => foldText false word.toList == folded

/-- The terms among the tokens. The first token that is empty or too short is an error. -/
def collect (settings : SearchSettings) : List (List Char) → Except SearchError (List String)
  | [] => .ok []
  | token :: rest =>
    let term := trimToken token
    if term.isEmpty then .error .emptyTerm
    else if term.length < settings.minTermLength then
      .error (.tooShort (String.ofList term) settings.minTermLength)
    else if isListed settings.blacklist term then collect settings rest
    else (collect settings rest).map fun terms => String.ofList term :: terms

/-- The terms of a search text: words, and phrases between double quotes. Case and diacritics are
folded away first, and words that the settings list are no terms. -/
def terms (settings : SearchSettings) (raw : String) : Except SearchError (List String) :=
  (collect settings (tokens (Text.collapse (foldText settings.caseSensitive raw.toList)))).map
    fun found => found.take settings.maxTerms

/-- A term as it stands in a search text: in quotes if it has a space. -/
def quoteTerm (term : String) : String :=
  if term.contains ' ' then "\"" ++ term ++ "\"" else term

def toQueryString (terms : List String) : String :=
  String.intercalate " " (terms.map quoteTerm)

end Search

end RequestQuery
