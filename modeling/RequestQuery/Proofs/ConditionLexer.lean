import RequestQuery.Proofs.StatementWords

/-!
Lexemes of a condition. The text is read one character after the other; where it was written from
tokens, the lexemes are those of the tokens, each placeholder being the value bound to it.
-/
namespace RequestQuery.Statement

/-- The words that a condition gives a meaning of their own. -/
inductive Keyword where
  | and
  | or
  | not
  | between
  | isIn
  | like
  | ilike
  | escape
  | is
  | null
  | «exists»
  | select
  | «from»
  | «where»
deriving DecidableEq

namespace Keyword

def spellings : List (String × Keyword) :=
  [("AND", and), ("OR", or), ("NOT", not), ("BETWEEN", between), ("IN", isIn), ("LIKE", like),
    ("ILIKE", ilike), ("ESCAPE", escape), ("IS", is), ("NULL", null), ("EXISTS", «exists»),
    ("SELECT", select), ("FROM", «from»), ("WHERE", «where»)]

/-- The keyword that a word is, whatever its case. -/
def ofWord? (s : String) : Option Keyword :=
  spellings.lookup (String.ofList (s.toList.map Char.toUpper))

theorem ofWord?_of_underscore {s : String} (h : '_' ∈ s.toList) : ofWord? s = none := by
  rw [ofWord?, List.lookup_eq_none_iff]
  intro e he
  have hspelling : '_' ∉ e.1.toList := by
    revert e
    decide
  rw [bne_iff_ne]
  intro heq
  rw [← heq, String.toList_ofList] at hspelling
  exact hspelling (List.mem_map.mpr ⟨'_', h, by decide⟩)

theorem ofWord?_aliasFor (relation : String) (depth : Nat) :
    ofWord? (aliasFor relation depth) = none := by
  apply ofWord?_of_underscore
  rw [toList_aliasFor]
  simp

end Keyword

inductive Lexeme where
  | word (s : String) (keyword : Option Keyword)
  | number (n : Nat)
  | quoted (s : String)
  | comparison (op : StoreOperator)
  | dot
  | comma
  | openParen
  | closeParen
  /-- A placeholder, as the value bound to it. -/
  | value (p : Param)

namespace Lexeme

def ofWord (s : String) : Lexeme :=
  .word s (Keyword.ofWord? s)

def ofMark? : Char → Option Lexeme
  | '.' => some dot
  | ',' => some comma
  | '(' => some openParen
  | ')' => some closeParen
  | _ => none

end Lexeme

inductive RunKind where
  | word
  | number
  | placeholder
  | comparison

namespace RunKind

def isComparison (c : Char) : Bool :=
  c ∈ ['=', '!', '<', '>']

def comparisons : List (String × StoreOperator) :=
  [("=", .eq), ("!=", .ne), ("<>", .ne), (">", .gt), (">=", .gte), ("<", .lt), ("<=", .lte)]

def ofStart? (c : Char) : Option RunKind :=
  if Text.isNameStart c then some word
  else if c.isDigit then some number
  else if c = '?' then some placeholder
  else if isComparison c then some comparison
  else none

def continues : RunKind → Char → Bool
  | word, c => Text.isNamePart c
  | number, c | placeholder, c => c.isDigit
  | comparison, c => isComparison c

/-- The lexeme that a complete run is. Placeholders are numbered from 1 on. -/
def lexeme? (values : List Param) : RunKind → List Char → Option Lexeme
  | word, s => some (.ofWord (String.ofList s))
  | number, s => some (.number (Nat.ofDigitChars 10 s 0))
  | placeholder, s =>
    match Nat.ofDigitChars 10 s.tail 0 with
    | 0 => none
    | n + 1 => values[n]?.map .value
  | comparison, s => (comparisons.lookup (String.ofList s)).map .comparison

end RunKind

/-- What has been read of a lexeme that may go on. -/
inductive Pending where
  | nothing
  | run (kind : RunKind) (s : List Char)
  | quotation (s : List Char)

/-- The lexemes that are complete after a character between two lexemes, and what is pending. -/
def start? (c : Char) : Option (List Lexeme × Pending) :=
  if c = ' ' then some ([], .nothing)
  else if c = '\'' then some ([], .quotation [])
  else
    match RunKind.ofStart? c with
    | some kind => some ([], .run kind [c])
    | none => (Lexeme.ofMark? c).map fun l => ([l], .nothing)

def step? (values : List Param) : Pending → Char → Option (List Lexeme × Pending)
  | .nothing, c => start? c
  | .run kind s, c =>
    if kind.continues c then some ([], .run kind (s ++ [c]))
    else (kind.lexeme? values s).bind fun l => (start? c).map fun e => (l :: e.1, e.2)
  | .quotation s, c =>
    if c = '\'' then some ([.quoted (String.ofList s)], .nothing)
    else some ([], .quotation (s ++ [c]))

def steps? (values : List Param) : Pending → List Char → Option (List Lexeme × Pending)
  | p, [] => some ([], p)
  | p, c :: rest =>
    (step? values p c).bind fun e => (steps? values e.2 rest).map fun f => (e.1 ++ f.1, f.2)

def Pending.finish? (values : List Param) : Pending → Option (List Lexeme)
  | .nothing => some []
  | .run kind s => (kind.lexeme? values s).map fun l => [l]
  | .quotation _ => none

def lexemesFrom? (values : List Param) (p : Pending) (text : List Char) : Option (List Lexeme) :=
  (steps? values p text).bind fun e => (e.2.finish? values).map (e.1 ++ ·)

def lexemes? (values : List Param) (text : List Char) : Option (List Lexeme) :=
  lexemesFrom? values .nothing text

theorem steps?_append (values : List Param) (p : Pending) (s t : List Char) :
    steps? values p (s ++ t) =
      (steps? values p s).bind fun e =>
        (steps? values e.2 t).map fun f => (e.1 ++ f.1, f.2) := by
  induction s generalizing p with
  | nil => simp [steps?]
  | cons c s ih =>
      rw [List.cons_append, steps?, steps?]
      cases step? values p c with
      | none => rfl
      | some e =>
          simp only [Option.bind_some, ih]
          cases steps? values e.2 s with
          | none => rfl
          | some f => simp [Function.comp_def, List.append_assoc]

theorem lexemesFrom?_append {values : List Param} {p next : Pending} {s : List Char}
    {ls : List Lexeme} (h : steps? values p s = some (ls, next)) (rest : List Char) :
    lexemesFrom? values p (s ++ rest) = (lexemesFrom? values next rest).map (ls ++ ·) := by
  rw [lexemesFrom?, steps?_append, h, lexemesFrom?, Option.bind_some]
  cases steps? values next rest with
  | none => rfl
  | some e =>
      simp only [Option.map_some, Option.bind_some]
      cases e.2.finish? values with
      | none => rfl
      | some last => simp

theorem steps?_run (values : List Param) {kind : RunKind} {s : List Char}
    (hs : ∀ c ∈ s, kind.continues c = true) (before : List Char) :
    steps? values (.run kind before) s = some ([], .run kind (before ++ s)) := by
  induction s generalizing before with
  | nil => rw [List.append_nil, steps?]
  | cons c s ih =>
      rw [List.forall_mem_cons] at hs
      rw [steps?, step?, if_pos hs.1, Option.bind_some, ih hs.2, List.append_assoc]
      rfl

theorem IsBoundary.not_continues {rest : List Char} (h : IsBoundary rest) (kind : RunKind) :
    ∀ c ∈ rest.head?, kind.continues c = false := by
  intro c hc
  have hmem := h c hc
  simp only [List.mem_cons, List.not_mem_nil, or_false] at hmem
  rcases hmem with rfl | rfl | rfl | rfl | rfl <;> cases kind <;> decide

theorem lexemesFrom?_boundary {values : List Param} {next : Pending} {ls : List Lexeme}
    (hnext : next.finish? values = some ls) {rest : List Char} (h : IsBoundary rest) :
    lexemesFrom? values next rest = (lexemesFrom? values .nothing rest).map (ls ++ ·) := by
  cases next with
  | nothing =>
      cases hnext
      simp
  | quotation s => simp [Pending.finish?] at hnext
  | run kind s =>
      obtain ⟨l, hl, rfl⟩ := Option.map_eq_some_iff.mp hnext
      cases rest with
      | nil => simp [lexemesFrom?, steps?, Pending.finish?, hl]
      | cons c rest =>
          have hstep : step? values (.run kind s) c =
              (start? c).map fun e => (l :: e.1, e.2) := by
            rw [step?, h.not_continues kind c rfl, hl]
            rfl
          rw [lexemesFrom?, lexemesFrom?, steps?, steps?, hstep, step?]
          cases start? c with
          | none => rfl
          | some e =>
              simp only [Option.map_some, Option.bind_some]
              cases steps? values e.2 rest with
              | none => rfl
              | some f =>
                  simp only [Option.map_some, Option.bind_some]
                  cases f.2.finish? values <;> simp

theorem steps?_space (values : List Param) :
    steps? values .nothing [' '] = some ([], .nothing) :=
  rfl

/-- A text that is read by itself where it is set off from the text after it. -/
def IsReadAs (values : List Param) (s : List Char) (ls : List Lexeme) : Prop :=
  ∀ rest, IsBoundary rest →
    lexemesFrom? values .nothing (s ++ rest) = (lexemesFrom? values .nothing rest).map (ls ++ ·)

theorem isReadAs_of_steps {values : List Param} {s : List Char} {ls last : List Lexeme}
    {next : Pending} (h : steps? values .nothing s = some (ls, next))
    (hnext : next.finish? values = some last) : IsReadAs values s (ls ++ last) := by
  intro rest hrest
  rw [lexemesFrom?_append h, lexemesFrom?_boundary hnext hrest, Option.map_map]
  simp [Function.comp_def]

theorem isReadAs_run {values : List Param} {kind : RunKind} {c : Char} {s : List Char} {l : Lexeme}
    (hstart : start? c = some ([], .run kind [c])) (hs : ∀ d ∈ s, kind.continues d = true)
    (hl : kind.lexeme? values (c :: s) = some l) : IsReadAs values (c :: s) [l] := by
  have hsteps : steps? values .nothing (c :: s) = some ([], .run kind (c :: s)) := by
    rw [steps?, step?, hstart, Option.bind_some, steps?_run values hs]
    rfl
  have hfinish : (Pending.run kind (c :: s)).finish? values = some [l] := by
    rw [Pending.finish?, hl]
    rfl
  exact isReadAs_of_steps hsteps hfinish

theorem isReadAs_name (values : List Param) {s : String} (h : Text.isIdentifier s = true) :
    IsReadAs values s.toList [.ofWord s] := by
  cases hs : s.toList with
  | nil => simp [Text.isIdentifier, hs, Text.isNameList] at h
  | cons c rest =>
      simp only [Text.isIdentifier, hs, Text.isNameList, Bool.and_eq_true, List.all_eq_true] at h
      obtain ⟨hfirst, hrest⟩ := h
      have hspace : c ≠ ' ' := by
        rintro rfl
        exact absurd hfirst (by decide)
      have hquote : c ≠ '\'' := by
        rintro rfl
        exact absurd hfirst (by decide)
      have hstart : start? c = some ([], .run .word [c]) := by
        rw [start?, if_neg hspace, if_neg hquote, RunKind.ofStart?, if_pos hfirst]
      refine isReadAs_run hstart hrest ?_
      rw [RunKind.lexeme?, ← hs, String.ofList_toList]

theorem isReadAs_placeholder {values : List Param} {n : Nat} {p : Param}
    (h : values[n]? = some p) :
    IsReadAs values ('?' :: Nat.toDigits 10 (n + 1)) [.value p] := by
  have hstart : start? '?' = some ([], .run .placeholder ['?']) := rfl
  refine isReadAs_run hstart ?_ ?_
  · intro c hc
    exact Nat.isDigit_of_mem_toDigits (by decide) (by decide) hc
  · rw [RunKind.lexeme?, List.tail_cons, Nat.ofDigitChars_ten_toDigits]
    simp [h]

/-- The lexemes of a token. A word of several parts, such as the one for a negated operator, is read
as several lexemes. -/
def Token.lexemes : Token → List Lexeme
  | .word s => (lexemes? [] s.toList).getD []
  | .dot => [.dot]
  | .comma => [.comma]
  | .openParen => [.openParen]
  | .openLower => [.ofWord "LOWER", .openParen]
  | .closeParen => [.closeParen]
  | .bound p => [.value p]

theorem lexemes_name {s : String} (h : Text.isIdentifier s = true) :
    (Token.word s).lexemes = [.ofWord s] := by
  have hread := isReadAs_name [] h [] (by simp [IsBoundary])
  rw [List.append_nil] at hread
  rw [Token.lexemes, lexemes?, hread]
  rfl

theorem isReadAs_word (values : List Param) {s : String} (h : (Token.word s).isKnown = true) :
    IsReadAs values s.toList (Token.word s).lexemes := by
  rw [Token.isKnown, Bool.or_eq_true, decide_eq_true_iff] at h
  rcases h with hname | hfixed
  · rw [lexemes_name hname]
    exact isReadAs_name values hname
  · simp only [vocabulary, List.mem_cons, List.not_mem_nil, or_false] at hfixed
    rcases hfixed with rfl | rfl | rfl | rfl | rfl | rfl | rfl | rfl | rfl | rfl | rfl | rfl | rfl |
      rfl | rfl <;> exact isReadAs_of_steps rfl rfl

theorem lexemesFrom?_token {values : List Param} {t : Token} (ht : t.isKnown = true) {n : Nat}
    (hvalue : ∀ p ∈ t.param?, values[n]? = some p) {rest : List Char}
    (hrest : t.joinsRight = false → IsBoundary rest) :
    lexemesFrom? values .nothing (t.text (n + 1) ++ rest) =
      (lexemesFrom? values .nothing rest).map (t.lexemes ++ ·) := by
  cases t with
  | word s => exact isReadAs_word values ht rest (hrest rfl)
  | bound p => exact isReadAs_placeholder (hvalue p rfl) rest (hrest rfl)
  | dot | comma | openParen | closeParen | openLower =>
      exact lexemesFrom?_append rfl rest

/-- The text of tokens is read as their lexemes. The values that the placeholders before them stand
for are of no account. -/
theorem lexemes?_textAfter {ts : List Token} (hts : ∀ t ∈ ts, t.isKnown = true)
    (before : List Param) (joined : Bool) :
    lexemes? (before ++ params ts) (textAfter joined (before.length + 1) ts) =
      some (ts.flatMap Token.lexemes) := by
  -- The values of the placeholders that have been read pile up in front of the others.
  induction ts generalizing before joined with
  | nil => rfl
  | cons t rest ih =>
      rw [List.forall_mem_cons] at hts
      have hspace (values : List Param) (text : List Char) :
          lexemes? values ((if joined || t.joinsLeft then [] else [' ']) ++ text) =
            lexemes? values text := by
        split
        · rfl
        · rw [lexemes?, lexemesFrom?_append (steps?_space values), lexemes?]
          simp
      have hlater : lexemes? (before ++ params (t :: rest)) (textAfter t.joinsRight
          (if t.param?.isSome then before.length + 1 + 1 else before.length + 1) rest) =
            some (rest.flatMap Token.lexemes) := by
        cases hparam : t.param? with
        | none =>
            have hparams : params (t :: rest) = params rest := by
              simp [params, hparam]
            rw [hparams]
            exact ih hts.2 before t.joinsRight
        | some p =>
            have hparams : before ++ params (t :: rest) = (before ++ [p]) ++ params rest := by
              simp [params, hparam]
            have hlength : before.length + 1 = (before ++ [p]).length := by
              simp
            rw [hparams, hlength]
            exact ih hts.2 (before ++ [p]) t.joinsRight
      rw [lexemes?] at hlater
      rw [textAfter, List.append_assoc, hspace, lexemes?, lexemesFrom?_token hts.1, hlater]
      · rfl
      · intro p hp
        have hparams : params (t :: rest) = p :: params rest := by
          simp [params, Option.mem_def.mp hp]
        rw [hparams]
        simp
      · intro hjoins
        rw [hjoins]
        exact isBoundary_textAfter _ _

end RequestQuery.Statement
