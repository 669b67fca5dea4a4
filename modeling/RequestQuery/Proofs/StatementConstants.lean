import Mathlib.Data.List.Infix
import RequestQuery.Proofs.PredicateForm
import RequestQuery.Proofs.StatementNames

/-!
Conditions that compare a number with a number. They are written only for empty lists and empty
groups, which no filter and no search comes to. So a condition written for them has no such
comparison in it, neither among its tokens nor in its text.
-/
namespace RequestQuery

open Statement

namespace Statement

/-- The words with which a constant ends. -/
def constantEnd (holds : Bool) : List Token :=
  [.word "=", .word (if holds then "1" else "0")]

/-- The words at the end of a constant do not stand side by side, unless the second of them is the
name of the root table in front of a column. -/
def SparesConstants (table : String) : List Token → Prop
  | [] => True
  | t :: rest =>
    (∀ holds, constantEnd holds <+: t :: rest →
      (rest.drop 1).head? = some .dot ∧ table ∈ ["0", "1"]) ∧ SparesConstants table rest

variable {table : String} {t u : Token} {rest : List Token}

theorem sparesConstants_cons_of_ne (h : t ≠ .word "=") :
    SparesConstants table (t :: rest) ↔ SparesConstants table rest := by
  rw [SparesConstants, and_iff_right_iff_imp]
  rintro - holds hbegin
  rw [constantEnd, List.cons_prefix_cons] at hbegin
  exact absurd hbegin.1.symm h

theorem sparesConstants_cons_cons (h : u ∉ [.word "0", .word "1"]) :
    SparesConstants table (t :: u :: rest) ↔ SparesConstants table (u :: rest) := by
  rw [SparesConstants, and_iff_right_iff_imp]
  rintro - holds hbegin
  simp only [constantEnd, List.cons_prefix_cons] at hbegin
  rw [← hbegin.2.1] at h
  cases holds <;> simp at h

theorem sparesConstants_column {scope : String} (hscope : scope ∈ ["0", "1"] → scope = table) :
    SparesConstants table (.word "=" :: .word scope :: .dot :: rest) ↔
      SparesConstants table rest := by
  have hdot : SparesConstants table (.word scope :: .dot :: rest) ↔ SparesConstants table rest := by
    rw [sparesConstants_cons_cons (by simp), sparesConstants_cons_of_ne (by simp)]
  rw [SparesConstants, hdot, and_iff_right_iff_imp]
  rintro - holds hbegin
  simp only [constantEnd, List.cons_prefix_cons, Token.word.injEq] at hbegin
  have hmem : scope ∈ ["0", "1"] := by
    rw [← hbegin.2.1]
    cases holds <;> simp
  exact ⟨rfl, hscope hmem ▸ hmem⟩

theorem SparesConstants.head?_eq_dot {pre post : List Token} {holds : Bool}
    (h : SparesConstants table (pre ++ constant holds ++ post)) :
    post.head? = some .dot ∧ table ∈ ["0", "1"] := by
  induction pre with
  | nil => exact h.2.1 holds (List.prefix_append _ _)
  | cons t pre ih => exact ih h.2

theorem SparesConstants.not_isInfix {ts : List Token} (h : SparesConstants table ts)
    (htable : table ∉ ["0", "1"]) (holds : Bool) : ¬ constantEnd holds <:+: ts := by
  induction ts with
  | nil => simp [constantEnd]
  | cons t rest ih =>
      rw [List.infix_cons_iff, not_or]
      exact ⟨fun hbegin => htable (h.1 holds hbegin).2, ih h.2⟩

theorem aliasFor_notMem (relation : String) (depth : Nat) :
    aliasFor relation depth ∉ ["0", "1"] := by
  have hmark : '_' ∈ (aliasFor relation depth).toList := by simp [toList_aliasFor]
  intro hmem
  simp only [List.mem_cons, List.not_mem_nil, or_false] at hmem
  rcases hmem with heq | heq <;> rw [heq] at hmark <;> simp at hmark

theorem token_ne (op : StoreOperator) : op.token ≠ "0" ∧ op.token ≠ "1" := by
  cases op <;> decide

theorem sparesConstants_column_append {scope name : String} {more : List Token}
    (h : ∀ t ∈ more.head?, t ∉ [.word "0", .word "1"]) (hmore : SparesConstants table more) :
    SparesConstants table (column scope name ++ more) := by
  have hname : SparesConstants table (.word name :: more) := by
    cases more with
    | nil => exact ⟨fun holds hbegin => by simp [constantEnd] at hbegin, trivial⟩
    | cons t more => exact (sparesConstants_cons_cons (h t rfl)).mpr hmore
  rw [column, List.cons_append, List.cons_append, List.cons_append, List.nil_append,
    sparesConstants_cons_cons (by simp), sparesConstants_cons_of_ne (by simp)]
  exact hname

theorem sparesConstants_patternTokens (scope name : String) (op : StoreOperator) (text : String)
    (caseInsensitive : Bool) (hrest : SparesConstants table rest) :
    SparesConstants table (patternTokens scope name op text caseInsensitive ++ rest) := by
  have hescape : SparesConstants table (escapeClause ++ rest) := by
    simpa (disch := simp) only [escapeClause, List.cons_append, List.nil_append,
      sparesConstants_cons_of_ne] using hrest
  simp only [patternTokens]
  split
  · rw [List.cons_append, List.cons_append, List.cons_append,
      sparesConstants_cons_of_ne (by simp), List.append_assoc, List.append_assoc]
    refine sparesConstants_column_append (by simp) ?_
    simpa (disch := simp) only [List.cons_append, List.nil_append, sparesConstants_cons_cons,
      sparesConstants_cons_of_ne] using hescape
  · rw [List.append_assoc, List.append_assoc]
    refine sparesConstants_column_append (by simp [token_ne]) ?_
    simpa (disch := simp) only [List.cons_append, List.nil_append, sparesConstants_cons_cons,
      sparesConstants_cons_of_ne] using hescape

theorem sparesConstants_existsTokens {scope inside : String}
    (hscope : scope ∈ ["0", "1"] → scope = table) (hinside : inside ∉ ["0", "1"]) (r : Relation)
    (target : Model) {inner : List Token}
    (hinner : SparesConstants table (inner ++ .closeParen :: rest)) :
    SparesConstants table (existsTokens scope inside r target inner ++ rest) := by
  have hlink : SparesConstants table (.word "=" :: (column scope r.parentColumn ++
      .word "AND" :: (inner ++ .closeParen :: rest))) := by
    rw [column, List.cons_append, List.cons_append, List.cons_append, List.nil_append,
      sparesConstants_column hscope, sparesConstants_cons_cons (by simp),
      sparesConstants_cons_of_ne (by simp)]
    exact hinner
  have hhead : SparesConstants table (column inside r.relatedColumn ++ .word "=" ::
      (column scope r.parentColumn ++ .word "AND" :: (inner ++ .closeParen :: rest))) :=
    sparesConstants_column_append (by simp) hlink
  have hword : Token.word inside ∉ [.word "0", .word "1"] := by simpa using hinside
  simp only [existsTokens, List.append_assoc, List.cons_append, List.nil_append]
  rw [sparesConstants_cons_of_ne (by simp), sparesConstants_cons_of_ne (by simp),
    sparesConstants_cons_of_ne (by simp), sparesConstants_cons_of_ne (by simp),
    sparesConstants_cons_of_ne (by simp), sparesConstants_cons_cons hword,
    sparesConstants_cons_cons (by simp), sparesConstants_cons_of_ne (by simp)]
  exact hhead

theorem sparesConstants_separated {separator : Token} (hseparator : separator ≠ .word "=")
    {parts : List (List Token)} (h : ∀ part ∈ parts, ∀ rest, SparesConstants table rest →
      SparesConstants table (part ++ rest)) (hrest : SparesConstants table rest) :
    SparesConstants table (separated separator parts ++ rest) := by
  match parts with
  | [] => exact hrest
  | [part] => exact h part (by simp) rest hrest
  | part :: next :: more =>
      rw [separated, List.append_assoc, List.cons_append]
      · refine h part (by simp) _ ((sparesConstants_cons_of_ne hseparator).mpr ?_)
        exact sparesConstants_separated hseparator (fun p hp => h p (List.mem_cons_of_mem _ hp))
          hrest
      · simp

end Statement

namespace Predicate

variable {dialect : Dialect} {catalog : Catalog} {m : Model} {scope table : String} {depth : Nat}
  {p : Predicate}

/-- The tokens of a predicate of proper form, whatever follows them. The scope is the root table or
an alias. -/
theorem sparesConstants_tokens (hproper : p.Every (IsProper dialect))
    (hscope : scope ∈ ["0", "1"] → scope = table) {ts : List Token}
    (h : p.tokens catalog m scope depth = .ok ts) {rest : List Token}
    (hrest : SparesConstants table rest) : SparesConstants table (ts ++ rest) := by
  revert hproper hscope rest
  refine tokens_induction (motive := fun m scope depth p ts => p.Every (IsProper dialect) →
      (scope ∈ ["0", "1"] → scope = table) → ∀ {rest}, SparesConstants table rest →
      SparesConstants table (ts ++ rest)) h
    ?compare ?pattern ?memberNone ?member ?between ?null ?related ?groupNone ?group
  case compare =>
    intro m scope depth name op value _ _ rest hrest
    rw [List.append_assoc]
    refine sparesConstants_column_append (by simp [token_ne]) ?_
    simpa (disch := simp) only [List.cons_append, List.nil_append, Statement.bind,
      sparesConstants_cons_cons, sparesConstants_cons_of_ne] using hrest
  case pattern =>
    intro m scope depth name op text caseInsensitive _ _ rest hrest
    exact sparesConstants_patternTokens scope name op text caseInsensitive hrest
  case memberNone =>
    intro m scope depth name negated hproper
    exact absurd rfl hproper
  case member =>
    intro m scope depth name values negated _ _ _ rest hrest
    have hitems : SparesConstants table
        (separated .comma (values.map fun v => [Statement.bind v]) ++ .closeParen :: rest) := by
      refine sparesConstants_separated (by simp) ?_
        ((sparesConstants_cons_of_ne (by simp)).mpr hrest)
      rintro part hpart rest hrest
      obtain ⟨v, -, rfl⟩ := List.mem_map.mp hpart
      exact (sparesConstants_cons_of_ne (by simp [Statement.bind])).mpr hrest
    rw [List.append_assoc, List.append_assoc, List.append_assoc]
    refine sparesConstants_column_append (by simp [token_ne]) ?_
    simpa (disch := simp) only [List.cons_append, List.nil_append, sparesConstants_cons_cons,
      sparesConstants_cons_of_ne] using hitems
  case between =>
    intro m scope depth name low high negated _ _ rest hrest
    rw [List.append_assoc]
    refine sparesConstants_column_append (by simp [token_ne]) ?_
    simpa (disch := simp) only [List.cons_append, List.nil_append, Statement.bind,
      sparesConstants_cons_cons, sparesConstants_cons_of_ne] using hrest
  case null =>
    intro m scope depth name negated _ _ rest hrest
    rw [List.append_assoc]
    refine sparesConstants_column_append (by simp [token_ne]) ?_
    refine (sparesConstants_cons_of_ne ?_).mpr hrest
    cases negated <;> simp [StoreOperator.token]
  case related =>
    intro m scope depth relation inner r target ts _ ih hproper hscope rest hrest
    have hinside := aliasFor_notMem relation (depth + 1)
    refine sparesConstants_existsTokens hscope hinside r target ?_
    exact ih hproper.2 (fun hmem => absurd hmem hinside)
      ((sparesConstants_cons_of_ne (by simp)).mpr hrest)
  case groupNone =>
    intro m scope depth c hproper
    exact absurd hproper.1 (by simp [IsProper])
  case group =>
    intro m scope depth c members parts _ hparts hproper hscope rest hrest
    rw [List.cons_append, List.cons_append, sparesConstants_cons_of_ne (by simp),
      List.append_assoc]
    refine sparesConstants_separated (by cases c <;> simp [Connective.keyword]) ?_
      ((sparesConstants_cons_of_ne (by simp)).mpr hrest)
    intro part hpart rest hrest
    obtain ⟨q, hq, ih⟩ := exists_of_mem_traversal hparts hpart
    exact ih ((every_group.mp hproper).2 q hq) hscope hrest

end Predicate

namespace Query

variable {dialect : Dialect} {q : Query} {ts : List Token}

theorem sparesConstants_conditionTokens
    (hproper : ∀ c ∈ q.conditions, c.2.Every (Predicate.IsProper dialect))
    (h : q.conditionTokens = .ok ts) : SparesConstants q.source.model.table ts := by
  obtain ⟨joined, hjoined, rfl⟩ := map_eq_ok_iff.mp h
  have hall : SparesConstants q.source.model.table joined := by
    revert hproper
    refine joinedTokens_induction (motive := fun conditions ts =>
      (∀ c ∈ conditions, c.2.Every (Predicate.IsProper dialect)) →
        SparesConstants q.source.model.table ts) hjoined (fun _ => trivial) ?_
    intro c p rest ts more hts ih hproper
    rw [List.forall_mem_cons] at hproper
    rw [List.cons_append, sparesConstants_cons_of_ne (by cases c <;> simp [Connective.keyword])]
    exact Predicate.sparesConstants_tokens hproper.1 (fun _ => rfl) hts (ih hproper.2)
  cases joined with
  | nil => exact trivial
  | cons t rest => exact hall.2

end Query

namespace Statement

/-- The text of a constant. -/
def constantText (holds : Bool) : List Char :=
  textAfter true 1 (constant holds)

example : String.ofList (constantText true) = "1 = 1" := by decide

theorem text_of_isKnown {t : Token} (ht : t.isKnown = true) (n : Nat) :
    ¬ [' ', '=', ' '] <:+: ' ' :: t.text n ∧ ¬ [' '] <:+ ' ' :: t.text n ∧
      ([' ', '='] <:+ ' ' :: t.text n → t = .word "=") := by
  -- Only fixed words have a space or the sign in them.
  have hplain (hne : t.text n ≠ []) (hspace : ' ' ∉ t.text n) (hsign : '=' ∉ t.text n) :
      ¬ [' ', '=', ' '] <:+: ' ' :: t.text n ∧ ¬ [' '] <:+ ' ' :: t.text n ∧
        ([' ', '='] <:+ ' ' :: t.text n → t = .word "=") := by
    have hsign' : '=' ∉ ' ' :: t.text n := by simpa using hsign
    refine ⟨fun h => hsign' (h.subset (by simp)), fun h => ?_,
      fun h => absurd (h.subset (by simp)) hsign'⟩
    rcases List.suffix_cons_iff.mp h with heq | hsuffix
    · exact hne (List.cons.inj heq).2.symm
    · exact hspace (hsuffix.subset (by simp))
  cases t with
  | word s =>
      rw [Token.isKnown, Bool.or_eq_true, decide_eq_true_iff] at ht
      rcases ht with hname | hfixed
      · have hpart := Text.isNamePart_of_mem hname
        refine hplain (Text.isNameList_ne_nil hname) (fun hmem => ?_) fun hmem => ?_
        · exact absurd (hpart _ hmem) (by decide)
        · exact absurd (hpart _ hmem) (by decide)
      · have hvocabulary : ∀ s ∈ vocabulary, ¬ [' ', '=', ' '] <:+: ' ' :: s.toList ∧
            ¬ [' '] <:+ ' ' :: s.toList ∧ ([' ', '='] <:+ ' ' :: s.toList → s = "=") := by
          decide
        obtain ⟨hinside, hspace, hsign⟩ := hvocabulary s hfixed
        exact ⟨hinside, hspace, fun h => congrArg Token.word (hsign h)⟩
  | bound p =>
      have hdigit : ∀ c ∈ Nat.toDigits 10 n, c.isDigit = true := fun c hc =>
        Nat.isDigit_of_mem_toDigits (by decide) (by decide) hc
      refine hplain (by simp [Token.text]) (fun hmem => ?_) fun hmem => ?_
      · exact absurd (hdigit _ (by simpa [Token.text] using hmem)) (by decide)
      · exact absurd (hdigit _ (by simpa [Token.text] using hmem)) (by decide)
  | dot | comma | openParen | closeParen | openLower =>
      exact hplain (by simp [Token.text]) (by simp [Token.text]) (by simp [Token.text])

theorem eq_word_of_digit {ts : List Token} (hts : ∀ t ∈ ts, t.isKnown = true) {n : Nat}
    {holds : Bool} (h : [' ', if holds then '1' else '0'] <+: textAfter false n ts) :
    ts.head? = some (.word (if holds then "1" else "0")) := by
  cases ts with
  | nil => simp [textAfter] at h
  | cons t rest =>
      have ht := hts t (by simp)
      cases t with
      | word s =>
          have hdigit : [if holds then '1' else '0'] <+: s.toList ++
              textAfter false n rest := by
            simpa [textAfter, Token.joinsLeft, Token.joinsRight, Token.text, Token.param?] using h
          rw [Token.isKnown, Bool.or_eq_true, decide_eq_true_iff] at ht
          rcases ht with hname | hfixed
          · rw [Text.isIdentifier] at hname
            cases hs : s.toList with
            | nil => simp [hs, Text.isNameList] at hname
            | cons c more =>
                simp only [hs, Text.isNameList, Bool.and_eq_true] at hname
                rw [hs, List.cons_append, List.cons_prefix_cons] at hdigit
                rw [← hdigit.1] at hname
                exact absurd hname.1 (by cases holds <;> decide)
          · have hvocabulary : ∀ s ∈ vocabulary, s.toList ≠ [] ∧ ∀ holds : Bool,
                s.toList.head? = some (if holds then '1' else '0') →
                  s = if holds then "1" else "0" := by
              decide
            obtain ⟨hne, hword⟩ := hvocabulary s hfixed
            obtain ⟨c, more, hs⟩ := List.exists_cons_of_ne_nil hne
            rw [hs, List.cons_append, List.cons_prefix_cons] at hdigit
            rw [List.head?_cons, hword holds (by rw [hs, List.head?_cons, hdigit.1])]
      | bound p | dot | comma | openParen | closeParen | openLower =>
          cases holds <;> simp [textAfter, Token.joinsLeft, Token.text] at h

theorem not_isInfix_textAfter {ts : List Token} (hts : ∀ t ∈ ts, t.isKnown = true)
    {holds : Bool} (h : ¬ constantEnd holds <:+: ts) (joined : Bool) (n : Nat) :
    ¬ [' ', '=', ' ', if holds then '1' else '0'] <:+: textAfter joined n ts := by
  induction ts generalizing joined n with
  | nil => simp [textAfter]
  | cons t rest ih =>
      rw [List.forall_mem_cons] at hts
      rw [List.infix_cons_iff, not_or] at h
      obtain ⟨hinside, hspace, hsign⟩ := text_of_isKnown hts.1 n
      have hgap :
          (if joined || t.joinsLeft then [] else [' ']) ++ t.text n <:+ ' ' :: t.text n := by
        split
        · exact List.suffix_cons _ _
        · exact List.suffix_rfl
      have hrest := ih hts.2 h.2
      rw [textAfter, List.infix_append_iff, not_or, not_or]
      refine ⟨fun hoccurs => ?_, hrest _ _, ?_⟩
      · refine hinside (List.IsInfix.trans ?_ (hoccurs.trans hgap.isInfix))
        exact ⟨[], [if holds then '1' else '0'], rfl⟩
      · -- The four characters may begin in the text of the token and go on after it.
        rintro ⟨before, after, hsplit, hsuffix, hbegin⟩
        have hbefore := hsuffix.trans hgap
        rcases before with _ | ⟨a, _ | ⟨b, _ | ⟨c, _ | ⟨d, _ | ⟨e, more⟩⟩⟩⟩⟩
        · rw [List.nil_append] at hsplit
          exact hrest _ _ (hsplit ▸ hbegin.isInfix)
        · cases hsplit
          exact hspace hbefore
        · cases hsplit
          cases hsign hbefore
          have hdigit := eq_word_of_digit hts.2 hbegin
          obtain ⟨more, rfl⟩ := List.head?_eq_some_iff.mp hdigit
          exact h.1 ⟨more, rfl⟩
        · cases hsplit
          exact hspace ((List.suffix_append [' ', '='] [' ']).trans hbefore)
        · cases hsplit
          exact hinside (List.IsInfix.trans ⟨[], [_], rfl⟩ hbefore.isInfix)
        · have hlength := congrArg List.length hsplit
          simp at hlength

end Statement

/-- The predicate is what a filter without handlers comes to, with operators laid over the built-in
ones, or what a search comes to. -/
inductive Source.Yields (source : Source) : Predicate → Prop
  | filter {ctx : FilterContext} {overrides spec p} : ctx.source = source →
      OperatorTable.withOverrides overrides = .ok ctx.snapshot.operators →
      ctx.UsesNoHandler (FilterSpec.fields spec) → ctx.evaluate spec = .ok (some p) →
      Yields source p
  | search {settings raw fields mode p} :
      Search.build source settings raw fields mode = .ok (some p) → Yields source p

namespace Source.Yields

variable {source : Source} {p : Predicate}

theorem every_isProper (h : source.Yields p) : p.Every (Predicate.IsProper source.dialect) := by
  cases h with
  | filter hsource hoperators hkeys h =>
      subst hsource
      exact FilterContext.every_isProper_of_evaluate
        (OperatorTable.isCoherent_of_withOverrides hoperators) hkeys h p rfl
  | search h => exact Search.every_isProper_of_build h p rfl

theorem isScoped (h : source.Yields p) : p.IsScoped source := by
  cases h with
  | filter hsource _ hkeys h =>
      subst hsource
      exact FilterContext.isScoped_of_evaluate hkeys.keepsToColumn h p rfl
  | search h => exact Search.isScoped_of_build h p rfl

end Source.Yields

namespace Query

/-- Conditions that filters and searches come to are of proper form in every node, and the condition
written for them has no constant in it. Where the words of one stand side by side, the last is the
root table, so named, in front of a column; where names are identifiers, not even the text has
one. -/
theorem every_isProper_of_yields (q : Query) (h : ∀ c ∈ q.conditions, q.source.Yields c.2) :
    (∀ c ∈ q.conditions, c.2.Every (Predicate.IsProper q.source.dialect)) ∧
      (∃ ts, q.conditionTokens = .ok ts ∧ ∀ pre holds post, ts = pre ++ constant holds ++ post →
        post.head? = some .dot ∧ q.source.model.table ∈ ["0", "1"]) ∧
      (q.source.HasIdentifiers → ∃ f, q.whereClause = .ok f ∧
        ∀ holds, ¬ constantText holds <:+: f.text.toList) := by
  have hproper : ∀ c ∈ q.conditions, c.2.Every (Predicate.IsProper q.source.dialect) :=
    fun c hc => (h c hc).every_isProper
  obtain ⟨ts, hts⟩ := exists_conditionTokens fun c hc => (h c hc).isScoped.isWritable
  have hspares := sparesConstants_conditionTokens hproper hts
  refine ⟨hproper, ⟨ts, hts, ?_⟩, fun hsource => ⟨.ofTokens ts, ?_, fun holds hoccurs => ?_⟩⟩
  · rintro pre holds post rfl
    exact hspares.head?_eq_dot
  · rw [whereClause_eq_map, hts]
    rfl
  · have hknown := isKnown_conditionTokens hsource
      (fun c hc => (h c hc).isScoped.every_hasIdentifier) hts
    have htable : q.source.model.table ∉ ["0", "1"] := by
      intro hmem
      have hname := hsource.root.table
      simp only [List.mem_cons, List.not_mem_nil, or_false] at hmem
      rcases hmem with heq | heq <;> rw [heq] at hname <;> exact absurd hname (by decide)
    have htext : [' ', '=', ' ', if holds then '1' else '0'] <:+: constantText holds :=
      ⟨['1'], [], by cases holds <;> rfl⟩
    rw [Fragment.ofTokens, String.toList_ofList] at hoccurs
    exact not_isInfix_textAfter hknown (hspares.not_isInfix htable holds) true 1
      (htext.trans hoccurs)

theorem every_isProper_of_yields_posts :
    let filtered : Predicate := .group .or [
      .related "author" (.group .and
        [.pattern "name" .like "b%" true, .compare "name" .ne (.string "c")]),
      .member "id" [.number (.int 1), .number (.int 2)] false]
    let searched : Predicate := .group .and
      [.pattern "title" .like "%new york%" true, .pattern "title" .like "%it%" true]
    let q : Query := { Query.posts with conditions := [(.and, filtered), (.or, searched)] }
    (∀ c ∈ q.conditions, q.source.Yields c.2) ∧
      (∀ c ∈ q.conditions, c.2.Every (Predicate.IsProper q.source.dialect)) ∧
      (∃ ts, q.conditionTokens = .ok ts ∧ ∀ pre holds post, ts = pre ++ constant holds ++ post →
        post.head? = some .dot ∧ q.source.model.table ∈ ["0", "1"]) ∧
      (q.source.HasIdentifiers → ∃ f, q.whereClause = .ok f ∧
        ∀ holds, ¬ constantText holds <:+: f.text.toList) := by
  intro filtered searched q
  let operators := (OperatorTable.builtin.register "starts_with" .ilike).register "eq" .ne
  have hoperators : OperatorTable.withOverrides [("starts_with", "ILIKE"), ("eq", "!=")] =
      .ok operators := rfl
  let ctx : FilterContext := { FilterContext.posts with
    snapshot := { FilterContext.posts.snapshot with operators } }
  let spec : FilterSpec := [.group (.mk .or
    [.field ⟨"author.name", .operators .and [("starts_with", .string "b"), ("eq", .string "c")]⟩,
      .field ⟨"id", .literal (.array [.number (.int 1), .number (.int 2)])⟩] [])]
  have hkeys : ctx.UsesNoHandler (FilterSpec.fields spec) := by decide
  have hfiltered : ctx.evaluate spec = .ok (some filtered) := by rfl
  have hterms :
      Search.terms Settings.default.search "\"new York\" it" = .ok ["new york", "it"] := by
    decide +kernel
  have hsearched : Search.build .posts Settings.default.search "\"new York\" it" none none =
      .ok (some searched) := by
    simp only [Search.build, hterms]
    rfl
  have h : ∀ c ∈ q.conditions, q.source.Yields c.2 := by
    intro c hc
    simp only [q, List.mem_cons, List.not_mem_nil, or_false] at hc
    rcases hc with rfl | rfl
    · exact .filter rfl hoperators hkeys hfiltered
    · exact .search hsearched
  exact ⟨h, every_isProper_of_yields q h⟩

end Query

end RequestQuery
