import RequestQuery.Proofs.Rendering
import RequestQuery.Proofs.StatementWords

namespace RequestQuery

open Json (Value)
open Statement

namespace Statement

/-- The digits after each question mark of a text, from left to right. -/
def placeholders : List Char → List (List Char)
  | [] => []
  | c :: rest =>
    if c = '?' then rest.takeWhile Char.isDigit :: placeholders rest else placeholders rest

theorem placeholders_append {s : List Char} (h : '?' ∉ s) (rest : List Char) :
    placeholders (s ++ rest) = placeholders rest := by
  induction s with
  | nil => rfl
  | cons c s ih =>
      rw [List.mem_cons, not_or] at h
      rw [List.cons_append, placeholders, if_neg (Ne.symm h.1), ih h.2]

theorem questionMark_notMem_toDigits (n : Nat) : '?' ∉ Nat.toDigits 10 n := by
  intro h
  have hdigit := Nat.isDigit_of_mem_toDigits (by decide) (by decide) h
  exact absurd hdigit (by decide)

theorem placeholders_bound {rest : List Char} (h : IsBoundary rest) (n : Nat) :
    placeholders ('?' :: Nat.toDigits 10 n ++ rest) = Nat.toDigits 10 n :: placeholders rest := by
  have hdigits : ∀ c ∈ Nat.toDigits 10 n, c.isDigit = true := fun c hc =>
    Nat.isDigit_of_mem_toDigits (by decide) (by decide) hc
  rw [List.cons_append, placeholders, if_pos rfl,
    Text.takeWhile_append_eq hdigits h.isDigit,
    placeholders_append (questionMark_notMem_toDigits n)]

/-- A word without a question mark of its own. -/
def Token.IsPlain : Token → Prop
  | .word s => '?' ∉ s.toList
  | _ => True

theorem questionMark_notMem_text {t : Token} (h : t.IsPlain) (hparam : t.param? = none) (n : Nat) :
    '?' ∉ t.text n := by
  cases t with
  | word s => exact h
  | bound p => simp [Token.param?] at hparam
  | _ => simp [Token.text]

/-- Written from the `n`-th value on, tokens have the placeholders `n`, `n + 1` and so forth. -/
theorem placeholders_textAfter {ts : List Token} (h : ∀ t ∈ ts, t.IsPlain) (joined : Bool)
    (n : Nat) :
    placeholders (textAfter joined n ts) =
      (List.range' n (params ts).length).map (Nat.toDigits 10) := by
  induction ts generalizing joined n with
  | nil => rfl
  | cons t rest ih =>
      rw [List.forall_mem_cons] at h
      have hspace : '?' ∉ (if joined || t.joinsLeft then [] else [' ']) := by
        split <;> simp
      rw [textAfter, List.append_assoc, placeholders_append hspace]
      cases hparam : t.param? with
      | none =>
          rw [placeholders_append (questionMark_notMem_text h.1 hparam n), ih h.2]
          simp [params, hparam]
      | some p =>
          obtain rfl : t = .bound p := by
            cases t <;> simp_all [Token.param?]
          have htext : (Token.bound p).text n = '?' :: Nat.toDigits 10 n := rfl
          have hright : (Token.bound p).joinsRight = false := rfl
          rw [htext, hright, placeholders_bound (isBoundary_textAfter _ _), ih h.2]
          simp [params, Token.param?, List.range'_succ]

theorem isPlain_of_isIdentifier {s : String} (h : Text.isIdentifier s = true) :
    (Token.word s).IsPlain := by
  intro hmem
  exact absurd (Text.isNamePart_of_mem h _ hmem) (by decide)

theorem isPlain_number (n : Nat) : (Token.word (toString n)).IsPlain := by
  rw [Token.IsPlain, Nat.toString_eq_repr, Nat.toList_repr]
  exact questionMark_notMem_toDigits n

theorem isPlain_of_isAmong {names : List String} (hnames : ∀ s ∈ names, (Token.word s).IsPlain)
    {t : Token} (h : t.IsAmong names fixedWords) : t.IsPlain := by
  cases t with
  | word s =>
      have hfixedWords : ∀ s ∈ fixedWords, '?' ∉ s.toList := by decide
      exact h.elim (hnames s) (hfixedWords s)
  | _ => trivial

end Statement

namespace Predicate

mutual

/-- The values that a condition compares with, in the order in which it is written. -/
def boundValues : Predicate → List Value
  | compare _ _ value => [value]
  | pattern _ _ text _ => [.string text]
  | member _ values _ => values
  | between _ low high _ => [low, high]
  | null .. => []
  | related _ inner => inner.boundValues
  | group _ members => boundValuesOf members

def boundValuesOf : List Predicate → List Value
  | [] => []
  | p :: rest => p.boundValues ++ boundValuesOf rest

end

theorem boundValuesOf_eq_flatMap (members : List Predicate) :
    boundValuesOf members = members.flatMap boundValues := by
  induction members with
  | nil => rfl
  | cons p rest ih => rw [boundValuesOf, ih, List.flatMap_cons]

theorem params_tokens {catalog : Catalog} {m : Model} {scope : String} {depth : Nat}
    {p : Predicate} {ts : List Token} (h : p.tokens catalog m scope depth = .ok ts) :
    params ts = p.boundValues.map Param.ofValue := by
  refine tokens_induction (motive := fun _ _ _ p ts => params ts = p.boundValues.map Param.ofValue)
    h ?compare ?pattern ?memberNone ?member ?between ?null ?related ?groupNone ?group
  case pattern =>
    intro m scope depth name op text caseInsensitive
    unfold patternTokens
    split <;> rfl
  case member =>
    intro m scope depth name values negated hvalues
    have hitems : (values.map fun v => [Statement.bind v]).flatMap params =
        values.map Param.ofValue := by
      rw [List.flatMap_map, List.map_eq_flatMap]
      rfl
    rw [params_enclosed rfl rfl, params_separated rfl, hitems, boundValues]
  case related =>
    intro m scope depth relation inner r target ts hrelated ih
    rw [params_existsTokens, ih]
    rfl
  case group =>
    intro m scope depth c members parts hmembers hparts
    have hinner : parts.flatMap params = (members.flatMap boundValues).map Param.ofValue := by
      clear hmembers
      induction hparts with
      | nil => rfl
      | cons hhead _ ih =>
          rw [List.flatMap_cons, List.flatMap_cons, List.map_append, hhead, ih]
    rw [params_group, hinner, boundValues, boundValuesOf_eq_flatMap]
  all_goals
    intros
    rfl

end Predicate

namespace Query

theorem params_joinedTokens {source : Source} {conditions : List (Connective × Predicate)}
    {ts : List Token} (h : joinedTokens source conditions = .ok ts) :
    params ts = (conditions.flatMap fun c => c.2.boundValues).map Param.ofValue := by
  refine joinedTokens_induction (motive := fun conditions ts =>
    params ts = (conditions.flatMap fun c => c.2.boundValues).map Param.ofValue) h rfl ?_
  intro c p rest ts more hts ih
  have hword : params (Token.word c.keyword :: ts) = params ts := rfl
  rw [params_append, hword, Predicate.params_tokens hts, ih, List.flatMap_cons, List.map_append]

theorem params_conditionTokens {q : Query} {ts : List Token} (h : q.conditionTokens = .ok ts) :
    params ts = (q.conditions.flatMap fun c => c.2.boundValues).map Param.ofValue := by
  obtain ⟨joined, hjoined, rfl⟩ := map_eq_ok_iff.mp h
  rw [← params_joinedTokens hjoined]
  cases hconditions : q.conditions with
  | nil =>
      rw [hconditions] at hjoined
      cases hjoined
      rfl
  | cons head rest =>
      obtain ⟨c, p⟩ := head
      rw [hconditions, joinedTokens] at hjoined
      split at hjoined
      · cases hjoined
      · obtain ⟨more, -, rfl⟩ := map_eq_ok_iff.mp hjoined
        rfl

theorem isPlain_statementTokens {q : Query} {ts : List Token} (hsource : q.source.HasIdentifiers)
    (hconditions : ∀ c ∈ q.conditions, c.2.Every Predicate.HasIdentifier)
    (horders : ∀ key ∈ q.orders, Text.isIdentifier key.column = true)
    (h : q.statementTokens = .ok ts) : ∀ t ∈ ts, t.IsPlain := by
  have hidentifiers := isIdentifier_of_mem_names hsource hconditions horders
  have hnames : ∀ s ∈ q.names ++ q.rowCounts, (Token.word s).IsPlain := by
    rw [List.forall_mem_append, rowCounts, List.forall_mem_map]
    exact ⟨fun s hs => isPlain_of_isIdentifier (hidentifiers s hs), fun n _ => isPlain_number n⟩
  exact fun t ht => isPlain_of_isAmong hnames (isAmong_statementTokens h t ht)

theorem params_statementTokens {q : Query} {ts : List Token} (h : q.statementTokens = .ok ts) :
    params ts = (q.conditions.flatMap fun c => c.2.boundValues).map Param.ofValue := by
  obtain ⟨conditions, hconditionTokens, rfl⟩ := map_eq_ok_iff.mp h
  rw [params_statementTokens_eq, params_conditionTokens hconditionTokens]

/-- The placeholders of a statement are numbered from 1 on, each of them once, and the values bound
to them are those of the conditions in order. -/
theorem placeholders_statement {q : Query} {f : Fragment} (hsource : q.source.HasIdentifiers)
    (hconditions : ∀ c ∈ q.conditions, c.2.Every Predicate.HasIdentifier)
    (horders : ∀ key ∈ q.orders, Text.isIdentifier key.column = true)
    (h : q.statement = .ok f) :
    placeholders f.text.toList = (List.range' 1 f.params.length).map (Nat.toDigits 10) ∧
      f.params = (q.conditions.flatMap fun c => c.2.boundValues).map Param.ofValue := by
  rw [statement_eq_map] at h
  obtain ⟨ts, hts, rfl⟩ := map_eq_ok_iff.mp h
  have hplain := isPlain_statementTokens hsource hconditions horders hts
  constructor
  · rw [Fragment.ofTokens, String.toList_ofList]
    exact placeholders_textAfter hplain true 1
  · exact params_statementTokens hts

theorem placeholders_statement_posts :
    ∃ f, Query.posts.statement = .ok f ∧ f.params.length = 8 ∧
      placeholders f.text.toList = (List.range' 1 8).map (Nat.toDigits 10) := by
  have hconditions : ∀ c ∈ Query.posts.conditions, c.2.Every Predicate.HasIdentifier := by
    simp +decide [Query.posts, Predicate.Every, Predicate.EveryOf, Predicate.HasIdentifier]
  have horders : ∀ key ∈ Query.posts.orders, Text.isIdentifier key.column = true := by
    decide
  obtain ⟨f, hf⟩ : ∃ f, Query.posts.statement = .ok f := ⟨_, rfl⟩
  obtain ⟨htext, hparams⟩ :=
    placeholders_statement Source.hasIdentifiers_posts hconditions horders hf
  have hlength : f.params.length = 8 := by
    rw [hparams]
    rfl
  rw [hlength] at htext
  exact ⟨f, hf, hlength, htext⟩

end Query

end RequestQuery
