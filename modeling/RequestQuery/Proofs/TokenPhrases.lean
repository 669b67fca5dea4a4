import RequestQuery.Proofs.TokenInduction
import RequestQuery.Proofs.StatementText

namespace RequestQuery

open Json (Value)

namespace Statement

/-- Whether a token after these, which come after a token that they may join, follows without a
space. -/
def joinedAfter (joined : Bool) : List Token → Bool
  | [] => joined
  | t :: rest => joinedAfter t.joinsRight rest

theorem params_append (ts us : List Token) : params (ts ++ us) = params ts ++ params us :=
  List.filterMap_append

theorem params_separated {separator : Token} (hseparator : separator.param? = none)
    (parts : List (List Token)) : params (separated separator parts) = parts.flatMap params := by
  match parts with
  | [] => rfl
  | [part] => simp [separated]
  | part :: next :: rest =>
      rw [separated, params_append, List.flatMap_cons, ← params_separated hseparator]
      · simp [params, hseparator]
      · simp

theorem params_enclosed {opening closing : List Token} (hopening : params opening = [])
    (hclosing : params closing = []) (ts : List Token) :
    params (opening ++ ts ++ closing) = params ts := by
  rw [params_append, params_append, hopening, hclosing, List.nil_append, List.append_nil]

theorem params_existsTokens (scope inside : String) (r : Relation) (target : Model)
    (inner : List Token) : params (existsTokens scope inside r target inner) = params inner :=
  params_enclosed rfl rfl inner

theorem params_group (connective : Connective) (parts : List (List Token)) :
    params (.openParen :: separated (.word connective.keyword) parts ++ [.closeParen]) =
      parts.flatMap params := by
  have hopening : params [.openParen] = [] := rfl
  exact (params_enclosed hopening rfl _).trans (params_separated rfl parts)

theorem joinedAfter_append (joined : Bool) (ts us : List Token) :
    joinedAfter joined (ts ++ us) = joinedAfter (joinedAfter joined ts) us := by
  induction ts generalizing joined with
  | nil => rfl
  | cons t rest ih => exact ih t.joinsRight

theorem textAfter_append (joined : Bool) (n : Nat) (ts us : List Token) :
    textAfter joined n (ts ++ us) =
      textAfter joined n ts ++ textAfter (joinedAfter joined ts) (n + (params ts).length) us := by
  induction ts generalizing joined n with
  | nil => rfl
  | cons t rest ih =>
      have hlength : n + (params (t :: rest)).length =
          (if t.param?.isSome then n + 1 else n) + (params rest).length := by
        cases hparam : t.param? with
        | none => simp [params, hparam]
        | some p =>
            simp [params, hparam]
            omega
      rw [List.cons_append, textAfter, ih, textAfter, joinedAfter, hlength]
      simp only [List.append_assoc]

/-- Tokens that stand for themselves: set off by a space in front, and by what follows at the
end. -/
structure IsPhrase (ts : List Token) : Prop where
  starts : ∃ t rest, ts = t :: rest ∧ t.joinsLeft = false
  ends : joinedAfter false ts = false
  visible : ∃ t ∈ ts, ∀ n, t.text n ≠ []

namespace IsPhrase

variable {ts : List Token}

theorem joinedAfter_eq (h : IsPhrase ts) (joined : Bool) : joinedAfter joined ts = false := by
  obtain ⟨t, rest, rfl, -⟩ := h.starts
  exact h.ends

theorem textAfter_false (h : IsPhrase ts) (n : Nat) :
    textAfter false n ts = ' ' :: textAfter true n ts := by
  obtain ⟨t, rest, rfl, ht⟩ := h.starts
  simp [textAfter, ht]

theorem append (h : IsPhrase ts) {us : List Token} (hus : joinedAfter false us = false) :
    IsPhrase (ts ++ us) := by
  obtain ⟨t, rest, rfl, ht⟩ := h.starts
  obtain ⟨u, hu, hvisible⟩ := h.visible
  refine ⟨⟨t, rest ++ us, rfl, ht⟩, ?_, u, List.mem_append_left us hu, hvisible⟩
  rw [joinedAfter_append, h.joinedAfter_eq, hus]

end IsPhrase

section

variable (joined : Bool) (n : Nat) (rest : List Token)

@[simp]
theorem textAfter_word (s : String) : textAfter joined n (.word s :: rest) =
    (if joined then [] else [' ']) ++ s.toList ++ textAfter false n rest := by
  simp [textAfter, Token.joinsLeft, Token.joinsRight, Token.text, Token.param?]

@[simp]
theorem textAfter_bound (p : Param) : textAfter joined n (.bound p :: rest) =
    (if joined then [] else [' ']) ++ '?' :: Nat.toDigits 10 n ++ textAfter false (n + 1) rest := by
  simp [textAfter, Token.joinsLeft, Token.joinsRight, Token.text, Token.param?]

@[simp]
theorem textAfter_openParen : textAfter joined n (.openParen :: rest) =
    (if joined then [] else [' ']) ++ '(' :: textAfter true n rest := by
  simp [textAfter, Token.joinsLeft, Token.joinsRight, Token.text, Token.param?]

@[simp]
theorem textAfter_openLower : textAfter joined n (.openLower :: rest) =
    (if joined then [] else [' ']) ++ "LOWER(".toList ++ textAfter true n rest := by
  simp [textAfter, Token.joinsLeft, Token.joinsRight, Token.text, Token.param?]

@[simp]
theorem textAfter_dot : textAfter joined n (.dot :: rest) = '.' :: textAfter true n rest := by
  simp [textAfter, Token.joinsLeft, Token.joinsRight, Token.text, Token.param?]

@[simp]
theorem textAfter_closeParen :
    textAfter joined n (.closeParen :: rest) = ')' :: textAfter false n rest := by
  simp [textAfter, Token.joinsLeft, Token.joinsRight, Token.text, Token.param?]

@[simp]
theorem textAfter_nil : textAfter joined n [] = [] :=
  rfl

@[simp]
theorem textAfter_closed (ts : List Token) :
    textAfter joined n (ts ++ [.closeParen]) = textAfter joined n ts ++ [')'] := by
  simp [textAfter_append]

end

theorem textAfter_ne_nil {ts : List Token} (h : ∃ t ∈ ts, ∀ n, t.text n ≠ []) (joined : Bool)
    (n : Nat) : textAfter joined n ts ≠ [] := by
  obtain ⟨t, ht, hvisible⟩ := h
  obtain ⟨before, after, rfl⟩ := List.append_of_mem ht
  rw [textAfter_append, textAfter]
  simp [hvisible]

theorem joinedAfter_closed (joined : Bool) (ts : List Token) :
    joinedAfter joined (ts ++ [.closeParen]) = false := by
  rw [joinedAfter_append]
  rfl

theorem isPhrase_column (scope name : String) {rest : List Token}
    (h : joinedAfter false rest = false) : IsPhrase (column scope name ++ rest) where
  starts := ⟨.word scope, .dot :: .word name :: rest, rfl, rfl⟩
  ends := h
  visible := ⟨.dot, by simp [column], by simp [Token.text]⟩

theorem isPhrase_constant (holds : Bool) : IsPhrase (constant holds) where
  starts := ⟨.word "1", _, rfl, rfl⟩
  ends := rfl
  visible := ⟨.word "=", by simp [constant], by simp [Token.text]⟩

theorem isPhrase_patternTokens (scope name : String) (op : StoreOperator) (text : String)
    (caseInsensitive : Bool) : IsPhrase (patternTokens scope name op text caseInsensitive) := by
  unfold patternTokens
  split
  · exact ⟨⟨.openLower, _, rfl, rfl⟩, rfl, .dot, by simp [column], by simp [Token.text]⟩
  · rw [List.append_assoc]
    exact isPhrase_column scope name rfl

theorem isPhrase_existsTokens (scope inside : String) (r : Relation) (target : Model)
    (inner : List Token) : IsPhrase (existsTokens scope inside r target inner) where
  starts := ⟨.word "EXISTS", _, rfl, rfl⟩
  ends := joinedAfter_closed _ _
  visible := ⟨.openParen, by simp [existsTokens], by simp [Token.text]⟩

theorem isPhrase_group (connective : Connective) (parts : List (List Token)) :
    IsPhrase (.openParen :: separated (.word connective.keyword) parts ++ [.closeParen]) where
  starts := ⟨.openParen, _, rfl, rfl⟩
  ends := joinedAfter_closed _ _
  visible := ⟨.openParen, by simp, by simp [Token.text]⟩

theorem isPhrase_bind (v : Value) : IsPhrase [bind v] where
  starts := ⟨bind v, [], rfl, rfl⟩
  ends := rfl
  visible := ⟨bind v, List.mem_singleton_self _, fun _ => List.cons_ne_nil _ _⟩

/-- A token between two phrases, and its text with the spaces around it. -/
structure Separates (token : Token) (separator : String) : Prop where
  param : token.param? = none
  text : ∃ mark, separator.toList = mark ++ [' '] ∧
    ∀ n rest, textAfter false n (token :: rest) = mark ++ textAfter false n rest

theorem separates_comma : Separates .comma ", " :=
  ⟨rfl, [','], rfl, fun _ _ => rfl⟩

theorem separates_word (word : String) : Separates (.word word) (" " ++ word ++ " ") := by
  refine ⟨rfl, ' ' :: word.toList, by simp, fun n rest => ?_⟩
  simp

theorem separated_cons_cons (token : Token) (ts us : List Token) (rest : List (List Token)) :
    separated token (ts :: us :: rest) = ts ++ token :: separated token (us :: rest) :=
  rfl

theorem isPhrase_separated (token : Token) {parts : List (List Token)}
    (hparts : ∀ ts ∈ parts, IsPhrase ts) (hne : parts ≠ []) : IsPhrase (separated token parts) := by
  induction parts with
  | nil => exact absurd rfl hne
  | cons ts rest ih =>
      obtain ⟨hts, hrest⟩ := List.forall_mem_cons.mp hparts
      cases rest with
      | nil => exact hts
      | cons us rest => exact hts.append ((ih hrest (List.cons_ne_nil _ _)).joinedAfter_eq _)

end Statement

namespace Predicate

open Statement

theorem isPhrase_of_tokens {catalog : Catalog} {m : Model} {scope : String} {depth : Nat}
    {p : Predicate} {ts : List Token} (h : p.tokens catalog m scope depth = .ok ts) :
    IsPhrase ts := by
  refine tokens_induction (motive := fun _ _ _ _ ts => IsPhrase ts) h ?compare ?pattern ?memberNone
    ?member ?between ?null ?related ?groupNone ?group
  case compare => exact fun _ scope _ name _ _ => isPhrase_column scope name rfl
  case pattern =>
    exact fun _ scope _ name op text caseInsensitive =>
      isPhrase_patternTokens scope name op text caseInsensitive
  case memberNone => exact fun _ _ _ _ negated => isPhrase_constant negated
  case member =>
    intro _ scope _ name values negated _
    rw [List.append_assoc, List.append_assoc]
    exact isPhrase_column scope name (joinedAfter_closed _ (_ :: .openParen :: _))
  case between => exact fun _ scope _ name _ _ _ => isPhrase_column scope name rfl
  case null => exact fun _ scope _ name _ => isPhrase_column scope name rfl
  case related =>
    exact fun _ scope _ _ _ r target inner _ _ => isPhrase_existsTokens scope _ r target inner
  case groupNone => exact fun _ _ _ c => isPhrase_constant _
  case group => exact fun _ _ _ c _ parts _ _ => isPhrase_group c parts

end Predicate

namespace Query

open Statement

theorem joinedAfter_joinedTokens {source : Source} {conditions : List (Connective × Predicate)}
    {ts : List Token} (h : joinedTokens source conditions = .ok ts) :
    joinedAfter false ts = false := by
  refine joinedTokens_induction (motive := fun _ ts => joinedAfter false ts = false) h rfl ?_
  intro c p rest ts more hts ih
  have hword : joinedAfter false (.word c.keyword :: ts) = false :=
    (Predicate.isPhrase_of_tokens hts).ends
  rw [joinedAfter_append, hword, ih]

theorem isPhrase_conditionTokens {q : Query} {ts : List Token} (h : q.conditionTokens = .ok ts) :
    ts = [] ∨ IsPhrase ts := by
  obtain ⟨joined, hjoined, rfl⟩ := map_eq_ok_iff.mp h
  cases hconditions : q.conditions with
  | nil =>
      rw [hconditions] at hjoined
      cases hjoined
      exact .inl rfl
  | cons head rest =>
      obtain ⟨c, p⟩ := head
      rw [hconditions, joinedTokens] at hjoined
      split at hjoined
      · cases hjoined
      · rename_i ts hts
        obtain ⟨more, hmore, rfl⟩ := map_eq_ok_iff.mp hjoined
        exact .inr ((Predicate.isPhrase_of_tokens hts).append (joinedAfter_joinedTokens hmore))

theorem isPhrase_orders (table : String) (orders : List OrderKey) :
    ∀ ts ∈ orders.map fun key => column table key.column ++ [.word key.direction.keyword],
      IsPhrase ts :=
  List.forall_mem_map.mpr fun key _ => isPhrase_column table key.column rfl

theorem params_orderTokens (q : Query) : params q.orderTokens = [] := by
  unfold orderTokens
  split
  · rfl
  · rw [params_append, params_separated rfl, List.flatMap_map]
    exact List.append_eq_nil_iff.mpr ⟨rfl, List.flatMap_eq_nil_iff.mpr fun _ _ => rfl⟩

theorem joinedAfter_orderTokens (q : Query) : joinedAfter false q.orderTokens = false := by
  rw [orderTokens]
  cases q.orders with
  | nil => rfl
  | cons key rest =>
      have hphrases := isPhrase_orders q.source.model.table (key :: rest)
      exact (isPhrase_separated .comma hphrases (List.cons_ne_nil _ _)).joinedAfter_eq false

theorem params_windowTokens (q : Query) : params q.windowTokens = [] := by
  unfold windowTokens
  split
  · rfl
  · rfl
  · rfl
  · split <;> rfl

theorem params_whereTokens (conditions : List Token) :
    params (whereTokens conditions) = params conditions := by
  cases conditions <;> rfl

theorem joinedAfter_whereTokens {conditions : List Token}
    (h : joinedAfter false conditions = false) :
    joinedAfter false (whereTokens conditions) = false := by
  cases conditions with
  | nil => rfl
  | cons t rest => exact h

theorem params_rowTokens (table : String) : params (rowTokens table) = [] :=
  rfl

theorem params_statementTokens_eq (q : Query) (conditions : List Token) :
    params (rowTokens q.source.model.table ++ whereTokens conditions ++ q.orderTokens ++
      q.windowTokens) = params conditions := by
  rw [params_append, params_append, params_append, params_orderTokens, params_windowTokens,
    params_whereTokens, params_rowTokens, List.append_nil, List.append_nil, List.nil_append]

theorem textAfter_statementTokens (q : Query) {conditions : List Token}
    (h : joinedAfter false conditions = false) :
    textAfter true 1 (rowTokens q.source.model.table ++ whereTokens conditions ++ q.orderTokens ++
        q.windowTokens) =
      textAfter true 1 (rowTokens q.source.model.table) ++
        textAfter false 1 (whereTokens conditions) ++
        textAfter false ((params conditions).length + 1) q.orderTokens ++
        textAfter false ((params conditions).length + 1) q.windowTokens := by
  have hrows : joinedAfter true (rowTokens q.source.model.table) = false := rfl
  simp only [textAfter_append, joinedAfter_append, params_append, hrows, joinedAfter_whereTokens h,
    joinedAfter_orderTokens, params_rowTokens, params_whereTokens, params_orderTokens,
    List.append_nil, List.nil_append, List.length_nil, Nat.add_comm 1]

end Query

end RequestQuery
