import RequestQuery.Proofs.TokenPhrases

namespace RequestQuery

open Json (Value)

namespace Statement

/-- The text of a phrase, and the fragment with its values. -/
def Fragment.written (f : Fragment) (ts : List Token) : String × Fragment :=
  (String.ofList (textAfter true (f.params.length + 1) ts),
    { f with params := f.params ++ Statement.params ts })

/-- The texts of phrases that are written one after the other. -/
def Fragment.writtenAll (f : Fragment) : List (List Token) → List String × Fragment
  | [] => ([], f)
  | ts :: parts =>
    let head := f.written ts
    let tail := head.2.writtenAll parts
    (head.1 :: tail.1, tail.2)

@[simp]
theorem Fragment.written_snd (f : Fragment) (ts : List Token) :
    (f.written ts).2 = { f with params := f.params ++ Statement.params ts } :=
  rfl

@[simp]
theorem Fragment.writtenAll_snd (f : Fragment) (parts : List (List Token)) :
    (f.writtenAll parts).2 = { f with params := f.params ++ parts.flatMap Statement.params } := by
  induction parts generalizing f with
  | nil => simp [writtenAll]
  | cons ts rest ih => simp [writtenAll, ih]

theorem Fragment.written_eq {f f' : Fragment} {ts : List Token} {s : String}
    (htext : s.toList = textAfter true (f.params.length + 1) ts)
    (hparams : f' = { f with params := f.params ++ Statement.params ts }) :
    f.written ts = (s, f') := by
  rw [written, ← htext, String.ofList_toList, hparams]

@[simp]
theorem Fragment.toList_written (f : Fragment) (ts : List Token) :
    (f.written ts).1.toList = textAfter true (f.params.length + 1) ts :=
  String.toList_ofList

theorem run_bind_of_ok {α β : Type} {w : Writer α} {f : Fragment} {r : α × Fragment}
    (h : w.run f = .ok r) (next : α → Writer β) : (w >>= next).run f = (next r.1).run r.2 := by
  rw [StateT.run_bind, h]
  rfl

theorem run_bind_eq_bind {α β σ : Type} {w : Writer α} {f : Fragment}
    {tokens : Except UnknownRelation σ} {written : σ → α × Fragment}
    (h : w.run f = tokens.map written) (next : α → Writer β) :
    (w >>= next).run f = tokens.bind fun ts => (next (written ts).1).run (written ts).2 := by
  rw [StateT.run_bind, h]
  cases tokens <;> rfl

theorem run_bind_eq_map {α β σ τ : Type} {w : Writer α} {f : Fragment}
    {tokens : Except UnknownRelation σ} {written : σ → α × Fragment}
    (h : w.run f = tokens.map written) {next : α → Writer β} {whole : σ → τ}
    {result : τ → β × Fragment}
    (hnext : ∀ ts, tokens = .ok ts →
      (next (written ts).1).run (written ts).2 = .ok (result (whole ts))) :
    (w >>= next).run f = (tokens.map whole).map result := by
  rw [run_bind_eq_bind h]
  cases htokens : tokens with
  | error e => rfl
  | ok ts => exact hnext ts htokens

theorem run_addParam (p : Param) (f : Fragment) :
    (addParam p).run f = .ok (f.written [.bound p]) := by
  refine congrArg Except.ok (Fragment.written_eq ?_ ?_).symm
  · simp
  · rfl

theorem run_addValue (v : Value) (f : Fragment) : (addValue v).run f = .ok (f.written [bind v]) :=
  run_addParam _ f

theorem run_mapM_addValue (values : List Value) (f : Fragment) :
    (values.mapM addValue).run f = .ok (f.writtenAll (values.map fun v => [bind v])) := by
  induction values generalizing f with
  | nil => rfl
  | cons v rest ih =>
      rw [List.mapM_cons, run_bind_of_ok (run_addValue v f), run_bind_of_ok (ih _)]
      rfl

theorem textAfter_separated {token : Token} {separator : String}
    (hseparator : Separates token separator) {parts : List (List Token)}
    (hparts : ∀ ts ∈ parts, IsPhrase ts) (f : Fragment) :
    textAfter true (f.params.length + 1) (separated token parts) =
      (String.intercalate separator (f.writtenAll parts).1).toList := by
  induction parts generalizing f with
  | nil => rfl
  | cons ts rest ih =>
      cases rest with
      | nil => simp [Fragment.writtenAll, separated]
      | cons us rest =>
          obtain ⟨hts, hrest⟩ := List.forall_mem_cons.mp hparts
          obtain ⟨mark, hmark, htoken⟩ := hseparator.text
          have hlength : f.params.length + 1 + (params ts).length =
              (f.written ts).2.params.length + 1 := by
            simp [Nat.add_right_comm]
          rw [separated_cons_cons, textAfter_append, hts.joinedAfter_eq, htoken,
            (isPhrase_separated token hrest (List.cons_ne_nil _ _)).textAfter_false, hlength,
            ih hrest]
          simp [Fragment.writtenAll, String.intercalate_cons_cons, hmark]

section

variable (f : Fragment)

theorem written_constant (holds : Bool) : f.written (constant holds) = (truthText holds, f) := by
  refine Fragment.written_eq ?_ ?_
  · cases holds <;> rfl
  · exact congrArg (Fragment.mk f.text) (List.append_nil _).symm

theorem written_members (scope name : String) (op : StoreOperator) (values : List Value) :
    f.written (column scope name ++ [.word op.token, .openParen] ++
        separated .comma (values.map fun v => [bind v]) ++ [.closeParen]) =
      (scope ++ "." ++ name ++ " " ++ op.token ++ " (" ++
          String.intercalate ", " (f.writtenAll (values.map fun v => [bind v])).1 ++ ")",
        (f.writtenAll (values.map fun v => [bind v])).2) := by
  have hvalues : ∀ ts ∈ values.map fun v => [bind v], IsPhrase ts :=
    List.forall_mem_map.mpr fun v _ => isPhrase_bind v
  have hlist := textAfter_separated separates_comma hvalues f
  generalize (values.map fun v => [bind v]) = parts at hlist ⊢
  refine Fragment.written_eq ?_ ?_
  · simp [column, hlist]
  · rw [Fragment.writtenAll_snd, params_enclosed rfl rfl, params_separated rfl]

theorem written_existsTokens (scope inside : String) (r : Relation) (target : Model)
    {inner : List Token} (hinner : IsPhrase inner) :
    f.written (existsTokens scope inside r target inner) =
      ("EXISTS (SELECT 1 FROM " ++ target.table ++ " " ++ inside ++ " WHERE " ++
          inside ++ "." ++ r.relatedColumn ++ " = " ++ scope ++ "." ++ r.parentColumn ++ " AND " ++
          (f.written inner).1 ++ ")",
        (f.written inner).2) := by
  refine Fragment.written_eq ?_ ?_
  · simp [existsTokens, column, hinner.textAfter_false]
  · rw [params_existsTokens, Fragment.written_snd]

theorem written_append_word {ts us : List Token} (hts : IsPhrase ts) (hus : IsPhrase us)
    (keyword : String) :
    f.written (ts ++ .word keyword :: us) =
      ((f.written ts).1 ++ " " ++ keyword ++ " " ++ ((f.written ts).2.written us).1,
        ((f.written ts).2.written us).2) := by
  refine Fragment.written_eq ?_ ?_
  · simp [textAfter_append, hts.joinedAfter_eq, hus.textAfter_false, Nat.add_right_comm]
  · have hword : params (.word keyword :: us) = params us := rfl
    simp [params_append, hword]

theorem written_group (connective : Connective) {parts : List (List Token)}
    (hparts : ∀ ts ∈ parts, IsPhrase ts) :
    f.written (.openParen :: separated (.word connective.keyword) parts ++ [.closeParen]) =
      ("(" ++ String.intercalate (" " ++ connective.keyword ++ " ") (f.writtenAll parts).1 ++ ")",
        (f.writtenAll parts).2) := by
  have hlist := textAfter_separated (separates_word connective.keyword) hparts f
  refine Fragment.written_eq ?_ ?_
  · simp [hlist]
  · rw [params_group, Fragment.writtenAll_snd]

end

end Statement

namespace Predicate

open Statement

variable (catalog : Catalog) (m : Model) (scope : String) (depth : Nat)

theorem run_renderAll {members : List Predicate}
    (h : ∀ p ∈ members, ∀ f,
      (p.render catalog m scope depth).run f = (p.tokens catalog m scope depth).map f.written)
    (f : Fragment) :
    (renderAll catalog m scope depth members).run f =
      (memberTokens catalog m scope depth members).map f.writtenAll := by
  induction members generalizing f with
  | nil => rfl
  | cons p rest ih =>
      obtain ⟨hp, hrest⟩ := List.forall_mem_cons.mp h
      rw [renderAll, memberTokens, run_bind_eq_bind (hp f)]
      cases p.tokens catalog m scope depth with
      | error e => rfl
      | ok ts => exact run_bind_eq_map (ih hrest (f.written ts).2) fun parts _ => rfl

variable (f : Fragment)

/-- A condition is written as the text of its tokens, numbered on from the values that are there
already, and its values are added behind these. -/
theorem run_render (p : Predicate) :
    (p.render catalog m scope depth).run f = (p.tokens catalog m scope depth).map f.written := by
  -- For every fragment: the members of a group find the values of those before them in it.
  induction p generalizing m scope depth f with
  | compare name op value =>
      rw [render, tokens, run_bind_of_ok (run_addValue value f)]
      refine congrArg Except.ok (Fragment.written_eq ?_ ?_).symm
      · simp [column, Statement.bind]
      · rfl
  | pattern name op text caseInsensitive =>
      rw [render, tokens, run_bind_of_ok (run_addParam _ f), patternTokens]
      split
      all_goals
        refine congrArg Except.ok (Fragment.written_eq ?_ ?_).symm
        · simp [column, escapeClause]
        · rfl
  | member name values negated =>
      cases values with
      | nil => exact congrArg Except.ok (written_constant f negated).symm
      | cons v vs =>
          rw [render, run_bind_of_ok (run_mapM_addValue (v :: vs) f), tokens]
          · exact congrArg Except.ok (written_members f scope name _ (v :: vs)).symm
          · exact List.cons_ne_nil v vs
  | between name low high negated =>
      rw [render, tokens, run_bind_of_ok (run_addValue low f), run_bind_of_ok (run_addValue high _)]
      refine congrArg Except.ok (Fragment.written_eq ?_ ?_).symm
      · simp [column, Statement.bind, params, Token.param?]
      · exact congrArg (Fragment.mk f.text) (List.append_assoc _ _ _)
  | null name negated =>
      refine congrArg Except.ok (Fragment.written_eq ?_ ?_).symm
      · simp [column]
      · exact congrArg (Fragment.mk f.text) (List.append_nil _).symm
  | related relation inner ih =>
      rw [render, tokens]
      cases catalog.related? m relation with
      | none => rfl
      | some target =>
          obtain ⟨r, target⟩ := target
          refine run_bind_eq_map (ih target _ _ f) fun ts hts => ?_
          exact congrArg Except.ok
            (written_existsTokens f scope _ r target (isPhrase_of_tokens hts)).symm
  | group connective members ih =>
      cases members with
      | nil => exact congrArg Except.ok (written_constant f _).symm
      | cons p ps =>
          have hmembers := run_renderAll catalog m scope depth (fun q hq => ih q hq m scope depth) f
          rw [render, tokens]
          refine run_bind_eq_map hmembers fun parts hparts => ?_
          have hphrases : ∀ ts ∈ parts, IsPhrase ts := by
            intro ts hts
            rw [memberTokens_eq_mapM] at hparts
            obtain ⟨q, -, hq⟩ := exists_of_mem_traversal (mapM_eq_ok_iff.mp hparts) hts
            exact isPhrase_of_tokens hq
          exact congrArg Except.ok (written_group f connective hphrases).symm

end Predicate

namespace Query

open Statement

theorem run_renderMore (source : Source) (f : Fragment) (conditions : List (Connective × Predicate))
    {ts : List Token} (hts : IsPhrase ts) :
    (renderMore source (f.written ts).1 conditions).run (f.written ts).2 =
      (joinedTokens source conditions).map fun more => f.written (ts ++ more) := by
  -- What has been written remains a phrase, which sets off the connective behind it by a space.
  induction conditions generalizing ts with
  | nil =>
      rw [joinedTokens, Except.map, List.append_nil]
      rfl
  | cons head rest ih =>
      obtain ⟨c, p⟩ := head
      have hhead := Predicate.run_render source.catalog source.model source.model.table 0
        (f.written ts).2 p
      rw [renderMore, joinedTokens, run_bind_eq_bind hhead]
      cases hus : p.tokens source.catalog source.model source.model.table 0 with
      | error e => rfl
      | ok us =>
          have hphrase := Predicate.isPhrase_of_tokens hus
          have hlonger : IsPhrase (ts ++ .word c.keyword :: us) := hts.append hphrase.ends
          have hrest := ih hlonger
          rw [written_append_word f hts hphrase] at hrest
          rw [Except.bind, hrest]
          cases joinedTokens source rest with
          | error e => rfl
          | ok more => simp [Except.map]

theorem whereClause_eq_map (q : Query) :
    q.whereClause = q.conditionTokens.map Fragment.ofTokens := by
  rw [whereClause, renderConditions, conditionTokens]
  cases q.conditions with
  | nil => rfl
  | cons head rest =>
      obtain ⟨c, p⟩ := head
      have hhead := Predicate.run_render q.source.catalog q.source.model q.source.model.table 0
        ⟨"", []⟩ p
      dsimp only
      rw [joinedTokens, run_bind_eq_bind hhead]
      cases hts : p.tokens q.source.catalog q.source.model q.source.model.table 0 with
      | error e => rfl
      | ok ts =>
          have hmore := run_renderMore q.source ⟨"", []⟩ rest (Predicate.isPhrase_of_tokens hts)
          rw [Except.bind, run_bind_eq_bind hmore]
          cases joinedTokens q.source rest with
          | error e => rfl
          | ok more => rfl

theorem writtenAll_orders (table : String) (orders : List OrderKey) (f : Fragment) :
    (f.writtenAll (orders.map fun key =>
      column table key.column ++ [.word key.direction.keyword])).1 =
      orders.map fun key => table ++ "." ++ key.column ++ " " ++ key.direction.keyword := by
  induction orders generalizing f with
  | nil => rfl
  | cons key rest ih =>
      rw [List.map_cons, List.map_cons, Fragment.writtenAll, ih]
      refine congrArg (· :: _) (String.toList_inj.mp ?_)
      simp [column]

theorem textAfter_orderTokens (q : Query) (f : Fragment) :
    textAfter false (f.params.length + 1) q.orderTokens = (clause " " q.orderText?).toList := by
  rw [orderTokens, orderText?]
  cases q.orders with
  | nil => rfl
  | cons key rest =>
      have hphrases := isPhrase_orders q.source.model.table (key :: rest)
      have hlist := textAfter_separated separates_comma hphrases f
      have hspace := (isPhrase_separated .comma hphrases (List.cons_ne_nil _ _)).textAfter_false
      rw [writtenAll_orders] at hlist
      rw [clause, String.toList_append, String.toList_append, ← hlist]
      dsimp only
      rw [List.cons_append, textAfter_word, List.cons_append, textAfter_word, List.nil_append,
        hspace]
      rfl

theorem textAfter_windowTokens (q : Query) (n : Nat) :
    textAfter false n q.windowTokens = (clause " " q.windowText?).toList := by
  rw [windowTokens, windowText?]
  cases q.limit <;> cases q.offset <;> cases q.source.dialect <;> simp [clause]

theorem Fragment.eq_ofTokens {f : Fragment} {ts : List Token}
    (htext : f.text.toList = textAfter true 1 ts) (hparams : f.params = Statement.params ts) :
    f = Fragment.ofTokens ts := by
  rw [Fragment.ofTokens, ← htext, ← hparams, String.ofList_toList]

theorem isEmpty_text_ofTokens {ts : List Token} (h : IsPhrase ts) :
    (Fragment.ofTokens ts).text.isEmpty = false := by
  have hne := textAfter_ne_nil h.visible true 1
  simpa [Fragment.ofTokens, String.isEmpty_iff] using hne

theorem textAfter_whereTokens {conditions : List Token}
    (h : conditions = [] ∨ IsPhrase conditions) :
    textAfter false 1 (whereTokens conditions) =
      (clause " WHERE " (if (Fragment.ofTokens conditions).text.isEmpty then none
        else some (Fragment.ofTokens conditions).text)).toList := by
  rcases h with rfl | hphrase
  · rfl
  · have hwhere : whereTokens conditions = .word "WHERE" :: conditions := by
      obtain ⟨t, rest, rfl, -⟩ := hphrase.starts
      rfl
    rw [isEmpty_text_ofTokens hphrase, hwhere]
    simp [clause, Fragment.ofTokens, hphrase.textAfter_false]

theorem textAfter_rowTokens (table : String) (n : Nat) :
    textAfter true n (rowTokens table) = ("SELECT " ++ table ++ ".* FROM " ++ table).toList := by
  simp [rowTokens, column]

theorem statement_eq_map (q : Query) : q.statement = q.statementTokens.map Fragment.ofTokens := by
  rw [statement, statementTokens, whereClause_eq_map]
  cases hts : q.conditionTokens with
  | error e => rfl
  | ok ts =>
      have hphrase := isPhrase_conditionTokens hts
      have hends : joinedAfter false ts = false := by
        rcases hphrase with rfl | hphrase
        · rfl
        · exact hphrase.ends
      have horders := textAfter_orderTokens q (Fragment.ofTokens ts)
      refine congrArg Except.ok (Fragment.eq_ofTokens ?_ ?_)
      · rw [textAfter_statementTokens q hends, textAfter_rowTokens, textAfter_whereTokens hphrase,
          textAfter_windowTokens]
        simp only [String.toList_append, ← horders]
        rfl
      · exact (params_statementTokens_eq q ts).symm

end Query

end RequestQuery
