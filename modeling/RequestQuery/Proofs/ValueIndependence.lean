import RequestQuery.Proofs.NamedSource
import RequestQuery.Proofs.Rendering

namespace RequestQuery

open Json (Value)
open Statement

namespace Predicate

mutual

/-- The condition with the values that it compares with forgotten. Only their number stays. -/
def skeleton : Predicate → Predicate
  | compare column op _ => compare column op .null
  | pattern column op _ caseInsensitive => pattern column op "" caseInsensitive
  | member column values negated => member column (values.map fun _ => .null) negated
  | between column _ _ negated => between column .null .null negated
  | null column negated => null column negated
  | related relation inner => related relation inner.skeleton
  | group connective members => group connective (skeletons members)

def skeletons : List Predicate → List Predicate
  | [] => []
  | p :: rest => p.skeleton :: skeletons rest

end

theorem skeletons_eq_map (members : List Predicate) :
    skeletons members = members.map skeleton := by
  induction members with
  | nil => rfl
  | cons p rest ih => rw [skeletons, ih, List.map_cons]

end Predicate

namespace Statement

def Token.forget : Token → Token
  | bound _ => bound .null
  | t => t

/-- The tokens with the values to bind forgotten. -/
def forget (ts : List Token) : List Token :=
  ts.map Token.forget

@[simp]
theorem forget_nil : forget [] = [] :=
  rfl

@[simp]
theorem forget_cons (t : Token) (ts : List Token) : forget (t :: ts) = t.forget :: forget ts :=
  rfl

@[simp]
theorem forget_append (ts us : List Token) : forget (ts ++ us) = forget ts ++ forget us :=
  List.map_append

theorem forget_separated (separator : Token) (parts : List (List Token)) :
    forget (separated separator parts) = separated separator.forget (parts.map forget) := by
  match parts with
  | [] => rfl
  | [part] => rfl
  | part :: next :: rest =>
      have ih := forget_separated separator (next :: rest)
      simp only [separated, forget_append, forget_cons, List.map_cons] at ih ⊢
      rw [ih]

theorem forget_existsTokens (scope inside : String) (r : Relation) (target : Model)
    (ts : List Token) :
    forget (existsTokens scope inside r target ts) =
      existsTokens scope inside r target (forget ts) := by
  simp [existsTokens, column, Token.forget]

theorem textAfter_forget (joined : Bool) (n : Nat) (ts : List Token) :
    textAfter joined n (forget ts) = textAfter joined n ts := by
  induction ts generalizing joined n with
  | nil => rfl
  | cons t rest ih =>
      rw [forget_cons, textAfter, textAfter, ih]
      cases t <;> rfl

theorem params_forget (ts : List Token) : params (forget ts) = (params ts).map fun _ => .null := by
  rw [params, params, forget, List.filterMap_map, List.map_filterMap]
  congr 1
  funext t
  cases t <;> rfl

end Statement

namespace Predicate

theorem map_forget_tokens_skeleton (catalog : Catalog) (m : Model) (scope : String) (depth : Nat)
    (p : Predicate) :
    (p.skeleton.tokens catalog m scope depth).map forget =
      (p.tokens catalog m scope depth).map forget := by
  induction p generalizing m scope depth with
  | compare | between | null => rfl
  | pattern name op text caseInsensitive =>
      simp only [skeleton, tokens, patternTokens]
      split <;> rfl
  | member name values negated =>
      cases values with
      | nil => rfl
      | cons v rest =>
          simp only [skeleton, List.map_cons, tokens, Except.map, forget_append, forget_separated,
            List.map_map]
          rfl
  | related relation inner ih =>
      rw [skeleton, tokens, tokens]
      cases catalog.related? m relation with
      | none => rfl
      | some found =>
          obtain ⟨r, target⟩ := found
          have hcomm := forget_existsTokens scope (aliasFor relation (depth + 1)) r target
          simp only [map_map_of_comm forget _ hcomm]
          rw [ih]
  | group c members ih =>
      cases members with
      | nil => rfl
      | cons p rest =>
          let enclose (parts : List (List Token)) : List Token :=
            .openParen :: separated (.word c.keyword) parts ++ [.closeParen]
          have hcomm (parts : List (List Token)) :
              forget (enclose parts) = enclose (parts.map forget) := by
            simp only [enclose, forget_append, forget_cons, forget_separated]
            rfl
          have hmembers : (((p :: rest).map skeleton).mapM (tokens catalog m scope depth)).map
              (List.map forget) =
                ((p :: rest).mapM (tokens catalog m scope depth)).map (List.map forget) := by
            rw [List.mapM_map]
            exact map_mapM_congr fun q hq => ih q hq m scope depth
          rw [skeleton, skeletons_eq_map]
          rw [List.map_cons] at hmembers ⊢
          rw [tokens, tokens, memberTokens_eq_mapM, memberTokens_eq_mapM,
            map_map_of_comm (List.map forget) enclose hcomm,
            map_map_of_comm (List.map forget) enclose hcomm, hmembers]

end Predicate

namespace Statement

/-- Neither can be written, for the same reason, or both can, with the same text and equally many
values. -/
inductive WrittenAlike : Except UnknownRelation Fragment → Except UnknownRelation Fragment → Prop
  | failed (e) : WrittenAlike (.error e) (.error e)
  | written {f g} : f.text = g.text → f.params.length = g.params.length →
      WrittenAlike (.ok f) (.ok g)

theorem writtenAlike_of_map_forget {x y : Except UnknownRelation (List Token)}
    (h : x.map forget = y.map forget) :
    WrittenAlike (x.map Fragment.ofTokens) (y.map Fragment.ofTokens) := by
  cases x with
  | error e =>
      cases y with
      | error e' =>
          cases h
          exact .failed e
      | ok us => cases h
  | ok ts =>
      cases y with
      | error e => cases h
      | ok us =>
          have hforget : forget ts = forget us := by
            injection h
          apply WrittenAlike.written
          · rw [Fragment.ofTokens, Fragment.ofTokens, ← textAfter_forget true 1 ts, hforget,
              textAfter_forget]
          · have hlength := congrArg (fun ts => (params ts).length) hforget
            simpa only [params_forget, List.length_map, Fragment.ofTokens] using hlength

end Statement

namespace Query

theorem map_forget_joinedTokens_skeleton (source : Source)
    (conditions : List (Connective × Predicate)) :
    (joinedTokens source (conditions.map (Prod.map id Predicate.skeleton))).map forget =
      (joinedTokens source conditions).map forget := by
  have hpart (c : Connective × Predicate) :
      ((joinedPart source ∘ Prod.map id Predicate.skeleton) c).map forget =
        (joinedPart source c).map forget := by
    have hcomm (ts : List Token) :
        forget (.word c.1.keyword :: ts) = .word c.1.keyword :: forget ts := rfl
    rw [Function.comp_apply, joinedPart, joinedPart, Prod.map_fst, Prod.map_snd, id_eq,
      map_map_of_comm forget _ hcomm, map_map_of_comm forget _ hcomm,
      Predicate.map_forget_tokens_skeleton]
  have hflatten (parts : List (List Token)) :
      forget parts.flatten = (parts.map forget).flatten := List.map_flatten
  rw [joinedTokens_eq_mapM, joinedTokens_eq_mapM, List.mapM_map,
    map_map_of_comm (List.map forget) List.flatten hflatten,
    map_map_of_comm (List.map forget) List.flatten hflatten,
    map_mapM_congr fun c _ => hpart c]

variable {cs ds : List (Connective × Predicate)}

theorem map_forget_conditionTokens (q : Query)
    (h : cs.map (Prod.map id Predicate.skeleton) = ds.map (Prod.map id Predicate.skeleton)) :
    ({ q with conditions := cs }.conditionTokens).map forget =
      ({ q with conditions := ds }.conditionTokens).map forget := by
  have hdrop (ts : List Token) : forget (ts.drop 1) = (forget ts).drop 1 := List.map_drop
  rw [conditionTokens, conditionTokens, map_map_of_comm forget (List.drop 1) hdrop,
    map_map_of_comm forget (List.drop 1) hdrop, ← map_forget_joinedTokens_skeleton _ cs, h,
    map_forget_joinedTokens_skeleton]

theorem map_forget_statementTokens (q : Query)
    (h : cs.map (Prod.map id Predicate.skeleton) = ds.map (Prod.map id Predicate.skeleton)) :
    ({ q with conditions := cs }.statementTokens).map forget =
      ({ q with conditions := ds }.statementTokens).map forget := by
  let complete (conditions : List Token) : List Token :=
    rowTokens q.source.model.table ++ whereTokens conditions ++ forget q.orderTokens ++
      forget q.windowTokens
  have hcomm (conditions : List Token) :
      forget (rowTokens q.source.model.table ++ whereTokens conditions ++ q.orderTokens ++
        q.windowTokens) = complete (forget conditions) := by
    cases conditions <;> simp [complete, rowTokens, whereTokens, column, Token.forget]
  have hstatement (conditions : List (Connective × Predicate)) :
      ({ q with conditions := conditions }.statementTokens).map forget =
        (({ q with conditions := conditions }.conditionTokens).map forget).map complete :=
    map_map_of_comm forget complete hcomm _
  rw [hstatement, hstatement, map_forget_conditionTokens q h]

/-- Values that conditions compare with have no influence on the text of a statement, nor on whether
it can be written. -/
theorem writtenAlike_of_skeleton_eq (q : Query)
    (h : cs.map (Prod.map id Predicate.skeleton) = ds.map (Prod.map id Predicate.skeleton)) :
    WrittenAlike { q with conditions := cs }.whereClause { q with conditions := ds }.whereClause ∧
      WrittenAlike { q with conditions := cs }.statement { q with conditions := ds }.statement := by
  rw [whereClause_eq_map, whereClause_eq_map, statement_eq_map, statement_eq_map]
  exact ⟨writtenAlike_of_map_forget (map_forget_conditionTokens q h),
    writtenAlike_of_map_forget (map_forget_statementTokens q h)⟩

theorem writtenAlike_of_skeleton_eq_posts :
    let others : List (Connective × Predicate) :=
      [(.and, .compare "views" .gte .null),
        (.and, .group .or
          [.between "id" (.string "' OR '1' = '1") (.array []) true, .null "parent_id" true,
            .related "replies" (.group .and
              [.pattern "title" .like "?1) --" true, .member "id" [] false,
                .related "author"
                  (.member "name" [.null, .null, .string "), ("] false)])]),
        (.and, .compare "title" .ne (.object []))]
    let unknown (v : Value) : List (Connective × Predicate) :=
      [(.and, .related "editor" (.compare "name" .eq v))]
    (Query.posts.conditions.map (Prod.map id Predicate.skeleton) =
        others.map (Prod.map id Predicate.skeleton) ∧
      WrittenAlike Query.posts.statement { Query.posts with conditions := others }.statement) ∧
    ((unknown .null).map (Prod.map id Predicate.skeleton) =
        (unknown (.string "x")).map (Prod.map id Predicate.skeleton) ∧
      WrittenAlike { Query.posts with conditions := unknown .null }.statement
        { Query.posts with conditions := unknown (.string "x") }.statement) := by
  intro others unknown
  have hposts : Query.posts.conditions.map (Prod.map id Predicate.skeleton) =
      others.map (Prod.map id Predicate.skeleton) := rfl
  have hunknown : (unknown .null).map (Prod.map id Predicate.skeleton) =
      (unknown (.string "x")).map (Prod.map id Predicate.skeleton) := rfl
  exact ⟨⟨hposts, (writtenAlike_of_skeleton_eq Query.posts hposts).2⟩,
    ⟨hunknown, (writtenAlike_of_skeleton_eq Query.posts hunknown).2⟩⟩

end Query

end RequestQuery
