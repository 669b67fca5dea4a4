import RequestQuery.Proofs.SingleField

namespace RequestQuery

open Json (Value)

namespace StoreOperator

/-- The second operator excludes the rows that the first one selects. -/
inductive IsNegation : StoreOperator → StoreOperator → Prop
  | ne : IsNegation .eq .ne
  | notLike : IsNegation .like .notLike
  | notIlike : IsNegation .ilike .notIlike
  | notIn : IsNegation .isIn .notIn
  | notBetween : IsNegation .between .notBetween
  | isNotNull : IsNegation .isNull .isNotNull

variable {op op' : StoreOperator}

theorem IsNegation.isNegated_left (h : op.IsNegation op') : op.isNegated = false := by
  cases h <;> rfl

theorem IsNegation.isNegated_right (h : op.IsNegation op') : op'.isNegated = true := by
  cases h <;> rfl

theorem IsNegation.exists_emulate (h : op.IsNegation op') (native : Bool) :
    ∃ emulated emulated' caseInsensitive,
      OperatorSite.emulate native op = (emulated, caseInsensitive) ∧
        OperatorSite.emulate native op' = (emulated', caseInsensitive) ∧
        emulated.IsNegation emulated' := by
  cases h <;> cases native <;> exact ⟨_, _, _, rfl, rfl, by constructor⟩

end StoreOperator

/-- Operators of one kind, the second for the negated store operator. -/
structure Operator.IsNegation (o o' : Operator) : Prop where
  kind : o.kind = o'.kind
  store : o.store.IsNegation o'.store

/-- Conditions that differ in their leaf alone: its operator or its flag is the negated one in the
second. -/
inductive Predicate.IsNegation : Predicate → Predicate → Prop
  | compare {column v op op'} : StoreOperator.IsNegation op op' →
      IsNegation (.compare column op v) (.compare column op' v)
  | pattern {column text caseInsensitive op op'} : StoreOperator.IsNegation op op' →
      IsNegation (.pattern column op text caseInsensitive)
        (.pattern column op' text caseInsensitive)
  | member {column values} :
      IsNegation (.member column values false) (.member column values true)
  | between {column low high} :
      IsNegation (.between column low high false) (.between column low high true)
  | null {column} : IsNegation (.null column false) (.null column true)
  | related {relation p q} : IsNegation p q →
      IsNegation (.related relation p) (.related relation q)

theorem Predicate.IsNegation.wrap {p q : Predicate} (h : p.IsNegation q) (path : FieldPath) :
    (path.wrap p).IsNegation (path.wrap q) := by
  unfold FieldPath.wrap
  induction path.relations with
  | nil => exact h
  | cons relation relations ih => exact .related ih

/-- The same error about another operator key, if it names one. -/
def FilterError.withOperator (key : String) : FilterError → FilterError
  | unsupportedOperator field _ => .unsupportedOperator field key
  | badShape field _ expected found => .badShape field key expected found
  | badOperand field _ valueType fault => .badOperand field key valueType fault
  | e => e

/-- What the operators under two keys come to: both to results, which are related, or both to one
error but for the operator key. -/
def Mirrors {α : Type} (rel : α → α → Prop) (plain negated : String)
    (x y : Except FilterError α) : Prop :=
  (∃ a b, x = .ok a ∧ y = .ok b ∧ rel a b) ∨
    ∃ e e', x = .error e ∧ y = .error e' ∧ e.withOperator negated = e' ∧ e'.withOperator plain = e

namespace Mirrors

variable {α β : Type} {rel : α → α → Prop} {plain negated : String} {x y : Except FilterError α}

theorem ok {a b : α} (h : rel a b) : Mirrors rel plain negated (.ok a) (.ok b) :=
  .inl ⟨a, b, rfl, rfl, h⟩

theorem error {e e' : FilterError} (h : e.withOperator negated = e')
    (h' : e'.withOperator plain = e) : Mirrors rel plain negated (.error e) (.error e') :=
  .inr ⟨e, e', rfl, rfl, h, h'⟩

theorem map {rel' : β → β → Prop} {f g : α → β} (h : Mirrors rel plain negated x y)
    (hmap : ∀ a b, rel a b → rel' (f a) (g b)) :
    Mirrors rel' plain negated (x.map f) (y.map g) := by
  obtain ⟨a, b, rfl, rfl, hab⟩ | ⟨e, e', rfl, rfl, he, he'⟩ := h
  · exact ok (hmap a b hab)
  · exact error he he'

end Mirrors

namespace OperatorSite

variable {op op' : StoreOperator} (path plain negated : String) (rule : Option CastRule)

theorem mirrors_cast (v : Value) :
    Mirrors Eq plain negated (cast ⟨path, plain⟩ rule v) (cast ⟨path, negated⟩ rule v) := by
  unfold cast
  cases castBy rule v with
  | ok w => exact .ok rfl
  | error fault => exact .error rfl rfl

theorem mirrors_castAll (vs : List Value) :
    Mirrors Eq plain negated (castAll ⟨path, plain⟩ rule vs) (castAll ⟨path, negated⟩ rule vs) := by
  induction vs with
  | nil => exact .ok rfl
  | cons v vs ih =>
      obtain ⟨w, _, hplain, hnegated, rfl⟩ | ⟨e, e', hplain, hnegated, he, he'⟩ :=
        mirrors_cast path plain negated rule v
      · simp only [castAll, hplain, hnegated]
        refine ih.map ?_
        rintro ws _ rfl
        rfl
      · simp only [castAll, hplain, hnegated]
        exact .error he he'

theorem mirrors_checkBounds (strict : Bool) (low high : Value) :
    Mirrors Eq plain negated (checkBounds ⟨path, plain⟩ strict low high)
      (checkBounds ⟨path, negated⟩ strict low high) := by
  unfold checkBounds
  split
  · split
    · exact .error rfl rfl
    · exact .ok rfl
  · split
    · exact .error rfl rfl
    · exact .ok rfl

theorem mirrors_comparison (h : op.IsNegation op') (column : String) (v : Value) :
    Mirrors Predicate.IsNegation plain negated (comparison ⟨path, plain⟩ rule op column v)
      (comparison ⟨path, negated⟩ rule op' column v) := by
  unfold comparison
  split
  -- Null makes a null check of the two operators that take it, and is refused under all others.
  · cases h with
    | ne => exact .ok .null
    | _ => exact .error rfl rfl
  · refine (mirrors_cast path plain negated rule v).map ?_
    rintro w _ rfl
    exact .compare h

theorem mirrors_pattern (h : op.IsNegation op') (native : Bool) (style : PatternStyle)
    (column : String) (v : Value) :
    Mirrors Predicate.IsNegation plain negated (pattern ⟨path, plain⟩ native op style column v)
      (pattern ⟨path, negated⟩ native op' style column v) := by
  unfold pattern
  cases Operand.text? v with
  | none => exact .error rfl rfl
  | some text =>
      obtain ⟨emulated, emulated', caseInsensitive, hplain, hnegated, hop⟩ :=
        h.exists_emulate native
      simp only [hplain, hnegated]
      exact .ok (.pattern hop)

theorem mirrors_membership (h : op.IsNegation op') (dedupe : Bool) (column : String)
    (vs : List Value) :
    Mirrors Predicate.IsNegation plain negated (membership ⟨path, plain⟩ rule dedupe op column vs)
      (membership ⟨path, negated⟩ rule dedupe op' column vs) := by
  unfold membership
  refine (mirrors_castAll path plain negated rule vs).map ?_
  rintro ws _ rfl
  rw [h.isNegated_left, h.isNegated_right]
  exact .member

theorem mirrors_range (h : op.IsNegation op') (strict : Bool) (column : String)
    (low high : Value) :
    Mirrors Predicate.IsNegation plain negated
      (range ⟨path, plain⟩ rule strict op column low high)
      (range ⟨path, negated⟩ rule strict op' column low high) := by
  unfold range
  obtain ⟨l, _, hplain, hnegated, rfl⟩ | ⟨e, e', hplain, hnegated, he, he'⟩ :=
    mirrors_cast path plain negated rule low
  · rw [hplain, hnegated]
    obtain ⟨r, _, hplain, hnegated, rfl⟩ | ⟨e, e', hplain, hnegated, he, he'⟩ :=
      mirrors_cast path plain negated rule high
    · rw [hplain, hnegated]
      refine (mirrors_checkBounds path plain negated strict l r).map ?_
      rintro _ _ -
      rw [h.isNegated_left, h.isNegated_right]
      exact .between
    · rw [hplain, hnegated]
      exact .error he he'
  · rw [hplain, hnegated]
    exact .error he he'

theorem mirrors_relativeDate (h : op.IsNegation op') (snapshot : Snapshot) (now : Int)
    (period : Period) (column : String) (operand : Operand) :
    Mirrors Predicate.IsNegation plain negated
      (relativeDate ⟨path, plain⟩ snapshot now op period column operand)
      (relativeDate ⟨path, negated⟩ snapshot now op' period column operand) := by
  have hcount : Mirrors Eq plain negated (dayCount ⟨path, plain⟩ operand)
      (dayCount ⟨path, negated⟩ operand) := by
    unfold dayCount
    split
    · split
      · exact .ok rfl
      · exact .error rfl rfl
    · exact .ok rfl
  unfold relativeDate
  obtain ⟨n, _, hplain, hnegated, rfl⟩ | ⟨e, e', hplain, hnegated, he, he'⟩ := hcount
  · simp only [hplain, hnegated]
    cases period.textRange? n now snapshot.zone snapshot.settings.dates.pattern with
    | none => exact .error rfl rfl
    | some bounds =>
        apply Mirrors.ok
        rw [h.isNegated_left, h.isNegated_right]
        exact .between
  · simp only [hplain, hnegated]
    exact .error he he'

end OperatorSite

namespace FilterContext

variable {ctx : FilterContext} {o o' : Operator}

theorem mirrors_applyShaped (h : o.IsNegation o') (path plain negated : String)
    (rule : Option CastRule) (column : String) (operand : Operand) :
    Mirrors Predicate.IsNegation plain negated
      (ctx.applyShaped ⟨path, plain⟩ rule o column operand)
      (ctx.applyShaped ⟨path, negated⟩ rule o' column operand) := by
  obtain ⟨hkind, hstore⟩ := h
  unfold applyShaped
  rw [← hkind]
  cases o.kind with
  | comparison =>
      cases operand with
      | single v => exact OperatorSite.mirrors_comparison path plain negated rule hstore column v
      | _ => exact .error rfl rfl
  | pattern style =>
      cases operand with
      | single v => exact OperatorSite.mirrors_pattern path plain negated hstore _ style column v
      | _ => exact .error rfl rfl
  | membership =>
      cases operand with
      | list vs => exact OperatorSite.mirrors_membership path plain negated rule hstore _ column vs
      | _ => exact .error rfl rfl
  | range =>
      cases operand with
      | pair low high =>
          exact OperatorSite.mirrors_range path plain negated rule hstore _ column low high
      | _ => exact .error rfl rfl
  | nullCheck =>
      cases operand with
      | none =>
          apply Mirrors.ok
          rw [hstore.isNegated_left, hstore.isNegated_right]
          exact .null
      | _ => exact .error rfl rfl
  | relativeDate period =>
      exact OperatorSite.mirrors_relativeDate path plain negated hstore _ _ period column operand

theorem mirrors_applyOperator (h : o.IsNegation o')
    (ho : ctx.snapshot.operators.get? o.key = some o)
    (ho' : ctx.snapshot.operators.get? o'.key = some o') (m : Model) (column : String) (v : Value)
    (path : String) :
    Mirrors Predicate.IsNegation o.key o'.key (ctx.applyOperator m column o.key v path)
      (ctx.applyOperator m column o'.key v path) := by
  simp only [applyOperator, ho, ho', ← h.kind]
  cases Operand.ofValue o.kind.shape v with
  | error found => exact .error rfl rfl
  | ok operand => exact mirrors_applyShaped h path o.key o'.key (m.castFor column) column operand

theorem exists_of_checkField_eq_error {path : String} {e : FilterError}
    (h : ctx.checkField path = .error e) : ∃ fault, e = .notFilterable path fault := by
  unfold checkField at h
  grind

theorem withOperator_of_locate {depth : Nat} {path : String} {e : FilterError}
    (h : ctx.locate depth path = .error e) (key : String) : e.withOperator key = e := by
  rw [locate] at h
  split at h
  · rename_i err hfield
    cases h
    obtain ⟨fault, rfl⟩ := exists_of_checkField_eq_error hfield
    rfl
  · split at h
    · cases h
      rfl
    · simp only [checkDepth] at h
      split at h
      · cases h
      · split at h <;> cases h
        rfl

theorem mirrors_evalField {plain negated : String} {v : Value} {path : String}
    (h : ∀ m column, Mirrors Predicate.IsNegation plain negated
      (ctx.applyOperator m column plain v path) (ctx.applyOperator m column negated v path))
    (depth : Nat) (c : Connective) :
    Mirrors (fun a b => ∃ p q, a = some p ∧ b = some q ∧ p.IsNegation q) plain negated
      (ctx.evalField depth ⟨path, .operators c [(plain, v)]⟩)
      (ctx.evalField depth ⟨path, .operators c [(negated, v)]⟩) := by
  rw [evalField_eq_match, evalField_eq_match]
  cases hlocate : ctx.locate depth path with
  | error e =>
      exact .error (withOperator_of_locate hlocate negated) (withOperator_of_locate hlocate plain)
  | ok p =>
      simp only [applyCondition_operator]
      obtain ⟨a, b, hplain, hnegated, hab⟩ | ⟨e, e', hplain, hnegated, he, he'⟩ :=
        h p.model p.column
      · rw [hplain, hnegated]
        exact .ok ⟨p.wrap a, p.wrap b, rfl, rfl, hab.wrap p⟩
      · rw [hplain, hnegated]
        exact .error he he'

end FilterContext

/-- The keys of the built-in operators that are there in both forms. -/
def OperatorTable.builtinNegations : List (String × String) :=
  [("eq", "ne"), ("like", "not_like"), ("ilike", "not_ilike"), ("in", "not_in"),
    ("between", "not_between"), ("null", "not_null")]

theorem OperatorTable.exists_of_mem_builtinNegations {plain negated : String}
    (h : (plain, negated) ∈ builtinNegations) :
    ∃ o o', builtin.get? plain = some o ∧ builtin.get? negated = some o' ∧ o.key = plain ∧
      o'.key = negated ∧ o.IsNegation o' := by
  simp only [builtinNegations, List.mem_cons, Prod.mk.injEq, List.not_mem_nil, or_false] at h
  rcases h with ⟨rfl, rfl⟩ | ⟨rfl, rfl⟩ | ⟨rfl, rfl⟩ | ⟨rfl, rfl⟩ | ⟨rfl, rfl⟩ | ⟨rfl, rfl⟩
  all_goals exact ⟨_, _, rfl, rfl, rfl, rfl, rfl, by constructor⟩

namespace FilterContext

variable {ctx : FilterContext} {plain negated : String}

/-- A built-in operator and its negation accept the same operands on the same paths. Then they make
conditions that differ in the negation of their leaf alone, and otherwise they are refused with one
error, but for the operator key in it. -/
theorem evaluate_negation (hbuiltin : ctx.snapshot.operators = .builtin)
    (hkeys : (plain, negated) ∈ OperatorTable.builtinNegations) (path : String) (v : Value) :
    (∃ p q, ctx.evaluate (operatorFilter path plain v) = .ok (some p) ∧
      ctx.evaluate (operatorFilter path negated v) = .ok (some q) ∧ p.IsNegation q) ∨
    ∃ e e', ctx.evaluate (operatorFilter path plain v) = .error e ∧
      ctx.evaluate (operatorFilter path negated v) = .error e' ∧
      e.withOperator negated = e' ∧ e'.withOperator plain = e := by
  obtain ⟨o, o', ho, ho', rfl, rfl, hnegation⟩ :=
    OperatorTable.exists_of_mem_builtinNegations hkeys
  rw [← hbuiltin] at ho ho'
  rw [operatorFilter, operatorFilter, evaluate_singleton, evaluate_singleton]
  split
  -- The limit on the number of conditions is looked at first, and its error names no operator.
  · exact .inr ⟨_, _, rfl, rfl, rfl, rfl⟩
  · obtain ⟨_, _, hplain, hnegated, p, q, rfl, rfl, hpq⟩ | hrefused :=
      mirrors_evalField (fun m column => mirrors_applyOperator hnegation ho ho' m column v path) 0
        .and
    · exact .inl ⟨p, q, hplain, hnegated, hpq⟩
    · exact .inr hrefused

theorem evaluate_negation_posts :
    posts.snapshot.operators = .builtin ∧
    ("ilike", "not_ilike") ∈ OperatorTable.builtinNegations ∧
    ("between", "not_between") ∈ OperatorTable.builtinNegations ∧
    posts.evaluate (operatorFilter "author.name" "ilike" (.string "ann")) =
      .ok (some (.related "author" (.pattern "name" .like "%ann%" true))) ∧
    (∃ q, posts.evaluate (operatorFilter "author.name" "not_ilike" (.string "ann")) =
      .ok (some q) ∧
      (Predicate.related "author" (.pattern "name" .like "%ann%" true)).IsNegation q) ∧
    posts.evaluate (operatorFilter "views" "not_between" (.string "1,2,3")) =
      .error (.badShape "views" "not_between" .pair "3 values") := by
  have hilike : posts.evaluate (operatorFilter "author.name" "ilike" (.string "ann")) =
      .ok (some (.related "author" (.pattern "name" .like "%ann%" true))) := by
    rfl
  have hbetween : posts.evaluate (operatorFilter "views" "between" (.string "1,2,3")) =
      .error (.badShape "views" "between" .pair "3 values") := by
    rfl
  refine ⟨rfl, by decide, by decide, hilike, ?_, ?_⟩
  · obtain ⟨p, q, hplain, hnegated, hpq⟩ | ⟨e, e', hplain, -⟩ :=
      evaluate_negation (rfl : posts.snapshot.operators = .builtin)
        (by decide : ("ilike", "not_ilike") ∈ OperatorTable.builtinNegations) "author.name"
        (.string "ann")
    · cases hilike.symm.trans hplain
      exact ⟨q, hnegated, hpq⟩
    · cases hilike.symm.trans hplain
  · obtain ⟨p, q, hplain, -⟩ | ⟨e, e', hplain, hnegated, he, -⟩ :=
      evaluate_negation (rfl : posts.snapshot.operators = .builtin)
        (by decide : ("between", "not_between") ∈ OperatorTable.builtinNegations) "views"
        (.string "1,2,3")
    · cases hbetween.symm.trans hplain
    · cases hbetween.symm.trans hplain
      exact hnegated.trans (congrArg _ he.symm)

end FilterContext

end RequestQuery
