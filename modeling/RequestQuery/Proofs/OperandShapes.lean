import RequestQuery.Proofs.FilterTree
import RequestQuery.Proofs.OperatorFamilies

namespace RequestQuery

open Json (Value)

namespace OperatorTable

/-- The built-in table in which operators have been registered, one after the other. -/
inductive IsRegistered : OperatorTable → Prop
  | builtin : IsRegistered builtin
  | register {t} (key store) : IsRegistered t → IsRegistered (t.register key store)

variable {t t' : OperatorTable} {key : String} {o : Operator}

theorem IsRegistered.isCoherent (h : t.IsRegistered) : t.IsCoherent := by
  induction h with
  | builtin => exact isCoherent_builtin
  | register key store _ ih => exact ih.register key store

theorem IsRegistered.override {overrides : List (String × String)} (h : t.IsRegistered)
    (ht' : t.override overrides = .ok t') : t'.IsRegistered := by
  induction overrides generalizing t with
  | nil =>
      cases ht'
      exact h
  | cons entry rest ih =>
      rw [OperatorTable.override] at ht'
      split at ht'
      · cases ht'
      · exact ih (h.register _ _) ht'

theorem IsCoherent.key_of_get? (h : t.IsCoherent) (ho : t.get? key = some o) : o.key = key :=
  h.key _ (mem_of_lookup ho)

end OperatorTable

namespace Operand

def shape : Operand → OperandShape
  | none => .none
  | single _ => .single
  | list _ => .list
  | pair _ _ => .pair

theorem shape_of_ofValue {shape : OperandShape} {v : Value} {operand : Operand}
    (h : ofValue shape v = .ok operand) : operand.shape = shape := by
  unfold ofValue at h
  split at h
  · split at h <;> cases h
    rfl
  · split at h <;> cases h
    rfl
  · split at h
    · cases h
    · split at h <;> cases h
      rfl
  · split at h <;> cases h
    rfl

end Operand

/-- The operands that operators of a kind are applied to. A relative date is applied to any operand,
of which it only looks at a single value. -/
inductive OperatorKind.Takes : OperatorKind → Operand → Prop
  | comparison (v) : Takes comparison (.single v)
  | pattern (style v) : Takes (pattern style) (.single v)
  | membership (vs) : Takes membership (.list vs)
  | range (low high) : Takes range (.pair low high)
  | nullCheck : Takes nullCheck .none
  | relativeDate (period operand) : Takes (relativeDate period) operand

theorem OperatorKind.takes_of_shape_eq {kind : OperatorKind} {operand : Operand}
    (h : operand.shape = kind.shape) : kind.Takes operand := by
  cases kind with
  | relativeDate period => exact .relativeDate period operand
  | comparison | pattern | membership | range | nullCheck =>
      cases operand <;> cases h
      constructor

namespace OperatorSite

variable {site : OperatorSite} {rule : Option CastRule} {op : StoreOperator} {column : String}
  {e : FilterError}

/-- The error is about the value of an operand. -/
def Refuses (site : OperatorSite) (e : FilterError) : Prop :=
  ∃ valueType fault, e = .badOperand site.path site.key valueType fault

theorem refuses_badOperand (site : OperatorSite) (valueType : String) (fault : OperandFault) :
    site.Refuses (site.badOperand valueType fault) :=
  ⟨valueType, fault, rfl⟩

theorem refuses_of_cast {v : Value} (h : site.cast rule v = .error e) : site.Refuses e := by
  unfold cast at h
  split at h <;> cases h
  exact site.refuses_badOperand _ _

theorem refuses_of_castAll {vs : List Value} (h : site.castAll rule vs = .error e) :
    site.Refuses e := by
  induction vs with
  | nil => cases h
  | cons v rest ih =>
      rw [castAll] at h
      split at h
      · rename_i hcast
        cases h
        exact refuses_of_cast hcast
      · exact ih (map_eq_error_iff.mp h)

theorem refuses_of_comparison {v : Value} (h : site.comparison rule op column v = .error e) :
    site.Refuses e := by
  unfold comparison at h
  split at h
  · split at h <;> cases h
    exact site.refuses_badOperand _ _
  · exact refuses_of_cast (map_eq_error_iff.mp h)

theorem refuses_of_pattern {native : Bool} {style : PatternStyle} {v : Value}
    (h : site.pattern native op style column v = .error e) : site.Refuses e := by
  unfold pattern at h
  split at h <;> cases h
  exact site.refuses_badOperand _ _

theorem refuses_of_checkBounds {strict : Bool} {low high : Value}
    (h : site.checkBounds strict low high = .error e) : site.Refuses e := by
  unfold checkBounds at h
  split at h <;> split at h <;> cases h <;> exact site.refuses_badOperand _ _

theorem refuses_of_range {strict : Bool} {low high : Value}
    (h : site.range rule strict op column low high = .error e) : site.Refuses e := by
  unfold range at h
  split at h
  · rename_i hlow
    cases h
    exact refuses_of_cast hlow
  · split at h
    · rename_i hhigh
      cases h
      exact refuses_of_cast hhigh
    · exact refuses_of_checkBounds (map_eq_error_iff.mp h)

theorem refuses_of_relativeDate {snapshot : Snapshot} {now : Int} {period : Period}
    {operand : Operand} (h : site.relativeDate snapshot now op period column operand = .error e) :
    site.Refuses e := by
  unfold relativeDate at h
  split at h
  · rename_i hcount
    cases h
    unfold dayCount at hcount
    split at hcount
    · split at hcount <;> cases hcount
      exact site.refuses_badOperand _ _
    · cases hcount
  · split at h <;> cases h
    exact site.refuses_badOperand _ _

end OperatorSite

namespace FilterContext

variable {ctx : FilterContext} {site : OperatorSite} {rule : Option CastRule} {o : Operator}
  {column : String} {operand : Operand}

theorem refuses_of_applyShaped {e : FilterError} (htakes : o.kind.Takes operand)
    (h : ctx.applyShaped site rule o column operand = .error e) : site.Refuses e := by
  obtain ⟨key, store, kind⟩ := o
  cases htakes with
  | comparison v => exact OperatorSite.refuses_of_comparison h
  | pattern style v => exact OperatorSite.refuses_of_pattern h
  | membership vs => exact OperatorSite.refuses_of_castAll (map_eq_error_iff.mp h)
  | range low high => exact OperatorSite.refuses_of_range h
  | nullCheck => cases h
  | relativeDate period operand => exact OperatorSite.refuses_of_relativeDate h

/-- The last case of the application is for just the operands that the kind does not take. -/
theorem applyShaped_eq_badShape_iff :
    ctx.applyShaped site rule o column operand =
      .error (.badShape site.path site.key o.kind.shape operand.describe) ↔
        ¬ o.kind.Takes operand := by
  constructor
  · intro h htakes
    obtain ⟨valueType, fault, herror⟩ := refuses_of_applyShaped htakes h
    cases herror
  · intro h
    obtain ⟨key, store, kind⟩ := o
    cases kind with
    | comparison =>
        cases operand with
        | single v => exact absurd (.comparison v) h
        | _ => rfl
    | pattern style =>
        cases operand with
        | single v => exact absurd (.pattern style v) h
        | _ => rfl
    | membership =>
        cases operand with
        | list vs => exact absurd (.membership vs) h
        | _ => rfl
    | range =>
        cases operand with
        | pair low high => exact absurd (.range low high) h
        | _ => rfl
    | nullCheck =>
        cases operand with
        | none => exact absurd .nullCheck h
        | _ => rfl
    | relativeDate period => exact absurd (.relativeDate period operand) h

/-- However operators are registered, each stands under its own key and has a kind of the family of
its store operator. The last case of their application is for operands that the kind does not take.
It is never reached, since a value of the wrong shape is refused before, and one that has been
brought into the shape is only refused for what it is. -/
theorem takes_of_isRegistered :
    (∀ overrides t, OperatorTable.withOverrides overrides = .ok t → t.IsRegistered) ∧
    ∀ t : OperatorTable, t.IsRegistered →
      (∀ e ∈ t.entries, e.2.key = e.1 ∧ e.2.kind.family = e.2.store.family) ∧
      ∀ ctx : FilterContext, ctx.snapshot.operators = t →
        ∀ (m : Model) (column key path : String) (v : Value) (o : Operator), t.get? key = some o →
          (∀ operand, ctx.applyShaped ⟨path, key⟩ (m.castFor column) o column operand =
            .error (.badShape path key o.kind.shape operand.describe) ↔ ¬ o.kind.Takes operand) ∧
          (∀ operand, Operand.ofValue o.kind.shape v = .ok operand → o.kind.Takes operand ∧
            ∀ e, ctx.applyOperator m column key v path = .error e →
              ∃ valueType fault, e = .badOperand path key valueType fault) ∧
          ∀ found, Operand.ofValue o.kind.shape v = .error found →
            ctx.applyOperator m column key v path =
              .error (.badShape path key o.kind.shape found) := by
  refine ⟨fun overrides t => OperatorTable.IsRegistered.builtin.override, fun t ht => ?_⟩
  have hcoherent := ht.isCoherent
  refine ⟨fun e he => ⟨hcoherent.key e he, hcoherent.family e he⟩, ?_⟩
  rintro ctx rfl m column key path v o ho
  refine ⟨fun _ => applyShaped_eq_badShape_iff, fun operand hoperand => ?_, fun found hfound => ?_⟩
  · have htakes := OperatorKind.takes_of_shape_eq (Operand.shape_of_ofValue hoperand)
    refine ⟨htakes, fun e he => ?_⟩
    simp only [applyOperator, ho, hoperand] at he
    exact refuses_of_applyShaped htakes he
  · simp only [applyOperator, ho, hfound, hcoherent.key_of_get? ho]

theorem takes_of_isRegistered_posts :
    let t := (OperatorTable.builtin.register "between" .notIn).register "last_x_days" .notBetween
    let ctx : FilterContext := { posts with snapshot := { posts.snapshot with operators := t } }
    let between : Operator := ⟨"between", .notIn, .membership⟩
    let days : Operator := ⟨"last_x_days", .notBetween, .relativeDate .lastDays⟩
    (OperatorTable.withOverrides [("between", "not in"), ("last_x_days", "NOT BETWEEN")] = .ok t ∧
      t.IsRegistered) ∧
    (t.get? "between" = some between ∧ between.kind.family = between.store.family ∧
      Operand.ofValue between.kind.shape (.number (.int 5)) = .ok (.list [.number (.int 5)]) ∧
      between.kind.Takes (.list [.number (.int 5)])) ∧
    t.get? "last_x_days" = some days ∧
      Operand.ofValue days.kind.shape (.array []) = .error "list of 0" ∧
      ctx.applyOperator ctx.source.model "views" "last_x_days" (.array []) "views" =
        .error (.badShape "views" "last_x_days" .single "list of 0") := by
  intro t ctx between days
  have hoverrides : OperatorTable.withOverrides
      [("between", "not in"), ("last_x_days", "NOT BETWEEN")] = .ok t := rfl
  have ht : t.IsRegistered := takes_of_isRegistered.1 _ t hoverrides
  obtain ⟨hentries, happly⟩ := takes_of_isRegistered.2 t ht
  have hbetween : t.get? "between" = some between := rfl
  have hdays : t.get? "last_x_days" = some days := rfl
  have hoperand : Operand.ofValue between.kind.shape (.number (.int 5)) =
      .ok (.list [.number (.int 5)]) := rfl
  have hfound : Operand.ofValue days.kind.shape (.array []) = .error "list of 0" := rfl
  exact ⟨⟨hoverrides, ht⟩,
    ⟨hbetween, (hentries _ (mem_of_lookup hbetween)).2, hoperand,
      ((happly ctx rfl ctx.source.model "views" "between" "views" _ _ hbetween).2.1 _ hoperand).1⟩,
    hdays, hfound,
    (happly ctx rfl ctx.source.model "views" "last_x_days" "views" _ _ hdays).2.2 _ hfound⟩

end FilterContext

end RequestQuery
