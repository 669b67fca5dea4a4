import RequestQuery.Proofs.DecimalNumerals
import RequestQuery.Proofs.FloatOrder
import RequestQuery.Proofs.SingleField

namespace RequestQuery

open Json (Value)
open Binary64 (nearestInt nearestInt_lt_iff nearestInt_of_natAbs_le)

/-- A bound spells an integer, for a column with the given cast rule: it is an integer of the sizes
that JSON has, or a numeral that the rule reads as one. -/
inductive Operand.Spells (rule : Option CastRule) : Value → Int → Prop
  | number {n : Int} : -2 ^ 63 ≤ n → n < 2 ^ 64 → Spells rule (.number (.int n)) n
  | numeral {s : String} {n : Int} : rule = some .int →
      Text.readSigned64? (Text.trim s) = some n → Spells rule (.string s) n

namespace OperatorSite

variable {rule : Option CastRule} {v low high : Value} {l h n : Int}

theorem natAbs_le_of_spells (hspells : Operand.Spells rule v n) : n.natAbs ≤ 2 ^ 64 := by
  cases hspells with
  | number hlow hhigh => omega
  | numeral _ hread =>
      have hrange := Text.inSigned64_iff.mp (Option.filter_eq_some_iff.mp hread).2
      omega

theorem cast_of_spells (site : OperatorSite) (hrule : rule = none ∨ rule = some .int)
    (hspells : Operand.Spells rule v n) : site.cast rule v = .ok (.number (.int n)) := by
  rw [cast]
  cases hspells with
  | number =>
      rcases hrule with rfl | rfl
      · rfl
      · rfl
  | numeral hint hread =>
      subst hint
      simp [castBy, CastRule.cast, CastRule.castPresent, CastRule.toInt, hread, Value.isNull]

theorem range_of_spells (site : OperatorSite) (hrule : rule = none ∨ rule = some .int)
    (hlow : Operand.Spells rule low l) (hhigh : Operand.Spells rule high h) (strict : Bool)
    (op : StoreOperator) (column : String) :
    site.range rule strict op column low high =
      if nearestInt h < nearestInt l then .error (site.badOperand "number" .reversedBounds)
      else .ok (.between column (.number (.int l)) (.number (.int h)) op.isNegated) := by
  have hlt := Binary64.ofInt_lt_iff (natAbs_le_of_spells hhigh) (natAbs_le_of_spells hlow)
  simp only [range, site.cast_of_spells hrule hlow, site.cast_of_spells hrule hhigh, checkBounds,
    Operand.bound?, Json.Number.toFloat, hlt]
  split <;> rfl

end OperatorSite

namespace FilterContext

variable {ctx : FilterContext}

theorem applyOperator_range {key : String} {o : Operator}
    (ho : ctx.snapshot.operators.get? key = some o) (hkind : o.kind = .range) {m : Model}
    {column : String} (hrule : m.castFor column = none ∨ m.castFor column = some .int)
    {v low high : Value} (hpair : Operand.items? v = some [low, high]) {l h : Int}
    (hlow : Operand.Spells (m.castFor column) low l)
    (hhigh : Operand.Spells (m.castFor column) high h) (path : String) :
    ctx.applyOperator m column key v path =
      if nearestInt h < nearestInt l then
        .error (.badOperand path key "number" .reversedBounds)
      else .ok (.between column (.number (.int l)) (.number (.int h)) o.store.isNegated) := by
  have hshape : Operand.ofValue OperatorKind.range.shape v = .ok (.pair low high) := by
    simp [Operand.ofValue, OperatorKind.shape, hpair]
  simp only [applyOperator, ho, hshape, applyShaped, hkind]
  exact OperatorSite.range_of_spells ⟨path, key⟩ hrule hlow hhigh _ o.store column

theorem evaluate_range {path : String} {p : FieldPath} (hadmits : ctx.Admits path p)
    (hroom : 1 ≤ ctx.snapshot.settings.maxFilters) {key : String} {o : Operator}
    (ho : ctx.snapshot.operators.get? key = some o) (hkind : o.kind = .range)
    (hrule : p.model.castFor p.column = none ∨ p.model.castFor p.column = some .int)
    {v low high : Value} (hpair : Operand.items? v = some [low, high]) {l h : Int}
    (hlow : Operand.Spells (p.model.castFor p.column) low l)
    (hhigh : Operand.Spells (p.model.castFor p.column) high h) :
    ctx.evaluate (operatorFilter path key v) =
      if nearestInt h < nearestInt l then
        .error (.badOperand path key "number" .reversedBounds)
      else .ok (some (p.wrap
        (.between p.column (.number (.int l)) (.number (.int h)) o.store.isNegated))) := by
  rw [evaluate_operatorFilter hadmits hroom,
    applyOperator_range ho hkind hrule hpair hlow hhigh path]
  split
  · rfl
  · rfl

/-- A range between two integers is accepted exactly if they are in order or are rounded to one
integer, and is refused for nothing but their order. Up to `2 ^ 53` nothing is rounded, so that
there only pairs in order are accepted. -/
theorem exists_evaluate_range_iff {path : String} {p : FieldPath}
    (hadmits : ctx.Admits path p) (hroom : 1 ≤ ctx.snapshot.settings.maxFilters) {key : String}
    {o : Operator} (ho : ctx.snapshot.operators.get? key = some o) (hkind : o.kind = .range)
    (hrule : p.model.castFor p.column = none ∨ p.model.castFor p.column = some .int)
    {v low high : Value} (hpair : Operand.items? v = some [low, high]) {l h : Int}
    (hlow : Operand.Spells (p.model.castFor p.column) low l)
    (hhigh : Operand.Spells (p.model.castFor p.column) high h) :
    ((∃ r, ctx.evaluate (operatorFilter path key v) = .ok r) ↔
      l ≤ h ∨ nearestInt l = nearestInt h) ∧
    (∀ e, ctx.evaluate (operatorFilter path key v) = .error e →
      e = .badOperand path key "number" .reversedBounds) ∧
    (l.natAbs ≤ 2 ^ 53 → h.natAbs ≤ 2 ^ 53 →
      ((∃ r, ctx.evaluate (operatorFilter path key v) = .ok r) ↔ l ≤ h)) := by
  have hevaluate := evaluate_range hadmits hroom ho hkind hrule hpair hlow hhigh
  have haccepts : (∃ r, ctx.evaluate (operatorFilter path key v) = .ok r) ↔
      l ≤ h ∨ nearestInt l = nearestInt h := by
    rw [hevaluate]
    split
    case isTrue hlt =>
      obtain ⟨hlt, hne⟩ := nearestInt_lt_iff.mp hlt
      simp [Int.not_le.mpr hlt, hne.symm]
    case isFalse hnot =>
      rw [nearestInt_lt_iff, not_and_or, Int.not_lt, not_not] at hnot
      simpa [eq_comm] using hnot
  refine ⟨haccepts, ?_, ?_⟩
  · intro e he
    rw [hevaluate] at he
    split at he
    · exact (Except.error.inj he).symm
    · cases he
  · intro hl hh
    rw [haccepts, nearestInt_of_natAbs_le hl, nearestInt_of_natAbs_le hh]
    omega

theorem admits_replies_views :
    posts.Admits "replies.views" ⟨["replies"], posts.source.model, "views"⟩ :=
  ⟨by decide +kernel, by decide +kernel, by decide⟩

theorem exists_evaluate_range_iff_replies :
    posts.Admits "replies.views" ⟨["replies"], posts.source.model, "views"⟩ ∧
      (let v : Value := .array [.string " 9007199254740993", .number (.int (-5))]
      ((∃ r, posts.evaluate (operatorFilter "replies.views" "not_between" v) = .ok r) ↔
        (9007199254740993 : Int) ≤ -5 ∨ nearestInt 9007199254740993 = nearestInt (-5)) ∧
      (∀ e, posts.evaluate (operatorFilter "replies.views" "not_between" v) = .error e →
        e = .badOperand "replies.views" "not_between" "number" .reversedBounds) ∧
      ((9007199254740993 : Int).natAbs ≤ 2 ^ 53 → (-5 : Int).natAbs ≤ 2 ^ 53 →
        ((∃ r, posts.evaluate (operatorFilter "replies.views" "not_between" v) = .ok r) ↔
          (9007199254740993 : Int) ≤ -5))) :=
  ⟨admits_replies_views, exists_evaluate_range_iff admits_replies_views (by decide)
    (o := ⟨"not_between", .notBetween, .range⟩) rfl rfl (.inr rfl) rfl
    (.numeral rfl (by decide +kernel)) (.number (by decide) (by decide))⟩

/-- Neighbours beyond `2 ^ 53` that are rounded to one number are accepted in either order, whatever
they are spelt as. -/
theorem evaluate_between_neighbours :
    posts.evaluate (operatorFilter "id" "between"
        (.array [.number (.int 9007199254740993), .number (.int 9007199254740992)])) =
      .ok (some (.between "id" (.number (.int 9007199254740993)) (.number (.int 9007199254740992))
        false)) ∧
    posts.evaluate (operatorFilter "views" "not_between"
        (.array [.string "9007199254740993", .string "9007199254740992"])) =
      .ok (some (.between "views" (.number (.int 9007199254740993))
        (.number (.int 9007199254740992)) true)) ∧
    ¬ (9007199254740993 : Int) ≤ 9007199254740992 := by
  have hrounded : ¬ nearestInt 9007199254740992 < nearestInt 9007199254740993 := by
    decide +kernel
  have hid : posts.Admits "id" ⟨[], posts.source.model, "id"⟩ :=
    ⟨by decide +kernel, by decide +kernel, by decide⟩
  have hviews : posts.Admits "views" ⟨[], posts.source.model, "views"⟩ :=
    ⟨by decide +kernel, by decide +kernel, by decide⟩
  refine ⟨?_, ?_, by decide⟩
  · rw [evaluate_range hid (by decide) (o := ⟨"between", .between, .range⟩) rfl rfl (.inl rfl) rfl
      (.number (by decide) (by decide)) (.number (by decide) (by decide)), if_neg hrounded]
    rfl
  · rw [evaluate_range hviews (by decide) (o := ⟨"not_between", .notBetween, .range⟩) rfl rfl
      (.inr rfl) rfl (l := 9007199254740993) (h := 9007199254740992)
      (.numeral rfl (by decide +kernel)) (.numeral rfl (by decide +kernel)), if_neg hrounded]
    rfl

end FilterContext

end RequestQuery
