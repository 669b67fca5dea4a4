import RequestQuery.Proofs.FilterTree
import RequestQuery.Proofs.ImpliedOperators
import RequestQuery.Proofs.JsonEquality
import RequestQuery.Proofs.NullValues
import RequestQuery.Proofs.OperandShapes
import RequestQuery.Proofs.PathResolution

namespace RequestQuery

open Json (Value)

namespace Operand

/-- The entries that a value lists. Text lists what stands between its commas, without the blanks
around it. -/
inductive Lists : Value → List Value → Prop
  | array (items) : Lists (.array items) items
  | text {s parts} : Text.HasParts ',' s parts →
      Lists (.string s) (parts.map fun part => .string (Text.trim part))
  | number (n) : Lists (.number n) [.number n]
  | bool (b) : Lists (.bool b) [.bool b]
  | null : Lists .null []

variable {v : Value} {entries : List Value}

theorem items?_eq_some_iff : items? v = some entries ↔ Lists v entries := by
  constructor
  · intro h
    cases v with
    | string s =>
        cases h
        exact .text (Text.split_eq_iff.mp rfl)
    | null | bool b | number n | array items =>
        cases h
        constructor
    | object es => cases h
  · intro h
    cases h with
    | text h => rw [items?, Text.split_eq_iff.mpr h]
    | null | bool b | number n | array items => rfl

theorem ofValue_eq_list_iff {values : List Value} : ofValue .list v = .ok (list values) ↔
    ∃ entries, Lists v entries ∧ dropBlank entries = values ∧ values ≠ [] := by
  simp only [← items?_eq_some_iff, ofValue]
  cases items? v with
  | none => simp
  | some entries =>
      cases h : dropBlank entries with
      | nil => simp [h]
      | cons e rest =>
          simp only [Except.ok.injEq, list.injEq, Option.some.injEq, exists_eq_left', h]
          exact ⟨fun heq => ⟨heq, heq ▸ List.cons_ne_nil e rest⟩, And.left⟩

theorem Lists.merged_eq (h : Lists v entries) (hv : v.merged = v) :
    ∀ e ∈ entries, e.merged = e := by
  cases h with
  | array items => exact Value.merged_array_iff.mp hv
  | text _ =>
      intro e he
      obtain ⟨part, -, rfl⟩ := List.mem_map.mp he
      rfl
  | number n => simp [Value.merged]
  | bool b => simp [Value.merged]
  | null => simp

/-- Taking values one after the other, a value is kept unless an earlier one is equal to it, be that
one kept or not. -/
inductive KeepsFirst : List Value → List Value → Prop
  | nil : KeepsFirst [] []
  | keep {vs kept v} : KeepsFirst vs kept → (∀ u ∈ vs, u.same v = false) →
      KeepsFirst (vs ++ [v]) (kept ++ [v])
  | drop {vs kept u v} : KeepsFirst vs kept → u ∈ vs → u.same v = true → KeepsFirst (vs ++ [v]) kept

variable {vs kept : List Value}

namespace KeepsFirst

theorem sublist (h : KeepsFirst vs kept) : kept.Sublist vs := by
  induction h with
  | nil => exact .slnil
  | keep _ _ ih => exact ih.append (.refl _)
  | drop _ _ _ ih => exact ih.trans (List.sublist_append_left _ _)

theorem pairwise (h : KeepsFirst vs kept) : kept.Pairwise fun u v => u.same v = false := by
  induction h with
  | nil => exact .nil
  | keep h hnew ih =>
      refine List.pairwise_append.mpr ⟨ih, List.pairwise_singleton _ _, fun u hu v hv => ?_⟩
      rw [List.mem_singleton.mp hv]
      exact hnew u (h.sublist.subset hu)
  | drop _ _ _ ih => exact ih

theorem covers (h : KeepsFirst vs kept) : ∀ v ∈ vs, ∃ u ∈ kept, u = v ∨ u.same v = true := by
  induction h with
  | nil => simp
  | keep _ _ ih =>
      intro v hv
      rcases List.mem_append.mp hv with hv | hv
      · obtain ⟨u, hu, h⟩ := ih v hv
        exact ⟨u, List.mem_append_left _ hu, h⟩
      · exact ⟨v, List.mem_append_right _ hv, .inl rfl⟩
  | drop _ hu hsame ih =>
      intro v hv
      rcases List.mem_append.mp hv with hv | hv
      · exact ih v hv
      · obtain rfl := List.mem_singleton.mp hv
        obtain ⟨w, hw, rfl | h⟩ := ih _ hu
        · exact ⟨w, hw, .inr hsame⟩
        · exact ⟨w, hw, .inr (Value.same_trans h hsame)⟩

theorem any_kept_iff (h : KeepsFirst vs kept) {v : Value} :
    (kept.any fun u => u.same v) = true ↔ ∃ u ∈ vs, u.same v = true := by
  rw [List.any_eq_true]
  constructor
  · rintro ⟨u, hu, hsame⟩
    exact ⟨u, h.sublist.subset hu, hsame⟩
  · rintro ⟨u, hu, hsame⟩
    obtain ⟨w, hw, rfl | hwu⟩ := h.covers u hu
    · exact ⟨w, hw, hsame⟩
    · exact ⟨w, hw, Value.same_trans hwu hsame⟩

end KeepsFirst

theorem keepsFirst_iff : KeepsFirst vs kept ↔ dedupe vs = kept := by
  constructor
  · intro h
    induction h with
    | nil => rfl
    | keep h hnew ih =>
        rw [dedupe_append_singleton, ih, if_neg]
        rw [h.any_kept_iff]
        rintro ⟨u, hu, hsame⟩
        exact absurd hsame (by simp [hnew u hu])
    | drop h hu hsame ih =>
        rw [dedupe_append_singleton, ih, if_pos (h.any_kept_iff.mpr ⟨_, hu, hsame⟩)]
  · rintro rfl
    induction vs using List.reverseRecOn with
    | nil => exact .nil
    | append_singleton vs v ih =>
        rw [dedupe_append_singleton]
        split
        · rename_i hany
          obtain ⟨u, hu, hsame⟩ := ih.any_kept_iff.mp hany
          exact .drop ih hu hsame
        · rename_i hany
          refine .keep ih fun u hu => Bool.eq_false_iff.mpr fun hsame => hany ?_
          exact ih.any_kept_iff.mpr ⟨u, hu, hsame⟩

end Operand

namespace CastRule

variable {v w : Value}

theorem merged_of_toInt (h : toInt v = .ok w) : w.merged = w := by
  unfold toInt at h
  split at h
  · cases h
    rfl
  · split at h <;> cases h
    rfl
  · cases h
    rfl
  · dsimp only at h
    split at h
    · cases h
      rfl
    · split at h
      · cases h
      · split at h <;> cases h
        rfl
  · cases h

theorem merged_toTimestamp (hv : v.merged = v) : (toTimestamp v).merged = toTimestamp v := by
  unfold toTimestamp
  split
  · split
    · rfl
    · split <;> rfl
  · split <;> rfl
  · split <;> rfl
  · exact hv

theorem merged_toJson (hv : v.merged = v) : (toJson v).merged = toJson v := by
  unfold toJson
  split
  · rename_i s
    rw [Json.parse?]
    cases Json.parseWritten? s with
    | none => rfl
    | some u => exact Value.merged_merged u
  · exact hv

end CastRule

theorem merged_of_castBy {rule : Option CastRule} {v w : Value} (hv : v.merged = v)
    (h : castBy rule v = .ok w) : w.merged = w := by
  cases rule with
  | none =>
      cases h
      exact hv
  | some rule =>
      rw [castBy, CastRule.cast] at h
      split at h
      · cases h
        exact hv
      · cases rule with
        | int => exact CastRule.merged_of_toInt h
        | float =>
            simp only [CastRule.castPresent, CastRule.toFloat] at h
            split at h <;> cases h
            rfl
        | string => cases v <;> cases h <;> rfl
        | bool =>
            cases h
            rfl
        | array | json =>
            cases h
            exact CastRule.merged_toJson hv
        | date | datetime =>
            cases h
            exact CastRule.merged_toTimestamp hv

namespace OperatorSite

variable {site : OperatorSite} {rule : Option CastRule}

theorem cast_eq_ok_iff {v w : Value} : site.cast rule v = .ok w ↔ castBy rule v = .ok w := by
  rw [cast]
  cases castBy rule v <;> simp

theorem membership_eq_ok_iff {dedupe : Bool} {op : StoreOperator} {column : String}
    {values : List Value} {p : Predicate} :
    site.membership rule dedupe op column values = .ok p ↔
      ∃ casts, List.Forall₂ (fun e w => castBy rule e = .ok w) values casts ∧
        p = .member column (if dedupe then Operand.dedupe casts else casts) op.isNegated := by
  simp only [membership, map_eq_ok_iff, castAll_eq_mapM, mapM_eq_ok_iff, cast_eq_ok_iff]
  exact exists_congr fun casts => and_congr_right fun _ => eq_comm

end OperatorSite

namespace FilterContext

variable {ctx : FilterContext} {key : String} {o : Operator} {m : Model} {column path : String}
  {v : Value} {p : Predicate}

theorem applyOperator_eq_ok_iff (ho : ctx.snapshot.operators.get? key = some o) :
    ctx.applyOperator m column key v path = .ok p ↔
      ∃ operand, Operand.ofValue o.kind.shape v = .ok operand ∧
        ctx.applyShaped ⟨path, key⟩ (m.castFor column) o column operand = .ok p := by
  simp only [applyOperator, ho]
  cases Operand.ofValue o.kind.shape v <;> simp

theorem applyOperator_membership_eq_ok_iff (ho : ctx.snapshot.operators.get? key = some o)
    (hkind : o.kind = .membership) :
    ctx.applyOperator m column key v path = .ok p ↔
      ∃ entries casts, Operand.Lists v entries ∧ Operand.dropBlank entries ≠ [] ∧
        List.Forall₂ (fun e w => castBy (m.castFor column) e = .ok w)
          (Operand.dropBlank entries) casts ∧
        p = .member column (if ctx.snapshot.settings.operands.dedupeIn then Operand.dedupe casts
          else casts) o.store.isNegated := by
  obtain ⟨name, store, kind⟩ := o
  cases hkind
  rw [applyOperator_eq_ok_iff ho]
  constructor
  · rintro ⟨operand, hoperand, h⟩
    cases operand with
    | list values =>
        obtain ⟨entries, hlists, rfl, hne⟩ := Operand.ofValue_eq_list_iff.mp hoperand
        obtain ⟨casts, hcasts, rfl⟩ := OperatorSite.membership_eq_ok_iff.mp h
        exact ⟨entries, casts, hlists, hne, hcasts, rfl⟩
    | none | single v | pair low high => cases Operand.shape_of_ofValue hoperand
  · rintro ⟨entries, casts, hlists, hne, hcasts, rfl⟩
    exact ⟨_, Operand.ofValue_eq_list_iff.mpr ⟨entries, hlists, rfl, hne⟩,
      OperatorSite.membership_eq_ok_iff.mpr ⟨casts, hcasts, rfl⟩⟩

/-- A membership operator is accepted just where something in the list is not blank and all of that
can be cast. Its values are the results, in order and with every repetition, or, where repetitions
are to be dropped, the first of all results that are equal. Then none of the values is equal to
another one, and each result is equal to one of them. -/
theorem values_of_membership (ho : ctx.snapshot.operators.get? key = some o)
    (hkind : o.kind = .membership) (m : Model) (column path : String) (v : Value) (p : Predicate) :
    ctx.applyOperator m column key v path = .ok p ↔
      ∃ entries casts values, Operand.Lists v entries ∧
        entries.filter (!Operand.isBlank ·) ≠ [] ∧
        List.Forall₂ (fun e w => castBy (m.castFor column) e = .ok w)
          (entries.filter (!Operand.isBlank ·)) casts ∧
        p = .member column values o.store.isNegated ∧
        (ctx.snapshot.settings.operands.dedupeIn = false → values = casts) ∧
        (ctx.snapshot.settings.operands.dedupeIn = true →
          Operand.KeepsFirst casts values ∧ values.Sublist casts ∧
          (values.Pairwise fun u w => u.same w = false ∧ (v.merged = v → w.same u = false)) ∧
          ∀ w ∈ casts, ∃ u ∈ values, u = w ∨ u.same w = true) := by
  rw [applyOperator_membership_eq_ok_iff ho hkind]
  constructor
  · rintro ⟨entries, casts, hlists, hne, hcasts, rfl⟩
    refine ⟨entries, casts, _, hlists, hne, hcasts, rfl, fun hoff => ?_, fun hon => ?_⟩
    · rw [hoff]
      rfl
    · rw [if_pos hon]
      have hkeeps : Operand.KeepsFirst casts (Operand.dedupe casts) :=
        Operand.keepsFirst_iff.mpr rfl
      refine ⟨hkeeps, hkeeps.sublist, ?_, hkeeps.covers⟩
      refine hkeeps.pairwise.imp_of_mem fun {u w} _ hw hsame => ⟨hsame, fun hv => ?_⟩
      obtain ⟨e, he, hcast⟩ := exists_of_mem_traversal hcasts (hkeeps.sublist.subset hw)
      have hmerged := merged_of_castBy (hlists.merged_eq hv e (List.mem_of_mem_filter he)) hcast
      exact Bool.eq_false_iff.mpr fun h => absurd (Value.same_symm hmerged h) (by simp [hsame])
  · rintro ⟨entries, casts, values, hlists, hne, hcasts, rfl, hoff, hon⟩
    refine ⟨entries, casts, hlists, hne, hcasts, ?_⟩
    split
    · rename_i hdedupe
      rw [Operand.keepsFirst_iff.mp (hon hdedupe).1]
    · rename_i hdedupe
      rw [hoff (Bool.eq_false_iff.mpr hdedupe)]

theorem values_of_membership_posts :
    let settings : Settings := { Settings.default with operands := ⟨true, false⟩ }
    let ctx : FilterContext := { posts with snapshot := { posts.snapshot with settings } }
    let o : Operator := ⟨"in", .isIn, .membership⟩
    let entries : List Value := [.string "7", .string "", .string "07", .string "8"]
    let casts : List Value := [.number (.int 7), .number (.int 7), .number (.int 8)]
    let values : List Value := [.number (.int 7), .number (.int 8)]
    (ctx.snapshot.operators.get? "in" = some o ∧ o.kind = .membership) ∧
      Operand.Lists (.string "7, ,07,8") entries ∧ Operand.KeepsFirst casts values ∧
      ctx.applyOperator ctx.source.model "views" "in" (.string "7, ,07,8") "views" =
        .ok (.member "views" values false) := by
  intro settings ctx o entries casts values
  have ho : ctx.snapshot.operators.get? "in" = some o := rfl
  have hlists : Operand.Lists (.string "7, ,07,8") entries := Operand.items?_eq_some_iff.mp rfl
  have hkeeps : Operand.KeepsFirst casts values := Operand.keepsFirst_iff.mpr rfl
  have hcasts : List.Forall₂ (fun e w => castBy (some .int) e = .ok w)
      [.string "7", .string "07", .string "8"] casts :=
    .cons rfl (.cons rfl (.cons rfl .nil))
  refine ⟨⟨ho, rfl⟩, hlists, hkeeps, ?_⟩
  refine (values_of_membership ho rfl _ _ _ _ _).mpr
    ⟨entries, casts, values, hlists, by simp [entries, Operand.isBlank], hcasts, rfl, nofun,
      fun _ => ⟨hkeeps, hkeeps.sublist, ?_, hkeeps.covers⟩⟩
  exact List.pairwise_pair.mpr ⟨rfl, fun _ => rfl⟩

end FilterContext

end RequestQuery
