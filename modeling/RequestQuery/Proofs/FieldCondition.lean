import RequestQuery.Proofs.CallHistory
import RequestQuery.Proofs.FilterAccess

namespace RequestQuery

namespace Predicate

inductive IsOn (column : String) : Predicate → Prop
  | leaf {p} : p.column? = some column → IsOn column p
  | group {c members} : (∀ p ∈ members, IsOn column p) → IsOn column (.group c members)

/-- A condition on the column of a field path, inside the relations of the path, or a group of such
conditions. -/
inductive IsScoped (source : Source) : Predicate → Prop
  | field {path relations column m inner} : Text.isFieldPath path = true →
      Text.split '.' path = relations ++ [column] →
      source.catalog.followAll source.model relations = .ok m → IsOn column inner →
      IsScoped source (relations.foldr .related inner)
  | group {c members} : (∀ p ∈ members, IsScoped source p) → IsScoped source (.group c members)

end Predicate

namespace FilterContext

variable {ctx : FilterContext}

/-- Whatever the operators of the fields succeed in is a condition on the column that they are
applied to. -/
def KeepsToColumn (ctx : FilterContext) (fields : List FieldFilter) : Prop :=
  ∀ f ∈ fields, ∀ key ∈ f.condition.keys, ∀ m column v path p,
    ctx.applyOperator m column key v path = .ok p → p.column? = some column

theorem UsesNoHandler.keepsToColumn {fields : List FieldFilter} (h : ctx.UsesNoHandler fields) :
    ctx.KeepsToColumn fields :=
  fun f hf key hkey _ _ _ _ _ => column?_of_applyOperator (h f hf key hkey)

theorem keepsToColumn_of_handlers_eq_nil (hhandlers : ctx.handlers = [])
    (fields : List FieldFilter) : ctx.KeepsToColumn fields := by
  intro f _ key _ m column v path p h
  cases hkey : ctx.isHandlerKey key with
  | false => exact column?_of_applyOperator hkey h
  | true =>
      simp only [isHandlerKey, Bool.and_eq_true, Option.isNone_iff_eq_none,
        Option.isSome_iff_exists] at hkey
      obtain ⟨hoperator, name, hname⟩ := hkey
      simp [applyOperator, hoperator, hname, applyHandler, hhandlers] at h

variable {fields : List FieldFilter}

theorem isOn_of_applyCondition (hfields : ctx.KeepsToColumn fields) {f : FieldFilter}
    (hf : f ∈ fields) {m : Model} {column path : String} {p : Predicate}
    (h : ctx.applyCondition m column f.condition path = .ok (some p)) : p.IsOn column := by
  obtain ⟨c, ps, hjoin, hps⟩ := applyCondition_eq_ok h
  refine Predicate.forall_join (P := Predicate.IsOn column) .group ?_ p hjoin.symm
  intro q hq
  rcases hps q hq with rfl | ⟨key, hkey, v, hq⟩
  · exact .leaf rfl
  · exact .leaf (hfields f hf key hkey m column v path q hq)

theorem isScoped_of_evalField (hfields : ctx.KeepsToColumn fields) {depth : Nat} {f : FieldFilter}
    (hf : f ∈ fields) {p : Predicate} (h : ctx.evalField depth f = .ok (some p)) :
    p.IsScoped ctx.source := by
  obtain ⟨hcheck, relations, column, m, inner, hpath, hfollow, hcondition, hp⟩ := evalField_eq_ok h
  obtain ⟨q, rfl, rfl⟩ := Option.map_eq_some_iff.mp hp.symm
  exact .field (checkField_eq_ok_iff.mp hcheck).1 hpath hfollow
    (isOn_of_applyCondition hfields hf hcondition)

theorem isScoped_of_evaluate {spec : FilterSpec}
    (hfields : ctx.KeepsToColumn (FilterSpec.fields spec)) {r : Option Predicate}
    (h : ctx.evaluate spec = .ok r) : ∀ p ∈ r, p.IsScoped ctx.source :=
  forall_of_evaluate (fun _ _ => .group) (fun _ hf _ _ => isScoped_of_evalField hfields hf) h

end FilterContext

namespace Search

variable {source : Source}

/-- A search field with its relations resolved. -/
def resolveField (source : Source) (field : String) : Except SearchError FieldPath :=
  if !Text.isFieldPath field then .error (.badField field)
  else (FieldPath.resolve source.catalog source.model field).mapError .unknownRelation

theorem resolveField_eq_ok_iff {field : String} {path : FieldPath} :
    resolveField source field = .ok path ↔
      Text.isFieldPath field = true ∧
        FieldPath.resolve source.catalog source.model field = .ok path := by
  rw [resolveField]
  cases hfield : Text.isFieldPath field with
  | false => simp
  | true => cases FieldPath.resolve source.catalog source.model field <;> simp [Except.mapError]

theorem resolveFields_eq_mapM (fields : List String) :
    resolveFields source fields = fields.mapM (resolveField source) := by
  induction fields with
  | nil => rfl
  | cons field rest ih =>
      rw [mapM_cons_eq_match, resolveFields, ih, resolveField]
      split
      · rfl
      · cases FieldPath.resolve source.catalog source.model field <;> rfl

theorem forall₂_of_resolveFields {fields : List String} {ps : List FieldPath}
    (h : resolveFields source fields = .ok ps) :
    List.Forall₂ (fun field p => Text.isFieldPath field = true ∧
      FieldPath.resolve source.catalog source.model field = .ok p) fields ps := by
  rw [resolveFields_eq_mapM, mapM_eq_ok_iff] at h
  exact h.imp fun _ _ => resolveField_eq_ok_iff.mp

theorem exists_resolveFields {fields : List String}
    (h : ∀ field ∈ fields, Text.isFieldPath field = true ∧
      ∃ path, FieldPath.resolve source.catalog source.model field = .ok path) :
    ∃ paths, resolveFields source fields = .ok paths := by
  rw [resolveFields_eq_mapM, exists_mapM_eq_ok_iff]
  intro field hfield
  obtain ⟨hpath, path, hresolve⟩ := h field hfield
  exact ⟨path, resolveField_eq_ok_iff.mpr ⟨hpath, hresolve⟩⟩

theorem forall_of_termPredicate {P : Predicate → Prop} {op : StoreOperator} {caseInsensitive : Bool}
    {paths : List FieldPath} {term : String}
    (hgroup : ∀ members : List Predicate, 2 ≤ members.length → (∀ p ∈ members, P p) →
      P (.group .or members))
    (hfield : ∀ path ∈ paths, P (fieldPredicate op caseInsensitive term path)) :
    ∀ p ∈ termPredicate op caseInsensitive paths term, P p := by
  apply Predicate.forall_join_of_two_le (hgroup _)
  intro q hq
  obtain ⟨path, hpath, rfl⟩ := List.mem_map.mp hq
  exact hfield path hpath

theorem forall_of_predicate {P : Predicate → Prop} {terms fields : List String} {mode : Connective}
    {caseSensitive : Bool} {r : Option Predicate}
    (hgroup : ∀ c (members : List Predicate), 2 ≤ members.length → (∀ p ∈ members, P p) →
      P (.group c members))
    (hfield : ∀ term field path, Text.isFieldPath field = true →
      FieldPath.resolve source.catalog source.model field = .ok path →
        P (fieldPredicate (matcher caseSensitive source.dialect.hasNativeIlike).1
          (matcher caseSensitive source.dialect.hasNativeIlike).2 term path))
    (h : predicate source terms fields mode caseSensitive = .ok r) : ∀ p ∈ r, P p := by
  unfold predicate at h
  split at h
  · cases h
    simp
  · obtain ⟨paths, hpaths, rfl⟩ := map_eq_ok_iff.mp h
    apply Predicate.forall_join_of_two_le (hgroup mode _)
    intro p hp
    obtain ⟨term, -, hterm⟩ := List.mem_filterMap.mp hp
    refine forall_of_termPredicate (hgroup .or) (fun path hpath => ?_) p hterm
    obtain ⟨field, -, hpath, hresolve⟩ :=
      exists_of_mem_traversal (forall₂_of_resolveFields hpaths) hpath
    exact hfield term field path hpath hresolve

theorem isScoped_of_predicate {terms fields : List String} {mode : Connective}
    {caseSensitive : Bool} {r : Option Predicate}
    (h : predicate source terms fields mode caseSensitive = .ok r) :
    ∀ p ∈ r, p.IsScoped source := by
  refine forall_of_predicate (fun _ _ _ => .group) ?_ h
  intro term field path hfield hresolve
  obtain ⟨hsplit, hfollow⟩ := FieldPath.resolve_eq_ok_iff.mp hresolve
  exact .field hfield hsplit hfollow (.leaf rfl)

theorem isScoped_of_build {settings : SearchSettings} {raw : String}
    {fields : Option (List String)} {mode : Option String} {r : Option Predicate}
    (h : build source settings raw fields mode = .ok r) : ∀ p ∈ r, p.IsScoped source := by
  unfold build at h
  split at h
  · cases h
  · split at h
    · cases h
    · cases h
      simp
    · exact isScoped_of_predicate h

end Search

theorem Engine.Builds.isScoped {e : Engine} {source : Source} {p : Predicate}
    (hhandlers : e.handlers = []) (h : e.Builds source p) : p.IsScoped source := by
  cases h with
  | filter h =>
      have hcontext : (e.filterContext source).handlers = [] := hhandlers
      exact FilterContext.isScoped_of_evaluate
        (FilterContext.keepsToColumn_of_handlers_eq_nil hcontext _) h p rfl
  | search h => exact Search.isScoped_of_build h p rfl

end RequestQuery
