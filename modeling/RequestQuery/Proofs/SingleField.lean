import RequestQuery.Proofs.FilterAcceptance

namespace RequestQuery

open Json (Value)

namespace FilterContext

variable {ctx : FilterContext}

/-- Where the path of a field inside `depth` groups leads. Only a path with relations has to keep to
the limit on the depth. -/
def locate (ctx : FilterContext) (depth : Nat) (path : String) : Except FilterError FieldPath :=
  match ctx.checkField path with
  | .error e => .error e
  | .ok _ =>
    match FieldPath.resolve ctx.source.catalog ctx.source.model path with
    | .error e => .error (.unknownRelation e)
    | .ok p => if p.isLocal then .ok p else (ctx.checkDepth path (depth + p.depth)).map fun _ => p

theorem evalField_eq_match (depth : Nat) (f : FieldFilter) :
    ctx.evalField depth f =
      match ctx.locate depth f.path with
      | .error e => .error e
      | .ok p =>
        (ctx.applyCondition p.model p.column f.condition f.path).map fun inner =>
          inner.map p.wrap := by
  rw [evalField, locate]
  cases ctx.checkField f.path with
  | error e => rfl
  | ok u =>
      by_cases hdot : '.' ∈ f.path.toList
      · simp only [evalDotted, List.contains_iff_mem.mpr hdot, if_true]
        cases hresolve : FieldPath.resolve ctx.source.catalog ctx.source.model f.path with
        | error e => rfl
        | ok p =>
            have hlocal : p.isLocal = false := by
              rw [FieldPath.isLocal, List.isEmpty_eq_false_iff]
              exact fun hnil => (FieldPath.relations_eq_nil_iff hresolve).mp hnil hdot
            simp only [hlocal]
            cases ctx.checkDepth f.path (depth + p.depth) <;> rfl
      · have hwrap : Option.map (FieldPath.wrap ⟨[], ctx.source.model, f.path⟩) = id := by
          funext inner
          cases inner <;> rfl
        have hlocal : FieldPath.isLocal ⟨[], ctx.source.model, f.path⟩ = true := rfl
        simp only [FieldPath.resolve_of_notMem hdot, hlocal, hwrap, List.contains_iff_mem, hdot,
          if_true, if_false]
        cases ctx.applyCondition ctx.source.model f.path f.condition f.path <;> rfl

theorem evaluate_singleton (f : FieldFilter) :
    ctx.evaluate [.field f] =
      if ctx.snapshot.settings.maxFilters < 1 then
        .error (.tooMany 1 ctx.snapshot.settings.maxFilters)
      else ctx.evalField 0 f := by
  simp only [evaluate, List.length_singleton, evalNodes, evalNode]
  split
  · rfl
  · cases ctx.evalField 0 f with
    | error e => rfl
    | ok inner => cases inner <;> rfl

/-- Conditions on the path are looked at: it is allowed, and its relations are known and do not lead
too deep. -/
structure Admits (ctx : FilterContext) (path : String) (p : FieldPath) : Prop where
  checks : ctx.checkField path = .ok ()
  resolves : FieldPath.resolve ctx.source.catalog ctx.source.model path = .ok p
  depth : p.depth ≤ ctx.snapshot.settings.maxNestingLevel

theorem locate_of_admits {path : String} {p : FieldPath} (h : ctx.Admits path p) :
    ctx.locate 0 path = .ok p := by
  obtain ⟨hchecks, hresolves, hdepth⟩ := h
  have hlevel : ctx.checkDepth path (0 + p.depth) = .ok () :=
    (checkDepth_eq_ok_iff path).mpr (by omega)
  rw [locate, hchecks, hresolves]
  simp only [hlevel, Except.map, ite_self]

theorem evalField_of_admits {f : FieldFilter} {p : FieldPath} (h : ctx.Admits f.path p) :
    ctx.evalField 0 f = (ctx.applyCondition p.model p.column f.condition f.path).map fun inner =>
      inner.map p.wrap := by
  rw [evalField_eq_match, locate_of_admits h]

/-- The filter that applies one operator to one field. -/
def operatorFilter (path key : String) (v : Value) : FilterSpec :=
  [.field ⟨path, .operators .and [(key, v)]⟩]

theorem applyCondition_operator (m : Model) (column key : String) (v : Value) (path : String)
    (c : Connective) :
    ctx.applyCondition m column (.operators c [(key, v)]) path =
      (ctx.applyOperator m column key v path).map some := by
  simp only [applyCondition, applyOperators]
  cases ctx.applyOperator m column key v path <;> rfl

theorem evaluate_operatorFilter {path : String} {p : FieldPath} (hadmits : ctx.Admits path p)
    (hroom : 1 ≤ ctx.snapshot.settings.maxFilters) (key : String) (v : Value) :
    ctx.evaluate (operatorFilter path key v) =
      (ctx.applyOperator p.model p.column key v path).map fun q => some (p.wrap q) := by
  rw [operatorFilter, evaluate_singleton, if_neg (Nat.not_lt.mpr hroom),
    evalField_of_admits hadmits, applyCondition_operator]
  cases ctx.applyOperator p.model p.column key v path <;> rfl

end FilterContext

end RequestQuery
