import Mathlib.Data.List.Induction
import Mathlib.Tactic.MkIffOfInductiveProp
import RequestQuery.Proofs.FilterParameters
import RequestQuery.Proofs.RequestCalls
import RequestQuery.Proofs.SpacedText

namespace RequestQuery

open Json (Value Entries)

namespace Json.Entries

theorem put_map {keys : List String} (hkeys : keys.Nodup) (f : String → Value) (key : String)
    (value : Value) :
    put (keys.map fun k => (k, f k)) key value =
      (if key ∈ keys then keys else keys ++ [key]).map fun k =>
        (k, if k = key then value else f k) := by
  induction keys with
  | nil => simp [put]
  | cons k rest ih =>
      obtain ⟨hk, hrest⟩ := List.nodup_cons.mp hkeys
      rw [List.map_cons, put]
      by_cases heq : k = key
      · subst heq
        have hothers : ∀ k' ∈ rest, (k', f k') = (k', if k' = k then value else f k') := by
          intro k' hk'
          rw [if_neg (ne_of_mem_of_not_mem hk' hk)]
        simpa using List.map_congr_left hothers
      · have hmem : key ∈ k :: rest ↔ key ∈ rest := by
          simp [Ne.symm heq]
        rw [if_neg (by simpa using heq), ih hrest]
        by_cases hrest : key ∈ rest <;> simp [hmem, hrest, heq]

end Json.Entries

/-- A parameter `field[key]=value`. -/
structure OperatorParam where
  field : String
  key : String
  value : String

namespace OperatorParam

open Request

def name (p : OperatorParam) : String :=
  p.field ++ "[" ++ p.key ++ "]"

/-- A text that may stand as a field or as a key in the name of a parameter. -/
@[mk_iff]
structure IsPart (s : String) : Prop where
  ne_empty : s ≠ ""
  unbracketed : Unbracketed s
  trim_eq : Text.trim s = s

instance (s : String) : Decidable (IsPart s) :=
  decidable_of_iff' _ (isPart_iff s)

/-- The parameter filters, its field is no word of the filter language, and neither is its key. -/
@[mk_iff]
structure IsOrdinary (snapshot : Snapshot) (searchParam : String) (p : OperatorParam) : Prop where
  field : IsPart p.field
  key : IsPart p.key
  field_ne : p.field ≠ FilterSpec.groupKey
  field_parse : Connective.parse? p.field = none
  key_ne : p.key ≠ FilterSpec.connectiveKey
  name : isReserved snapshot searchParam p.name = false

instance (snapshot : Snapshot) (searchParam : String) (p : OperatorParam) :
    Decidable (p.IsOrdinary snapshot searchParam) :=
  decidable_of_iff' _ (isOrdinary_iff snapshot searchParam p)

def toFilterParam (p : OperatorParam) : FilterParam :=
  ⟨p.field, some p.key, p.value⟩

/-- The fields, each where it occurs first. -/
def fields (params : List OperatorParam) : List String :=
  (params.map field).eraseDups

/-- The operators on a field with their operands. -/
def operatorsOn (operand : OperatorParam → Value) (params : List OperatorParam) (f : String) :
    Entries :=
  (params.filter (·.field == f)).map fun p => (p.key, operand p)

/-- The map of filters that gives each field its operators. -/
def nested (operand : OperatorParam → Value) (params : List OperatorParam) : Entries :=
  (fields params).map fun f => (f, .object (operatorsOn operand params f))

section

variable {params : List OperatorParam} {p : OperatorParam} {operand : OperatorParam → Value}

theorem fields_append_singleton (params : List OperatorParam) (p : OperatorParam) :
    fields (params ++ [p]) =
      if p.field ∈ fields params then fields params else fields params ++ [p.field] := by
  simp only [fields, List.map_append, List.map_cons, List.map_nil, List.eraseDups_append,
    List.cons_removeAll, List.mem_eraseDups]
  by_cases h : p.field ∈ params.map OperatorParam.field
  · simp [h, List.removeAll]
  · simp [h, List.removeAll, List.eraseDups_cons]

theorem nodup_fields (params : List OperatorParam) : (fields params).Nodup := by
  induction params using List.reverseRecOn with
  | nil => simp [fields]
  | append_singleton params p ih =>
      rw [fields_append_singleton]
      split
      · exact ih
      · rename_i h
        refine List.nodup_append.mpr ⟨ih, by simp, fun f hf => ?_⟩
        simpa using ne_of_mem_of_not_mem hf h

theorem operatorsOn_append_singleton (operand : OperatorParam → Value)
    (params : List OperatorParam) (p : OperatorParam) (f : String) :
    operatorsOn operand (params ++ [p]) f =
      operatorsOn operand params f ++ if p.field = f then [(p.key, operand p)] else [] := by
  rw [operatorsOn, List.filter_append, List.map_append, operatorsOn]
  by_cases h : p.field = f <;> simp [h]

theorem operatorsSoFar_lookup_nested (operand : OperatorParam → Value)
    (params : List OperatorParam) (f : String) :
    operatorsSoFar ((nested operand params).lookup f) = operatorsOn operand params f := by
  by_cases h : f ∈ fields params
  · rw [nested, List.lookup_graph _ h]
    rfl
  · have hlookup : (nested operand params).lookup f = none := by
      rw [List.lookup_eq_none_iff]
      simp only [nested, List.mem_map]
      rintro _ ⟨f', hf', rfl⟩
      simpa using fun heq : f = f' => h (heq ▸ hf')
    have hnone : params.filter (·.field == f) = [] := by
      rw [List.filter_eq_nil_iff]
      intro p hp
      simpa using fun heq : p.field = f =>
        h (List.mem_eraseDups.mpr (List.mem_map.mpr ⟨p, hp, heq⟩))
    rw [hlookup, operatorsOn, hnone]
    rfl

theorem add_nested {operators : OperatorTable}
    (hoperand : operand p = operandOf operators p.key p.value)
    (hnew : (p.field, p.key) ∉ params.map fun p => (p.field, p.key)) :
    p.toFilterParam.add operators (nested operand params) = nested operand (params ++ [p]) := by
  have hkey : p.key ∉ (operatorsOn operand params p.field).map Prod.fst := by
    simp only [operatorsOn, List.map_map, List.mem_map, List.mem_filter, Function.comp_apply,
      not_exists, not_and, and_imp]
    intro p' hp' hfield hkey
    exact hnew (List.mem_map.mpr ⟨p', hp', by simp [beq_iff_eq.mp hfield, hkey]⟩)
  have hput : (operatorsOn operand params p.field).put p.key (operand p) =
      operatorsOn operand (params ++ [p]) p.field := by
    rw [Entries.put_of_notMem hkey, operatorsOn_append_singleton, if_pos rfl]
  have hentry (f : String) :
      (f, if f = p.field then Value.object (operatorsOn operand (params ++ [p]) p.field)
        else .object (operatorsOn operand params f)) =
      (f, .object (operatorsOn operand (params ++ [p]) f)) := by
    by_cases hf : f = p.field
    · simp [hf]
    · rw [if_neg hf, operatorsOn_append_singleton, if_neg (Ne.symm hf), List.append_nil]
  simp only [FilterParam.add, toFilterParam, operatorsSoFar_lookup_nested, ← hoperand, hput]
  rw [nested, Entries.put_map (nodup_fields params), nested, fields_append_singleton]
  exact List.map_congr_left fun f _ => hentry f

theorem foldl_add {operators : OperatorTable}
    (hdistinct : (params.map fun p => (p.field, p.key)).Nodup) :
    (params.map toFilterParam).foldl (FilterParam.add operators) [] =
      nested (fun p => operandOf operators p.key p.value) params := by
  induction params using List.reverseRecOn with
  | nil => rfl
  | append_singleton params p ih =>
      rw [List.map_append, List.nodup_append] at hdistinct
      obtain ⟨hparams, -, hnew⟩ := hdistinct
      rw [List.map_append, List.foldl_append, ih hparams]
      exact add_nested rfl fun hmem => hnew _ hmem _ (by simp) rfl

theorem trim_name {snapshot : Snapshot} {searchParam : String}
    (h : p.IsOrdinary snapshot searchParam) : Text.trim p.name = p.name := by
  have hstrip : Text.strip p.field.toList = p.field.toList := by
    simpa [Text.trim] using congrArg String.toList h.field.trim_eq
  have hname : p.name.toList = p.field.toList ++ '[' :: (p.key.toList ++ [']']) := by
    simp [OperatorParam.name]
  have hfield : p.field.toList ≠ [] := String.toList_eq_nil_iff.not.mpr h.field.ne_empty
  have htidy : Text.strip p.name.toList = p.name.toList := by
    refine Text.dropEnds_eq_self_iff.mpr ⟨?_, ?_⟩
    · rw [hname, List.head?_append_of_ne_nil _ hfield]
      exact (Text.dropEnds_eq_self_iff.mp hstrip).1
    · have hlast : p.name.toList.getLast? = some ']' := by
        rw [hname, ← List.cons_append, ← List.append_assoc, List.getLast?_concat]
      rw [hlast]
      simp [show Text.isBlank ']' = false from rfl]
  rw [Text.trim, htidy, String.ofList_toList]

theorem isSpelled_name {snapshot : Snapshot} {searchParam : String}
    (h : p.IsOrdinary snapshot searchParam) : p.toFilterParam.IsSpelled p.name :=
  ⟨p.field, p.key, rfl, h.field.ne_empty, h.key.ne_empty, h.field.unbracketed, h.key.unbracketed,
    h.field.trim_eq, h.key.trim_eq⟩

theorem parse_of_isOrdinary {snapshot : Snapshot} {searchParam queryString : String}
    (hdecode : Text.Form.decode (dropQuestionMark queryString) =
      params.map fun p => (p.name, p.value))
    (hordinary : ∀ p ∈ params, p.IsOrdinary snapshot searchParam)
    (hdistinct : (params.map fun p => (p.field, p.key)).Nodup) :
    parse snapshot searchParam queryString =
      { empty with
        filters := nested (fun p => operandOf snapshot.operators p.key p.value) params } := by
  have hspelled : List.Forall₂ (fun p param => p.IsSpelled param.1 ∧ p.value = param.2)
      (params.map toFilterParam) (params.map fun p => (p.name, p.value)) := by
    rw [List.forall₂_map_left_iff, List.forall₂_map_right_iff, List.forall₂_same]
    exact fun p hp => ⟨isSpelled_name (hordinary p hp), rfl⟩
  have htrim : (params.map fun p => (p.name, p.value)).map (fun p => (Text.trim p.1, p.2)) =
      params.map fun p => (p.name, p.value) := by
    rw [List.map_map]
    exact List.map_congr_left fun p hp => by simp [trim_name (hordinary p hp)]
  rw [parse, ofParams, hdecode, foldl_addParam, htrim, FilterParam.foldl_addFilter hspelled,
    empty, foldl_add hdistinct]
  simp only [List.forall_mem_map]
  intro p hp
  rw [trim_name (hordinary p hp)]
  exact (hordinary p hp).name

end

end OperatorParam

namespace FilterSpec

theorem readOperators_append {c : Connective} {before entries : Entries} (rest : Entries)
    (h : ∀ e ∈ entries, e.1 ≠ connectiveKey) :
    readOperators c before (entries ++ rest) =
      readOperators c (entries.reverse ++ before) rest := by
  induction entries generalizing before with
  | nil => rfl
  | cons e entries ih =>
      rw [List.forall_mem_cons] at h
      rw [List.cons_append, readOperators, if_neg (by simpa using h.1), ih h.2]
      simp

theorem readOperators_eq {c : Connective} {before entries : Entries}
    (h : ∀ e ∈ entries, e.1 ≠ connectiveKey) :
    readOperators c before entries = .ok (.operators c (before.reverse ++ entries)) := by
  rw [← List.append_nil entries, readOperators_append [] h]
  simp [readOperators]

theorem readMap_map_object {fields : List String} {operators : String → Entries}
    (h : ∀ f ∈ fields, f ≠ groupKey ∧ Connective.parse? f = none ∧
      ∀ e ∈ operators f, e.1 ≠ connectiveKey) :
    readMap (fields.map fun f => (f, .object (operators f))) =
      .ok (fields.map fun f => .field ⟨f, .operators .and (operators f)⟩) := by
  induction fields with
  | nil => rfl
  | cons f rest ih =>
      rw [List.forall_mem_cons] at h
      obtain ⟨⟨hgroup, hparse, hkeys⟩, hrest⟩ := h
      have hgroup : (f == groupKey) = false := by simpa using hgroup
      simp only [List.map_cons, readMap, hgroup, hparse, readCondition, readOperators_eq hkeys,
        ih hrest]
      rfl

end FilterSpec

theorem Operand.ofValue_operandOf {operators : OperatorTable} {key value : String} {o : Operator}
    (h : operators.get? key = some o) :
    Operand.ofValue o.kind.shape (Request.operandOf operators key value) =
      Operand.ofValue o.kind.shape (.string value) := by
  cases hshape : o.kind.shape with
  | none | single | list => simp only [Request.operandOf, h, hshape] <;> rfl
  | pair =>
      simp only [Request.operandOf, h, hshape, Operand.ofValue, Operand.items?]
      generalize (Text.split ',' value).map (fun part => Value.string (Text.trim part)) = parts
      rcases parts with _ | ⟨low, _ | ⟨high, _ | ⟨other, rest⟩⟩⟩ <;> rfl

theorem OperatorParam.ofValue_nested {snapshot : Snapshot} {searchParam : String}
    {params : List OperatorParam} (hordinary : ∀ p ∈ params, p.IsOrdinary snapshot searchParam)
    (operand : OperatorParam → Value) :
    FilterSpec.ofValue (.object (nested operand params)) =
      .ok ((fields params).map fun f =>
        .field ⟨f, .operators .and (operatorsOn operand params f)⟩) := by
  refine FilterSpec.readMap_map_object fun f hf => ?_
  obtain ⟨p, hp, rfl⟩ := List.mem_map.mp (List.mem_eraseDups.mp hf)
  refine ⟨(hordinary p hp).field_ne, (hordinary p hp).field_parse, ?_⟩
  exact List.forall_mem_map.mpr fun p' hp' => (hordinary p' (List.mem_filter.mp hp').1).key_ne

namespace FilterContext

variable (ctx : FilterContext)

theorem applyOperator_operandOf (m : Model) (column key value path : String) :
    ctx.applyOperator m column key (Request.operandOf ctx.snapshot.operators key value) path =
      ctx.applyOperator m column key (.string value) path := by
  unfold applyOperator
  cases hget : ctx.snapshot.operators.get? key with
  | none => simp [Request.operandOf, hget]
  | some o => simp only [Operand.ofValue_operandOf hget]

theorem applyCondition_operatorsOn (params : List OperatorParam) (m : Model)
    (f column path : String) :
    ctx.applyCondition m column
        (.operators .and (OperatorParam.operatorsOn
          (fun p => Request.operandOf ctx.snapshot.operators p.key p.value) params f)) path =
      ctx.applyCondition m column
        (.operators .and (OperatorParam.operatorsOn (fun p => .string p.value) params f)) path := by
  simp only [applyCondition, applyOperators_eq_mapM, OperatorParam.operatorsOn, List.mapM_map,
    Function.comp_def, applyOperator_operandOf]

variable {ctx} in
theorem evaluate_map_field_congr {c c' : String → Condition}
    (h : ∀ f m column path,
      ctx.applyCondition m column (c f) path = ctx.applyCondition m column (c' f) path)
    (fields : List String) :
    ctx.evaluate (fields.map fun f => .field ⟨f, c f⟩) =
      ctx.evaluate (fields.map fun f => .field ⟨f, c' f⟩) := by
  have hnode (f : String) :
      ctx.evalNode 0 (.field ⟨f, c f⟩) = ctx.evalNode 0 (.field ⟨f, c' f⟩) := by
    simp only [evalNode, evalField, evalDotted, h]
  simp only [evaluate, List.length_map, evalNodes_eq_mapM, List.mapM_map, Function.comp_def, hnode]

end FilterContext

namespace Engine

open OperatorParam

variable {e : Engine} {params : List OperatorParam}

/-- It makes no difference to the condition whether the request cuts the lists. -/
theorem buildInput_nested {searchParam : String}
    (hordinary : ∀ p ∈ params, p.IsOrdinary e.snapshot searchParam) (source : Source) :
    e.buildInput source
        (.object (nested (fun p => Request.operandOf e.snapshot.operators p.key p.value) params)) =
      e.buildInput source (.object (nested (fun p => .string p.value) params)) := by
  simp only [buildInput, ofValue_nested hordinary, buildFilter]
  exact FilterContext.evaluate_map_field_congr
    (fun f m column path =>
      (e.filterContext source).applyCondition_operatorsOn params m f column path) (fields params)

theorem applyRequest_of_filters {q : Query} {queryString : String} {filters : Entries}
    (hparse : e.parseRequest q.source queryString = { Request.empty with filters := filters })
    (allowed : Option AllowedSorts) :
    (e.applyRequest q queryString allowed).map Prod.fst =
      (e.filter q (.object filters)).mapError .filter := by
  have hcalls : e.requestCalls { Request.empty with filters := filters } allowed =
      [.filter (.object filters), .sort (.sequence []) allowed] :=
    rfl
  rw [applyRequest_eq_map_foldlM, hparse, hcalls, List.foldlM_cons, perform_filter]
  cases e.filter q (.object filters) <;> rfl

/-- A request made of operators does what the filter does that gives them their values as they are
written: it succeeds with the same query, or fails with the same error and changes nothing. -/
theorem applyRequest_eq_filter (e : Engine) (q : Query) (allowed : Option AllowedSorts)
    {queryString : String}
    (hdecode : Text.Form.decode (Request.dropQuestionMark queryString) =
      params.map fun p => (p.name, p.value))
    (hordinary : ∀ p ∈ params, p.IsOrdinary e.snapshot q.source.model.searchParamName)
    (hdistinct : (params.map fun p => (p.field, p.key)).Nodup) :
    let input := Value.object (nested (fun p => .string p.value) params)
    (e.applyRequest q queryString allowed).map Prod.fst =
        (e.filter q input).mapError QueryError.filter ∧
      e.step q (.request queryString allowed) = e.step q (.filter input) := by
  intro input
  have hrequest : (e.applyRequest q queryString allowed).map Prod.fst =
      (e.filter q input).mapError QueryError.filter := by
    rw [applyRequest_of_filters (parse_of_isOrdinary hdecode hordinary hdistinct), filter_eq_map,
      filter_eq_map,
      buildInput_nested hordinary]
  refine ⟨hrequest, ?_⟩
  rw [step_eq_match, step_eq_match, perform_request, perform_filter, hrequest]

theorem applyRequest_eq_filter_posts :
    let e : Engine := ⟨FilterContext.posts.snapshot, [], 0⟩
    let q := Query.ofSource .posts
    let queryString := "?status[ne]=old&day%5Bbetween%5D=2024-05,+2024-06&status[in]=new,,draft"
    let params : List OperatorParam :=
      [⟨"status", "ne", "old"⟩, ⟨"day", "between", "2024-05, 2024-06"⟩,
        ⟨"status", "in", "new,,draft"⟩]
    Text.Form.decode (Request.dropQuestionMark queryString) =
        params.map (fun p => (p.name, p.value)) ∧
      (∀ p ∈ params, p.IsOrdinary e.snapshot q.source.model.searchParamName) ∧
      (params.map fun p => (p.field, p.key)).Nodup ∧
      ((e.applyRequest q queryString none).map Prod.fst).map Query.conditions =
        .ok [(.and, .group .and
          [.group .and
              [.compare "status" .ne (.string "old"),
                .member "status" [.string "new", .string "draft"] false],
            .between "day" (.string "2024-05") (.string "2024-06") false])] := by
  intro e q queryString params
  have hdecode : Text.Form.decode (Request.dropQuestionMark queryString) =
      params.map fun p => (p.name, p.value) := by
    decide +kernel
  have hordinary : ∀ p ∈ params, p.IsOrdinary e.snapshot q.source.model.searchParamName := by
    decide +kernel
  have hdistinct : (params.map fun p => (p.field, p.key)).Nodup := by decide
  refine ⟨hdecode, hordinary, hdistinct, ?_⟩
  rw [(applyRequest_eq_filter e q none hdecode hordinary hdistinct).1]
  rfl

end Engine

end RequestQuery
