import RequestQuery.Proofs.FilterTree
import RequestQuery.Proofs.OperatorParameters

namespace RequestQuery

open Json (Value Entries)

/-- Operators stand before their connective. -/
def Condition.toValue : Condition → Value
  | .literal v => v
  | .operators c entries =>
    .object (Entries.ofList (entries ++ [(FilterSpec.connectiveKey, .string c.name)]))

mutual

/-- The key of a node in a map of filters, and what stands under it. -/
def FilterNode.toEntry : FilterNode → String × Value
  | .field f => (f.path, f.condition.toValue)
  | .group g => (FilterSpec.groupKey, g.toValue)

def FilterGroup.toValue : FilterGroup → Value
  | .mk c filters nested =>
    .object [("boolean", .string c.name),
      ("filters", .object (Entries.ofList (FilterSpec.toEntries filters))),
      ("nested", .array (FilterGroup.toValues nested))]

def FilterSpec.toEntries : List FilterNode → List (String × Value)
  | [] => []
  | n :: rest => n.toEntry :: FilterSpec.toEntries rest

def FilterGroup.toValues : List FilterGroup → List Value
  | [] => []
  | g :: rest => g.toValue :: FilterGroup.toValues rest

end

/-- A filter as a map, into which its nodes are put one after the other. -/
def FilterSpec.toValue (spec : FilterSpec) : Value :=
  .object (Entries.ofList (FilterSpec.toEntries spec))

def FilterNode.path? : FilterNode → Option String
  | .field f => some f.path
  | .group _ => none

mutual

/-- The lists of nodes that groups are made of, at any depth. -/
def FilterNode.lists : FilterNode → List (List FilterNode)
  | .field _ => []
  | .group g => g.lists

def FilterGroup.lists : FilterGroup → List (List FilterNode)
  | .mk _ filters nested =>
    filters :: (FilterSpec.innerLists filters ++ FilterGroup.listsOf nested)

def FilterSpec.innerLists : List FilterNode → List (List FilterNode)
  | [] => []
  | n :: rest => n.lists ++ FilterSpec.innerLists rest

def FilterGroup.listsOf : List FilterGroup → List (List FilterNode)
  | [] => []
  | g :: rest => g.lists ++ FilterGroup.listsOf rest

end

/-- A literal that is an object would be read as operators, and a map has one value for every
key. -/
def Condition.IsWritable : Condition → Prop
  | .literal v => v.isObject = false
  | .operators _ entries =>
    (entries.map Prod.fst).Nodup ∧ FilterSpec.connectiveKey ∉ entries.map Prod.fst

instance : DecidablePred Condition.IsWritable
  | .literal v => inferInstanceAs (Decidable (v.isObject = false))
  | .operators _ entries => inferInstanceAs (Decidable ((entries.map Prod.fst).Nodup ∧
      FilterSpec.connectiveKey ∉ entries.map Prod.fst))

/-- The path introduces no group. -/
@[mk_iff]
structure FieldFilter.IsWritable (f : FieldFilter) : Prop where
  path_ne : f.path ≠ FilterSpec.groupKey
  parse_path : Connective.parse? f.path = none
  condition : f.condition.IsWritable

instance (f : FieldFilter) : Decidable f.IsWritable :=
  decidable_of_iff' _ (FieldFilter.isWritable_iff f)

/-- All nodes of a list find a key of their own in one map. -/
@[mk_iff]
structure FilterSpec.HasDistinctKeys (nodes : List FilterNode) : Prop where
  nodup_paths : (nodes.filterMap FilterNode.path?).Nodup
  groups_le_one : nodes.countP (·.path?.isNone) ≤ 1

instance (nodes : List FilterNode) : Decidable (FilterSpec.HasDistinctKeys nodes) :=
  decidable_of_iff' _ (FilterSpec.hasDistinctKeys_iff nodes)

@[mk_iff]
structure FilterSpec.IsWritable (spec : FilterSpec) : Prop where
  keys : ∀ nodes ∈ spec :: FilterSpec.innerLists spec, FilterSpec.HasDistinctKeys nodes
  field : ∀ f ∈ FilterSpec.fields spec, f.IsWritable

instance (spec : FilterSpec) : Decidable spec.IsWritable :=
  decidable_of_iff' _ (FilterSpec.isWritable_iff spec)

theorem FilterSpec.toEntries_eq_map (nodes : List FilterNode) :
    FilterSpec.toEntries nodes = nodes.map FilterNode.toEntry := by
  induction nodes with
  | nil => rfl
  | cons n rest ih => rw [FilterSpec.toEntries, ih, List.map_cons]

theorem FilterSpec.innerLists_eq_flatMap (nodes : List FilterNode) :
    FilterSpec.innerLists nodes = nodes.flatMap FilterNode.lists := by
  induction nodes with
  | nil => rfl
  | cons n rest ih => rw [FilterSpec.innerLists, ih, List.flatMap_cons]

theorem FilterGroup.listsOf_eq_flatMap (groups : List FilterGroup) :
    FilterGroup.listsOf groups = groups.flatMap FilterGroup.lists := by
  induction groups with
  | nil => rfl
  | cons g rest ih => rw [FilterGroup.listsOf, ih, List.flatMap_cons]

theorem Connective.parse?_name (c : Connective) : Connective.parse? c.name = some c := by
  cases c <;> decide +kernel

namespace FilterSpec

theorem nodup_keys_toEntries {nodes : List FilterNode} (hkeys : HasDistinctKeys nodes)
    (hpaths : ∀ path ∈ nodes.filterMap FilterNode.path?, path ≠ groupKey) :
    ((toEntries nodes).map Prod.fst).Nodup := by
  rw [toEntries_eq_map, List.map_map]
  obtain ⟨hnodup, hgroups⟩ := hkeys
  induction nodes with
  | nil => exact List.nodup_nil
  | cons n rest ih =>
      cases n with
      | field f =>
          rw [List.filterMap_cons_some (b := f.path) (f := FilterNode.path?) rfl] at hnodup hpaths
          rw [List.forall_mem_cons] at hpaths
          obtain ⟨hnew, hnodup⟩ := List.nodup_cons.mp hnodup
          refine List.nodup_cons.mpr ⟨?_, ih hpaths.2 hnodup hgroups⟩
          intro hmem
          obtain ⟨n, hn, hkey⟩ := List.mem_map.mp hmem
          cases n with
          | field f' => exact hnew (List.mem_filterMap.mpr ⟨.field f', hn, congrArg some hkey⟩)
          | group g => exact hpaths.1 hkey.symm
      | group g =>
          rw [List.filterMap_cons_none (f := FilterNode.path?) rfl] at hnodup hpaths
          have hnone : rest.countP (·.path?.isNone) = 0 := by
            rw [List.countP_cons_of_pos rfl] at hgroups
            omega
          refine List.nodup_cons.mpr ⟨?_, ih hpaths hnodup (by omega)⟩
          intro hmem
          obtain ⟨n, hn, hkey⟩ := List.mem_map.mp hmem
          cases n with
          | field f => exact hpaths _ (List.mem_filterMap.mpr ⟨.field f, hn, rfl⟩) hkey
          | group g' => exact List.countP_eq_zero.mp hnone _ hn rfl

theorem readCondition_toValue {condition : Condition} (h : condition.IsWritable) :
    readCondition condition.toValue = .ok condition := by
  cases condition with
  | literal v =>
      cases v with
      | object entries => cases h
      | _ => rfl
  | operators c entries =>
      obtain ⟨hnodup, hkey⟩ := h
      have hdistinct :
          ((entries ++ [(connectiveKey, Value.string c.name)]).map Prod.fst).Nodup := by
        rw [List.map_append]
        exact List.nodup_append_comm.mp (List.nodup_cons.mpr ⟨hkey, hnodup⟩)
      have hkeys : ∀ e ∈ entries, e.1 ≠ connectiveKey := fun e he heq =>
        hkey (heq ▸ List.mem_map_of_mem he)
      rw [Condition.toValue, Entries.ofList_of_nodup hdistinct, readCondition,
        readOperators_append _ hkeys]
      simp [readOperators, readConnective, Value.toString?, Connective.parse?_name]

theorem readMap_cons_field {f : FieldFilter} (hf : f.IsWritable) {rest : Entries}
    {more : List FilterNode} (hrest : readMap rest = .ok more) :
    readMap ((FilterNode.field f).toEntry :: rest) = .ok (.field f :: more) := by
  have hpath : (f.path == groupKey) = false := beq_false_of_ne hf.path_ne
  rw [FilterNode.toEntry, readMap]
  simp only [hpath, hf.parse_path, readCondition_toValue hf.condition, hrest]
  rfl

theorem readMap_cons_group {g : FilterGroup} (hg : readGroup g.toValue = .ok g) {rest : Entries}
    {more : List FilterNode} (hrest : readMap rest = .ok more) :
    readMap ((FilterNode.group g).toEntry :: rest) = .ok (.group g :: more) := by
  have hobject : g.toValue.isArray = false := by
    cases g
    rfl
  rw [FilterNode.toEntry, readMap]
  simp only [hobject, hg, hrest]
  rfl

theorem readMap_toEntries {nodes : List FilterNode}
    (h : ∀ n ∈ nodes, ∀ rest more, readMap rest = .ok more →
      readMap (n.toEntry :: rest) = .ok (n :: more)) :
    readMap (toEntries nodes) = .ok nodes := by
  induction nodes with
  | nil => rfl
  | cons n rest ih =>
      rw [List.forall_mem_cons] at h
      exact h.1 _ _ (ih h.2)

theorem readGroups_toValues {groups : List FilterGroup}
    (h : ∀ g ∈ groups, readGroup g.toValue = .ok g) :
    readGroups (FilterGroup.toValues groups) = .ok groups := by
  induction groups with
  | nil => rfl
  | cons g rest ih =>
      rw [List.forall_mem_cons] at h
      rw [FilterGroup.toValues, readGroups, h.1, ih h.2]
      rfl

theorem readGroup_toValue_mk {c : Connective} {filters : List FilterNode}
    {nested : List FilterGroup} (hdistinct : ((toEntries filters).map Prod.fst).Nodup)
    (hfilters : readMap (toEntries filters) = .ok filters)
    (hnested : readGroups (FilterGroup.toValues nested) = .ok nested) :
    readGroup (FilterGroup.mk c filters nested).toValue = .ok (.mk c filters nested) := by
  have hconnective : readConnective (.string c.name) = .ok c := by
    simp [readConnective, Value.toString?, Connective.parse?_name]
  have hparts : readParts [("boolean", .string c.name), ("filters", .object (toEntries filters)),
      ("nested", .array (FilterGroup.toValues nested))] = (.ok filters, .ok nested) := by
    simp [readParts, readEntries, readItems, Value.isNull, Value.isObject, hfilters, hnested]
  rw [FilterGroup.toValue, Entries.ofList_of_nodup hdistinct, readGroup, hparts]
  simp [isDefinition, definitionKeys, definitionConnective, hconnective]

theorem path_ne_of_mem {nodes : List FilterNode} (hfields : ∀ f ∈ fields nodes, f.IsWritable) :
    ∀ path ∈ nodes.filterMap FilterNode.path?, path ≠ groupKey := by
  intro path hpath
  obtain ⟨n, hn, hsome⟩ := List.mem_filterMap.mp hpath
  cases n with
  | field f =>
      cases hsome
      refine (hfields f ?_).path_ne
      rw [fields_eq_flatMap]
      exact List.mem_flatMap_of_mem hn (List.mem_singleton_self f)
  | group g => cases hsome

/-- A node is read back in front of whatever follows it in its map. -/
theorem readMap_cons_toEntry (n : FilterNode) : (∀ nodes ∈ n.lists, HasDistinctKeys nodes) →
    (∀ f ∈ n.fields, f.IsWritable) → ∀ rest more, readMap rest = .ok more →
      readMap (n.toEntry :: rest) = .ok (n :: more) := by
  induction n using FilterNode.treeInduction
    (G := fun g => (∀ nodes ∈ g.lists, HasDistinctKeys nodes) →
      (∀ f ∈ g.fields, f.IsWritable) → readGroup g.toValue = .ok g) with
  | field f =>
      intro _ hfields rest more hrest
      exact readMap_cons_field (hfields f (List.mem_singleton_self f)) hrest
  | group g ih =>
      intro hlists hfields rest more hrest
      exact readMap_cons_group (ih hlists hfields) hrest
  | mk c filters nested ihf ihg =>
      rename_i hlists hfields
      simp only [FilterGroup.lists, innerLists_eq_flatMap, FilterGroup.listsOf_eq_flatMap,
        List.forall_mem_cons, List.forall_mem_append] at hlists
      simp only [FilterGroup.fields, FilterGroup.fieldsOf_eq_flatMap,
        List.forall_mem_append] at hfields
      obtain ⟨hkeys, hinner, hnested⟩ := hlists
      obtain ⟨hfilters, hgroups⟩ := hfields
      refine readGroup_toValue_mk (nodup_keys_toEntries hkeys (path_ne_of_mem hfilters)) ?_ ?_
      · rw [fields_eq_flatMap] at hfilters
        refine readMap_toEntries fun n hn => ihf n hn ?_ ?_
        · exact fun nodes h => hinner nodes (List.mem_flatMap_of_mem hn h)
        · exact fun f h => hfilters f (List.mem_flatMap_of_mem hn h)
      · refine readGroups_toValues fun g hg => ihg g hg ?_ ?_
        · exact fun nodes h => hnested nodes (List.mem_flatMap_of_mem hg h)
        · exact fun f h => hgroups f (List.mem_flatMap_of_mem hg h)

/-- A filter whose nodes do not compete for keys is read back as it was written, node by node and
group by group. -/
theorem ofValue_toValue {spec : FilterSpec} (h : spec.IsWritable) :
    ofValue spec.toValue = .ok spec := by
  obtain ⟨hlists, hfields⟩ := h
  rw [List.forall_mem_cons, innerLists_eq_flatMap] at hlists
  obtain ⟨hkeys, hinner⟩ := hlists
  have hdistinct := nodup_keys_toEntries hkeys (path_ne_of_mem hfields)
  rw [fields_eq_flatMap] at hfields
  rw [toValue, Entries.ofList_of_nodup hdistinct]
  refine readMap_toEntries fun n hn => readMap_cons_toEntry n ?_ ?_
  · exact fun nodes h => hinner nodes (List.mem_flatMap_of_mem hn h)
  · exact fun f h => hfields f (List.mem_flatMap_of_mem hn h)

theorem ofValue_toValue_nested :
    let spec : FilterSpec := [
      .field ⟨"boolean", .literal (.string "or")⟩,
      .group (.mk .or
        [.field ⟨"filters", .operators .or
            [("eq", .object [("_group", .null)]), ("nested", .array [])]⟩,
          .group (.mk .and [] []),
          .field ⟨"author.name", .operators .and []⟩]
        [.mk .or [.field ⟨"filters", .literal .null⟩] [.mk .and [] []],
          .mk .and [.group (.mk .or [] [.mk .or [] []])] []]),
      .field ⟨"nested", .literal (.array [.object [("or", .null)]])⟩]
    spec.IsWritable ∧ FilterSpec.ofValue spec.toValue = .ok spec := by
  intro spec
  have h : spec.IsWritable := by decide +kernel
  exact ⟨h, ofValue_toValue h⟩

end FilterSpec

end RequestQuery
