import Mathlib.Data.List.Induction
import Mathlib.Data.List.Nodup
import RequestQuery.Proofs.Traversal
import RequestQuery.Settings.Json

namespace RequestQuery

open Json (Value Entries)

section

variable {α β : Type} {key : String} {a : α} {entries others : List (String × α)}

theorem mem_of_lookup (h : entries.lookup key = some a) : (key, a) ∈ entries := by
  obtain ⟨before, after, rfl, -⟩ := List.lookup_eq_some_iff.mp h
  simp

theorem lookup_eq_none_iff_notMem : entries.lookup key = none ↔ key ∉ entries.map Prod.fst := by
  rw [List.lookup_eq_none_iff, List.mem_map, not_exists]
  refine forall_congr' fun e => ?_
  rw [not_and, bne_iff_ne]
  exact imp_congr_right fun _ => ⟨fun hne heq => hne heq.symm, fun hne heq => hne heq.symm⟩

theorem lookup_eq_some_iff_mem (h : (entries.map Prod.fst).Nodup) :
    entries.lookup key = some a ↔ (key, a) ∈ entries := by
  refine ⟨mem_of_lookup, fun hmem => ?_⟩
  obtain ⟨before, after, rfl⟩ := List.append_of_mem hmem
  refine List.lookup_eq_some_iff.mpr ⟨before, after, rfl, fun e he => bne_iff_ne.mpr ?_⟩
  rintro rfl
  rw [List.map_append, List.nodup_append] at h
  exact h.2.2 e.1 (List.mem_map_of_mem he) e.1 (by simp) rfl

theorem lookup_eq_of_perm (hnodup : (entries.map Prod.fst).Nodup) (h : entries.Perm others) :
    entries.lookup key = others.lookup key := by
  have hnodup' : (others.map Prod.fst).Nodup := (h.map Prod.fst).nodup_iff.mp hnodup
  ext a
  rw [lookup_eq_some_iff_mem hnodup, lookup_eq_some_iff_mem hnodup', h.mem_iff]

theorem lookup_map_snd (f : α → β) (key : String) (entries : List (String × α)) :
    (entries.map fun e => (e.1, f e.2)).lookup key = (entries.lookup key).map f := by
  induction entries with
  | nil => rfl
  | cons e rest ih =>
      rw [List.map_cons, List.lookup_cons, List.lookup_cons, ih]
      cases key == e.1 <;> rfl

end

namespace Json.Entries

variable {entries : Entries} {key : String} {value : Value}

theorem put_of_notMem (h : key ∉ entries.map Prod.fst) (value : Value) :
    entries.put key value = entries ++ [(key, value)] := by
  induction entries with
  | nil => rfl
  | cons e rest ih =>
      rw [List.map_cons, List.mem_cons, not_or] at h
      have hne : (e.1 == key) = false := beq_false_of_ne fun heq => h.1 heq.symm
      simp [put, hne, ih h.2]

theorem put_of_lookup (h : entries.lookup key = some value) : entries.put key value = entries := by
  induction entries with
  | nil => cases h
  | cons e rest ih =>
      rw [List.lookup_cons] at h
      by_cases hkey : e.1 = key
      · subst hkey
        simp only [beq_self_eq_true, Option.some.injEq] at h
        simp [put, ← h]
      · rw [beq_false_of_ne (Ne.symm hkey)] at h
        simp [put, hkey, ih h]

theorem keys_put (entries : Entries) (key : String) (value : Value) :
    (entries.put key value).map Prod.fst =
      if key ∈ entries.map Prod.fst then entries.map Prod.fst
      else entries.map Prod.fst ++ [key] := by
  induction entries with
  | nil => rfl
  | cons e rest ih =>
      rw [put]
      by_cases hkey : e.1 = key
      · simp [hkey]
      · rw [if_neg (by simpa using hkey), List.map_cons, ih]
        by_cases hrest : key ∈ rest.map Prod.fst <;> simp [hrest, Ne.symm hkey]

theorem nodup_keys_put (h : (entries.map Prod.fst).Nodup) (key : String) (value : Value) :
    ((entries.put key value).map Prod.fst).Nodup := by
  rw [keys_put]
  split
  · exact h
  · rename_i hkey
    exact List.nodup_append_comm.mp (List.nodup_cons.mpr ⟨hkey, h⟩)

theorem ofList_append_singleton (es : Entries) (key : String) (value : Value) :
    ofList (es ++ [(key, value)]) = (ofList es).put key value := by
  rw [ofList, List.foldl_append]
  rfl

theorem nodup_keys_ofList (es : Entries) : ((ofList es).map Prod.fst).Nodup := by
  induction es using List.reverseRecOn with
  | nil => simp [ofList]
  | append_singleton es e ih =>
      rw [ofList_append_singleton]
      exact nodup_keys_put ih e.1 e.2

theorem ofList_of_nodup {es : Entries} (h : (es.map Prod.fst).Nodup) : ofList es = es := by
  induction es using List.reverseRecOn with
  | nil => rfl
  | append_singleton es e ih =>
      rw [List.map_append, List.map_singleton] at h
      obtain ⟨hkey, hnodup⟩ := List.nodup_cons.mp (List.nodup_append_comm.mp h)
      rw [ofList_append_singleton, ih hnodup, put_of_notMem hkey]

theorem mem_of_mem_put {e : String × Value} (h : e ∈ entries.put key value) :
    e = (key, value) ∨ e ∈ entries := by
  induction entries with
  | nil => exact .inl (List.mem_singleton.mp h)
  | cons f rest ih =>
      rw [put] at h
      split at h
      · rename_i hkey
        rcases List.mem_cons.mp h with rfl | h
        · exact .inl (by rw [beq_iff_eq.mp hkey])
        · exact .inr (List.mem_cons_of_mem _ h)
      · rcases List.mem_cons.mp h with rfl | h
        · exact .inr List.mem_cons_self
        · exact (ih h).imp_right (List.mem_cons_of_mem _)

theorem mem_of_mem_ofList {es : Entries} {e : String × Value} (h : e ∈ ofList es) : e ∈ es := by
  induction es using List.reverseRecOn with
  | nil => exact h
  | append_singleton es f ih =>
      rw [ofList_append_singleton] at h
      rw [List.mem_append, List.mem_singleton]
      exact (mem_of_mem_put h).symm.imp_left ih

end Json.Entries

namespace Json.Value

theorem mergedEntries_eq_map (es : Entries) :
    mergedEntries es = es.map fun e => (e.1, e.2.merged) := by
  induction es with
  | nil => rfl
  | cons e rest ih => rw [mergedEntries, ih, List.map_cons]

theorem mergedItems_eq_map (items : List Value) : mergedItems items = items.map merged := by
  induction items with
  | nil => rfl
  | cons v rest ih => rw [mergedItems, ih, List.map_cons]

theorem merged_object_of_nodup {es : Entries} (h : (es.map Prod.fst).Nodup) :
    (object es).merged = object (es.map fun e => (e.1, e.2.merged)) := by
  rw [merged, mergedEntries_eq_map, Entries.ofList_of_nodup]
  rwa [List.map_map]

theorem merged_object_iff {es : Entries} :
    (object es).merged = object es ↔
      (es.map Prod.fst).Nodup ∧ ∀ e ∈ es, e.2.merged = e.2 := by
  constructor
  · intro h
    have hnodup : (es.map Prod.fst).Nodup := by
      rw [merged, object.injEq] at h
      rw [← h]
      exact Entries.nodup_keys_ofList _
    refine ⟨hnodup, fun e he => ?_⟩
    rw [merged_object_of_nodup hnodup, object.injEq] at h
    exact congrArg Prod.snd (List.map_inj_left.mp (h.trans (List.map_id es).symm) e he)
  · rintro ⟨hnodup, hmerged⟩
    rw [merged_object_of_nodup hnodup, object.injEq]
    refine (List.map_congr_left fun e he => ?_).trans (List.map_id es)
    rw [hmerged e he]
    rfl

mutual

theorem merged_merged : ∀ v : Value, v.merged.merged = v.merged
  | null | bool _ | number _ | string _ => rfl
  | array items => by
      rw [merged, merged, mergedItems_mergedItems items]
  | object es => by
      rw [merged, merged_object_iff]
      exact ⟨Entries.nodup_keys_ofList _, fun e he =>
        merged_of_mem_mergedEntries es e (Entries.mem_of_mem_ofList he)⟩

theorem mergedItems_mergedItems : ∀ items : List Value,
    mergedItems (mergedItems items) = mergedItems items
  | [] => rfl
  | v :: rest => by
      rw [mergedItems, mergedItems, merged_merged v, mergedItems_mergedItems rest]

theorem merged_of_mem_mergedEntries : ∀ es : Entries, ∀ e ∈ mergedEntries es, e.2.merged = e.2
  | [] => by simp [mergedEntries]
  | (key, v) :: rest => by
      rw [mergedEntries, List.forall_mem_cons]
      exact ⟨merged_merged v, merged_of_mem_mergedEntries rest⟩

end

end Json.Value

namespace Settings

open Json.Decode

variable {α β : Type} {read : Value → Option α} {entries : List (String × α)}

theorem byKey_perm (entries : List (String × α)) : (byKey entries).Perm entries :=
  List.mergeSort_perm _ _

theorem byKey_of_pairwise (h : (entries.map Prod.fst).Pairwise (· < ·)) :
    byKey entries = entries := by
  refine List.mergeSort_of_pairwise (List.Pairwise.imp ?_ (List.pairwise_map.mp h))
  intro e f hlt
  exact decide_eq_true (Std.le_of_lt hlt)

theorem pairwise_byKey (h : (entries.map Prod.fst).Nodup) :
    ((byKey entries).map Prod.fst).Pairwise (· < ·) := by
  have hnodup : ((byKey entries).map Prod.fst).Nodup :=
    ((byKey_perm entries).map Prod.fst).nodup_iff.mpr h
  have hle : ((byKey entries).map Prod.fst).Pairwise (· ≤ ·) := by
    rw [List.pairwise_map]
    refine (List.pairwise_mergeSort ?_ ?_ entries).imp fun h => of_decide_eq_true h
    · intro e f g hef hfg
      exact decide_eq_true (Std.le_trans (of_decide_eq_true hef) (of_decide_eq_true hfg))
    · intro e f
      simpa using Std.le_total
  exact (hle.and hnodup).imp fun ⟨hle, hne⟩ => Std.lt_of_le_of_ne hle hne

theorem byKey_map (f : α → β) (entries : List (String × α)) :
    byKey (entries.map fun e => (e.1, f e.2)) = (byKey entries).map fun e => (e.1, f e.2) := by
  unfold byKey
  rw [List.map_mergeSort]
  exact fun _ _ _ _ => rfl

theorem lastOfEach_of_nodup (h : (entries.map Prod.fst).Nodup) : lastOfEach entries = entries := by
  induction entries with
  | nil => rfl
  | cons e rest ih =>
      obtain ⟨hkey, hrest⟩ := List.nodup_cons.mp h
      rw [lastOfEach, ih hrest, if_neg]
      simpa using hkey

theorem lastOfEach_sublist (entries : List (String × α)) :
    (lastOfEach entries).Sublist entries := by
  induction entries with
  | nil => exact List.Sublist.slnil
  | cons e rest ih =>
      rw [lastOfEach]
      split
      · exact ih.cons e
      · exact ih.cons_cons e

theorem nodup_keys_lastOfEach (entries : List (String × α)) :
    ((lastOfEach entries).map Prod.fst).Nodup := by
  induction entries with
  | nil => simp [lastOfEach]
  | cons e rest ih =>
      rw [lastOfEach]
      split
      · exact ih
      · rename_i hkey
        refine List.nodup_cons.mpr ⟨fun hmem => hkey ?_, ih⟩
        obtain ⟨f, hf, heq⟩ := List.mem_map.mp hmem
        exact List.any_eq_true.mpr ⟨f, (lastOfEach_sublist rest).subset hf, beq_iff_eq.mpr heq⟩

theorem lastOfEach_map (f : α → β) (entries : List (String × α)) :
    lastOfEach (entries.map fun e => (e.1, f e.2)) =
      (lastOfEach entries).map fun e => (e.1, f e.2) := by
  induction entries with
  | nil => rfl
  | cons e rest ih =>
      rw [List.map_cons, lastOfEach, lastOfEach, ih, List.any_map]
      split <;> rename_i hkey
      · rw [if_pos (by simpa using hkey)]
      · rw [if_neg (by simpa using hkey), List.map_cons]

theorem mapM_eq_some_iff {f : β → Option α} {bs : List β} {as : List α} :
    bs.mapM f = some as ↔ List.Forall₂ (fun b a => f b = some a) bs as := by
  induction bs generalizing as with
  | nil => cases as <;> simp
  | cons b rest ih =>
      rw [List.mapM_cons, List.forall₂_cons_left_iff]
      simp only [Option.bind_eq_bind, Option.bind_eq_some_iff, Option.pure_def, Option.some.injEq,
        ih]
      constructor
      · rintro ⟨a, ha, others, hothers, rfl⟩
        exact ⟨a, others, ha, hothers, rfl⟩
      · rintro ⟨a, others, ha, hothers, rfl⟩
        exact ⟨a, ha, others, hothers, rfl⟩

theorem list?_eq_some_iff {v : Value} {as : List α} :
    list? read v = some as ↔
      ∃ items, v = .array items ∧ List.Forall₂ (fun item a => read item = some a) items as := by
  cases v with
  | array items => simp [list?, mapM_eq_some_iff]
  | null | bool | number | string | object => simp [list?]

theorem mapM_keyed?_eq_some_iff {es : Entries} :
    es.mapM (keyed? read) = some entries ↔
      List.Forall₂ (fun e f => e.1 = f.1 ∧ read e.2 = some f.2) es entries := by
  have hkeyed (e : String × Value) (f : String × α) :
      keyed? read e = some f ↔ e.1 = f.1 ∧ read e.2 = some f.2 := by
    rw [keyed?, Option.map_eq_some_iff]
    constructor
    · rintro ⟨a, ha, rfl⟩
      exact ⟨rfl, ha⟩
    · rintro ⟨hkey, hread⟩
      exact ⟨f.2, hread, Prod.ext hkey rfl⟩
  simp only [mapM_eq_some_iff, hkeyed]

theorem sortedMap?_eq_some_iff {v : Value} :
    sortedMap? read v = some entries ↔ ∃ es fs, v = .object es ∧
      List.Forall₂ (fun e f => e.1 = f.1 ∧ read e.2 = some f.2) es fs ∧
      byKey (lastOfEach fs) = entries := by
  cases v with
  | object es =>
      simp only [sortedMap?, map?, Option.map_map, Option.map_eq_some_iff,
        mapM_keyed?_eq_some_iff, Function.comp_apply, Value.object.injEq]
      constructor
      · rintro ⟨fs, hfs, rfl⟩
        exact ⟨es, fs, rfl, hfs, rfl⟩
      · rintro ⟨es, fs, rfl, hfs, rfl⟩
        exact ⟨fs, hfs, rfl⟩
  | null | bool | number | string | array => simp [sortedMap?, map?]

theorem lookup_of_sortedMap? {es : Entries} (hnodup : (es.map Prod.fst).Nodup)
    (h : sortedMap? read (.object es) = some entries) (key : String) :
    (es.lookup key = none → entries.lookup key = none) ∧
      ∀ v, es.lookup key = some v → ∃ a, read v = some a ∧ entries.lookup key = some a := by
  obtain ⟨_, fs, hobject, hfs, rfl⟩ := sortedMap?_eq_some_iff.mp h
  cases hobject
  have hkeys : es.map Prod.fst = fs.map Prod.fst := by
    rw [← List.forall₂_eq_eq_eq, List.forall₂_map_left_iff, List.forall₂_map_right_iff]
    exact hfs.imp fun _ _ h => h.1
  have hfs' : (fs.map Prod.fst).Nodup := hkeys ▸ hnodup
  rw [lastOfEach_of_nodup hfs', ← lookup_eq_of_perm hfs' (byKey_perm fs).symm]
  refine ⟨fun hnone => ?_, fun v hv => ?_⟩
  · rwa [lookup_eq_none_iff_notMem, ← hkeys, ← lookup_eq_none_iff_notMem]
  · obtain ⟨f, hf, rfl, ha⟩ := exists_of_mem_traversal hfs.flip (mem_of_lookup hv)
    exact ⟨f.2, ha, (lookup_eq_some_iff_mem hfs').mpr hf⟩

theorem pairwise_of_sortedMap? {v : Value} (h : sortedMap? read v = some entries) :
    (entries.map Prod.fst).Pairwise (· < ·) := by
  obtain ⟨es, fs, -, -, rfl⟩ := sortedMap?_eq_some_iff.mp h
  exact pairwise_byKey (nodup_keys_lastOfEach fs)

theorem exists_of_mem_sortedMap? {v : Value} (h : sortedMap? read v = some entries)
    {e : String × α} (he : e ∈ entries) : ∃ w, read w = some e.2 := by
  obtain ⟨es, fs, -, hfs, rfl⟩ := sortedMap?_eq_some_iff.mp h
  have hmem : e ∈ fs := (lastOfEach_sublist fs).subset ((byKey_perm _).mem_iff.mp he)
  obtain ⟨f, -, -, hread⟩ := exists_of_mem_traversal hfs hmem
  exact ⟨f.2, hread⟩

theorem sortedMap?_map (read : Value → Option α) (write : α → β) (v : Value) :
    sortedMap? (fun v => (read v).map write) v =
      (sortedMap? read v).map fun entries => entries.map fun e => (e.1, write e.2) := by
  have hmapM (es : Entries) : es.mapM (keyed? fun v => (read v).map write) =
      (es.mapM (keyed? read)).map fun entries => entries.map fun e => (e.1, write e.2) := by
    induction es with
    | nil => rfl
    | cons e rest ih =>
        rw [List.mapM_cons, List.mapM_cons, ih, keyed?, keyed?]
        cases read e.2 with
        | none => rfl
        | some a => cases rest.mapM (keyed? read) <;> rfl
  cases v with
  | object es =>
      simp only [sortedMap?, map?, hmapM, Option.map_map, Function.comp_def, lastOfEach_map,
        byKey_map]
  | null | bool | number | string | array => rfl

/-- A map in the order of its keys is read as it is written. -/
theorem sortedMap?_written (write : α → Value)
    (hread : ∀ e ∈ entries, read (write e.2) = some e.2)
    (hkeys : (entries.map Prod.fst).Pairwise (· < ·)) :
    sortedMap? read (.object (entries.map fun e => (e.1, write e.2))) = some entries := by
  refine sortedMap?_eq_some_iff.mpr ⟨_, entries, rfl, ?_, ?_⟩
  · rw [List.forall₂_map_left_iff, List.forall₂_same]
    exact fun e he => ⟨rfl, hread e he⟩
  · rw [lastOfEach_of_nodup (hkeys.imp fun h => Std.ne_of_lt h), byKey_of_pairwise hkeys]

end Settings

end RequestQuery
