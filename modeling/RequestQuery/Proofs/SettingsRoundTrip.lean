import RequestQuery.Proofs.KeyedEntries
import RequestQuery.Settings.Key

namespace RequestQuery.Settings

open Json (Value Entries)
open Json.Decode

def counts (s : Settings) : List Nat :=
  [s.maxFilters, s.maxNestingLevel, s.search.minTermLength, s.search.maxTerms,
    s.pagination.perPage, s.pagination.maxPerPage]

/-- The keys of each map. -/
def mapKeys (s : Settings) : List (List String) :=
  [s.operators.map Prod.fst, s.customFilters.map Prod.fst, s.presets.map Prod.fst,
    s.sort.indicators.map Prod.fst]

/-- The form in which settings are kept: numbers are unsigned 64-bit words, maps have their entries
in the order of their keys, and no key occurs twice. -/
structure IsStored (s : Settings) : Prop where
  counts : ∀ n ∈ s.counts, n < Nat.pow 2 64
  keys : ∀ keys ∈ s.mapKeys, keys.Pairwise (· < ·)
  presets : ∀ e ∈ s.presets, e.2.merged = e.2

theorem isStored_default : IsStored default where
  counts := by decide
  keys := by decide
  presets := by simp [default]

variable {s : Settings}

theorem count?_written {n : Nat} (h : n < Nat.pow 2 64) : count? (.number (.int n)) = some n := by
  have hpow : Int.pow 2 64 = (Nat.pow 2 64 : Nat) := rfl
  rw [count?, Value.toUnsigned64?, if_pos ⟨by omega, by omega⟩, Int.toNat_natCast]

theorem texts?_written (texts : List String) :
    list? string? (.array (texts.map .string)) = some texts := by
  refine list?_eq_some_iff.mpr ⟨_, rfl, ?_⟩
  rw [List.forall₂_map_left_iff, List.forall₂_same]
  exact fun _ _ => rfl

theorem connective?_written (c : Connective) : connective? (.string c.name) = some c := by
  cases c <;> rfl

theorem direction?_written (d : Direction) : direction? (.string d.name) = some d := by
  cases d <;> rfl

theorem withDefault_some {α : Type} (base : α) (read : Value → Option α) (v : Value) :
    withDefault base read (some v) = read v := by
  rw [withDefault]

theorem fields?_written {names : List String} {es : Entries} (hkeys : es.map Prod.fst = names)
    (hnodup : names.Nodup) : fields? names (.object es) = some (es.map fun e => some e.2) := by
  subst hkeys
  have honce : ∀ name, (es.filter (·.1 == name)).length ≤ 1 := by
    intro name
    have hcount := List.nodup_iff_count_le_one.mp hnodup name
    rwa [List.count, List.countP_map, List.countP_eq_length_filter] at hcount
  rw [fields?, if_neg, List.map_map, Option.some.injEq]
  · refine List.map_congr_left fun e he => ?_
    exact (lookup_eq_some_iff_mem hnodup).mpr he
  · rw [List.any_eq_true]
    rintro ⟨name, -, htwice⟩
    exact absurd (of_decide_eq_true htwice) (Nat.not_lt.mpr (honce name))

theorem ofValue?_toValue_search {o : SearchSettings} (hlength : o.minTermLength < Nat.pow 2 64)
    (hterms : o.maxTerms < Nat.pow 2 64) : SearchSettings.ofValue? o.toValue = some o := by
  rw [SearchSettings.ofValue?, SearchSettings.toValue, fields?_written]
  · simp only [List.map_cons, List.map_nil, withDefault_some, count?_written hlength,
      count?_written hterms, texts?_written, connective?_written]
    rfl
  · rfl
  · decide

theorem ofValue?_toValue_sort {o : SortSettings}
    (hkeys : (o.indicators.map Prod.fst).Pairwise (· < ·)) :
    SortSettings.ofValue? o.toValue = some o := by
  have hindicators := sortedMap?_written (fun d : Direction => .string d.name)
    (fun e _ => direction?_written e.2) hkeys
  rw [SortSettings.ofValue?, SortSettings.toValue, fields?_written]
  · simp only [List.map_cons, List.map_nil, withDefault_some, hindicators, direction?_written]
    rfl
  · rfl
  · decide

theorem ofValue?_toValue_page {o : PageSettings} (hpage : o.perPage < Nat.pow 2 64)
    (hmax : o.maxPerPage < Nat.pow 2 64) : PageSettings.ofValue? o.toValue = some o := by
  rw [PageSettings.ofValue?, PageSettings.toValue, fields?_written]
  · simp only [List.map_cons, List.map_nil, withDefault_some, count?_written hpage,
      count?_written hmax]
    rfl
  · rfl
  · decide

theorem ofValue?_toValue_dates (o : DateSettings) : DateSettings.ofValue? o.toValue = some o :=
  rfl

theorem ofValue?_toValue_operands (o : OperandSettings) :
    OperandSettings.ofValue? o.toValue = some o :=
  rfl

theorem sortedMap?_strings {entries : List (String × String)}
    (hkeys : (entries.map Prod.fst).Pairwise (· < ·)) :
    sortedMap? string? (.object (entries.map fun e => (e.1, .string e.2))) = some entries :=
  sortedMap?_written .string (fun _ _ => rfl) hkeys

theorem sortedMap?_values {es : Entries} (hkeys : (es.map Prod.fst).Pairwise (· < ·))
    (hmerged : ∀ e ∈ es, e.2.merged = e.2) :
    sortedMap? (fun v => some v.merged) (.object es) = some es := by
  refine sortedMap?_eq_some_iff.mpr ⟨es, es, rfl, ?_, ?_⟩
  · exact List.forall₂_same.mpr fun e he => ⟨rfl, congrArg some (hmerged e he)⟩
  · rw [lastOfEach_of_nodup (hkeys.imp fun h => Std.ne_of_lt h), byKey_of_pairwise hkeys]

/-- Settings that are written are read as they were. -/
theorem ofValue?_toValue (h : s.IsStored) : ofValue? s.toValue = some s := by
  obtain ⟨hcounts, hkeys, hpresets⟩ := h
  simp only [counts, List.forall_mem_cons] at hcounts
  simp only [mapKeys, List.forall_mem_cons] at hkeys
  obtain ⟨hfilters, hlevels, hlength, hterms, hpage, hmax, -⟩ := hcounts
  obtain ⟨hoperators, hcustom, hpresetKeys, hindicators, -⟩ := hkeys
  rw [ofValue?, toValue, optionNames, fields?_written]
  · simp only [List.map_cons, List.map_nil, withDefault_some, sortedMap?_strings hoperators,
      sortedMap?_strings hcustom, sortedMap?_values hpresetKeys hpresets, texts?_written,
      count?_written hfilters, count?_written hlevels, ofValue?_toValue_search hlength hterms,
      ofValue?_toValue_sort hindicators, ofValue?_toValue_page hpage hmax,
      ofValue?_toValue_dates, ofValue?_toValue_operands]
    rfl
  · rfl
  · decide

theorem lt_of_count? {v : Value} {n : Nat} (h : count? v = some n) : n < Nat.pow 2 64 := by
  have hpow : Int.pow 2 64 = (Nat.pow 2 64 : Nat) := rfl
  unfold count? Value.toUnsigned64? at h
  split at h
  · split at h
    · cases h
      omega
    · cases h
  · cases h

theorem of_withDefault {α : Type} {P : α → Prop} {base a : α} {read : Value → Option α}
    {v : Option Value} (h : withDefault base read v = some a) (hbase : P base)
    (hread : ∀ v a, read v = some a → P a) : P a := by
  cases v with
  | none =>
      cases h
      exact hbase
  | some v => exact hread v a h

theorem lt_of_withDefault_count? {base n : Nat} {v : Option Value}
    (h : withDefault base count? v = some n) (hbase : base < Nat.pow 2 64) : n < Nat.pow 2 64 :=
  of_withDefault (P := (· < Nat.pow 2 64)) h hbase fun _ _ => lt_of_count?

theorem pairwise_of_withDefault {α : Type} {base entries : List (String × α)}
    {read : Value → Option α} {v : Option Value}
    (h : withDefault base (sortedMap? read) v = some entries)
    (hbase : (base.map Prod.fst).Pairwise (· < ·)) : (entries.map Prod.fst).Pairwise (· < ·) :=
  of_withDefault (P := fun entries => (entries.map Prod.fst).Pairwise (· < ·)) h hbase
    fun _ _ => pairwise_of_sortedMap?

theorem lt_of_ofValue?_search {v : Value} {o : SearchSettings}
    (h : SearchSettings.ofValue? v = some o) :
    o.minTermLength < Nat.pow 2 64 ∧ o.maxTerms < Nat.pow 2 64 := by
  unfold SearchSettings.ofValue? at h
  split at h
  · simp only [Option.bind_eq_bind, Option.bind_eq_some_iff, Option.pure_def,
      Option.some.injEq] at h
    obtain ⟨length, hlength, terms, hterms, -, -, -, -, -, -, rfl⟩ := h
    exact ⟨lt_of_withDefault_count? hlength (by decide),
      lt_of_withDefault_count? hterms (by decide)⟩
  · cases h

theorem pairwise_of_ofValue?_sort {v : Value} {o : SortSettings}
    (h : SortSettings.ofValue? v = some o) : (o.indicators.map Prod.fst).Pairwise (· < ·) := by
  unfold SortSettings.ofValue? at h
  split at h
  · simp only [Option.bind_eq_bind, Option.bind_eq_some_iff, Option.pure_def,
      Option.some.injEq] at h
    obtain ⟨-, -, indicators, hindicators, -, -, rfl⟩ := h
    exact pairwise_of_withDefault hindicators (by decide)
  · cases h

theorem lt_of_ofValue?_page {v : Value} {o : PageSettings} (h : PageSettings.ofValue? v = some o) :
    o.perPage < Nat.pow 2 64 ∧ o.maxPerPage < Nat.pow 2 64 := by
  unfold PageSettings.ofValue? at h
  split at h
  · simp only [Option.bind_eq_bind, Option.bind_eq_some_iff, Option.pure_def,
      Option.some.injEq] at h
    obtain ⟨size, hsize, max, hmax, -, -, -, -, rfl⟩ := h
    exact ⟨lt_of_withDefault_count? hsize (by decide), lt_of_withDefault_count? hmax (by decide)⟩
  · cases h

theorem isStored_of_ofValue? {v : Value} (h : ofValue? v = some s) : s.IsStored := by
  unfold ofValue? at h
  split at h
  · simp only [Option.bind_eq_bind, Option.bind_eq_some_iff, Option.pure_def,
      Option.some.injEq] at h
    obtain ⟨operators, hoperators, -, -, filters, hfilters, levels, hlevels, search, hsearch, sort,
      hsort, page, hpage, custom, hcustom, presets, hpresets, -, -, -, -, rfl⟩ := h
    obtain ⟨hlength, hterms⟩ := of_withDefault hsearch (by decide) fun _ _ => lt_of_ofValue?_search
    obtain ⟨hsize, hmax⟩ := of_withDefault hpage (by decide) fun _ _ => lt_of_ofValue?_page
    have hindicators := of_withDefault hsort (by decide) fun _ _ => pairwise_of_ofValue?_sort
    constructor
    · simp only [counts, List.forall_mem_cons]
      exact ⟨lt_of_withDefault_count? hfilters (by decide),
        lt_of_withDefault_count? hlevels (by decide), hlength, hterms, hsize, hmax, by simp⟩
    · simp only [mapKeys, List.forall_mem_cons]
      exact ⟨pairwise_of_withDefault hoperators (by decide),
        pairwise_of_withDefault hcustom (by decide), pairwise_of_withDefault hpresets (by decide),
        hindicators, by simp⟩
    · refine of_withDefault (P := fun presets => ∀ e ∈ presets, e.2.merged = e.2) hpresets
        (by simp [default]) fun v entries hread e he => ?_
      obtain ⟨w, hw⟩ := exists_of_mem_sortedMap? hread he
      rw [← Option.some.inj hw, Value.merged_merged]
  · cases h

theorem merged_texts (texts : List String) :
    (Value.array (texts.map .string)).merged = .array (texts.map .string) := by
  rw [Value.merged, Value.mergedItems_eq_map, List.map_map]
  rfl

theorem merged_strings {α : Type} (write : α → String) {entries : List (String × α)}
    (hkeys : (entries.map Prod.fst).Pairwise (· < ·)) :
    (Value.object (entries.map fun e => (e.1, .string (write e.2)))).merged =
      .object (entries.map fun e => (e.1, .string (write e.2))) := by
  rw [Value.merged_object_iff, List.map_map, List.forall_mem_map]
  exact ⟨hkeys.imp fun h => Std.ne_of_lt h, fun _ _ => rfl⟩

theorem merged_search (o : SearchSettings) : o.toValue.merged = o.toValue := by
  rw [SearchSettings.toValue, Value.merged_object_iff]
  simp only [List.forall_mem_cons]
  exact ⟨by simp, rfl, rfl, merged_texts o.blacklist, rfl, rfl, by simp⟩

theorem merged_toValue (h : s.IsStored) : s.toValue.merged = s.toValue := by
  obtain ⟨-, hkeys, hpresets⟩ := h
  simp only [mapKeys, List.forall_mem_cons] at hkeys
  obtain ⟨hoperators, hcustom, hpresetKeys, hindicators, -⟩ := hkeys
  have hsort : s.sort.toValue.merged = s.sort.toValue := by
    rw [SortSettings.toValue, Value.merged_object_iff]
    simp only [List.forall_mem_cons]
    exact ⟨by simp, rfl, merged_strings Direction.name hindicators, rfl, by simp⟩
  rw [toValue, Value.merged_object_iff]
  simp only [List.forall_mem_cons]
  refine ⟨by simp, merged_strings id hoperators, merged_texts s.globalWhitelist, rfl, rfl,
    merged_search s.search, hsort, rfl, merged_strings id hcustom, ?_, rfl, rfl, by simp⟩
  exact Value.merged_object_iff.mpr ⟨hpresetKeys.imp fun h => Std.ne_of_lt h, hpresets⟩

end RequestQuery.Settings
