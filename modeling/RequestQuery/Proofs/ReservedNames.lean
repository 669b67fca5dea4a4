import RequestQuery.Proofs.FilterParameters
import RequestQuery.Proofs.KeyedEntries

namespace RequestQuery

namespace Request

/-- The field that a parameter with the name filters. -/
def fieldOf (name : String) : String :=
  match splitOperator? name with
  | none => name
  | some (field, _) => field

theorem isSpelled_of_splitOperator? {name field key : String}
    (h : splitOperator? name = some (field, key)) (value : String) :
    FilterParam.IsSpelled ⟨field, some key, value⟩ name := by
  have hbefore (s : List Char) : ∀ c ∈ s.takeWhile (!isBracket ·), isBracket c = false := by
    intro c hc
    simpa using List.mem_takeWhile_imp hc
  simp only [splitOperator?] at h
  split at h
  · rename_i c f rest hfield hopen
    split at h
    · rename_i d k hkey hclose
      obtain ⟨rfl, rfl⟩ : String.ofList (Text.strip (c :: f)) = field ∧
          String.ofList (Text.strip (d :: k)) = key := by
        simpa using h
      have hname : name.toList = c :: f ++ '[' :: (d :: k ++ [']']) := by
        rw [← hclose, ← hkey, List.takeWhile_append_dropWhile, ← hopen, ← hfield,
          List.takeWhile_append_dropWhile]
      refine ⟨String.ofList (c :: f), String.ofList (d :: k), ?_, by simp, by simp, ?_, ?_, ?_, ?_⟩
      · rw [← String.toList_inj, hname]
        simp
      · rw [Unbracketed, String.toList_ofList, ← hfield]
        exact hbefore _
      · rw [Unbracketed, String.toList_ofList, ← hkey]
        exact hbefore _
      · rw [Text.trim, String.toList_ofList]
      · rw [Text.trim, String.toList_ofList]
    · cases h
  · cases h

theorem mem_keys_addFilter (operators : OperatorTable) (filters : Json.Entries)
    (field name value : String) :
    field ∈ (addFilter operators filters name value).map Prod.fst ↔
      field ∈ filters.map Prod.fst ∨ fieldOf name = field := by
  have hput (key : String) (operand : Json.Value) :
      field ∈ (filters.put key operand).map Prod.fst ↔
        field ∈ filters.map Prod.fst ∨ key = field := by
    rw [Json.Entries.keys_put]
    split
    · rename_i hmem
      constructor
      · exact .inl
      · rintro (h | rfl)
        · exact h
        · exact hmem
    · rw [List.mem_append, List.mem_singleton, eq_comm (a := field)]
  rw [addFilter, fieldOf]
  cases splitOperator? name with
  | none => exact hput _ _
  | some parts => exact hput _ _

theorem mem_keys_foldl_addFilter (operators : OperatorTable) (params : List (String × String))
    (filters : Json.Entries) (field : String) :
    field ∈ (params.foldl (fun filters p => addFilter operators filters p.1 p.2) filters).map
        Prod.fst ↔ field ∈ filters.map Prod.fst ∨ ∃ p ∈ params, fieldOf p.1 = field := by
  induction params generalizing filters with
  | nil => simp
  | cons p rest ih =>
      rw [List.foldl_cons, ih, mem_keys_addFilter, or_assoc, List.exists_mem_cons_iff]

variable {snapshot : Snapshot} {searchParam name : String}

/-- A reserved name comes to be a field exactly if a parameter names it in front of an operator in
brackets, which is not a reserved name as a whole. -/
theorem mem_fields_parse_iff (h : isReserved snapshot searchParam name = true)
    (queryString : String) :
    name ∈ (parse snapshot searchParam queryString).filters.map Prod.fst ↔
      ∃ p ∈ filterParams snapshot searchParam queryString,
        ∃ key, FilterParam.IsSpelled ⟨name, some key, p.2⟩ p.1 := by
  rw [filters_parse, mem_keys_foldl_addFilter]
  constructor
  · rintro (hnil | ⟨p, hp, hfield⟩)
    · cases hnil
    · refine ⟨p, hp, ?_⟩
      rw [fieldOf] at hfield
      split at hfield
      · have hfilters := (List.mem_filter.mp hp).2
        rw [hfield, h] at hfilters
        cases hfilters
      · rename_i key hsplit
        exact ⟨key, isSpelled_of_splitOperator? (hfield ▸ hsplit) p.2⟩
  · rintro ⟨p, hp, key, f, k, hname, hf, hk, hopen, hclose, rfl, -⟩
    refine .inr ⟨p, hp, ?_⟩
    rw [fieldOf, hname, splitOperator?_bracketed hopen hclose hf hk]

theorem mem_fields_parse_iff_page :
    isReserved FilterContext.posts.snapshot "search" "page" = true ∧
      filterParams FilterContext.posts.snapshot "search" "page=2&page [gt]=1" =
        [("page [gt]", "1")] ∧
      "page" ∈ (parse FilterContext.posts.snapshot "search" "page=2&page [gt]=1").filters.map
        Prod.fst := by
  have hreserved : isReserved FilterContext.posts.snapshot "search" "page" = true := by
    decide +kernel
  have hparams : filterParams FilterContext.posts.snapshot "search" "page=2&page [gt]=1" =
      [("page [gt]", "1")] := by
    decide +kernel
  refine ⟨hreserved, hparams, (mem_fields_parse_iff hreserved _).mpr ?_⟩
  rw [hparams]
  exact ⟨_, List.mem_singleton_self _, "gt", "page ", "gt", by decide⟩

/-- The reserved name for sort keys as a field. -/
theorem filters_parse_sort_eq :
    isReserved FilterContext.posts.snapshot "search" "sort" = true ∧
      (parse FilterContext.posts.snapshot "search" "sort[eq]=1").filters =
        [("sort", .object [("eq", .string "1")])] := by
  have hparams : filterParams FilterContext.posts.snapshot "search" "sort[eq]=1" =
      [("sort[eq]", "1")] := by
    decide +kernel
  refine ⟨by decide +kernel, ?_⟩
  rw [filters_parse, hparams]
  rfl

end Request

end RequestQuery
