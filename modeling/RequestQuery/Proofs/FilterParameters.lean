import Mathlib.Data.List.TakeWhile
import RequestQuery.Proofs.FilterTree
import RequestQuery.Request

namespace RequestQuery

open Json (Value Entries)

namespace Request

def Unbracketed (s : String) : Prop :=
  ∀ c ∈ s.toList, isBracket c = false

instance (s : String) : Decidable (Unbracketed s) :=
  List.decidableBAll (fun c => isBracket c = false) s.toList

/-- The names that do not filter. -/
def isReserved (snapshot : Snapshot) (searchParam name : String) : Bool :=
  let pages := snapshot.settings.pagination
  ["", "sort", searchParam, "search", pages.pageName, pages.perPageName, "preset"].contains name

/-- The names and values that filter, in order. White space around a name does not count. -/
def filterParams (snapshot : Snapshot) (searchParam queryString : String) :
    List (String × String) :=
  ((Text.Form.decode (dropQuestionMark queryString)).map fun p => (Text.trim p.1, p.2)).filter
    fun p => !isReserved snapshot searchParam p.1

/-- The operand that a map of filters has for a field under an operator key, where a plain value is
one of equality. -/
def condition? (filters : Entries) (field key : String) : Option Value :=
  (operatorsSoFar (filters.lookup field)).lookup key

section

variable {snapshot : Snapshot} {searchParam : String} {p : String × String} (r : Request)

theorem filters_addParam_of_isReserved
    (h : isReserved snapshot searchParam (Text.trim p.1) = true) :
    (addParam snapshot searchParam r p).filters = r.filters := by
  simp only [isReserved, List.contains_cons, List.contains_nil, Bool.or_false, Bool.or_eq_true] at h
  simp only [addParam]
  repeat' split
  all_goals simp_all

theorem addParam_of_not_isReserved
    (h : isReserved snapshot searchParam (Text.trim p.1) = false) :
    addParam snapshot searchParam r p =
      { r with filters := addFilter snapshot.operators r.filters (Text.trim p.1) p.2 } := by
  simp only [isReserved, List.contains_cons, List.contains_nil, Bool.or_false,
    Bool.or_eq_false_iff] at h
  simp [addParam, h]

theorem foldl_addParam {params : List (String × String)}
    (h : ∀ p ∈ params, isReserved snapshot searchParam (Text.trim p.1) = false) :
    params.foldl (addParam snapshot searchParam) r =
      { r with
        filters := (params.map fun p => (Text.trim p.1, p.2)).foldl
          (fun filters p => addFilter snapshot.operators filters p.1 p.2) r.filters } := by
  induction params generalizing r with
  | nil => rfl
  | cons p rest ih =>
      rw [List.forall_mem_cons] at h
      rw [List.foldl_cons, addParam_of_not_isReserved r h.1, ih _ h.2, List.map_cons,
        List.foldl_cons]

theorem filters_parse (snapshot : Snapshot) (searchParam queryString : String) :
    (parse snapshot searchParam queryString).filters =
      (filterParams snapshot searchParam queryString).foldl
        (fun filters p => addFilter snapshot.operators filters p.1 p.2) [] := by
  have hfold (params : List (String × String)) (r : Request) :
      (params.foldl (addParam snapshot searchParam) r).filters =
        ((params.map fun p => (Text.trim p.1, p.2)).filter
          fun p => !isReserved snapshot searchParam p.1).foldl
            (fun filters p => addFilter snapshot.operators filters p.1 p.2) r.filters := by
    induction params generalizing r with
    | nil => rfl
    | cons p rest ih =>
        rw [List.foldl_cons, ih, List.map_cons]
        cases hreserved : isReserved snapshot searchParam (Text.trim p.1) with
        | true =>
            rw [List.filter_cons_of_neg (by simp [hreserved]),
              filters_addParam_of_isReserved r hreserved]
        | false =>
            rw [List.filter_cons_of_pos (by simp [hreserved]), List.foldl_cons,
              addParam_of_not_isReserved r hreserved]
  exact hfold (Text.Form.decode (dropQuestionMark queryString)) empty

end

theorem splitOperator?_of_unbracketed {name : String} (h : Unbracketed name) :
    splitOperator? name = none := by
  have hdrop : name.toList.dropWhile (!isBracket ·) = [] := by
    rw [List.dropWhile_eq_nil_iff]
    simpa [Unbracketed] using h
  unfold splitOperator?
  simp only [hdrop]
  split
  · rename_i heq
    cases heq
  · rfl

theorem splitOperator?_bracketed {f k : String} (hf : Unbracketed f) (hk : Unbracketed k)
    (hfne : f ≠ "") (hkne : k ≠ "") :
    splitOperator? (f ++ "[" ++ k ++ "]") = some (Text.trim f, Text.trim k) := by
  -- Either text ends where the bracket after it stands.
  have htake {s : String} (hs : Unbracketed s) {b : Char} (hb : isBracket b = true)
      (rest : List Char) : (s.toList ++ b :: rest).takeWhile (!isBracket ·) = s.toList := by
    rw [List.takeWhile_append_of_pos (by simpa [Unbracketed] using hs)]
    simp [hb]
  have hdrop {s : String} (hs : Unbracketed s) {b : Char} (hb : isBracket b = true)
      (rest : List Char) : (s.toList ++ b :: rest).dropWhile (!isBracket ·) = b :: rest := by
    rw [List.dropWhile_append_of_pos (by simpa [Unbracketed] using hs)]
    simp [hb]
  have hname : (f ++ "[" ++ k ++ "]").toList = f.toList ++ '[' :: (k.toList ++ [']']) := by
    simp
  have hopen : isBracket '[' = true := rfl
  have hclose : isBracket ']' = true := rfl
  obtain ⟨c, field, hfield⟩ := List.exists_cons_of_ne_nil (String.toList_eq_nil_iff.not.mpr hfne)
  obtain ⟨d, key, hkey⟩ := List.exists_cons_of_ne_nil (String.toList_eq_nil_iff.not.mpr hkne)
  simp only [splitOperator?, hname, htake hf hopen, hdrop hf hopen]
  simp only [hfield, htake hk hclose, hdrop hk hclose]
  simp only [hkey, Text.trim, hfield]

end Request

/-- A parameter that filters: `field=value`, or `field[key]=value`. -/
structure FilterParam where
  field : String
  key? : Option String
  value : String

namespace FilterParam

open Request

def isPlain (p : FilterParam) : Bool :=
  p.key?.isNone

/-- The operator key. A plain value is one of equality. -/
def key (p : FilterParam) : String :=
  p.key?.getD "eq"

def operand (operators : OperatorTable) (p : FilterParam) : Value :=
  match p.key? with
  | none => .string p.value
  | some key => operandOf operators key p.value

/-- The name, without white space around it, spells the field and the key, which may have white
space around them. -/
def IsSpelled (p : FilterParam) (name : String) : Prop :=
  match p.key? with
  | none => Unbracketed name ∧ name = p.field
  | some key => ∃ f k, name = f ++ "[" ++ k ++ "]" ∧ f ≠ "" ∧ k ≠ "" ∧ Unbracketed f ∧
      Unbracketed k ∧ Text.trim f = p.field ∧ Text.trim k = key

/-- The map of filters once the parameter has been added. -/
def add (operators : OperatorTable) (filters : Entries) (p : FilterParam) : Entries :=
  match p.key? with
  | none => filters.put p.field (.string p.value)
  | some key =>
    filters.put p.field
      (.object ((operatorsSoFar (filters.lookup p.field)).put key
        (operandOf operators key p.value)))

variable {operators : OperatorTable} {filters : Entries} {p : FilterParam}

theorem addFilter_of_isSpelled {name : String} (h : p.IsSpelled name) :
    addFilter operators filters name p.value = p.add operators filters := by
  obtain ⟨field, key?, value⟩ := p
  cases key? with
  | none =>
      obtain ⟨hname, rfl⟩ := h
      rw [addFilter, splitOperator?_of_unbracketed hname]
      rfl
  | some key =>
      obtain ⟨f, k, rfl, hfne, hkne, hf, hk, rfl, rfl⟩ := h
      rw [addFilter, splitOperator?_bracketed hf hk hfne hkne]
      rfl

theorem foldl_addFilter {params : List FilterParam} {pairs : List (String × String)}
    (h : List.Forall₂ (fun p param => p.IsSpelled param.1 ∧ p.value = param.2) params pairs)
    (filters : Entries) :
    pairs.foldl (fun filters param => addFilter operators filters param.1 param.2) filters =
      params.foldl (add operators) filters := by
  induction h generalizing filters with
  | nil => rfl
  | cons hhead _ ih =>
      rw [List.foldl_cons, List.foldl_cons, ← hhead.2, addFilter_of_isSpelled hhead.1]
      exact ih _

/-- Of the conditions on its field, a parameter leaves those under other keys, unless it is a plain
value. -/
theorem condition?_add (operators : OperatorTable) (filters : Entries) (p : FilterParam)
    (field key : String) :
    condition? (p.add operators filters) field key =
      if field = p.field then
        if key = p.key then some (p.operand operators)
        else if p.isPlain then none
        else condition? filters field key
      else condition? filters field key := by
  obtain ⟨name, key?, value⟩ := p
  by_cases hfield : field = name
  · subst hfield
    rw [if_pos rfl]
    cases key? with
    | none =>
        rw [condition?, add, Entries.lookup_put_self, operatorsSoFar.eq_def]
        by_cases hkey : key = "eq"
        · simp [hkey, FilterParam.key, operand]
        · have hne : (key == "eq") = false := by simp [hkey]
          simp [List.lookup_cons, hne, hkey, FilterParam.key, isPlain]
    | some k =>
        rw [condition?, add, Entries.lookup_put_self, operatorsSoFar]
        by_cases hkey : key = k
        · subst hkey
          rw [Entries.lookup_put_self]
          simp [FilterParam.key, operand]
        · rw [Entries.lookup_put_of_ne _ _ hkey]
          simp [FilterParam.key, hkey, isPlain, condition?]
  · rw [if_neg hfield]
    cases key? with
    | none => rw [condition?, add, Entries.lookup_put_of_ne _ _ hfield, condition?]
    | some k => rw [condition?, add, Entries.lookup_put_of_ne _ _ hfield, condition?]

theorem condition?_foldl_add {field key : String} {params : List FilterParam}
    (h : ∀ p ∈ params, (p.field, p.key) ≠ (field, key)) (filters : Entries) :
    condition? (params.foldl (add operators) filters) field key =
      if params.any fun p => p.isPlain && p.field == field then none
      else condition? filters field key := by
  induction params generalizing filters with
  | nil => rfl
  | cons p rest ih =>
      rw [List.forall_mem_cons] at h
      rw [List.foldl_cons, ih h.2, condition?_add, List.any_cons]
      by_cases hfield : field = p.field
      · have hkey : key ≠ p.key := by
          rintro rfl
          exact h.1 (by rw [hfield])
        cases p.isPlain <;> simp [hfield, hkey]
      · have hne : (p.field == field) = false := by
          simpa using fun heq => hfield heq.symm
        simp [hfield, hne]

end FilterParam

namespace Request

/-- The last parameter for a field and a key counts, whatever stands between the parameters, but the
condition is lost if a plain value for the field comes after it. -/
theorem conditions_parse {snapshot : Snapshot} {searchParam queryString : String}
    {params : List FilterParam}
    (h : List.Forall₂ (fun p param => p.IsSpelled param.1 ∧ p.value = param.2) params
      (filterParams snapshot searchParam queryString)) :
    let filters := (parse snapshot searchParam queryString).filters
    (∀ before p after, params = before ++ p :: after →
      (∀ p' ∈ after, (p'.field, p'.key) ≠ (p.field, p.key)) →
      condition? filters p.field p.key =
        if after.any fun p' => p'.isPlain && p'.field == p.field then none
        else some (p.operand snapshot.operators)) ∧
    ∀ field key, (∀ p ∈ params, (p.field, p.key) ≠ (field, key)) →
      condition? filters field key = none := by
  intro filters
  have hfilters : filters = params.foldl (FilterParam.add snapshot.operators) [] :=
    (filters_parse snapshot searchParam queryString).trans (FilterParam.foldl_addFilter h [])
  constructor
  · rintro before p after rfl hlast
    rw [hfilters, List.foldl_append, List.foldl_cons, FilterParam.condition?_foldl_add hlast,
      FilterParam.condition?_add, if_pos rfl, if_pos rfl]
  · intro field key hnone
    rw [hfilters, FilterParam.condition?_foldl_add hnone]
    simp [condition?, operatorsSoFar]

theorem conditions_parse_posts :
    let queryString := "status=draft&page=2&views[gt]=100&status [ne]=archived&views=5"
    let params : List FilterParam :=
      [⟨"status", none, "draft"⟩, ⟨"views", some "gt", "100"⟩, ⟨"status", some "ne", "archived"⟩,
        ⟨"views", none, "5"⟩]
    let filters := (parse FilterContext.posts.snapshot "search" queryString).filters
    List.Forall₂ (fun p param => p.IsSpelled param.1 ∧ p.value = param.2) params
        (filterParams FilterContext.posts.snapshot "search" queryString) ∧
      condition? filters "status" "eq" = some (.string "draft") ∧
      condition? filters "status" "ne" = some (.string "archived") ∧
      condition? filters "views" "gt" = none ∧ condition? filters "views" "in" = none := by
  intro queryString params filters
  have hpairs : filterParams FilterContext.posts.snapshot "search" queryString =
      [("status", "draft"), ("views[gt]", "100"), ("status [ne]", "archived"), ("views", "5")] := by
    decide +kernel
  have hspelled : List.Forall₂ (fun p param => p.IsSpelled param.1 ∧ p.value = param.2) params
      (filterParams FilterContext.posts.snapshot "search" queryString) := by
    rw [hpairs]
    refine .cons ⟨⟨by decide, rfl⟩, rfl⟩ (.cons ⟨⟨"views", "gt", ?_⟩, rfl⟩
      (.cons ⟨⟨"status ", "ne", ?_⟩, rfl⟩ (.cons ⟨⟨by decide, rfl⟩, rfl⟩ .nil)))
    · decide
    · decide
  obtain ⟨hlast, hnone⟩ := conditions_parse hspelled
  refine ⟨hspelled, hlast [] _ _ rfl ?_, hlast [_, _] _ _ rfl ?_, hlast [_] _ _ rfl ?_,
    hnone "views" "in" ?_⟩ <;> decide

/-- A condition is lost although the later parameter for its field has another key. -/
theorem conditions_parse_plain :
    let queryString := "status[ne]=archived&status=draft"
    let params : List FilterParam := [⟨"status", some "ne", "archived"⟩, ⟨"status", none, "draft"⟩]
    let filters := (parse FilterContext.posts.snapshot "search" queryString).filters
    List.Forall₂ (fun p param => p.IsSpelled param.1 ∧ p.value = param.2) params
        (filterParams FilterContext.posts.snapshot "search" queryString) ∧
      params.map FilterParam.key = ["ne", "eq"] ∧
      filters = [("status", .string "draft")] ∧ condition? filters "status" "ne" = none := by
  intro queryString params filters
  have hpairs : filterParams FilterContext.posts.snapshot "search" queryString =
      [("status[ne]", "archived"), ("status", "draft")] := by
    decide +kernel
  have hspelled : List.Forall₂ (fun p param => p.IsSpelled param.1 ∧ p.value = param.2) params
      (filterParams FilterContext.posts.snapshot "search" queryString) := by
    rw [hpairs]
    refine .cons ⟨⟨"status", "ne", ?_⟩, rfl⟩ (.cons ⟨⟨by decide, rfl⟩, rfl⟩ .nil)
    decide
  have hfilters : filters = [("status", .string "draft")] :=
    (filters_parse FilterContext.posts.snapshot "search" queryString).trans
      ((FilterParam.foldl_addFilter hspelled []).trans rfl)
  refine ⟨hspelled, rfl, hfilters, ?_⟩
  rw [hfilters]
  rfl

end Request

end RequestQuery
