import RequestQuery.Proofs.KeyedEntries

/-!
The shape of settings documents: which options there are, and how each of them is read and written
again. What becomes of an entry of an object depends on nothing but its key and its value.
-/
namespace RequestQuery.Settings

open Json (Value Entries)
open Json.Decode

/-- Options without parts. -/
inductive Leaf where
  | count | flag | text | texts | connective | direction
deriving DecidableEq

namespace Leaf

/-- A value read as an option, and written again. -/
def rewrite : Leaf → Value → Option Value
  | count, v => (count? v).map fun (n : Nat) => .number (.int n)
  | flag, v => (bool? v).map .bool
  | text, v => (string? v).map .string
  | texts, v => (list? string? v).map fun texts => .array (texts.map .string)
  | connective, v => (connective? v).map fun c => .string c.name
  | direction, v => (direction? v).map fun d => .string d.name

/-- A value in the spelling in which its option is written. -/
def canonical : Leaf → Value → Value
  | connective, v => ((connective? v).map fun c => .string c.name).getD v
  | direction, v => ((direction? v).map fun d => .string d.name).getD v
  | _, v => v

theorem eq_canonical_of_rewrite {l : Leaf} {v w : Value} (h : l.rewrite v = some w) :
    w = l.canonical v := by
  cases l with
  | connective | direction => exact (congrArg (Option.getD · v) h).symm
  | count =>
      obtain ⟨n, hn, rfl⟩ := Option.map_eq_some_iff.mp h
      unfold count? Value.toUnsigned64? at hn
      split at hn
      · split at hn
        · cases hn
          rename_i hrange
          rw [Int.toNat_of_nonneg hrange.1]
          rfl
        · cases hn
      · cases hn
  | flag =>
      obtain ⟨b, hb, rfl⟩ := Option.map_eq_some_iff.mp h
      unfold bool? at hb
      split at hb <;> cases hb
      rfl
  | text =>
      obtain ⟨text, htext, rfl⟩ := Option.map_eq_some_iff.mp h
      unfold string? Value.toString? at htext
      split at htext <;> cases htext
      rfl
  | texts =>
      obtain ⟨texts, htexts, rfl⟩ := Option.map_eq_some_iff.mp h
      obtain ⟨items, rfl, hitems⟩ := list?_eq_some_iff.mp htexts
      refine congrArg Value.array (Eq.symm (?_ : items = texts.map Value.string))
      rw [← List.forall₂_eq_eq_eq, List.forall₂_map_right_iff]
      refine hitems.imp fun item text htext => ?_
      unfold string? Value.toString? at htext
      split at htext <;> cases htext
      rfl

end Leaf

inductive Shape where
  | leaf (l : Leaf)
  /-- Any value. -/
  | free
  /-- A map that takes any keys. -/
  | map (items : Shape)
  /-- An object of options, each with the value it has where it is left out. -/
  | record (fields : List (String × Value × Shape))

namespace Shape

/-- The value of a field, which may be left out. -/
def field (fallback : Value) (rewrite : Value → Option Value) : Option Value → Option Value
  | none => some fallback
  | some v => rewrite v

mutual

def rewrite : Shape → Value → Option Value
  | leaf l => fun v => l.rewrite v
  | free => fun v => some v.merged
  | map items => fun v => (sortedMap? items.rewrite v).map .object
  | record fields => fun v =>
    (fields? (fields.map Prod.fst) v).bind fun vs => (rewriteFields fields vs).map .object

def rewriteFields : List (String × Value × Shape) → List (Option Value) → Option Entries
  | [], _ => some []
  | _, [] => some []
  | (name, fallback, shape) :: rest, v :: vs =>
    (field fallback shape.rewrite v).bind fun w =>
      (rewriteFields rest vs).map fun ws => (name, w) :: ws

end

/-- The shape under a key. -/
def inside : Shape → String → Option Shape
  | leaf _, _ => none
  | free, _ => some free
  | map items, _ => some items
  | record fields, name => (fields.lookup name).map Prod.snd

/-- The shape at the end of a path. -/
def at? : Shape → List String → Option Shape
  | shape, [] => some shape
  | shape, segment :: rest => (shape.inside segment).bind fun inner => inner.at? rest

/-- What a missing entry is taken to be. -/
def missing : Shape → String → Option Value
  | record fields, name => (fields.lookup name).map Prod.fst
  | _, _ => none

/-- What stands under a key once the object around it has been rewritten, if this succeeds. -/
def rewriteEntry (shape : Shape) (key : String) (v : Option Value) : Option (Option Value) :=
  match shape.inside key with
  | none => some none
  | some inner =>
    match v with
    | none => some (shape.missing key)
    | some v => (inner.rewrite v).map some

variable {shape inner : Shape} {es ws : Entries} {v w : Value}

theorem rewriteEntry_of_inside {key : String} (h : shape.inside key = some inner) (v : Value) :
    shape.rewriteEntry key (some v) = (inner.rewrite v).map some := by
  rw [rewriteEntry, h]

theorem rewrite_leaf_ne_object {l : Leaf} : (leaf l).rewrite v ≠ some (.object es) := by
  intro h
  cases l <;> simp [rewrite, Leaf.rewrite] at h

theorem fields?_object {names : List String} {vs : List (Option Value)}
    (h : fields? names (.object es) = some vs) : vs = names.map fun name => es.lookup name := by
  rw [fields?] at h
  split at h
  · cases h
  · exact (Option.some.inj h).symm

theorem lookup_of_rewriteFields {fields : List (String × Value × Shape)}
    (h : rewriteFields fields (fields.map fun f => es.lookup f.1) = some ws) (key : String) :
    (record fields).rewriteEntry key (es.lookup key) = some (ws.lookup key) := by
  induction fields generalizing ws with
  | nil =>
      cases h
      rfl
  | cons f rest ih =>
      obtain ⟨name, fallback, inner⟩ := f
      rw [List.map_cons, rewriteFields, Option.bind_eq_some_iff] at h
      obtain ⟨x, hx, h⟩ := h
      obtain ⟨others, hothers, rfl⟩ := Option.map_eq_some_iff.mp h
      rw [List.lookup_cons]
      by_cases hkey : key = name
      · subst hkey
        simp only [rewriteEntry, inside, missing, List.lookup_cons_self, beq_self_eq_true,
          Option.map_some]
        cases hlookup : es.lookup key with
        | none => simpa [hlookup, field] using hx
        | some v => simpa [hlookup, field] using hx
      · have hothers := ih hothers
        simp only [rewriteEntry, inside, missing] at hothers ⊢
        rw [List.lookup_cons, beq_false_of_ne hkey]
        exact hothers

theorem rewriteEntry_of_rewrite (hnodup : (es.map Prod.fst).Nodup)
    (hleaf : ∀ l, shape ≠ leaf l) (h : shape.rewrite (.object es) = some w) :
    ∃ ws, w = .object ws ∧
      ∀ key, shape.rewriteEntry key (es.lookup key) = some (ws.lookup key) := by
  cases shape with
  | leaf l => exact absurd rfl (hleaf l)
  | free =>
      rw [rewrite, Option.some.injEq, Value.merged_object_of_nodup hnodup] at h
      refine ⟨_, h.symm, fun key => ?_⟩
      rw [lookup_map_snd]
      cases es.lookup key <;> rfl
  | map items =>
      rw [rewrite] at h
      obtain ⟨ws, hws, rfl⟩ := Option.map_eq_some_iff.mp h
      refine ⟨ws, rfl, fun key => ?_⟩
      obtain ⟨hnone, hsome⟩ := lookup_of_sortedMap? hnodup hws key
      cases hlookup : es.lookup key with
      | none =>
          rw [hnone hlookup]
          rfl
      | some v =>
          obtain ⟨x, hx, hentry⟩ := hsome v hlookup
          rw [rewriteEntry_of_inside rfl, hx, hentry, Option.map_some]
  | record fields =>
      rw [rewrite, Option.bind_eq_some_iff] at h
      obtain ⟨vs, hvs, h⟩ := h
      obtain ⟨ws, hws, rfl⟩ := Option.map_eq_some_iff.mp h
      rw [fields?_object hvs, List.map_map] at hws
      exact ⟨ws, rfl, lookup_of_rewriteFields hws⟩

/-- A value as its option is written: choices in their first spelling, maps in the order of keys. -/
def canonical : Shape → Value → Value
  | leaf l, v => l.canonical v
  | map items, .object es => .object (byKey (es.map fun e => (e.1, items.canonical e.2)))
  | _, v => v

/-- Whether a value may be an object of options. -/
def hasRecord : Shape → Bool
  | leaf _ | free => false
  | map items => items.hasRecord
  | record .. => true

theorem eq_canonical_of_rewrite {shape : Shape} {v w : Value} (hshape : shape.hasRecord = false)
    (hv : v.merged = v) (h : shape.rewrite v = some w) : w = shape.canonical v := by
  match shape with
  | leaf l =>
      rw [rewrite] at h
      rw [canonical]
      exact Leaf.eq_canonical_of_rewrite h
  | free =>
      rw [rewrite, Option.some.injEq, hv] at h
      exact h.symm
  | record .. => cases hshape
  | map items =>
      rw [rewrite] at h
      obtain ⟨ws, hws, rfl⟩ := Option.map_eq_some_iff.mp h
      obtain ⟨es, fs, rfl, hfs, rfl⟩ := sortedMap?_eq_some_iff.mp hws
      obtain ⟨hnodup, hmerged⟩ := Value.merged_object_iff.mp hv
      have hmap : fs = es.map fun e => (e.1, items.canonical e.2) := by
        rw [← List.forall₂_eq_eq_eq, List.forall₂_map_right_iff]
        refine (forall₂_of_forall_mem hfs fun e he f hf => ?_).flip
        exact Prod.ext hf.1.symm (eq_canonical_of_rewrite hshape (hmerged e he) hf.2)
      rw [canonical, hmap, lastOfEach_of_nodup (by rwa [List.map_map])]

end Shape

section

open Shape (record map leaf free)

def searchShape : Shape :=
  let base := default.search
  record [("min_term_length", .number (.int base.minTermLength), leaf .count),
    ("max_terms", .number (.int base.maxTerms), leaf .count),
    ("blacklist", .array (base.blacklist.map .string), leaf .texts),
    ("mode", .string base.mode.name, leaf .connective),
    ("case_sensitive", .bool base.caseSensitive, leaf .flag)]

def sortShape : Shape :=
  let base := default.sort
  record [("default_direction", .string base.defaultDirection.name, leaf .direction),
    ("direction_indicators", .object (base.indicators.map fun e => (e.1, .string e.2.name)),
      map (leaf .direction)),
    ("allow_any_column", .bool base.allowAnyColumn, leaf .flag)]

def pageShape : Shape :=
  let base := default.pagination
  record [("per_page", .number (.int base.perPage), leaf .count),
    ("max_per_page", .number (.int base.maxPerPage), leaf .count),
    ("page_name", .string base.pageName, leaf .text),
    ("per_page_name", .string base.perPageName, leaf .text)]

def dateShape : Shape :=
  let base := default.dates
  record [("timezone", .string base.timezone, leaf .text),
    ("format", .string base.pattern, leaf .text)]

def operandShape : Shape :=
  let base := default.operands
  record [("dedupe_in", .bool base.dedupeIn, leaf .flag),
    ("strict_between", .bool base.strictBetween, leaf .flag)]

def shape : Shape :=
  let base := default
  record [("operators", .object (base.operators.map fun e => (e.1, .string e.2)), map (leaf .text)),
    ("global_whitelist", .array (base.globalWhitelist.map .string), leaf .texts),
    ("max_filters", .number (.int base.maxFilters), leaf .count),
    ("max_nesting_level", .number (.int base.maxNestingLevel), leaf .count),
    ("search", base.search.toValue, searchShape),
    ("sort", base.sort.toValue, sortShape),
    ("pagination", base.pagination.toValue, pageShape),
    ("custom_filters", .object (base.customFilters.map fun e => (e.1, .string e.2)),
      map (leaf .text)),
    ("presets", .object base.presets, map free),
    ("dates", base.dates.toValue, dateShape),
    ("operands", base.operands.toValue, operandShape)]

end

namespace Shape

variable {α : Type}

theorem field_eq (base : α) (read : Value → Option α) (write : α → Value)
    {rewrite : Value → Option Value} (h : ∀ v, rewrite v = (read v).map write) (v : Option Value) :
    field (write base) rewrite v = (withDefault base read v).map write := by
  cases v with
  | none => rfl
  | some v => exact h v

theorem field_leaf_count (n : Nat) (v : Option Value) :
    field (.number (.int n)) (leaf .count).rewrite v =
      (withDefault n count? v).map fun (n : Nat) => .number (.int n) :=
  field_eq n count? (fun n => .number (.int n)) (fun _ => rfl) v

theorem field_leaf_flag (b : Bool) (v : Option Value) :
    field (.bool b) (leaf .flag).rewrite v = (withDefault b bool? v).map .bool :=
  field_eq b bool? .bool (fun _ => rfl) v

theorem field_leaf_text (text : String) (v : Option Value) :
    field (.string text) (leaf .text).rewrite v = (withDefault text string? v).map .string :=
  field_eq text string? .string (fun _ => rfl) v

theorem field_leaf_texts (texts : List String) (v : Option Value) :
    field (.array (texts.map .string)) (leaf .texts).rewrite v =
      (withDefault texts (list? string?) v).map fun texts => .array (texts.map .string) :=
  field_eq texts (list? string?) (fun texts => .array (texts.map .string)) (fun _ => rfl) v

theorem field_leaf_connective (c : Connective) (v : Option Value) :
    field (.string c.name) (leaf .connective).rewrite v =
      (withDefault c connective? v).map fun c => .string c.name :=
  field_eq c connective? (fun c => .string c.name) (fun _ => rfl) v

theorem field_leaf_direction (d : Direction) (v : Option Value) :
    field (.string d.name) (leaf .direction).rewrite v =
      (withDefault d direction? v).map fun d => .string d.name :=
  field_eq d direction? (fun d => .string d.name) (fun _ => rfl) v

theorem field_map {items : Shape} (read : Value → Option α) (write : α → Value)
    (h : ∀ v, items.rewrite v = (read v).map write) (entries : List (String × α))
    (v : Option Value) :
    field (.object (entries.map fun e => (e.1, write e.2))) (map items).rewrite v =
      (withDefault entries (sortedMap? read) v).map fun entries =>
        .object (entries.map fun e => (e.1, write e.2)) := by
  refine field_eq entries (sortedMap? read)
    (fun entries => .object (entries.map fun e => (e.1, write e.2))) (fun v => ?_) v
  simp only [rewrite, funext h, sortedMap?_map, Option.map_map, Function.comp_def]

theorem field_map_text (entries : List (String × String)) (v : Option Value) :
    field (.object (entries.map fun e => (e.1, .string e.2))) (map (leaf .text)).rewrite v =
      (withDefault entries (sortedMap? string?) v).map fun entries =>
        .object (entries.map fun e => (e.1, .string e.2)) :=
  field_map string? .string (fun _ => rfl) entries v

theorem field_map_direction (entries : List (String × Direction)) (v : Option Value) :
    field (.object (entries.map fun e => (e.1, .string e.2.name)))
        (map (leaf .direction)).rewrite v =
      (withDefault entries (sortedMap? direction?) v).map fun entries =>
        .object (entries.map fun e => (e.1, .string e.2.name)) :=
  field_map direction? (fun d => .string d.name) (fun _ => rfl) entries v

theorem field_map_free (entries : Entries) (v : Option Value) :
    field (.object entries) (map free).rewrite v =
      (withDefault entries (sortedMap? fun v => some v.merged) v).map .object :=
  field_eq entries _ _ (fun _ => rfl) v

theorem rewriteFields_congr {β : Type} {base : α} {read : Value → Option α} {write : α → Value}
    {name : String} {fallback : Value} {shape : Shape} {fields : List (String × Value × Shape)}
    {v : Option Value} {vs : List (Option Value)} {wrap : Entries → Value} {rest : α → Option β}
    {writeAll : β → Value}
    (hfield : ∀ v, field fallback shape.rewrite v = (withDefault base read v).map write)
    (hrest : ∀ a, (rewriteFields fields vs).map (fun ws => wrap ((name, write a) :: ws)) =
      (rest a).map writeAll) :
    (rewriteFields ((name, fallback, shape) :: fields) (v :: vs)).map wrap =
      ((withDefault base read v).bind rest).map writeAll := by
  rw [rewriteFields, hfield]
  cases withDefault base read v with
  | none => rfl
  | some a =>
      rw [Option.bind_some, ← hrest a, Option.map_some, Option.bind_some, Option.map_map]
      rfl

theorem length_of_fields? {names : List String} {v : Value} {vs : List (Option Value)}
    (h : fields? names v = some vs) : vs.length = names.length := by
  cases v with
  | object es => rw [fields?_object h, List.length_map]
  | array items =>
      rw [fields?] at h
      split at h
      · cases h
      · cases h
        simp
        omega
  | null | bool | number | string => cases h

end Shape

theorem rewrite_searchShape (v : Value) :
    searchShape.rewrite v = (SearchSettings.ofValue? v).map SearchSettings.toValue := by
  rw [searchShape, Shape.rewrite, SearchSettings.ofValue?]
  simp only [List.map_cons, List.map_nil]
  cases h : fields? ["min_term_length", "max_terms", "blacklist", "mode", "case_sensitive"] v with
  | none => rfl
  | some vs =>
    match vs, Shape.length_of_fields? h with
    | [_, _, _, _, _], _ =>
      rw [Option.bind_some]
      refine Shape.rewriteFields_congr (Shape.field_leaf_count _) fun _ => ?_
      refine Shape.rewriteFields_congr (Shape.field_leaf_count _) fun _ => ?_
      refine Shape.rewriteFields_congr (Shape.field_leaf_texts _) fun _ => ?_
      refine Shape.rewriteFields_congr (Shape.field_leaf_connective _) fun _ => ?_
      refine Shape.rewriteFields_congr (Shape.field_leaf_flag _) fun _ => ?_
      rfl

theorem rewrite_sortShape (v : Value) :
    sortShape.rewrite v = (SortSettings.ofValue? v).map SortSettings.toValue := by
  rw [sortShape, Shape.rewrite, SortSettings.ofValue?]
  simp only [List.map_cons, List.map_nil]
  cases h : fields? ["default_direction", "direction_indicators", "allow_any_column"] v with
  | none => rfl
  | some vs =>
    match vs, Shape.length_of_fields? h with
    | [_, _, _], _ =>
      rw [Option.bind_some]
      refine Shape.rewriteFields_congr (Shape.field_leaf_direction _) fun _ => ?_
      refine Shape.rewriteFields_congr (Shape.field_map_direction _) fun _ => ?_
      refine Shape.rewriteFields_congr (Shape.field_leaf_flag _) fun _ => ?_
      rfl

theorem rewrite_pageShape (v : Value) :
    pageShape.rewrite v = (PageSettings.ofValue? v).map PageSettings.toValue := by
  rw [pageShape, Shape.rewrite, PageSettings.ofValue?]
  simp only [List.map_cons, List.map_nil]
  cases h : fields? ["per_page", "max_per_page", "page_name", "per_page_name"] v with
  | none => rfl
  | some vs =>
    match vs, Shape.length_of_fields? h with
    | [_, _, _, _], _ =>
      rw [Option.bind_some]
      refine Shape.rewriteFields_congr (Shape.field_leaf_count _) fun _ => ?_
      refine Shape.rewriteFields_congr (Shape.field_leaf_count _) fun _ => ?_
      refine Shape.rewriteFields_congr (Shape.field_leaf_text _) fun _ => ?_
      refine Shape.rewriteFields_congr (Shape.field_leaf_text _) fun _ => ?_
      rfl

theorem rewrite_dateShape (v : Value) :
    dateShape.rewrite v = (DateSettings.ofValue? v).map DateSettings.toValue := by
  rw [dateShape, Shape.rewrite, DateSettings.ofValue?]
  simp only [List.map_cons, List.map_nil]
  cases h : fields? ["timezone", "format"] v with
  | none => rfl
  | some vs =>
    match vs, Shape.length_of_fields? h with
    | [_, _], _ =>
      rw [Option.bind_some]
      refine Shape.rewriteFields_congr (Shape.field_leaf_text _) fun _ => ?_
      refine Shape.rewriteFields_congr (Shape.field_leaf_text _) fun _ => ?_
      rfl

theorem rewrite_operandShape (v : Value) :
    operandShape.rewrite v = (OperandSettings.ofValue? v).map OperandSettings.toValue := by
  rw [operandShape, Shape.rewrite, OperandSettings.ofValue?]
  simp only [List.map_cons, List.map_nil]
  cases h : fields? ["dedupe_in", "strict_between"] v with
  | none => rfl
  | some vs =>
    match vs, Shape.length_of_fields? h with
    | [_, _], _ =>
      rw [Option.bind_some]
      refine Shape.rewriteFields_congr (Shape.field_leaf_flag _) fun _ => ?_
      refine Shape.rewriteFields_congr (Shape.field_leaf_flag _) fun _ => ?_
      rfl

/-- To read settings and to write them again is to rewrite the document by its shape. -/
theorem rewrite_shape (v : Value) :
    shape.rewrite v = (ofValue? v).map toValue := by
  rw [shape, Shape.rewrite, ofValue?, optionNames]
  simp only [List.map_cons, List.map_nil]
  cases h : fields? ["operators", "global_whitelist", "max_filters", "max_nesting_level", "search",
      "sort", "pagination", "custom_filters", "presets", "dates", "operands"] v with
  | none => rfl
  | some vs =>
    match vs, Shape.length_of_fields? h with
    | [_, _, _, _, _, _, _, _, _, _, _], _ =>
      rw [Option.bind_some]
      refine Shape.rewriteFields_congr (Shape.field_map_text _) fun _ => ?_
      refine Shape.rewriteFields_congr (Shape.field_leaf_texts _) fun _ => ?_
      refine Shape.rewriteFields_congr (Shape.field_leaf_count _) fun _ => ?_
      refine Shape.rewriteFields_congr (Shape.field_leaf_count _) fun _ => ?_
      refine Shape.rewriteFields_congr (Shape.field_eq _ _ _ rewrite_searchShape) fun _ => ?_
      refine Shape.rewriteFields_congr (Shape.field_eq _ _ _ rewrite_sortShape) fun _ => ?_
      refine Shape.rewriteFields_congr (Shape.field_eq _ _ _ rewrite_pageShape) fun _ => ?_
      refine Shape.rewriteFields_congr (Shape.field_map_text _) fun _ => ?_
      refine Shape.rewriteFields_congr (Shape.field_map_free _) fun _ => ?_
      refine Shape.rewriteFields_congr (Shape.field_eq _ _ _ rewrite_dateShape) fun _ => ?_
      refine Shape.rewriteFields_congr (Shape.field_eq _ _ _ rewrite_operandShape) fun _ => ?_
      rfl

end RequestQuery.Settings
