import RequestQuery.Proofs.PathSegments
import RequestQuery.Proofs.SettingsRoundTrip
import RequestQuery.Proofs.SettingsShape

namespace RequestQuery.Settings

open Json (Value Entries)

/-- The second document is the first with a value put at the end of a path. Only the last segment
may be new. -/
inductive Puts (v : Value) : List String → Value → Value → Prop
  | here {w} : Puts v [] w v
  | inside {es : Entries} {segment rest w w'} : es.lookup segment = some w → Puts v rest w w' →
      Puts v (segment :: rest) (.object es) (.object (es.put segment w'))
  | new {es : Entries} {segment} : es.lookup segment = none →
      Puts v [segment] (.object es) (.object (es.put segment v))

variable {v w w' w'' : Value} {path segments : List String} {segment leaf : String}
  {change : Entries → Option Entries}

theorem walk?_cons_eq_some_iff :
    walk? w (segment :: path) = some v ↔
      ∃ es u, w = .object es ∧ es.lookup segment = some u ∧ walk? u path = some v := by
  rw [walk?, Option.bind_eq_some_iff]
  cases w with
  | object es => simp [Value.get?]
  | null | bool | number | string | array => simp [Value.get?]

theorem modifyAt?_nil_eq_some_iff :
    modifyAt? change w [] = some w' ↔
      ∃ es es', w = .object es ∧ change es = some es' ∧ .object es' = w' := by
  cases w with
  | object es => simp [modifyAt?]
  | null | bool | number | string | array => simp [modifyAt?]

theorem modifyAt?_cons_eq_some_iff :
    modifyAt? change w (segment :: path) = some w' ↔
      ∃ es u u', w = .object es ∧ es.lookup segment = some u ∧
        modifyAt? change u path = some u' ∧ .object (Entries.put es segment u') = w' := by
  cases w with
  | object es => simp [modifyAt?, Option.bind_eq_some_iff]
  | null | bool | number | string | array => simp [modifyAt?]

theorem putLeaf_eq_some_iff {parent : List String} {es es' : Entries} :
    putLeaf parent leaf v es = some es' ↔
      (parent ∈ openMaps ∨ ∃ u, es.lookup leaf = some u) ∧ es.put leaf v = es' := by
  have hkey : Entries.hasKey es leaf = true ↔ ∃ u, es.lookup leaf = some u := by
    rw [← Option.isSome_iff_exists, List.lookup_isSome_iff, Entries.hasKey, List.any_eq_true]
    simp only [beq_iff_eq, eq_comm (a := leaf)]
  rw [putLeaf, ← hkey, ← List.contains_iff_mem, ← Bool.or_eq_true_iff]
  split <;> simp_all

theorem puts_of_modifyAt? {parent : List String}
    (h : modifyAt? (putLeaf parent leaf v) w path = some w') : Puts v (path ++ [leaf]) w w' := by
  induction path generalizing w w' with
  | nil =>
      obtain ⟨es, es', rfl, hput, rfl⟩ := modifyAt?_nil_eq_some_iff.mp h
      obtain ⟨-, rfl⟩ := putLeaf_eq_some_iff.mp hput
      cases hleaf : es.lookup leaf with
      | none => exact .new hleaf
      | some u => exact .inside hleaf .here
  | cons segment rest ih =>
      obtain ⟨es, u, u', rfl, hu, hu', rfl⟩ := modifyAt?_cons_eq_some_iff.mp h
      exact .inside hu (ih hu')

theorem walk?_or_mem_openMaps {parent : List String}
    (h : modifyAt? (putLeaf parent leaf v) w path = some w') :
    (∃ u, walk? w (path ++ [leaf]) = some u) ∨ parent ∈ openMaps := by
  induction path generalizing w w' with
  | nil =>
      obtain ⟨es, es', rfl, hput, -⟩ := modifyAt?_nil_eq_some_iff.mp h
      obtain ⟨hopen | ⟨u, hu⟩, -⟩ := putLeaf_eq_some_iff.mp hput
      · exact .inr hopen
      · exact .inl ⟨u, walk?_cons_eq_some_iff.mpr ⟨es, u, rfl, hu, rfl⟩⟩
  | cons segment rest ih =>
      obtain ⟨es, u, u', rfl, hu, hu', -⟩ := modifyAt?_cons_eq_some_iff.mp h
      refine (ih hu').imp_left ?_
      rintro ⟨x, hx⟩
      exact ⟨x, walk?_cons_eq_some_iff.mpr ⟨es, u, rfl, hu, hx⟩⟩

theorem modifyAt?_of_walk? {parent : List String} (h : walk? w (path ++ [leaf]) = some v) :
    modifyAt? (putLeaf parent leaf v) w path = some w := by
  induction path generalizing w with
  | nil =>
      obtain ⟨es, u, rfl, hu, hv⟩ := walk?_cons_eq_some_iff.mp h
      cases hv
      exact modifyAt?_nil_eq_some_iff.mpr ⟨es, es, rfl,
        putLeaf_eq_some_iff.mpr ⟨.inr ⟨v, hu⟩, Entries.put_of_lookup hu⟩, rfl⟩
  | cons segment rest ih =>
      obtain ⟨es, u, rfl, hu, hv⟩ := walk?_cons_eq_some_iff.mp h
      exact modifyAt?_cons_eq_some_iff.mpr ⟨es, u, u, rfl, hu, ih hv,
        by rw [Entries.put_of_lookup hu]⟩

namespace Shape

variable {shape inner : Shape} {es : Entries} {u : Value}

theorem rewriteEntry_of_fixed (hmerged : (Value.object es).merged = .object es)
    (hfixed : shape.rewrite (.object es) = some (.object es)) :
    (es.map Prod.fst).Nodup ∧ (∀ l, shape ≠ .leaf l) ∧
      ∀ key, shape.rewriteEntry key (es.lookup key) = some (es.lookup key) := by
  obtain ⟨hnodup, -⟩ := Value.merged_object_iff.mp hmerged
  have hleaf : ∀ l, shape ≠ .leaf l := by
    rintro l rfl
    exact rewrite_leaf_ne_object hfixed
  obtain ⟨_, hobject, hes⟩ := rewriteEntry_of_rewrite hnodup hleaf hfixed
  cases hobject
  exact ⟨hnodup, hleaf, hes⟩

theorem rewriteEntry_of_put (hmerged : (Value.object es).merged = .object es)
    (hfixed : shape.rewrite (.object es) = some (.object es))
    (h : shape.rewrite (.object (es.put segment u)) = some w) :
    ∃ ws, w = .object ws ∧ (∀ key, key ≠ segment → ws.lookup key = es.lookup key) ∧
      shape.rewriteEntry segment (some u) = some (ws.lookup segment) := by
  obtain ⟨hnodup, hleaf, hes⟩ := rewriteEntry_of_fixed hmerged hfixed
  obtain ⟨ws, rfl, hws⟩ :=
    rewriteEntry_of_rewrite (Entries.nodup_keys_put hnodup segment u) hleaf h
  refine ⟨ws, rfl, fun key hkey => ?_, ?_⟩
  · have hsame := hws key
    rw [Entries.lookup_put_of_ne es u hkey, hes key] at hsame
    exact (Option.some.inj hsame).symm
  · have hentry := hws segment
    rwa [Entries.lookup_put_self] at hentry

theorem exists_inside_of_lookup (hmerged : (Value.object es).merged = .object es)
    (hfixed : shape.rewrite (.object es) = some (.object es)) (h : es.lookup segment = some u) :
    ∃ inner, shape.inside segment = some inner ∧ u.merged = u ∧ inner.rewrite u = some u := by
  obtain ⟨-, -, hes⟩ := rewriteEntry_of_fixed hmerged hfixed
  have hentry := hes segment
  rw [h] at hentry
  cases hinside : shape.inside segment with
  | none => simp [rewriteEntry, hinside] at hentry
  | some inner =>
      rw [rewriteEntry_of_inside hinside] at hentry
      obtain ⟨x, hx, heq⟩ := Option.map_eq_some_iff.mp hentry
      cases heq
      exact ⟨inner, rfl, (Value.merged_object_iff.mp hmerged).2 _ (mem_of_lookup h), hx⟩

/-- Once a value has been put into a document that rewriting leaves as it is, rewriting affects that
value alone. -/
theorem walk?_of_puts (hmerged : w.merged = w) (hfixed : shape.rewrite w = some w)
    (hputs : Puts v segments w w') (h : shape.rewrite w' = some w'') :
    (∀ inner, shape.at? segments = some inner →
        ∃ x, inner.rewrite v = some x ∧ walk? w'' segments = some x) ∧
      ∀ other, ¬ segments <+: other → ¬ other <+: segments → walk? w'' other = walk? w other := by
  induction hputs generalizing shape w'' with
  | here =>
      refine ⟨fun inner hinner => ?_, fun other hother => absurd List.nil_prefix hother⟩
      cases hinner
      exact ⟨w'', h, rfl⟩
  | @inside es segment rest u u' hlookup hputs ih =>
      obtain ⟨ws, rfl, hothers, hentry⟩ := rewriteEntry_of_put hmerged hfixed h
      obtain ⟨inner, hinside, hu, hfixed⟩ := exists_inside_of_lookup hmerged hfixed hlookup
      rw [rewriteEntry_of_inside hinside] at hentry
      obtain ⟨x, hx, hentry⟩ := Option.map_eq_some_iff.mp hentry
      obtain ⟨hself, hrest⟩ := ih hu hfixed hx
      have hwalk (path : List String) : walk? (.object ws) (segment :: path) = walk? x path := by
        rw [walk?, Value.get?, ← hentry, Option.bind_some]
      refine ⟨fun inner' hinner' => ?_, fun other hother hother' => ?_⟩
      · rw [at?, hinside, Option.bind_some] at hinner'
        rw [hwalk]
        exact hself inner' hinner'
      · match other with
        | [] => exact absurd List.nil_prefix hother'
        | key :: more =>
          by_cases hkey : key = segment
          · subst hkey
            rw [List.cons_prefix_cons, not_and] at hother hother'
            rw [hwalk, hrest more (hother rfl) (hother' rfl), walk?, Value.get?, hlookup,
              Option.bind_some]
          · rw [walk?, walk?, Value.get?, Value.get?, hothers key hkey]
  | @new es segment hlookup =>
      obtain ⟨ws, rfl, hothers, hentry⟩ := rewriteEntry_of_put hmerged hfixed h
      refine ⟨fun inner hinner => ?_, fun other hother hother' => ?_⟩
      · rw [at?, Option.bind_eq_some_iff] at hinner
        obtain ⟨_, hinside, hinner⟩ := hinner
        cases hinner
        rw [rewriteEntry_of_inside hinside] at hentry
        obtain ⟨x, hx, hentry⟩ := Option.map_eq_some_iff.mp hentry
        exact ⟨x, hx, by rw [walk?, Value.get?, ← hentry]; rfl⟩
      · match other with
        | [] => exact absurd List.nil_prefix hother'
        | key :: more =>
          have hkey : key ≠ segment := by
            rintro rfl
            exact hother (List.cons_prefix_cons.mpr ⟨rfl, List.nil_prefix⟩)
          rw [walk?, walk?, Value.get?, Value.get?, hothers key hkey]

theorem exists_at?_of_walk? (hmerged : w.merged = w) (hfixed : shape.rewrite w = some w)
    (h : walk? w path = some v) : ∃ inner, shape.at? path = some inner := by
  induction path generalizing shape w with
  | nil => exact ⟨shape, rfl⟩
  | cons segment rest ih =>
      obtain ⟨es, u, rfl, hu, h⟩ := walk?_cons_eq_some_iff.mp h
      obtain ⟨inner, hinside, hmerged, hfixed⟩ := exists_inside_of_lookup hmerged hfixed hu
      rw [at?, hinside, Option.bind_some]
      exact ih hmerged hfixed h

end Shape

variable {s s' : Settings} {key : String}

theorem rewrite_toValue (h : s.IsStored) : shape.rewrite s.toValue = some s.toValue := by
  rw [rewrite_shape, ofValue?_toValue h, Option.map_some]

theorem get_eq_ok_iff : s.get key = .ok v ↔ walk? s.toValue (Text.split '.' key) = some v := by
  rw [get]
  split <;> simp_all

theorem withValue_eq_ok_iff :
    s.withValue key v = .ok s' ↔ ∃ parent leaf w, Text.split '.' key = parent ++ [leaf] ∧
      leaf ≠ "" ∧ modifyAt? (putLeaf parent leaf v) s.toValue parent = some w ∧
      ofValue? w = some s' := by
  obtain ⟨parent, leaf, hkey⟩ : ∃ parent leaf, Text.split '.' key = parent ++ [leaf] :=
    ⟨_, _, (List.dropLast_concat_getLast (Text.split_ne_nil '.' key)).symm⟩
  simp only [withValue, hkey, List.getLastD_concat, List.dropLast_concat, beq_iff_eq]
  constructor
  · intro h
    split at h
    · cases h
    · rename_i hleaf
      split at h
      · cases h
      · rename_i w hw
        split at h
        · cases h
        · rename_i changed hchanged
          cases h
          exact ⟨parent, leaf, w, rfl, hleaf, hw, hchanged⟩
  · rintro ⟨parent', leaf', w, heq, hleaf, hw, hchanged⟩
    obtain ⟨rfl, hsingleton⟩ := List.append_inj' heq rfl
    cases hsingleton
    simp only [if_neg hleaf, hw, hchanged]

theorem exists_at?_of_mem_openMaps {parent : List String} (h : parent ∈ openMaps) (leaf : String) :
    ∃ inner, shape.at? (parent ++ [leaf]) = some inner := by
  simp only [openMaps, List.mem_cons, List.not_mem_nil, or_false] at h
  rcases h with rfl | rfl | rfl | rfl
  · exact ⟨_, rfl⟩
  · exact ⟨_, rfl⟩
  · exact ⟨_, rfl⟩
  · exact ⟨_, rfl⟩

theorem isStored_of_withValue (h : s.withValue key v = .ok s') : s'.IsStored := by
  obtain ⟨-, -, w, -, -, -, hw⟩ := withValue_eq_ok_iff.mp h
  exact isStored_of_ofValue? hw

theorem exists_at?_of_withValue (hstored : s.IsStored) (h : s.withValue key v = .ok s') :
    ∃ kind, shape.at? (Text.split '.' key) = some kind := by
  obtain ⟨parent, leaf, w, hkey, -, hw, -⟩ := withValue_eq_ok_iff.mp h
  rw [hkey]
  rcases walk?_or_mem_openMaps hw with ⟨u, hu⟩ | hopen
  · exact Shape.exists_at?_of_walk? (merged_toValue hstored) (rewrite_toValue hstored) hu
  · exact exists_at?_of_mem_openMaps hopen leaf

theorem walk?_of_withValue (hstored : s.IsStored) (h : s.withValue key v = .ok s') :
    (∀ kind, shape.at? (Text.split '.' key) = some kind →
        ∃ x, kind.rewrite v = some x ∧ walk? s'.toValue (Text.split '.' key) = some x) ∧
      ∀ path, ¬ Text.split '.' key <+: path → ¬ path <+: Text.split '.' key →
        walk? s'.toValue path = walk? s.toValue path := by
  obtain ⟨parent, leaf, w, hkey, -, hw, hread⟩ := withValue_eq_ok_iff.mp h
  rw [hkey]
  refine Shape.walk?_of_puts (merged_toValue hstored) (rewrite_toValue hstored)
    (puts_of_modifyAt? hw) ?_
  rw [rewrite_shape, hread, Option.map_some]

theorem withValue_of_get (hstored : s.IsStored) (hkey : (Text.split '.' key).getLast? ≠ some "")
    (h : s.get key = .ok v) : s.withValue key v = .ok s := by
  obtain ⟨parent, leaf, hsplit⟩ : ∃ parent leaf, Text.split '.' key = parent ++ [leaf] :=
    ⟨_, _, (List.dropLast_concat_getLast (Text.split_ne_nil '.' key)).symm⟩
  rw [get_eq_ok_iff, hsplit] at h
  rw [hsplit, List.getLast?_concat] at hkey
  exact withValue_eq_ok_iff.mpr ⟨parent, leaf, s.toValue, hsplit, fun heq => hkey (heq ▸ rfl),
    modifyAt?_of_walk? h, ofValue?_toValue hstored⟩

theorem exists_of_isOk {ε α : Type} {x : Except ε α} (h : x.isOk = true) : ∃ a, x = .ok a := by
  cases x with
  | ok a => exact ⟨a, rfl⟩
  | error e => cases h

/-- A value put under a key leaves what other keys read as it was, as long as neither key leads to
the other. The key itself reads the value in the spelling in which its option is written, unless the
option is an object of options. What a key reads may be put back without effect. -/
theorem get_withValue (hstored : s.IsStored) (key : String) (v : Value) :
    (∀ s', s.withValue key v = .ok s' →
      (∀ other, ¬ Text.split '.' key <+: Text.split '.' other →
        ¬ Text.split '.' other <+: Text.split '.' key → s'.get other = s.get other) ∧
      ∃ kind, shape.at? (Text.split '.' key) = some kind ∧
        (kind.hasRecord = false → v.merged = v → s'.get key = .ok (kind.canonical v))) ∧
      (s.get key = .ok v → (Text.split '.' key).getLast? ≠ some "" →
        s.withValue key v = .ok s) := by
  refine ⟨fun s' h => ?_, fun h hkey => withValue_of_get hstored hkey h⟩
  obtain ⟨hself, hothers⟩ := walk?_of_withValue hstored h
  refine ⟨fun other hkey hother => ?_, ?_⟩
  · rw [get, get, hothers _ hkey hother]
  · obtain ⟨kind, hkind⟩ := exists_at?_of_withValue hstored h
    obtain ⟨x, hx, hwalk⟩ := hself kind hkind
    refine ⟨kind, hkind, fun hrecord hmerged => get_eq_ok_iff.mpr ?_⟩
    rw [hwalk, Shape.eq_canonical_of_rewrite hrecord hmerged hx]

theorem get_withValue_direction :
    let v := Value.string "descending"
    ∃ s', default.withValue "sort.default_direction" v = .ok s' ∧
      s'.get "sort.allow_any_column" = default.get "sort.allow_any_column" ∧
      s'.get "sort.default_direction" = .ok (.string "desc") ∧
      s'.withValue "sort.default_direction" (.string "desc") = .ok s' := by
  intro v
  have hsplit : Text.split '.' "sort.default_direction" = ["sort", "default_direction"] := by decide
  obtain ⟨s', h⟩ : ∃ s', default.withValue "sort.default_direction" v = .ok s' :=
    exists_of_isOk (by decide +kernel)
  obtain ⟨hothers, kind, hkind, hself⟩ := (get_withValue isStored_default _ v).1 s' h
  have hother := hothers "sort.allow_any_column" (by decide) (by decide)
  rw [hsplit] at hkind
  obtain rfl : Shape.leaf .direction = kind := Option.some.inj hkind
  have hget : s'.get "sort.default_direction" = .ok (.string "desc") := hself rfl rfl
  have hback := (get_withValue (isStored_of_withValue h) _ (.string "desc")).2 hget
  exact ⟨s', h, hother, hget, hback (by rw [hsplit]; decide)⟩

/-- The name of a connective may also be the only key of an object, with null for its value, but it
is not written so. -/
theorem get_withValue_connective :
    let v := Value.object [("or", .null)]
    ∃ s', default.withValue "search.mode" v = .ok s' ∧
      s'.get "search.mode" = .ok (.string "or") ∧ (Value.string "or").same v = false := by
  intro v
  have hsplit : Text.split '.' "search.mode" = ["search", "mode"] := by decide
  obtain ⟨s', h⟩ : ∃ s', default.withValue "search.mode" v = .ok s' :=
    exists_of_isOk (by decide +kernel)
  obtain ⟨x, hx, hwalk⟩ := (walk?_of_withValue isStored_default h).1 (.leaf .connective) (by
    rw [hsplit]
    rfl)
  obtain rfl : Value.string "or" = x := Option.some.inj hx
  exact ⟨s', h, get_eq_ok_iff.mpr hwalk, rfl⟩

end RequestQuery.Settings
