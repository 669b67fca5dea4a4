import Mathlib.Data.List.Perm.Subperm
import RequestQuery.Proofs.KeyedEntries

namespace RequestQuery.Json

section

open Float.Model (UnpackedFloat)

theorem eq_of_then_compare_eq {e e' : Int} {m m' : Nat}
    (h : (compare e e').then (compare m m') = .eq) : e = e' ∧ m = m' := by
  rw [Ordering.then_eq_eq] at h
  exact ⟨Std.LawfulEqOrd.eq_of_compare h.1, Std.LawfulEqOrd.eq_of_compare h.2⟩

theorem eq_or_zero_of_compare_eq {x y : UnpackedFloat} (h : x.compare y = some .eq) :
    x = y ∨ ∃ s s', x = .zero s ∧ y = .zero s' := by
  cases x with
  | notANumber => cases h
  | infinity s =>
      cases y with
      | notANumber => cases h
      | infinity s' =>
          left
          cases s <;> cases s' <;> cases h <;> rfl
      | zero s' | finite s' m' e' => cases s <;> cases h
  | zero s =>
      cases y with
      | notANumber => cases h
      | zero s' => exact .inr ⟨s, s', rfl, rfl⟩
      | infinity s' | finite s' m' e' => cases s' <;> cases h
  | finite s m e hm =>
      cases y with
      | notANumber => cases h
      | infinity s' => cases s <;> cases s' <;> cases h
      | zero s' => cases s <;> cases h
      | finite s' m' e' hm' =>
          left
          cases s <;> cases s'
          case positive.positive =>
            obtain ⟨rfl, rfl⟩ := eq_of_then_compare_eq (Option.some.inj h)
            rfl
          case negative.negative =>
            obtain ⟨rfl, rfl⟩ := eq_of_then_compare_eq (Ordering.swap_eq_eq.mp (Option.some.inj h))
            rfl
          case positive.negative => cases h
          case negative.positive => cases h

theorem float_beq_iff {x y : Float} :
    (x == y) = true ↔ x.toModel.unpack.compare y.toModel.unpack = some .eq := by
  change (x.toModel.unpack.compare y.toModel.unpack == some .eq) = true ↔ _
  exact beq_iff_eq

theorem float_beq_symm {x y : Float} (h : (x == y) = true) : (y == x) = true := by
  rw [float_beq_iff] at h ⊢
  rcases eq_or_zero_of_compare_eq h with heq | ⟨s, s', hx, hy⟩
  · rwa [heq] at h ⊢
  · rw [hx, hy]
    rfl

theorem float_beq_trans {x y z : Float} (h : (x == y) = true) (h' : (y == z) = true) :
    (x == z) = true := by
  rw [float_beq_iff] at h h' ⊢
  rcases eq_or_zero_of_compare_eq h with heq | ⟨s, s', hx, hy⟩
  · rwa [heq]
  · -- A zero is equal to what any other zero is equal to.
    rcases eq_or_zero_of_compare_eq h' with heq' | ⟨-, t, -, hz⟩
    · rwa [← heq']
    · rw [hx, hz]
      rfl

end

theorem Number.same_symm {a b : Number} (h : a.same b = true) : b.same a = true := by
  cases a <;> cases b
  case int.int => exact beq_iff_eq.mpr (beq_iff_eq.mp h).symm
  case float.float => exact float_beq_symm h
  case int.float => cases h
  case float.int => cases h

theorem Number.same_trans {a b c : Number} (h : a.same b = true) (h' : b.same c = true) :
    a.same c = true := by
  cases a <;> cases b <;> cases c
  case int.int.int => exact beq_iff_eq.mpr ((beq_iff_eq.mp h).trans (beq_iff_eq.mp h'))
  case float.float.float => exact float_beq_trans h h'
  all_goals first | cases h | cases h'

namespace Value

theorem induction {motive : Value → Prop} (null : motive null) (bool : ∀ b, motive (bool b))
    (number : ∀ n, motive (number n)) (string : ∀ s, motive (string s))
    (array : ∀ items, (∀ v ∈ items, motive v) → motive (array items))
    (object : ∀ es : Entries, (∀ e ∈ es, motive e.2) → motive (object es)) (v : Value) : motive v :=
  @Value.rec motive (fun items => ∀ v ∈ items, motive v) (fun es => ∀ e ∈ es, motive e.2)
    (fun e => motive e.2) null bool number string array object
    (List.forall_mem_nil _) (fun _ _ hv hrest => List.forall_mem_cons.mpr ⟨hv, hrest⟩)
    (List.forall_mem_nil _) (fun _ _ he hrest => List.forall_mem_cons.mpr ⟨he, hrest⟩)
    (fun _ _ hv => hv) v

section

variable {v : Value} {items others : List Value} {es fs : Entries}

theorem null_same_iff : null.same v = true ↔ v = .null := by
  cases v <;> simp [same]

theorem bool_same_iff {b : Bool} : (bool b).same v = true ↔ v = .bool b := by
  cases v with
  | bool b' => rw [same, beq_iff_eq, bool.injEq, eq_comm]
  | _ => simp [same]

theorem string_same_iff {s : String} : (string s).same v = true ↔ v = .string s := by
  cases v with
  | string s' => rw [same, beq_iff_eq, string.injEq, eq_comm]
  | _ => simp [same]

theorem number_same_iff {a : Number} :
    (number a).same v = true ↔ ∃ b, v = .number b ∧ a.same b = true := by
  cases v <;> simp [same]

theorem sameItems_iff :
    sameItems items others = true ↔ List.Forall₂ (fun x y => x.same y = true) items others := by
  induction items generalizing others with
  | nil => cases others <;> simp [sameItems]
  | cons x rest ih => cases others <;> simp [sameItems, ih]

theorem array_same_iff : (array items).same v = true ↔
    ∃ others, v = .array others ∧ List.Forall₂ (fun x y => x.same y = true) items others := by
  cases v <;> simp [same, sameItems_iff]

theorem sameEntries_iff :
    sameEntries es fs = true ↔ ∀ e ∈ es, ∃ w, fs.lookup e.1 = some w ∧ e.2.same w = true := by
  induction es with
  | nil => simp [sameEntries]
  | cons e rest ih =>
      obtain ⟨key, v⟩ := e
      rw [sameEntries, Bool.and_eq_true, ih, List.forall_mem_cons]
      cases fs.lookup key <;> simp

theorem object_same_iff : (object es).same v = true ↔ ∃ fs : Entries, v = .object fs ∧
    es.length = fs.length ∧ ∀ e ∈ es, ∃ w, fs.lookup e.1 = some w ∧ e.2.same w = true := by
  cases v <;> simp [same, sameEntries_iff]

end

theorem same_trans {u v w : Value} (h : u.same v = true) (h' : v.same w = true) :
    u.same w = true := by
  induction u using induction generalizing v w with
  | null =>
      rw [null_same_iff] at h
      rwa [h] at h'
  | bool b =>
      rw [bool_same_iff] at h
      rwa [h] at h'
  | string s =>
      rw [string_same_iff] at h
      rwa [h] at h'
  | number a =>
      obtain ⟨b, rfl, hab⟩ := number_same_iff.mp h
      obtain ⟨c, rfl, hbc⟩ := number_same_iff.mp h'
      exact number_same_iff.mpr ⟨c, rfl, Number.same_trans hab hbc⟩
  | array items ih =>
      obtain ⟨ys, rfl, hitems⟩ := array_same_iff.mp h
      obtain ⟨zs, rfl, hitems'⟩ := array_same_iff.mp h'
      clear h h'
      refine array_same_iff.mpr ⟨zs, rfl, ?_⟩
      induction hitems generalizing zs with
      | nil => exact hitems'
      | cons hhead _ ihrest =>
          rw [List.forall_mem_cons] at ih
          obtain ⟨z, zs, hhead', hrest', rfl⟩ := List.forall₂_cons_left_iff.mp hitems'
          exact .cons (ih.1 hhead hhead') (ihrest ih.2 zs hrest')
  | object es ih =>
      obtain ⟨fs, rfl, hlength, hes⟩ := object_same_iff.mp h
      obtain ⟨gs, rfl, hlength', hfs⟩ := object_same_iff.mp h'
      refine object_same_iff.mpr ⟨gs, rfl, hlength.trans hlength', fun e he => ?_⟩
      obtain ⟨v, hv, hsame⟩ := hes e he
      obtain ⟨w, hw, hsame'⟩ := hfs (e.1, v) (mem_of_lookup hv)
      exact ⟨w, hw, ih e he hsame hsame'⟩

theorem merged_array_iff {items : List Value} :
    (array items).merged = array items ↔ ∀ v ∈ items, v.merged = v := by
  rw [merged, mergedItems_eq_map, array.injEq]
  simpa using List.map_inj_left (l := items) (f := merged) (g := id)

/-- What an object with distinct keys is equal to has the same keys. As both have equally many
entries, it is enough that none of the keys is missing. -/
theorem keys_perm_of_same {es fs : Entries} (hnodup : (es.map Prod.fst).Nodup)
    (h : (object es).same (object fs) = true) : (es.map Prod.fst).Perm (fs.map Prod.fst) := by
  obtain ⟨fs, ⟨⟩, hlength, hes⟩ := object_same_iff.mp h
  have hsub : es.map Prod.fst ⊆ fs.map Prod.fst := by
    intro key hkey
    obtain ⟨e, he, rfl⟩ := List.mem_map.mp hkey
    obtain ⟨w, hw, -⟩ := hes e he
    exact List.mem_map.mpr ⟨_, mem_of_lookup hw, rfl⟩
  exact (hnodup.subperm hsub).perm_of_length_le (by simp [hlength])

/-- Where an object has one entry for every key, the sides of an equation may change places. -/
theorem same_symm {u v : Value} (hu : u.merged = u) (h : u.same v = true) : v.same u = true := by
  induction u using induction generalizing v with
  | null =>
      obtain rfl := null_same_iff.mp h
      exact h
  | bool b =>
      obtain rfl := bool_same_iff.mp h
      exact h
  | string s =>
      obtain rfl := string_same_iff.mp h
      exact h
  | number a =>
      obtain ⟨b, rfl, hab⟩ := number_same_iff.mp h
      exact number_same_iff.mpr ⟨a, rfl, Number.same_symm hab⟩
  | array items ih =>
      obtain ⟨ys, rfl, hitems⟩ := array_same_iff.mp h
      rw [merged_array_iff] at hu
      exact array_same_iff.mpr ⟨items, rfl, .flip <|
        forall₂_of_forall_mem hitems fun x hx y hxy => ih x hx (hu x hx) hxy⟩
  | object es ih =>
      obtain ⟨fs, rfl, hlength, hes⟩ := object_same_iff.mp h
      obtain ⟨hnodup, hmerged⟩ := merged_object_iff.mp hu
      have hperm := keys_perm_of_same hnodup h
      refine object_same_iff.mpr ⟨es, rfl, hlength.symm, fun f hf => ?_⟩
      obtain ⟨e, he, hkey⟩ := List.mem_map.mp (hperm.mem_iff.mpr (List.mem_map_of_mem hf))
      obtain ⟨w, hw, hsame⟩ := hes e he
      refine ⟨e.2, (lookup_eq_some_iff_mem hnodup).mpr (hkey ▸ he), ?_⟩
      -- The entry of the second object that the first one's is equal to is the one asked about.
      rw [hkey, (lookup_eq_some_iff_mem (hperm.nodup_iff.mp hnodup)).mpr hf] at hw
      cases hw
      exact ih e he (hmerged e he) hsame

end Value

end RequestQuery.Json
