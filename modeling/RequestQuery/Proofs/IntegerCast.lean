import RequestQuery.Param
import RequestQuery.Proofs.DecimalRounding

namespace RequestQuery

open Json (Value)
open Float.Model.UnpackedFloat (Sign)
open Text (SpellsSigned)

/-- The integer that a value stands for. Its fraction is cut off, and nothing is rounded. -/
inductive Json.Value.HasInteger : Value → Int → Prop
  | bool (b) : HasInteger (.bool b) (if b then 1 else 0)
  | int (n) : HasInteger (.number (.int n)) n
  | float {x n} : Decimal.truncate? x = some n → HasInteger (.number (.float x)) n
  | text {s sign d} : SpellsSigned (Text.strip s.toList) sign d →
      HasInteger (.string s) (sign.apply (d.value.num / d.value.den : Nat))

/-- A value whose integer is too large for the word, and what the cast makes of it all the same. -/
inductive Json.Value.SlipsThrough : Value → Value → Prop
  | int {n} : Text.inSigned64 n = false → SlipsThrough (.number (.int n)) (.number (.int n))
  | text {s d} : SpellsSigned (Text.strip s.toList) .negative d →
      (2 ^ 63 + 1) * d.value.den ≤ d.value.num → d.value.num ≤ (2 ^ 63 + 2 ^ 10) * d.value.den →
      SlipsThrough (.string s) (.number (.int (-2 ^ 63)))

theorem Param.ofValue_int (n : Int) :
    Param.ofValue (.number (.int n)) =
      if Text.inSigned64 n = true then .integer n else .float (Float.ofInt n) := by
  rw [Param.ofValue]
  exact if_congr Text.inSigned64_iff.symm rfl rfl

theorem inSigned64_of_wholePart? {x : Float} {n : Int} (h : wholePart? x = some n) :
    Text.inSigned64 n = true :=
  (Option.filter_eq_some_iff.mp h).2

theorem Json.Value.SlipsThrough.head?_strip {s : String} {w : Value}
    (h : (Value.string s).SlipsThrough w) : (Text.strip s.toList).head? = some '-' := by
  cases h with
  | text hd =>
      generalize Text.strip s.toList = text at hd ⊢
      cases hd
      rfl

theorem Json.Value.hasInteger_of_readInt? {s : String} {n : Int}
    (h : Text.readInt? (Text.strip s.toList) = some n) : (Value.string s).HasInteger n := by
  obtain ⟨sign, d, k, hd, hvalue, rfl⟩ := Text.exists_spellsSigned_of_readInt? h
  have hinteger := HasInteger.text hd
  rwa [hvalue, Nat.div_one] at hinteger

namespace CastRule

/-- The cast gives an integer of the word, or the integer that it was given. -/
theorem exists_of_toInt {v w : Value} (h : toInt v = .ok w) :
    (∃ n, w = .number (.int n) ∧ (Text.inSigned64 n = true ∨ v = w)) ∧ ∃ n, v.HasInteger n := by
  cases v with
  | null => cases h
  | array items => cases h
  | object entries => cases h
  | bool b =>
      cases h
      refine ⟨⟨_, rfl, .inl ?_⟩, _, .bool b⟩
      cases b <;> decide
  | number x =>
      cases x with
      | int n =>
          cases h
          exact ⟨⟨n, rfl, .inr rfl⟩, n, .int n⟩
      | float x =>
          rw [toInt] at h
          split at h
          case h_1 n hx =>
            cases h
            exact ⟨⟨n, rfl, .inl (inSigned64_of_wholePart? hx)⟩, n,
              .float (Option.filter_eq_some_iff.mp hx).1⟩
          case h_2 => cases h
  | string s =>
      rw [toInt] at h
      split at h
      case h_1 n hread =>
        cases h
        obtain ⟨hread, hrange⟩ := Option.filter_eq_some_iff.mp hread
        rw [Text.toList_trim] at hread
        exact ⟨⟨n, rfl, .inl hrange⟩, n, Json.Value.hasInteger_of_readInt? hread⟩
      case h_2 =>
        split at h
        case h_1 => cases h
        case h_2 x hread =>
          split at h
          case h_1 n hx =>
            cases h
            obtain ⟨sign, d, hd⟩ := Text.exists_spellsSigned_of_readFloat? hread
              (Option.filter_eq_some_iff.mp hx).1
            rw [Text.toList_trim] at hd
            exact ⟨⟨n, rfl, .inl (inSigned64_of_wholePart? hx)⟩, _, .text hd⟩
          case h_2 => cases h

theorem inSigned64_apply_iff (sign : Sign) (d : Decimal.Numeral) :
    Text.inSigned64 (sign.apply (d.value.num / d.value.den : Nat)) = false ↔
      (match sign with | .positive => 2 ^ 63 | .negative => 2 ^ 63 + 1) * d.value.den ≤
        d.value.num := by
  rw [← Nat.le_div_iff_mul_le d.den_value_pos, ← Bool.not_eq_true, Text.inSigned64_iff]
  generalize d.value.num / d.value.den = q
  cases sign <;> simp only [Sign.apply] <;> omega

theorem toInt_of_spellsSigned {s : String} {sign : Sign} {d : Decimal.Numeral}
    (h : SpellsSigned (Text.strip s.toList) sign d)
    (hrange : Text.inSigned64 (sign.apply (d.value.num / d.value.den : Nat)) = false) :
    (sign = .negative ∧ d.value.num ≤ (2 ^ 63 + 2 ^ 10) * d.value.den ∧
      toInt (.string s) = .ok (.number (.int (-2 ^ 63)))) ∨
    (¬ (sign = .negative ∧ d.value.num ≤ (2 ^ 63 + 2 ^ 10) * d.value.den) ∧
      toInt (.string s) = .error .integerOutOfRange) := by
  rw [← Text.toList_trim] at h
  have hword : Text.readSigned64? (Text.trim s) = none := by
    rw [Text.readSigned64?, Option.filter_eq_none_iff]
    intro n hread
    rw [h.eq_of_readInt? hread, hrange]
    decide
  have hlarge : 2 ^ 63 * d.value.den ≤ d.value.num := by
    have hle := (inSigned64_apply_iff sign d).mp hrange
    cases sign with
    | positive => exact hle
    | negative => exact (Nat.mul_le_mul_right _ (by decide)).trans hle
  have hread := Text.readFloat?_of_spellsSigned h
  have hwhole := Binary64.wholePart?_signedFloat_eq_some_iff hlarge sign
  simp only [toInt, hword, hread]
  cases hpart : wholePart? (Text.signedFloat sign d) with
  | some n =>
      obtain ⟨hsign, hle, rfl⟩ := (hwhole n).mp hpart
      exact .inl ⟨hsign, hle, rfl⟩
  | none =>
      refine .inr ⟨fun ⟨hsign, hle⟩ => ?_, rfl⟩
      rw [(hwhole _).mpr ⟨hsign, hle, rfl⟩] at hpart
      cases hpart

theorem toInt_of_slipsThrough {v w : Value} (h : v.SlipsThrough w) : toInt v = .ok w := by
  rcases h with - | ⟨hd, hlow, hhigh⟩
  · rfl
  · rcases toInt_of_spellsSigned hd ((inSigned64_apply_iff .negative _).mpr hlow) with
      ⟨-, -, h⟩ | ⟨h, -⟩
    · exact h
    · exact absurd ⟨rfl, hhigh⟩ h

theorem toInt_of_hasInteger {v : Value} {n : Int} (h : v.HasInteger n)
    (hrange : Text.inSigned64 n = false) :
    (∃ w, v.SlipsThrough w) ∨ toInt v = .error .integerOutOfRange := by
  cases h with
  | bool b => cases b <;> exact absurd hrange (by decide)
  | int => exact .inl ⟨_, .int hrange⟩
  | @float x _ hx =>
      have hpart : wholePart? x = none := by
        rw [wholePart?, hx, Option.filter_some, hrange, if_neg (by decide)]
      refine .inr ?_
      simp only [toInt, hpart]
  | text hd =>
      rcases toInt_of_spellsSigned hd hrange with ⟨rfl, hle, -⟩ | ⟨-, h⟩
      · exact .inl ⟨_, .text hd ((inSigned64_apply_iff .negative _).mp hrange) hle⟩
      · exact .inr h

/-- What the cast to integers gives is bound as an integer, unless it was given an integer that is
too large. A value whose integer is too large is refused, unless it is an integer or is spelled as a
negative number that is rounded to the least integer of the word. -/
theorem ofValue_cast_int {v : Value} (hv : v.isNull = false) :
    (∀ w, int.cast v = .ok w → (∃ n, v.HasInteger n) ∧
      ((∃ n, Param.ofValue w = .integer n) ↔
        ∀ n, v = .number (.int n) → Text.inSigned64 n = true)) ∧
    ∀ n, v.HasInteger n → Text.inSigned64 n = false →
      (∀ w, int.cast v = .ok w ↔ v.SlipsThrough w) ∧
      ((∀ w, ¬ v.SlipsThrough w) → int.cast v = .error .integerOutOfRange) := by
  have hcast : int.cast v = toInt v := by
    rw [cast, hv]
    rfl
  rw [hcast]
  refine ⟨fun w h => ?_, fun n hn hrange => ⟨fun w => ⟨fun h => ?_, toInt_of_slipsThrough⟩,
    fun hnone => ?_⟩⟩
  · obtain ⟨⟨n, rfl, hw⟩, hinteger⟩ := exists_of_toInt h
    refine ⟨hinteger, ?_⟩
    rw [Param.ofValue_int]
    constructor
    · rintro ⟨k, hk⟩ m rfl
      cases h
      by_contra hrange
      rw [if_neg hrange] at hk
      cases hk
    · intro hall
      have hrange : Text.inSigned64 n = true := hw.elim id fun hv => hall n hv
      exact ⟨n, if_pos hrange⟩
  · rcases toInt_of_hasInteger hn hrange with ⟨w', hw⟩ | herror
    · rw [toInt_of_slipsThrough hw] at h
      cases h
      exact hw
    · rw [h] at herror
      cases herror
  · rcases toInt_of_hasInteger hn hrange with ⟨w, hw⟩ | herror
    · exact absurd hw (hnone w)
    · exact herror

theorem ofValue_cast_int_text :
    let v : Value := .string " 9223372036854775808 "
    v.isNull = false ∧ v.HasInteger (2 ^ 63) ∧ Text.inSigned64 (2 ^ 63) = false ∧
      (∀ w, ¬ v.SlipsThrough w) ∧ int.cast v = .error .integerOutOfRange := by
  intro v
  have hinteger : v.HasInteger (2 ^ 63) := Json.Value.hasInteger_of_readInt? (by decide +kernel)
  have hrange : Text.inSigned64 (2 ^ 63) = false := by decide
  have hnone : ∀ w, ¬ v.SlipsThrough w := fun w hslips =>
    absurd hslips.head?_strip (by decide +kernel)
  exact ⟨rfl, hinteger, hrange, hnone, ((ofValue_cast_int rfl).2 _ hinteger hrange).2 hnone⟩

/-- An integer that is too large is bound as a float, and a text becomes another integer. -/
theorem cast_int_too_large :
    let v : Value := .number (.int 9223372036854775808)
    let s : Value := .string "-9223372036854775809"
    (v.HasInteger (2 ^ 63) ∧ Text.inSigned64 (2 ^ 63) = false ∧ int.cast v = .ok v ∧
      ∀ n, Param.ofValue v ≠ .integer n) ∧
    s.HasInteger (-2 ^ 63 - 1) ∧ Text.inSigned64 (-2 ^ 63 - 1) = false ∧
      int.cast s = .ok (.number (.int (-2 ^ 63))) := by
  intro v s
  have hread : Text.readInt? (Text.strip "-9223372036854775809".toList) = some (-2 ^ 63 - 1) := by
    decide +kernel
  obtain ⟨sign, d, k, hd, hvalue, hk⟩ := Text.exists_spellsSigned_of_readInt? hread
  refine ⟨⟨.int _, by decide, rfl, fun n h => ?_⟩, Json.Value.hasInteger_of_readInt? hread,
    by decide, ?_⟩
  · rw [Param.ofValue_int, if_neg (by decide)] at h
    cases h
  · cases sign with
    | positive =>
        rw [Sign.apply] at hk
        omega
    | negative =>
        rw [Sign.apply] at hk
        obtain rfl : k = 2 ^ 63 + 1 := by omega
        refine toInt_of_slipsThrough (.text hd ?_ ?_)
        · rw [hvalue]
          decide
        · rw [hvalue]
          decide

end CastRule

end RequestQuery
