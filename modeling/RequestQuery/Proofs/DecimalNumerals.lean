import Mathlib.Algebra.Order.Ring.Int
import RequestQuery.Decimal.Shortest
import RequestQuery.Proofs.SpacedText
import RequestQuery.Text.Case
import RequestQuery.Text.Numeral

namespace RequestQuery

open Float.Model.UnpackedFloat (Sign)

namespace Decimal.Numeral

theorem value_of_nonneg (n e : Nat) : (mk n e).value = ⟨n * 10 ^ e, 1⟩ := by
  rw [value, Ratio.scaled, if_pos (Int.natCast_nonneg e), Nat.pow_eq, Int.toNat_natCast]

theorem value_of_neg (n : Nat) {e : Nat} (he : e ≠ 0) :
    (mk n (-(e : Int))).value = ⟨n, 10 ^ e⟩ := by
  have hsign : ¬ 0 ≤ -(e : Int) := by omega
  have hend : (- -(e : Int)).toNat = e := by omega
  rw [value, Ratio.scaled, if_neg hsign, hend, Nat.pow_eq]

theorem value_cases (d : Numeral) :
    (∃ e : Nat, d.exponent = e ∧ d.value = ⟨d.digits * 10 ^ e, 1⟩) ∨
      ∃ e : Nat, e ≠ 0 ∧ d.exponent = -(e : Int) ∧ d.value = ⟨d.digits, 10 ^ e⟩ := by
  obtain ⟨n, exponent⟩ := d
  rcases lt_or_ge exponent 0 with hneg | hnonneg
  · obtain ⟨e, rfl⟩ : ∃ e : Nat, exponent = -(e : Int) := ⟨exponent.natAbs, by omega⟩
    have he : e ≠ 0 := by omega
    exact .inr ⟨e, he, rfl, value_of_neg n he⟩
  · obtain ⟨e, rfl⟩ := Int.eq_ofNat_of_zero_le hnonneg
    exact .inl ⟨e, rfl, value_of_nonneg n e⟩

theorem den_value_pos (d : Numeral) : 0 < d.value.den := by
  rcases value_cases d with ⟨e, -, hvalue⟩ | ⟨e, -, -, hvalue⟩
  · exact hvalue ▸ Nat.one_pos
  · exact hvalue ▸ Nat.pow_pos (by decide)

theorem toDigits_bounds {n : Nat} (hn : n ≠ 0) :
    10 ^ ((Nat.toDigits 10 n).length - 1) ≤ n ∧ n < 10 ^ (Nat.toDigits 10 n).length := by
  have hpos : 0 < (Nat.toDigits 10 n).length := Nat.length_toDigits_pos
  refine ⟨?_, (Nat.length_toDigits_le_iff (by decide) hpos).mp le_rfl⟩
  rcases Nat.eq_zero_or_pos ((Nat.toDigits 10 n).length - 1) with hzero | hlength
  · rw [hzero]
    omega
  · by_contra hlt
    have := (Nat.length_toDigits_le_iff (by decide) hlength).mpr (Nat.lt_of_not_le hlt)
    omega

theorem le_value {d : Numeral} (hd : d.digits ≠ 0) {k : Nat}
    (hk : (k : Int) < (Nat.toDigits 10 d.digits).length + d.exponent) :
    10 ^ k * d.value.den ≤ d.value.num := by
  have hle := (toDigits_bounds hd).1
  have hten : 0 < 10 := by decide
  rcases value_cases d with ⟨e, he, hvalue⟩ | ⟨e, -, he, hvalue⟩
  · rw [hvalue]
    calc
      10 ^ k * 1 ≤ 10 ^ ((Nat.toDigits 10 d.digits).length - 1) * 10 ^ e := by
        rw [Nat.mul_one, ← Nat.pow_add]
        exact Nat.pow_le_pow_right hten (by omega)
      _ ≤ d.digits * 10 ^ e := Nat.mul_le_mul_right _ hle
  · rw [hvalue, ← Nat.pow_add]
    exact (Nat.pow_le_pow_right hten (by omega)).trans hle

theorem value_lt {d : Numeral} (hd : d.digits ≠ 0) {k : Nat}
    (hk : (Nat.toDigits 10 d.digits).length + d.exponent ≤ k) :
    d.value.num < 10 ^ k * d.value.den := by
  have hlt := (toDigits_bounds hd).2
  have hten : 0 < 10 := by decide
  rcases value_cases d with ⟨e, he, hvalue⟩ | ⟨e, -, he, hvalue⟩
  · rw [hvalue]
    calc
      d.digits * 10 ^ e < 10 ^ (Nat.toDigits 10 d.digits).length * 10 ^ e :=
        Nat.mul_lt_mul_of_pos_right hlt (Nat.pow_pos hten)
      _ ≤ 10 ^ k * 1 := by
        rw [Nat.mul_one, ← Nat.pow_add]
        exact Nat.pow_le_pow_right hten (by omega)
  · rw [hvalue, ← Nat.pow_add]
    exact hlt.trans_le (Nat.pow_le_pow_right hten (by omega))

end Decimal.Numeral

namespace Text

theorem inSigned64_iff {n : Int} : inSigned64 n = true ↔ -2 ^ 63 ≤ n ∧ n < 2 ^ 63 := by
  rw [inSigned64, Bool.and_eq_true, decide_eq_true_eq, decide_eq_true_eq]
  rfl

/-- The digits behind a point, or none at all. -/
inductive SpellsFraction : List Char → List Char → Prop
  | none : SpellsFraction [] []
  | point {digits} : (∀ c ∈ digits, c.isDigit = true) → SpellsFraction ('.' :: digits) digits

/-- A whole number behind a marker, or none at all. -/
inductive SpellsExponent : List Char → Int → Prop
  | none : SpellsExponent [] 0
  | marked {marker word e} : marker = 'e' ∨ marker = 'E' → readInt? word = some e →
      SpellsExponent (marker :: word) e

/-- Digits around a point, at least one of them, and an exponent. -/
inductive SpellsNumeral : List Char → Decimal.Numeral → Prop
  | mk {whole point fraction rest e} : (∀ c ∈ whole, c.isDigit = true) →
      SpellsFraction point fraction → whole ++ fraction ≠ [] → SpellsExponent rest e →
      SpellsNumeral (whole ++ (point ++ rest))
        ⟨digitsFrom 0 (whole ++ fraction), e - fraction.length⟩

theorem readExponent?_eq_some_iff {word : List Char} {e : Int} :
    readExponent? word = some e ↔ SpellsExponent word e := by
  constructor
  · intro h
    cases word with
    | nil =>
        obtain rfl := Option.some_inj.mp h
        exact .none
    | cons c word =>
        rw [readExponent?] at h
        split at h
        case isTrue hmarker => exact .marked (by simpa using hmarker) h
        case isFalse => cases h
  · rintro (_ | ⟨hmarker, hword⟩)
    · rfl
    · rw [readExponent?, if_pos (by simpa using hmarker), hword]

theorem SpellsExponent.head {word : List Char} {e : Int} (h : SpellsExponent word e) :
    ∀ c ∈ word.head?, c.isDigit = false ∧ c ≠ '.' := by
  rintro c hc
  rcases h with _ | ⟨hmarker, -⟩
  · cases hc
  · obtain rfl := Option.some_inj.mp hc
    rcases hmarker with rfl | rfl <;> decide

/-- A numeral is read as the float nearest to it. -/
theorem readDecimal?_of_spellsNumeral {s : List Char} {d : Decimal.Numeral}
    (h : SpellsNumeral s d) : readDecimal? s = some (floatOfDecimal d.digits d.exponent) := by
  obtain ⟨hwhole, hpoint, hne, hrest⟩ := h
  rename_i whole point fraction rest e
  have hempty : (whole.isEmpty && fraction.isEmpty) = false := by
    simpa [Bool.eq_false_iff] using hne
  have hread := readExponent?_eq_some_iff.mpr hrest
  have hdigit : ∀ c ∈ rest.head?, c.isDigit = false := fun c hc => (hrest.head c hc).1
  rcases hpoint with _ | hfraction
  · simp only [readDecimal?, List.nil_append, takeWhile_append_eq hwhole hdigit,
      dropWhile_append_eq hwhole hdigit]
    split
    case h_1 => exact absurd rfl (hrest.head '.' rfl).2
    case h_2 =>
      simp only [hempty, hread]
      rfl
  · have hpoint : ∀ c ∈ ('.' :: (fraction ++ rest)).head?, c.isDigit = false := by
      rintro c hc
      obtain rfl := Option.some_inj.mp hc
      decide
    simp only [readDecimal?, List.cons_append, takeWhile_append_eq hwhole hpoint,
      dropWhile_append_eq hwhole hpoint, takeWhile_append_eq hfraction hdigit,
      dropWhile_append_eq hfraction hdigit, hempty, hread]
    rfl

theorem exists_spellsNumeral_of_readDecimal? {s : List Char} {x : Float}
    (h : readDecimal? s = some x) : ∃ d, SpellsNumeral s d := by
  have hdigits (t : List Char) : ∀ c ∈ t.takeWhile Char.isDigit, c.isDigit = true := fun c =>
    List.mem_takeWhile_imp
  have hwhole := hdigits s
  rw [← List.takeWhile_append_dropWhile (p := Char.isDigit) (l := s)]
  rw [readDecimal?] at h
  generalize s.takeWhile Char.isDigit = whole at h hwhole ⊢
  generalize s.dropWhile Char.isDigit = afterWhole at h ⊢
  have hspells {point fraction rest : List Char} (hpoint : SpellsFraction point fraction)
      (h : (if (whole.isEmpty && fraction.isEmpty) = true then none
        else (readExponent? rest).map fun e =>
          floatOfDecimal (digitsFrom 0 (whole ++ fraction)) (e - fraction.length)) = some x) :
      ∃ d, SpellsNumeral (whole ++ (point ++ rest)) d := by
    split at h
    case isTrue => cases h
    case isFalse hne =>
      obtain ⟨e, he, -⟩ := Option.map_eq_some_iff.mp h
      exact ⟨_, .mk hwhole hpoint (by simpa using hne) (readExponent?_eq_some_iff.mp he)⟩
  dsimp only at h
  split at h
  case h_1 t =>
    have ht := hspells (.point (hdigits t)) h
    rwa [List.cons_append, List.takeWhile_append_dropWhile] at ht
  case h_2 => exact hspells .none h

theorem SpellsNumeral.exists_head {s : List Char} {d : Decimal.Numeral} (h : SpellsNumeral s d) :
    ∃ c rest, s = c :: rest ∧ 46 ≤ c.toNat ∧ c.toNat ≤ 57 := by
  obtain ⟨hwhole, hpoint, hne, -⟩ := h
  rename_i whole point fraction rest e
  cases whole with
  | cons c whole =>
      obtain ⟨hlow, hhigh⟩ := Char.isDigit_iff_toNat.mp (hwhole c List.mem_cons_self)
      exact ⟨c, _, rfl, Nat.le_trans (by decide) hlow, hhigh⟩
  | nil =>
      rcases hpoint with _ | -
      · exact absurd rfl hne
      · exact ⟨'.', _, rfl, by decide, by decide⟩

theorem SpellsNumeral.ne_sign {c : Char} {rest : List Char} {d : Decimal.Numeral}
    (h : SpellsNumeral (c :: rest) d) : c ≠ '-' ∧ c ≠ '+' := by
  obtain ⟨_, _, hs, hlow, -⟩ := h.exists_head
  obtain ⟨rfl, -⟩ := List.cons.inj hs
  constructor
  · rintro rfl
    exact absurd hlow (by decide)
  · rintro rfl
    exact absurd hlow (by decide)

theorem readMagnitude?_of_spellsNumeral {word : List Char} {d : Decimal.Numeral}
    (h : SpellsNumeral word d) :
    readMagnitude? word = some (floatOfDecimal d.digits d.exponent) := by
  obtain ⟨c, rest, rfl, hlow, hhigh⟩ := h.exists_head
  have hlower : c.toLower = c := Case.toLower_eq_self (by omega)
  have hne {first : Char} (letters : List Char) (hfirst : 57 < first.toNat) :
      ((c :: rest).map Char.toLower == first :: letters) = false := by
    rw [List.map_cons, hlower, beq_eq_false_iff_ne]
    intro heq
    obtain rfl := (List.cons.inj heq).1
    omega
  rw [readMagnitude?]
  change (if ((c :: rest).map Char.toLower == 'i' :: ['n', 'f'] ||
    (c :: rest).map Char.toLower == 'i' :: "nfinity".toList) = true then _ else
      if ((c :: rest).map Char.toLower == 'n' :: ['a', 'n']) = true then _ else _) = _
  rw [hne _ (by decide), hne _ (by decide), hne _ (by decide), if_neg (by decide),
    if_neg (by decide), readDecimal?_of_spellsNumeral h]

theorem SpellsNumeral.of_readDigits? {word : List Char} {d : Decimal.Numeral} {n : Nat}
    (h : SpellsNumeral word d) (hread : readDigits? word = some n) : d.value = ⟨n, 1⟩ := by
  rw [readDigits?] at hread
  split at hread
  case isFalse => cases hread
  case isTrue hdigits =>
    obtain ⟨hwhole, hpoint, -, hrest⟩ := h
    simp only [Bool.and_eq_true, List.all_append, List.all_eq_true] at hdigits
    obtain ⟨-, -, hpointDigits, hrestDigits⟩ := hdigits
    -- Neither a point nor a marker is a digit.
    rcases hpoint with _ | -
    · rcases hrest with _ | ⟨hmarker, -⟩
      · obtain rfl := Option.some_inj.mp hread
        simp only [List.append_nil]
        exact (Decimal.Numeral.value_of_nonneg _ 0).trans (by rw [Nat.pow_zero, Nat.mul_one])
      · have hdigit := hrestDigits _ List.mem_cons_self
        rcases hmarker with rfl | rfl <;> exact absurd hdigit (by decide)
    · exact absurd (hpointDigits '.' List.mem_cons_self) (by decide)

/-- A numeral behind a sign, or without one. -/
inductive SpellsSigned : List Char → Sign → Decimal.Numeral → Prop
  | bare {word d} : SpellsNumeral word d → SpellsSigned word .positive d
  | plus {word d} : SpellsNumeral word d → SpellsSigned ('+' :: word) .positive d
  | minus {word d} : SpellsNumeral word d → SpellsSigned ('-' :: word) .negative d

/-- The float of a numeral behind a sign. -/
def signedFloat (sign : Sign) (d : Decimal.Numeral) : Float :=
  match sign with
  | .positive => floatOfDecimal d.digits d.exponent
  | .negative => (floatOfDecimal d.digits d.exponent).neg

theorem readFloat?_of_spellsSigned {s : String} {sign : Sign} {d : Decimal.Numeral}
    (h : SpellsSigned s.toList sign d) : readFloat? s = some (signedFloat sign d) := by
  rw [readFloat?]
  generalize s.toList = text at h ⊢
  rcases h with h | h | h
  · split
    case h_1 => exact absurd rfl h.ne_sign.1
    case h_2 => exact absurd rfl h.ne_sign.2
    case h_3 => exact readMagnitude?_of_spellsNumeral h
  · exact readMagnitude?_of_spellsNumeral h
  · exact congrArg (Option.map Float.neg) (readMagnitude?_of_spellsNumeral h)

theorem readInt?_minus (word : List Char) :
    readInt? ('-' :: word) = (readDigits? word).map fun n : Nat => -(n : Int) := by
  rw [readInt?]
  cases readDigits? word <;> rfl

theorem SpellsSigned.eq_of_readInt? {text : List Char} {sign : Sign} {d : Decimal.Numeral} {n : Int}
    (h : SpellsSigned text sign d) (hread : readInt? text = some n) :
    n = sign.apply (d.value.num / d.value.den : Nat) := by
  have hvalue {word : List Char} {k : Nat} (h : SpellsNumeral word d)
      (hread : readDigits? word = some k) : d.value.num / d.value.den = k := by
    rw [h.of_readDigits? hread, Nat.div_one]
  have hpositive {word : List Char} (h : SpellsNumeral word d)
      (hread : (readDigits? word).map Int.ofNat = some n) :
      n = (d.value.num / d.value.den : Nat) := by
    obtain ⟨k, hk, rfl⟩ := Option.map_eq_some_iff.mp hread
    rw [hvalue h hk]
    rfl
  rcases h with h | h | h
  · apply hpositive h
    rw [readInt?, readNat?] at hread
    · exact hread
    · rintro t rfl
      exact h.ne_sign.2 rfl
    · rintro t rfl
      exact h.ne_sign.1 rfl
  · exact hpositive h hread
  · rw [readInt?_minus] at hread
    obtain ⟨k, hk, rfl⟩ := Option.map_eq_some_iff.mp hread
    rw [hvalue h hk]
    rfl

theorem exists_spellsNumeral_of_readDigits? {word : List Char} {n : Nat}
    (hread : readDigits? word = some n) : ∃ d, SpellsNumeral word d ∧ d.value = ⟨n, 1⟩ := by
  have hdigits : word ≠ [] ∧ ∀ c ∈ word, c.isDigit = true := by
    rw [readDigits?] at hread
    split at hread
    case isTrue h => simpa using h
    case isFalse => cases hread
  have h := SpellsNumeral.mk hdigits.2 .none (by simpa using hdigits.1) .none
  rw [List.append_nil, List.append_nil] at h
  exact ⟨_, h, h.of_readDigits? hread⟩

theorem exists_spellsSigned_of_readInt? {text : List Char} {n : Int}
    (hread : readInt? text = some n) :
    ∃ sign d, ∃ k : Nat, SpellsSigned text sign d ∧ d.value = ⟨k, 1⟩ ∧ n = sign.apply k := by
  unfold readInt? at hread
  split at hread
  case h_1 word =>
    have hminus := (readInt?_minus word).symm.trans hread
    obtain ⟨k, hk, rfl⟩ := Option.map_eq_some_iff.mp hminus
    obtain ⟨d, hd, hvalue⟩ := exists_spellsNumeral_of_readDigits? hk
    exact ⟨_, d, k, .minus hd, hvalue, rfl⟩
  case h_2 =>
    obtain ⟨k, hk, rfl⟩ := Option.map_eq_some_iff.mp hread
    unfold readNat? at hk
    split at hk
    · obtain ⟨d, hd, hvalue⟩ := exists_spellsNumeral_of_readDigits? hk
      exact ⟨_, d, k, .plus hd, hvalue, rfl⟩
    · obtain ⟨d, hd, hvalue⟩ := exists_spellsNumeral_of_readDigits? hk
      exact ⟨_, d, k, .bare hd, hvalue, rfl⟩

theorem exists_spellsNumeral_of_readMagnitude? {word : List Char} {x : Float} {n : Int}
    (hread : readMagnitude? word = some x)
    (hx : Decimal.truncate? x = some n ∨ Decimal.truncate? x.neg = some n) :
    ∃ d, SpellsNumeral word d := by
  have hinfinite : Decimal.truncate? (1.0 / 0.0) = none ∧
      Decimal.truncate? (1.0 / 0.0 : Float).neg = none := by decide +kernel
  have hnan : Decimal.truncate? (0.0 / 0.0) = none ∧
      Decimal.truncate? (0.0 / 0.0 : Float).neg = none := by decide +kernel
  rw [readMagnitude?] at hread
  split at hread
  · obtain rfl := Option.some_inj.mp hread
    simp [hinfinite] at hx
  · split at hread
    · obtain rfl := Option.some_inj.mp hread
      simp [hnan] at hx
    · exact exists_spellsNumeral_of_readDecimal? hread

theorem exists_spellsSigned_of_readFloat? {s : String} {x : Float} {n : Int}
    (hread : readFloat? s = some x) (hx : Decimal.truncate? x = some n) :
    ∃ sign d, SpellsSigned s.toList sign d := by
  rw [readFloat?] at hread
  split at hread
  case h_1 word heq =>
    obtain ⟨y, hy, rfl⟩ := Option.map_eq_some_iff.mp hread
    obtain ⟨d, hd⟩ := exists_spellsNumeral_of_readMagnitude? hy (.inr hx)
    rw [heq]
    exact ⟨_, d, .minus hd⟩
  case h_2 word heq =>
    obtain ⟨d, hd⟩ := exists_spellsNumeral_of_readMagnitude? hread (.inl hx)
    rw [heq]
    exact ⟨_, d, .plus hd⟩
  case h_3 =>
    obtain ⟨d, hd⟩ := exists_spellsNumeral_of_readMagnitude? hread (.inl hx)
    exact ⟨_, d, .bare hd⟩

end Text

end RequestQuery
