import RequestQuery.Cast
import RequestQuery.Proofs.DecimalNumerals
import RequestQuery.Proofs.FloatTruncation

/-!
Decimal numbers from `2 ^ 63` on, read in double precision. They are rounded to the nearest number
with 53 binary digits, or to infinity. Only the smallest of them can become `2 ^ 63` itself.
-/
namespace RequestQuery.Binary64

open Float.Model (Format UnpackedFloat totalExponent)
open Float.Model.UnpackedFloat

theorem shiftRight_two {n q : Nat} {roundBit stickyBit : Bool}
    (h : n = q * 2 ^ 2 + roundBit.toNat * 2 + stickyBit.toNat) :
    ExtendedMantissa.ofMantissaAndAccuracy n .exact >>> 2 = ⟨q, roundBit, stickyBit⟩ := by
  have hroundBit := roundBit.toNat_le
  have hstickyBit := stickyBit.toNat_le
  have hmantissa : n / 2 / 2 = q := by omega
  have hround : n / 2 % 2 = roundBit.toNat := by omega
  have hsticky : n % 2 = stickyBit.toNat := by omega
  change ExtendedMantissa.mk (n / 2 / 2) (n / 2 % 2 != 0) (n % 2 != 0 || (false || false)) = _
  rw [hmantissa, hround, hsticky]
  cases roundBit <;> cases stickyBit <;> rfl

theorem shiftRight_quarters {a b : Nat} (hb : 0 < b) :
    ExtendedMantissa.ofMantissaAndAccuracy (quarters a b) .exact >>> 2 =
      ExtendedMantissa.ofMantissaAndAccuracy (a / b) (accuracyOfFraction (a % b) b) := by
  have hlt := Nat.mod_lt a hb
  have htwice : 2 * a = b * (2 * (a / b)) + 2 * (a % b) := by
    rw [Nat.mul_left_comm, ← Nat.mul_add, Nat.div_add_mod]
  rw [quarters, htwice, Nat.mul_add_div hb, Nat.mul_add_mod, accuracyOfFraction]
  generalize a / b = q
  generalize a % b = rest at hlt
  rcases eq_or_ne rest 0 with rfl | hrest
  · refine shiftRight_two ?_
    simp only [Nat.mul_zero, Nat.zero_div, Nat.zero_mod, Bool.toNat_false, if_true]
    omega
  rw [if_neg hrest]
  rcases lt_or_ge (2 * rest) b with hlow | hhigh
  · rw [compare_lt_iff_lt.mpr hlow, Nat.div_eq_of_lt hlow, Nat.mod_eq_of_lt hlow,
      if_neg (by omega)]
    refine shiftRight_two ?_
    rw [Bool.toNat_true, Bool.toNat_false]
    omega
  · have hdiv : 2 * rest / b = 1 := Nat.div_eq_of_lt_le (by omega) (by omega)
    have hmod : 2 * rest % b = 2 * rest - b := by
      rw [Nat.mod_eq_sub_mod hhigh, Nat.mod_eq_of_lt (by omega)]
    rw [hdiv, hmod]
    rcases hhigh.eq_or_lt with heq | hgt
    · rw [compare_eq_iff_eq.mpr heq.symm, if_pos (by omega)]
      refine shiftRight_two ?_
      rw [Bool.toNat_true, Bool.toNat_false]
      omega
    · rw [compare_gt_iff_gt.mpr hgt, if_neg (by omega)]
      refine shiftRight_two ?_
      rw [Bool.toNat_true]
      omega

theorem shiftRight_add (em : ExtendedMantissa) (i j : Nat) : em >>> (i + j) = em >>> i >>> j := by
  induction j with
  | zero => rfl
  | succ j ih => exact congrArg ExtendedMantissa.shiftRightOne ih

theorem shiftToTargetExponent_quotient {a b : Nat} (hb : 0 < b) (h : 2 ^ 52 ≤ a / b) :
    shiftToTargetExponent Format.binary64 (a / b) 0 (accuracyOfFraction (a % b) b) =
      shiftToTargetExponent Format.binary64 (quarters a b) (-2) .exact := by
  have hlog := log2_quarters (a := a) hb (by omega)
  have hle : 52 ≤ (a / b).log2 := (Nat.le_log2 (by omega)).mpr h
  have htarget (n : Nat) (y : Int) (hn : (n.log2 : Int) + y = (a / b).log2) :
      Format.binary64.targetExponent (totalExponent n y) = ((a / b).log2 : Int) - 52 := by
    change max ((n.log2 : Int) + 1 + y - 53) (-1074) = _
    omega
  obtain ⟨k, hk⟩ := Nat.exists_eq_add_of_le hle
  have hshift : ((((a / b).log2 : Int) - 52) - 0).toNat = k := by omega
  have hshift' : ((((a / b).log2 : Int) - 52) - -2).toNat = 2 + k := by omega
  have hend : (-2 : Int) + (2 + k : Nat) = 0 + (k : Int) := by omega
  rw [shiftToTargetExponent, shiftToTargetExponent, htarget (a / b) 0 (by omega),
    htarget (quarters a b) (-2) (by omega)]
  simp only [shiftToExponent, hshift, hshift', shiftRight_add, shiftRight_quarters hb, hend]

theorem roundWithAccuracy_quotient (sign : Sign) {a b : Nat} (hb : 0 < b) (h : 2 ^ 52 ≤ a / b) :
    roundWithAccuracy Format.binary64 sign (a / b) 0 (accuracyOfFraction (a % b) b) =
      roundWithAccuracy Format.binary64 sign (quarters a b) (-2) .exact := by
  simp only [roundWithAccuracy, shiftToTargetExponent_quotient hb h]

theorem isHeld_round (sign : Sign) {n i j v : Nat} {y : Int} {x : Float} (hn : 2 ^ 52 ≤ n)
    (hj : j ≤ n.log2 + i) (hy : y = (i : Int) - j) (hv : v * 2 ^ j = nearest n * 2 ^ i)
    (hx : x.toModel = Float.Model.pack (roundWithAccuracy Format.binary64 sign n y .exact)) :
    IsHeld sign v x := by
  have hne : n ≠ 0 := by omega
  obtain ⟨k, hk⟩ := Nat.exists_eq_add_of_le ((Nat.le_log2 hne).mpr hn)
  obtain ⟨e, he⟩ := Nat.exists_eq_add_of_le hj
  have hlow : 2 ^ (52 + k) ≤ n := hk ▸ Nat.log2_self_le hne
  have hhigh : n < 2 ^ (53 + k) := by
    have hlog : 53 + k = n.log2 + 1 := by omega
    rw [hlog]
    exact Nat.lt_log2_self
  have hvalue : v * 2 ^ 52 = halfEven n k * 2 ^ e := by
    refine Nat.mul_right_cancel (Nat.two_pow_pos j) ?_
    calc
      v * 2 ^ 52 * 2 ^ j = nearest n * 2 ^ i * 2 ^ 52 := by rw [Nat.mul_right_comm, hv]
      _ = halfEven n k * 2 ^ (52 + k + i) := by
        rw [nearest, hk, Nat.add_sub_cancel_left]
        ring
      _ = halfEven n k * 2 ^ e * 2 ^ j := by
        rw [← hk, he, Nat.mul_assoc, ← Nat.pow_add, Nat.add_comm j]
  obtain ⟨m, e', -, h, hround⟩ :=
    exists_roundWithAccuracy sign hlow hhigh (y := y) (by omega) hvalue
  exact .of_isScaled h (hround ▸ hx)

theorem Denotes.exists_eq_finite {a : Nat} {x : UnpackedFloat} (h : Denotes a x) (ha : a ≠ 0) :
    ∃ m e, ∃ h : IsNormal a m e, x = .finite .positive m ((e : Int) - 52) h.pos := by
  generalize hn : (a : Int) = n at h
  cases h with
  | zero sign => omega
  | finite sign h =>
      have hpos := h.value_pos
      cases sign with
      | positive =>
          obtain rfl := Int.natCast_inj.mp hn
          exact ⟨_, _, h, rfl⟩
      | negative =>
          rw [Sign.apply] at hn
          omega

theorem isHeld_mul {a b : Nat} {x y : Float} (hx : Denotes a x.toModel.unpack)
    (hy : Denotes b y.toModel.unpack) (ha : a ≠ 0) (hb : b ≠ 0) :
    IsHeld .positive (nearest (a * b)) (x * y) := by
  obtain ⟨m, e, h, hx⟩ := hx.exists_eq_finite ha
  obtain ⟨m', e', h', hy⟩ := hy.exists_eq_finite hb
  have hproduct : m * m' * 2 ^ (e + e') = a * b * 2 ^ 104 := by
    calc
      m * m' * 2 ^ (e + e') = m * 2 ^ e * (m' * 2 ^ e') := by rw [Nat.pow_add, Nat.mul_mul_mul_comm]
      _ = a * 2 ^ 52 * (b * 2 ^ 52) := by rw [h.value, h'.value]
      _ = a * b * 2 ^ 104 := by rw [Nat.mul_mul_mul_comm, ← Nat.pow_add]
  have hlow : 2 ^ (52 + 52) ≤ m * m' := by
    rw [Nat.pow_add]
    exact Nat.mul_le_mul h.low h'.low
  have hlog : 104 ≤ (m * m').log2 := (Nat.le_log2 (by omega)).mpr hlow
  refine isHeld_round .positive (n := m * m') (i := e + e') (j := 104) (by omega) (by omega) rfl
    ?_ ?_
  · rw [← nearest_mul_two_pow (m * m'), hproduct, nearest_mul_two_pow]
  · change Float.Model.pack (mul Format.binary64 x.toModel.unpack y.toModel.unpack) = _
    rw [hx, hy]
    have hexponent : (e : Int) - 52 + ((e' : Int) - 52) = (e + e' : Nat) - (104 : Nat) := by omega
    simp only [mul, hexponent]
    rfl

theorem denotes_powerOfTen (e : Fin 23) :
    Denotes (10 ^ e.val : Nat) (Float.exactlyRepresentablePowersOfTen[e.val]).toModel.unpack := by
  have hround : nearest (10 ^ e.val) = 10 ^ e.val := by
    revert e
    decide +kernel
  have hlog : (10 ^ e.val).log2 ≤ 1022 := by
    revert e
    decide +kernel
  have hmodel : Float.exactlyRepresentablePowersOfTen[e.val].toModel =
      Float.Model.ofScientific (10 ^ e.val) 0 := by
    revert e
    decide +kernel
  have hdenotes := (denotes_ofScientific (Nat.pow_pos (by decide)).ne' hlog).pack
  rw [hround] at hdenotes
  rwa [hmodel]

theorem isHeld_ofScientific {n e : Nat} (hn : n ≠ 0) (he : e ≤ 2 ^ 11) :
    IsHeld .positive (nearest (n * 10 ^ e)) (Float.ofScientific n false e) := by
  have hpow : 10 ^ e ≠ 0 := (Nat.pow_pos (by decide)).ne'
  rw [Float.ofScientific]
  split
  case isTrue h =>
    exact isHeld_mul (denotes_toFloat h.1) (denotes_powerOfTen ⟨e, by omega⟩) hn hpow
  case isFalse h =>
    have hpos : 1 ≤ n * 10 ^ e := Nat.pos_of_ne_zero (Nat.mul_ne_zero hn hpow)
    have hlog := log2_mul_two_pow (Nat.mul_ne_zero hn hpow) 53
    refine isHeld_round .positive (n := n * 10 ^ e * 2 ^ 53) (i := 0) (j := 53) (by omega)
      (by omega) rfl ?_ ?_
    · rw [nearest_mul_two_pow, Nat.pow_zero, Nat.mul_one]
    · have hbig : ¬ (e : Int) > 2 ^ 11 := by omega
      have hsmall : ¬ (e : Int) < -((2 ^ 11 : Int) + n.log2) := by omega
      change Float.Model.pack (UnpackedFloat.ofScientific Format.binary64 n e) = _
      rw [UnpackedFloat.ofScientific, dif_neg hn, if_neg hbig, if_neg hsmall,
        if_pos (Int.natCast_nonneg e)]
      change Float.Model.pack (roundWithAccuracy Format.binary64 .positive (n <<< 53 * 10 ^ e) (-53)
        .exact) = _
      rw [Nat.shiftLeft_eq, Nat.mul_right_comm]
      rfl

theorem divCore_eq {a b : Nat} (h : b.log2 + 53 ≤ a.log2) :
    divCore Format.binary64 a 0 b 0 = (a / b, 0, accuracyOfFraction (a % b) b) := by
  have htarget : min ((0 : Int) - 0)
      (Format.binary64.targetExponent (totalExponent a 0 - totalExponent b 0)) = 0 := by
    change min _ (max (((a.log2 : Int) + 1 + 0) - ((b.log2 : Int) + 1 + 0) - 53) (-1074)) = 0
    omega
  rw [divCore, htarget]
  rfl

theorem isHeld_ofScientific_neg {n e v : Nat} (he : e ≠ 0) (h : 2 ^ 63 * 10 ^ e ≤ n)
    (hv : v * 2 ^ 2 = nearest (quarters n (10 ^ e))) :
    IsHeld .positive v (Float.ofScientific n true e) := by
  have hpow : 0 < 10 ^ e := Nat.pow_pos (by decide)
  have hquotient : 2 ^ 63 ≤ n / 10 ^ e := (Nat.le_div_iff_mul_le hpow).mpr h
  have hn : n ≠ 0 := by omega
  have hlog : (10 ^ e).log2 + 63 ≤ n.log2 := by
    rw [Nat.le_log2 hn, Nat.pow_add, Nat.mul_comm]
    exact (Nat.mul_le_mul_left _ (Nat.log2_self_le hpow.ne')).trans h
  have hsize : e ≤ n.log2 := by
    rw [Nat.le_log2 hn]
    have : 2 ^ e ≤ 10 ^ e := Nat.pow_le_pow_left (by decide) e
    omega
  have hquarters := log2_quarters (a := n) hpow (by omega)
  rw [Float.ofScientific, dif_neg (by omega)]
  refine isHeld_round .positive (n := quarters n (10 ^ e)) (i := 0) (j := 2) ?_ (by omega) rfl
    (by rw [hv, Nat.pow_zero, Nat.mul_one]) ?_
  · have := (le_quarters_iff hpow (2 ^ 63)).mpr h
    omega
  · have hneg : Int.negOfNat e = -(e : Int) := Int.negOfNat_eq
    have hbig : ¬ Int.negOfNat e > 2 ^ 11 := by omega
    have hsmall : ¬ Int.negOfNat e < -((2 ^ 11 : Int) + n.log2) := by omega
    have hsign : ¬ 0 ≤ Int.negOfNat e := by omega
    have hend : (-Int.negOfNat e).toNat = e := by omega
    change Float.Model.pack (UnpackedFloat.ofScientific Format.binary64 n (Int.negOfNat e)) = _
    rw [UnpackedFloat.ofScientific, dif_neg hn, if_neg hbig, if_neg hsmall, if_neg hsign]
    simp only [div, hend, divCore_eq (b := 10 ^ e) (a := n) (by omega)]
    exact congrArg Float.Model.pack (roundWithAccuracy_quotient .positive hpow (by omega))

/-- A numeral from `2 ^ 63` on is read as the nearest number of 53 binary digits. -/
theorem isHeld_floatOfDecimal {d : Decimal.Numeral} {v : Nat}
    (h : 2 ^ 63 * d.value.den ≤ d.value.num)
    (hv : v * 2 ^ 2 = nearest (quarters d.value.num d.value.den)) :
    IsHeld .positive v (Text.floatOfDecimal d.digits d.exponent) := by
  have hden := d.den_value_pos
  have hdigits : d.digits ≠ 0 := by
    intro hzero
    have hnum : d.value.num = 0 := by
      rcases d.value_cases with ⟨e, -, hvalue⟩ | ⟨e, -, -, hvalue⟩
      · rw [hvalue, hzero, Nat.zero_mul]
      · rw [hvalue, hzero]
    omega
  rw [Text.floatOfDecimal, if_neg (by simpa using hdigits)]
  dsimp only
  split
  case isTrue hsize =>
    have hnum := Decimal.Numeral.le_value (k := 310) hdigits hsize
    have hpow : 2 ^ 1024 ≤ 10 ^ 310 := by decide +kernel
    obtain ⟨w, hw, hlarge⟩ := exists_nearest_quarters hden (by decide)
      ((Nat.mul_le_mul_right _ hpow).trans hnum)
    obtain rfl := Nat.mul_right_cancel (by decide) (hv.trans hw.symm)
    exact .infinite (by decide) hlarge (by decide +kernel)
  case isFalse hsize =>
    have hlow : ¬ (Nat.toDigits 10 d.digits).length + d.exponent < -330 := by
      intro hlt
      have := Decimal.Numeral.value_lt (k := 0) hdigits (by omega)
      omega
    rw [if_neg hlow]
    rcases d.value_cases with ⟨e, he, hvalue⟩ | ⟨e, hne, he, hvalue⟩
    · rw [hvalue, quarters_one, nearest_mul_two_pow] at hv
      obtain rfl := Nat.mul_right_cancel (by decide) hv
      have hsign : decide (d.exponent < 0) = false := decide_eq_false (by omega)
      rw [hsign, he, Int.natAbs_natCast]
      exact isHeld_ofScientific hdigits (by omega)
    · rw [hvalue] at h hv
      have hsign : decide (d.exponent < 0) = true := decide_eq_true (by omega)
      rw [hsign, he, Int.natAbs_neg, Int.natAbs_natCast]
      exact isHeld_ofScientific_neg hne h hv

theorem apply_eq_and_inSigned64_iff {v : Nat} (hv : 2 ^ 63 ≤ v) (sign : Sign) (n : Int) :
    sign.apply v = n ∧ Text.inSigned64 n = true ↔
      sign = .negative ∧ v = 2 ^ 63 ∧ n = -2 ^ 63 := by
  rw [Text.inSigned64_iff]
  cases sign with
  | positive =>
      simp only [Sign.apply, reduceCtorEq, false_and, iff_false]
      omega
  | negative =>
      simp only [Sign.apply, true_and]
      omega

/-- Of the numerals from `2 ^ 63` on, only negative ones have an integer of a signed 64-bit word
when they are read, and only those that are rounded to the least integer of all. -/
theorem wholePart?_signedFloat_eq_some_iff {d : Decimal.Numeral}
    (h : 2 ^ 63 * d.value.den ≤ d.value.num) (sign : Sign) (n : Int) :
    wholePart? (Text.signedFloat sign d) = some n ↔
      sign = .negative ∧ d.value.num ≤ (2 ^ 63 + 2 ^ 10) * d.value.den ∧ n = -2 ^ 63 := by
  have hden := d.den_value_pos
  obtain ⟨v, hv, hlow⟩ := exists_nearest_quarters hden (by decide) h
  have hpositive := isHeld_floatOfDecimal h hv
  have hheld : IsHeld sign v (Text.signedFloat sign d) := by
    cases sign with
    | positive => exact hpositive
    | negative => exact hpositive.neg
  have hiff := nearest_quarters_eq_iff hden h
  rw [← hv, Nat.mul_left_inj (by decide)] at hiff
  rw [wholePart?, Option.filter_eq_some_iff, ← hiff]
  rcases hheld.truncate?_eq hlow with heq | ⟨heq, hlarge⟩
  · rw [heq, Option.some_inj, apply_eq_and_inSigned64_iff hlow]
  · rw [heq]
    simp only [reduceCtorEq, false_and, false_iff, not_and]
    omega

end RequestQuery.Binary64
