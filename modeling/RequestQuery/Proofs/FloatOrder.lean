import Mathlib
import RequestQuery.Proofs.NearestInteger

/-!
Integers as numbers of double precision. The conversion rounds to the nearest integer that has room,
and comparing two converted integers compares what they were rounded to.
-/
namespace RequestQuery.Binary64

open Float.Model (Format UnpackedFloat totalExponent)
open Float.Model.UnpackedFloat

/-- The quotient of a division by a power of two, with one bit that tells whether the remainder is
at least half of the divisor, and one that tells whether it is something else than nothing or
half. -/
structure IsQuotient (em : ExtendedMantissa) (n k : Nat) : Prop where
  mantissa : em.mantissa = n / 2 ^ k
  roundBit : em.roundBit = true ↔ 2 ^ k ≤ 2 * (n % 2 ^ k)
  stickyBit : em.stickyBit = true ↔ n % 2 ^ k ≠ 0 ∧ 2 * (n % 2 ^ k) ≠ 2 ^ k

namespace IsQuotient

variable {em : ExtendedMantissa} {n k : Nat}

theorem ofMantissa (n : Nat) : IsQuotient (.ofMantissaAndAccuracy n .exact) n 0 := by
  constructor <;> simp [ExtendedMantissa.ofMantissaAndAccuracy, Nat.mod_one]

theorem shiftRightOne (h : IsQuotient em n k) : IsQuotient em.shiftRightOne n (k + 1) := by
  have hlt : n % 2 ^ k < 2 ^ k := Nat.mod_lt _ (Nat.two_pow_pos k)
  have hmod : n % 2 ^ (k + 1) = n % 2 ^ k + 2 ^ k * (n / 2 ^ k % 2) := Nat.mod_pow_succ
  -- The last digit of the quotient goes to the remainder.
  have hdigit : n / 2 ^ k % 2 = 0 ∨ n / 2 ^ k % 2 = 1 := Nat.mod_two_eq_zero_or_one _
  refine ⟨?_, ?_, ?_⟩
  · change em.mantissa / 2 = _
    rw [h.mantissa, Nat.div_div_eq_div_mul, Nat.pow_succ]
  · change (em.mantissa % 2 != 0) = true ↔ _
    rw [h.mantissa, hmod, Nat.pow_succ, bne_iff_ne]
    rcases hdigit with hdigit | hdigit <;> rw [hdigit] <;> omega
  · change (em.roundBit || em.stickyBit) = true ↔ _
    rw [Bool.or_eq_true, h.roundBit, h.stickyBit, hmod, Nat.pow_succ]
    rcases hdigit with hdigit | hdigit <;> rw [hdigit] <;> omega

theorem shiftRight (n k : Nat) :
    IsQuotient (ExtendedMantissa.ofMantissaAndAccuracy n .exact >>> k) n k := by
  induction k with
  | zero => exact ofMantissa n
  | succ k ih => exact ih.shiftRightOne

theorem roundedMantissa_eq (h : IsQuotient em n k) : em.roundedMantissa = halfEven n k := by
  obtain ⟨m, roundBit, stickyBit⟩ := em
  obtain ⟨rfl, hround, hsticky⟩ := h
  have hpos : 0 < 2 ^ k := Nat.two_pow_pos k
  unfold halfEven
  -- The bits tell the remainder from half of the divisor, as the definition does.
  cases roundBit <;> cases stickyBit <;>
    simp only [Bool.false_eq_true, false_iff, true_iff] at hround hsticky <;>
    simp only [ExtendedMantissa.roundedMantissa, ExtendedMantissa.accuracy,
      Accuracy.roundToNearestEven] <;>
    repeat' split
  all_goals omega

end IsQuotient

/-- The number `v` is `m * 2 ^ (e - 52)`, where `m` has 53 binary digits. -/
structure IsScaled (v m e : Nat) : Prop where
  low : 2 ^ 52 ≤ m
  high : m < 2 ^ 53
  value : v * 2 ^ 52 = m * 2 ^ e

/-- Such a number with an exponent that there is room for. -/
structure IsNormal (v m e : Nat) : Prop extends IsScaled v m e where
  exponent : e ≤ 1023

theorem compare_mul_right {c : Nat} (hc : 0 < c) (a b : Nat) :
    compare (a * c) (b * c) = compare a b := by
  simp only [Nat.compare_eq_ite_lt, Nat.mul_lt_mul_right hc]

theorem compare_natCast (a b : Nat) : compare (a : Int) (b : Int) = compare a b := by
  simp only [Int.compare_eq_ite_lt, Nat.compare_eq_ite_lt, Int.ofNat_lt]

theorem compare_neg (a b : Int) : compare (-a) (-b) = (compare a b).swap := by
  rw [← Std.OrientedOrd.eq_swap]
  simp only [Int.compare_eq_ite_lt, Int.neg_lt_neg_iff]

namespace IsScaled

variable {v w m m' e e' : Nat}

theorem pos (h : IsScaled v m e) : 0 < m :=
  lt_of_lt_of_le (by decide) h.low

theorem two_pow_le (h : IsScaled v m e) : 2 ^ e ≤ v := by
  refine Nat.le_of_mul_le_mul_right (c := 2 ^ 52) ?_ (by decide)
  calc
    2 ^ e * 2 ^ 52 ≤ m * 2 ^ e := by rw [Nat.mul_comm]; exact Nat.mul_le_mul_right _ h.low
    _ = v * 2 ^ 52 := h.value.symm

theorem value_pos (h : IsScaled v m e) : 0 < v :=
  lt_of_lt_of_le (Nat.two_pow_pos e) h.two_pow_le

theorem lt_of_exponent_lt (h : IsScaled v m e) (h' : IsScaled w m' e') (he : e < e') : v < w := by
  refine Nat.lt_of_mul_lt_mul_right (a := 2 ^ 52) ?_
  calc
    v * 2 ^ 52 = m * 2 ^ e := h.value
    _ < 2 ^ 53 * 2 ^ e := Nat.mul_lt_mul_of_pos_right h.high (Nat.two_pow_pos e)
    _ = 2 ^ 52 * 2 ^ (e + 1) := by rw [Nat.pow_succ]; omega
    _ ≤ m' * 2 ^ e' := Nat.mul_le_mul h'.low (Nat.pow_le_pow_right (by decide) he)
    _ = w * 2 ^ 52 := h'.value.symm

theorem compare_eq (h : IsScaled v m e) (h' : IsScaled w m' e') :
    (compare ((e : Int) - 52) ((e' : Int) - 52)).then (compare m m') = compare v w := by
  rcases lt_trichotomy e e' with he | rfl | he
  · rw [compare_lt_iff_lt.mpr (h.lt_of_exponent_lt h' he), compare_lt_iff_lt.mpr (by omega)]
    rfl
  · -- With one exponent, the digits decide.
    rw [compare_eq_iff_eq.mpr rfl, Ordering.eq_then, ← compare_mul_right (Nat.two_pow_pos e),
      ← h.value, ← h'.value, compare_mul_right (Nat.two_pow_pos 52)]
  · rw [compare_gt_iff_gt.mpr (h'.lt_of_exponent_lt h he), compare_gt_iff_gt.mpr (by omega)]
    rfl

theorem of_le {s : Nat} (hlow : 2 ^ 52 ≤ s) (hhigh : s ≤ 2 ^ 53)
    (hvalue : v * 2 ^ 52 = s * 2 ^ e) :
    s < 2 ^ 53 ∧ IsScaled v s e ∨ s = 2 ^ 53 ∧ IsScaled v (2 ^ 52) (e + 1) := by
  rcases hhigh.lt_or_eq with hlt | rfl
  · exact .inl ⟨hlt, hlow, hlt, hvalue⟩
  · refine .inr ⟨rfl, le_rfl, by decide, ?_⟩
    rw [hvalue, Nat.pow_succ]
    omega

end IsScaled

/-- A number of double precision stands for an integer. -/
inductive Denotes : Int → UnpackedFloat → Prop
  | zero (sign) : Denotes 0 (.zero sign)
  | finite (sign) {v m e : Nat} (h : IsNormal v m e) :
      Denotes (sign.apply v) (.finite sign m ((e : Int) - 52) h.pos)

namespace Denotes

variable {a b : Int} {x y : UnpackedFloat}

theorem neg (h : Denotes a x) : Denotes (-a) x.neg := by
  cases h with
  | zero sign => exact .zero _
  | finite sign h =>
      cases sign with
      | positive => exact .finite .negative h
      | negative =>
          rw [Sign.apply, Int.neg_neg]
          exact .finite .positive h

theorem compare_eq (ha : Denotes a x) (hb : Denotes b y) : x.compare y = some (compare a b) := by
  cases ha with
  | zero =>
      cases hb with
      | zero => rfl
      | finite sign hb =>
          have hpos := Int.natCast_pos.mpr hb.value_pos
          cases sign with
          | positive => exact congrArg some (compare_lt_iff_lt.mpr hpos).symm
          | negative => exact congrArg some (compare_gt_iff_gt.mpr (Int.neg_neg_of_pos hpos)).symm
  | finite sign ha =>
      have hpos := Int.natCast_pos.mpr ha.value_pos
      cases hb with
      | zero =>
          cases sign with
          | positive => exact congrArg some (compare_gt_iff_gt.mpr hpos).symm
          | negative => exact congrArg some (compare_lt_iff_lt.mpr (Int.neg_neg_of_pos hpos)).symm
      | finite sign' hb =>
          have hpos' := Int.natCast_pos.mpr hb.value_pos
          have hcompare := (ha.compare_eq hb.toIsScaled).trans (compare_natCast _ _).symm
          cases sign <;> cases sign' <;> simp only [Sign.apply]
          case positive.positive => exact congrArg some hcompare
          case positive.negative => exact congrArg some (compare_gt_iff_gt.mpr (by omega)).symm
          case negative.positive => exact congrArg some (compare_lt_iff_lt.mpr (by omega)).symm
          case negative.negative =>
            rw [compare_neg]
            exact congrArg (fun o : Ordering => some o.swap) hcompare

end Denotes

theorem toNat_one_append_ofNat {m : Nat} (hlow : 2 ^ 52 ≤ m) (hhigh : m < 2 ^ 53) :
    (1#1 ++ BitVec.ofNat 52 m).toNat = m := by
  have hlt : m % 2 ^ 52 < 2 ^ 52 := Nat.mod_lt _ (by decide)
  rw [BitVec.toNat_append, BitVec.toNat_ofNat m, ← Nat.shiftLeft_add_eq_or_of_lt hlt,
    Nat.shiftLeft_eq]
  change 1 * 2 ^ 52 + m % 2 ^ 52 = m
  omega

theorem pack_eq (sign : Sign) {v m e : Nat} (h : IsScaled v m e) :
    pack Format.binary64 (.finite sign m ((e : Int) - 52) h.pos) =
      if e ≤ 1023 then
        packComponents Format.binary64 sign (BitVec.ofNat 11 (e + 1023)) (BitVec.ofNat 52 m)
      else packedInfinity Format.binary64 sign := by
  have hlog : m.log2 = 52 := (Nat.log2_eq_iff h.pos.ne').mpr ⟨h.low, h.high⟩
  have hbiased : ((e : Int) - 52 + Format.binary64.exponentBias +
      Format.binary64.mantissaBitsWithoutImplicit).toNat = e + 1023 := by
    change ((e : Int) - 52 + 1023 + 52).toNat = e + 1023
    omega
  simp only [pack, hbiased, hlog]
  rw [if_pos (show 52 + 1 = Format.binary64.mantissaBits from rfl)]
  by_cases he : e ≤ 1023
  · rw [if_neg (show ¬ 2 ^ 11 ≤ e + 1023 + 1 by omega), if_pos he]
  · rw [if_pos (show 2 ^ 11 ≤ e + 1023 + 1 by omega), if_neg he]

theorem unpack_pack (sign : Sign) {v m e : Nat} (h : IsNormal v m e) :
    unpack Format.binary64 (pack Format.binary64 (.finite sign m ((e : Int) - 52) h.pos)) =
      .finite sign m ((e : Int) - 52) h.pos := by
  have he := h.exponent
  have htoNat : (BitVec.ofNat 11 (e + 1023)).toNat = e + 1023 := by
    rw [BitVec.toNat_ofNat, Nat.mod_eq_of_lt (by omega)]
  -- The exponents that are kept for infinities and for numbers without a leading one do not occur.
  have hne (b : BitVec 11) (hb : e + 1023 ≠ b.toNat) : BitVec.ofNat 11 (e + 1023) ≠ b :=
    fun heq => hb (htoNat.symm.trans (congrArg BitVec.toNat heq))
  have hnotMax := hne (-1#11) (show e + 1023 ≠ 2047 by omega)
  have hnotZero := hne 0#11 (show e + 1023 ≠ 0 by omega)
  have hexponent : ((e + 1023 : Nat) : Int) - (Format.binary64.exponentBias + (52 : Nat)) =
      (e : Int) - 52 := by
    change ((e + 1023 : Nat) : Int) - (1023 + 52) = (e : Int) - 52
    omega
  rw [pack_eq sign h.toIsScaled, if_pos he]
  simp only [unpack, unpackMantissa_packComponents, unpackExponent_packComponents,
    unpackSign_packComponents, if_neg hnotMax, if_neg hnotZero, Sign.ofBitVec_toBitVec, htoNat,
    hexponent, toNat_one_append_ofNat h.low h.high]

theorem shiftToTargetExponent_eq {n k : Nat} {x y : Int} (hlow : 2 ^ (52 + k) ≤ n)
    (hhigh : n < 2 ^ (53 + k)) (hx : -1074 ≤ x) (hy : y = x - k) :
    ∃ em, IsQuotient em n k ∧ shiftToTargetExponent Format.binary64 n y .exact = (em, x) := by
  have hpos : n ≠ 0 := by
    have := Nat.two_pow_pos (52 + k)
    omega
  have hlog : n.log2 = 52 + k :=
    (Nat.log2_eq_iff hpos).mpr ⟨hlow, by rwa [Nat.add_right_comm]⟩
  have htarget : Format.binary64.targetExponent (totalExponent n y) = x := by
    change max ((n.log2 : Int) + 1 + y - 53) (-1074) = x
    omega
  have hshift : (x - y).toNat = k := by omega
  refine ⟨_, IsQuotient.shiftRight n k, ?_⟩
  have hend : y + k = x := by omega
  simp only [shiftToTargetExponent, htarget, shiftToExponent, hshift, hend]

theorem finite_of_mantissa (sign : Sign) {em : ExtendedMantissa} {v m e : Nat} {x : Int}
    (hm : em.mantissa = m) (h : IsScaled v m e) (hx : x = (e : Int) - 52) :
    (if hzero : em.mantissa = 0 then UnpackedFloat.zero sign
      else .finite sign em.mantissa x (Nat.pos_of_ne_zero hzero)) =
        .finite sign m ((e : Int) - 52) h.pos := by
  subst hm hx
  rw [dif_neg h.pos.ne']

theorem exists_roundWithAccuracy (sign : Sign) {n k e v : Nat} {y : Int} (hlow : 2 ^ (52 + k) ≤ n)
    (hhigh : n < 2 ^ (53 + k)) (hy : y = (e : Int) - 52 - k)
    (hv : v * 2 ^ 52 = halfEven n k * 2 ^ e) :
    ∃ m e', e' ≤ e + 1 ∧ ∃ h : IsScaled v m e',
      roundWithAccuracy Format.binary64 sign n y .exact =
        .finite sign m ((e' : Int) - 52) h.pos := by
  have hs : 2 ^ 52 ≤ halfEven n k := le_halfEven (by rwa [← Nat.pow_add])
  have hs' : halfEven n k ≤ 2 ^ 53 := halfEven_le (by rw [← Nat.pow_add]; exact hhigh.le)
  obtain ⟨em, hem, hfirst⟩ := shiftToTargetExponent_eq hlow hhigh (by omega) hy
  simp only [roundWithAccuracy, hfirst, hem.roundedMantissa_eq]
  -- A carry leaves one digit too many, which the second shift drops.
  rcases IsScaled.of_le hs hs' hv with ⟨hlt, h⟩ | ⟨heq, h⟩
  · obtain ⟨em', hem', hsecond⟩ := shiftToTargetExponent_eq (k := 0) (x := (e : Int) - 52)
      (y := (e : Int) - 52) hs hlt (by omega) (by omega)
    simp only [hsecond]
    refine ⟨_, e, Nat.le_succ e, h, finite_of_mantissa sign ?_ h rfl⟩
    rw [hem'.mantissa, Nat.pow_zero, Nat.div_one]
  · obtain ⟨em', hem', hsecond⟩ := shiftToTargetExponent_eq (n := 2 ^ 53) (k := 1)
      (x := (e : Int) - 51) (y := (e : Int) - 52) le_rfl (by decide) (by omega) (by omega)
    simp only [heq, hsecond]
    exact ⟨_, e + 1, le_rfl, h, finite_of_mantissa sign hem'.mantissa h (by omega)⟩

theorem denotes_roundWithAccuracy (sign : Sign) {n k e v : Nat} {y : Int} (hlow : 2 ^ (52 + k) ≤ n)
    (hhigh : n < 2 ^ (53 + k)) (he : e ≤ 1022) (hy : y = (e : Int) - 52 - k)
    (hv : v * 2 ^ 52 = halfEven n k * 2 ^ e) :
    Denotes (sign.apply v) (roundWithAccuracy Format.binary64 sign n y .exact) := by
  obtain ⟨m, e', he', h, hround⟩ := exists_roundWithAccuracy sign hlow hhigh hy hv
  rw [hround]
  exact .finite sign ⟨h, by omega⟩

theorem Denotes.pack {a : Int} {x : UnpackedFloat} (h : Denotes a x) :
    Denotes a (Float.Model.pack x).unpack := by
  have hunpack : (Float.Model.pack x).unpack = x := by
    cases h with
    | zero sign => cases sign <;> rfl
    | finite sign h => exact unpack_pack sign h
  rwa [hunpack]

theorem Denotes.mul_one {a : Int} {x : UnpackedFloat} (h : Denotes a x) (ha : a.natAbs < 2 ^ 53) :
    Denotes a (mul Format.binary64 x (.finite .positive (2 ^ 52) (-52) (by decide))) := by
  cases h with
  | zero sign => exact .zero _
  | @finite sign v m e h =>
      have hsign : sign * .positive = sign := by cases sign <;> rfl
      have he : e ≤ 1022 := by
        have hv : v < 2 ^ 53 := by cases sign <;> simpa [Sign.apply] using ha
        have := (Nat.pow_lt_pow_iff_right (by decide)).mp (h.two_pow_le.trans_lt hv)
        omega
      have hlow := h.low
      have hhigh := h.high
      change Denotes _ (roundWithAccuracy Format.binary64 (sign * .positive) (m * 2 ^ 52) _ .exact)
      rw [hsign]
      refine denotes_roundWithAccuracy sign (k := 52) ?_ ?_ he rfl ?_
      · omega
      · omega
      · rw [halfEven_mul_pow_self]
        exact h.value

theorem denotes_ofNat {n : Nat} (hlt : n < 2 ^ 53) : Denotes n (ofNat Format.binary64 n) := by
  rcases Nat.eq_zero_or_pos n with rfl | hpos
  · exact .zero _
  have hlow := Nat.log2_self_le hpos.ne'
  have hhigh : n < 2 ^ (n.log2 + 1) := Nat.lt_log2_self
  have hlog : n.log2 < 53 := (Nat.log2_lt hpos.ne').mpr hlt
  have hround : ofNat Format.binary64 n = roundWithAccuracy Format.binary64 .positive
      (n * 2 ^ (52 - n.log2)) ((n.log2 : Int) - 52) .exact := by
    have htarget : Format.binary64.targetExponent (totalExponent n 0) = (n.log2 : Int) - 52 := by
      change max ((n.log2 : Int) + 1 + 0 - 53) (-1074) = _
      omega
    have hshift : (0 - ((n.log2 : Int) - 52)).toNat = 52 - n.log2 := by omega
    have hstart : (0 : Int) - ((52 - n.log2 : Nat) : Int) = (n.log2 : Int) - 52 := by omega
    rw [UnpackedFloat.ofNat, UnpackedFloat.ofInt, UnpackedFloat.normalize,
      compare_gt_iff_gt.mpr (Int.natCast_pos.mpr hpos)]
    simp only [UnpackedFloat.round, decreaseExponent, Int.toNat_natCast, htarget, hshift, hstart,
      Nat.shiftLeft_eq]
  rw [hround]
  have hpow : 2 ^ n.log2 * 2 ^ (52 - n.log2) = 2 ^ 52 := by
    rw [← Nat.pow_add, Nat.add_sub_cancel' (by omega)]
  refine denotes_roundWithAccuracy .positive (k := 0) (e := n.log2) ?_ ?_ (by omega) (by omega) ?_
  · rw [Nat.add_zero, ← hpow]
    exact Nat.mul_le_mul_right _ hlow
  · calc
      n * 2 ^ (52 - n.log2) < 2 ^ (n.log2 + 1) * 2 ^ (52 - n.log2) :=
        Nat.mul_lt_mul_of_pos_right hhigh (Nat.two_pow_pos _)
      _ = 2 ^ 52 * 2 := by rw [Nat.pow_succ, Nat.mul_right_comm, hpow]
  · rw [halfEven_zero, Nat.mul_assoc, Nat.mul_comm (2 ^ _), hpow]

theorem denotes_ofScientific {n : Nat} (hn : n ≠ 0) (hlog : n.log2 ≤ 1022) :
    Denotes (nearest n) (UnpackedFloat.ofScientific Format.binary64 n 0) := by
  have hscale : UnpackedFloat.ofScientific Format.binary64 n 0 =
      roundWithAccuracy Format.binary64 .positive (n * 2 ^ 53) (-53) .exact := by
    have hbig : ¬ (0 : Int) < -((2 ^ Format.binary64.exponentBits : Int) + n.log2) := by
      change ¬ (0 : Int) < -(2048 + n.log2)
      omega
    rw [UnpackedFloat.ofScientific, dif_neg hn, if_neg (by decide), if_neg hbig, if_pos (by decide)]
    change roundWithAccuracy Format.binary64 .positive (n <<< 53 * 1) (-53) .exact = _
    rw [Nat.mul_one, Nat.shiftLeft_eq]
  have hdouble : 2 ^ 53 * 2 ^ n.log2 = 2 ^ (52 + (n.log2 + 1)) := by
    rw [← Nat.pow_add]
    congr 1
    omega
  rw [hscale]
  refine denotes_roundWithAccuracy .positive (k := n.log2 + 1) ?_ ?_ hlog (by omega)
    (nearest_mul_pow n)
  · rw [← hdouble, Nat.mul_comm]
    exact Nat.mul_le_mul_right _ (Nat.log2_self_le hn)
  · rw [Nat.pow_add, Nat.mul_comm]
    exact Nat.mul_lt_mul_of_pos_left Nat.lt_log2_self (by decide)

theorem denotes_toFloat {n : Nat} (hlt : n < 2 ^ 53) :
    Denotes n n.toUInt64.toFloat.toModel.unpack := by
  have hword : n.toUInt64.toNat = n := Nat.mod_eq_of_lt (hlt.trans (by decide))
  change Denotes n (Float.Model.ofUInt64 n.toUInt64).unpack
  rw [Float.Model.ofUInt64, ofUInt64, hword]
  exact (denotes_ofNat hlt).pack

theorem denotes_toModel_ofNat {n : Nat} (hlog : n.log2 ≤ 1022) :
    Denotes (nearest n) (Float.ofNat n).toModel.unpack := by
  change Denotes _ (Float.ofScientific n false 0).toModel.unpack
  rw [Float.ofScientific]
  -- A number that has room is multiplied by a power of ten, any other is rounded at once.
  split
  case isTrue h =>
    have hlt := h.1
    have hone : (Float.ofBits 0x3ff0000000000000).toModel.unpack =
        .finite .positive (2 ^ 52) (-52) (by decide) := rfl
    change Denotes _ (Float.Model.pack (mul Format.binary64 (Float.Model.ofUInt64 n.toUInt64).unpack
      (Float.ofBits 0x3ff0000000000000).toModel.unpack)).unpack
    rw [hone, nearest_of_le hlt.le]
    exact ((denotes_toFloat hlt).mul_one hlt).pack
  case isFalse h =>
    have hn : n ≠ 0 := by
      rintro rfl
      exact h (by decide)
    exact (denotes_ofScientific hn hlog).pack

theorem denotes_toModel_ofInt {n : Int} (h : n.natAbs ≤ 2 ^ 64) :
    Denotes (nearestInt n) (Float.ofInt n).toModel.unpack := by
  have hlog {k : Nat} (hk : k ≤ 2 ^ 64) : k.log2 ≤ 1022 := by
    rcases Nat.eq_zero_or_pos k with rfl | hpos
    · decide
    · have : k.log2 < 65 := (Nat.log2_lt hpos.ne').mpr (by omega)
      omega
  cases n with
  | ofNat n => exact denotes_toModel_ofNat (hlog h)
  | negSucc n => exact (denotes_toModel_ofNat (hlog h)).neg.pack

theorem float_lt_iff {x y : Float} :
    x < y ↔ x.toModel.unpack.compare y.toModel.unpack = some .lt := by
  change decide (x.toModel < y.toModel) = true ↔ _
  rw [decide_eq_true_iff]
  change (x.toModel.unpack.compare y.toModel.unpack == some .lt) = true ↔ _
  exact beq_iff_eq

/-- Integers are compared in double precision as what they are rounded to. -/
theorem ofInt_lt_iff {m n : Int} (hm : m.natAbs ≤ 2 ^ 64) (hn : n.natAbs ≤ 2 ^ 64) :
    Float.ofInt m < Float.ofInt n ↔ nearestInt m < nearestInt n := by
  rw [float_lt_iff, (denotes_toModel_ofInt hm).compare_eq (denotes_toModel_ofInt hn),
    Option.some_inj, compare_lt_iff_lt]

end RequestQuery.Binary64
