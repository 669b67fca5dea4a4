import RequestQuery.Decimal.Magnitude
import RequestQuery.Proofs.FloatOrder

namespace RequestQuery.Binary64

open Float.Model (Format UnpackedFloat)
open Float.Model.UnpackedFloat

theorem toNat_packComponents (sign : Sign) (a : BitVec 11) (b : BitVec 52) :
    (packComponents Format.binary64 sign a b).toNat =
      (sign.toBitVec.toNat * 2 ^ 11 + a.toNat) * 2 ^ 52 + b.toNat := by
  change (sign.toBitVec ++ a ++ b).toNat = _
  rw [BitVec.toNat_append, BitVec.toNat_append, ← Nat.shiftLeft_add_eq_or_of_lt b.isLt,
    ← Nat.shiftLeft_add_eq_or_of_lt a.isLt, Nat.shiftLeft_eq, Nat.shiftLeft_eq]

theorem pack_congr {f g : UnpackedFloat}
    (h : UnpackedFloat.pack Format.binary64 f = UnpackedFloat.pack Format.binary64 g) :
    Float.Model.pack f = Float.Model.pack g := by
  simp only [Float.Model.pack, h]

theorem IsScaled.lt_two_pow {v m e : Nat} (h : IsScaled v m e) : v < 2 ^ (e + 1) := by
  refine Nat.lt_of_mul_lt_mul_right (a := 2 ^ 52) ?_
  calc
    v * 2 ^ 52 = m * 2 ^ e := h.value
    _ < 2 ^ 53 * 2 ^ e := Nat.mul_lt_mul_of_pos_right h.high (Nat.two_pow_pos e)
    _ = 2 ^ (e + 1) * 2 ^ 52 := by rw [Nat.pow_succ]; omega

theorem IsScaled.value_eq {v m e : Nat} (h : IsScaled v m e) (he : 52 ≤ e) :
    v = m * 2 ^ (e - 52) := by
  refine Nat.mul_right_cancel (Nat.two_pow_pos 52) ?_
  rw [h.value, Nat.mul_assoc, ← Nat.pow_add, Nat.sub_add_cancel he]

theorem toBits_pack (sign : Sign) {v m e : Nat} (h : IsNormal v m e) :
    (Float.Model.pack (.finite sign m ((e : Int) - 52) h.pos)).toBits.toNat =
      (sign.toBitVec.toNat * 2 ^ 11 + (e + 1023)) * 2 ^ 52 + (m - 2 ^ 52) := by
  have hlow := h.low
  have hhigh := h.high
  have he := h.exponent
  change (UnpackedFloat.pack Format.binary64 (.finite sign m ((e : Int) - 52) h.pos)).toNat = _
  rw [pack_eq sign h.toIsScaled, if_pos he, toNat_packComponents, BitVec.toNat_ofNat,
    BitVec.toNat_ofNat, Nat.mod_eq_of_lt (show e + 1023 < 2 ^ 11 by omega),
    Nat.mod_eq_sub_mod hlow, Nat.mod_eq_of_lt (show m - 2 ^ 52 < 2 ^ 52 by omega)]

theorem ofBits?_eq {bits : UInt64} {sign e m : Nat} (hlow : 2 ^ 52 ≤ m) (hhigh : m < 2 ^ 53)
    (he : e ≤ 1023) (hbits : bits.toNat = (sign * 2 ^ 11 + (e + 1023)) * 2 ^ 52 + (m - 2 ^ 52)) :
    ∃ start, Decimal.Magnitude.ofBits? bits = some ⟨m, (e : Int) - 52, start⟩ := by
  have hbiased : (bits >>> 52).toNat % 2048 = e + 1023 := by
    rw [UInt64.toNat_shiftRight, Nat.shiftRight_eq_div_pow, hbits]
    change ((sign * 2 ^ 11 + (e + 1023)) * 2 ^ 52 + (m - 2 ^ 52)) / 2 ^ 52 % 2048 = _
    omega
  have hfraction : bits.toNat % Nat.pow 2 52 = m - 2 ^ 52 := by
    rw [Nat.pow_eq, hbits]
    omega
  have hmantissa : Nat.pow 2 52 + (m - 2 ^ 52) = m := by
    rw [Nat.pow_eq]
    omega
  have hexponent : ((e + 1023 : Nat) : Int) - 1075 = (e : Int) - 52 := by omega
  rw [Decimal.Magnitude.ofBits?, hbiased, hfraction, hmantissa, hexponent, if_neg, if_neg]
  · exact ⟨_, rfl⟩
  · simp
  · simp only [beq_iff_eq]
    omega

theorem isNegative_eq {x : Float} {sign : Sign} {e m : Nat} (hlow : 2 ^ 52 ≤ m) (hhigh : m < 2 ^ 53)
    (he : e ≤ 1023)
    (hbits : x.toBits.toNat =
      (sign.toBitVec.toNat * 2 ^ 11 + (e + 1023)) * 2 ^ 52 + (m - 2 ^ 52)) :
    Decimal.isNegative x = (sign == .negative) := by
  have hfirst : (x.toBits >>> 63).toNat = sign.toBitVec.toNat := by
    rw [UInt64.toNat_shiftRight, Nat.shiftRight_eq_div_pow, hbits]
    change ((sign.toBitVec.toNat * 2 ^ 11 + (e + 1023)) * 2 ^ 52 + (m - 2 ^ 52)) / 2 ^ 63 = _
    omega
  rw [Decimal.isNegative, ← UInt64.ofNat_toNat (x := x.toBits >>> 63), hfirst]
  cases sign <;> rfl

theorem truncate?_of_pack (sign : Sign) {v m e : Nat} (h : IsNormal v m e) (he : 52 ≤ e) {x : Float}
    (hx : x.toModel = Float.Model.pack (.finite sign m ((e : Int) - 52) h.pos)) :
    Decimal.truncate? x = some (sign.apply v) := by
  have hbits := toBits_pack sign h
  rw [← hx] at hbits
  obtain ⟨start, hmagnitude⟩ := ofBits?_eq h.low h.high h.exponent hbits
  have hsign := isNegative_eq h.low h.high h.exponent hbits
  have hfloor : (⟨m, (e : Int) - 52, start⟩ : Decimal.Magnitude).floor = v := by
    have hexponent : ((e : Int) - 52).toNat = e - 52 := by omega
    rw [Decimal.Magnitude.floor, if_pos (show 0 ≤ (e : Int) - 52 by omega), hexponent]
    exact (h.value_eq he).symm
  rw [Decimal.truncate?, Float.toBits, hmagnitude, Option.map_some, hfloor, hsign]
  cases sign <;> rfl

/-- The float that a number behind a sign is rounded to: the number itself, or infinity when it is
too large. -/
inductive IsHeld (sign : Sign) (v : Nat) (x : Float) : Prop
  | finite {m e : Nat} (h : IsNormal v m e)
      (hx : x.toModel = Float.Model.pack (.finite sign m ((e : Int) - 52) h.pos)) : IsHeld sign v x
  | infinite {e : Nat} (he : 1023 < e) (h : 2 ^ e ≤ v)
      (hx : x.toModel = Float.Model.pack (.infinity sign)) : IsHeld sign v x

namespace IsHeld

variable {sign : Sign} {v : Nat} {x : Float}

theorem of_isScaled {m e : Nat} (h : IsScaled v m e)
    (hx : x.toModel = Float.Model.pack (.finite sign m ((e : Int) - 52) h.pos)) :
    IsHeld sign v x := by
  rcases le_or_gt e 1023 with he | he
  · exact .finite ⟨h, he⟩ hx
  · refine .infinite he h.two_pow_le (hx.trans (pack_congr ?_))
    rw [pack_eq sign h, if_neg he.not_ge]
    rfl

theorem neg (h : IsHeld .positive v x) : IsHeld .negative v x.neg := by
  rcases h with ⟨h, hx⟩ | ⟨he, h, hx⟩
  · refine .finite h ?_
    change Float.Model.pack x.toModel.unpack.neg = _
    rw [hx]
    exact congrArg (fun y => Float.Model.pack (UnpackedFloat.neg y)) (unpack_pack .positive h)
  · refine .infinite he h ?_
    change Float.Model.pack x.toModel.unpack.neg = _
    rw [hx]
    rfl

theorem truncate?_eq (h : IsHeld sign v x) (hv : 2 ^ 63 ≤ v) :
    Decimal.truncate? x = some (sign.apply v) ∨ Decimal.truncate? x = none ∧ 2 ^ 64 ≤ v := by
  rcases h with ⟨h, hx⟩ | ⟨he, h, hx⟩
  · have he := (Nat.pow_lt_pow_iff_right (by decide)).mp (hv.trans_lt h.lt_two_pow)
    exact .inl (truncate?_of_pack sign h (by omega) hx)
  · obtain ⟨x⟩ := x
    subst hx
    refine .inr ⟨?_, (Nat.pow_le_pow_right (by decide) (by omega)).trans h⟩
    cases sign <;> rfl

end IsHeld

end RequestQuery.Binary64
