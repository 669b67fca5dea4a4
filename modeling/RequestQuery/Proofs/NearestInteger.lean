import Mathlib.Algebra.Order.Ring.Int

namespace RequestQuery.Binary64

/-- A number over a power of two, rounded to the nearest integer, and to the even one of two that
are equally near. -/
def halfEven (n k : Nat) : Nat :=
  if 2 * (n % 2 ^ k) < 2 ^ k then n / 2 ^ k
  else if 2 ^ k < 2 * (n % 2 ^ k) then n / 2 ^ k + 1
  else n / 2 ^ k + n / 2 ^ k % 2

theorem halfEven_bounds (n k : Nat) : n / 2 ^ k ≤ halfEven n k ∧ halfEven n k ≤ n / 2 ^ k + 1 := by
  unfold halfEven
  generalize n / 2 ^ k = q
  split
  · omega
  · split <;> omega

theorem halfEven_mono {m n : Nat} (h : m ≤ n) (k : Nat) : halfEven m k ≤ halfEven n k := by
  rcases (Nat.div_le_div_right (c := 2 ^ k) h).lt_or_eq with hlt | heq
  · have hm := (halfEven_bounds m k).2
    have hn := (halfEven_bounds n k).1
    omega
  · -- With one quotient, the order of the remainders decides.
    have hrest : m % 2 ^ k ≤ n % 2 ^ k := by
      have hm := Nat.div_add_mod m (2 ^ k)
      have hn := Nat.div_add_mod n (2 ^ k)
      rw [heq] at hm
      omega
    unfold halfEven
    rw [heq]
    generalize n / 2 ^ k = q
    repeat' split
    all_goals omega

theorem halfEven_mul_pow (n i j : Nat) : halfEven (n * 2 ^ j) (i + j) = halfEven n i := by
  have hpos : 0 < 2 ^ j := Nat.two_pow_pos j
  rw [halfEven, halfEven, Nat.pow_add, Nat.mul_div_mul_right _ _ hpos, Nat.mul_mod_mul_right,
    ← Nat.mul_assoc]
  simp only [Nat.mul_lt_mul_right hpos]

@[simp]
theorem halfEven_zero (n : Nat) : halfEven n 0 = n := by
  simp [halfEven, Nat.mod_one]

@[simp]
theorem halfEven_mul_pow_self (n k : Nat) : halfEven (n * 2 ^ k) k = n := by
  have h := halfEven_mul_pow n 0 k
  rwa [Nat.zero_add, halfEven_zero] at h

theorem le_halfEven {a n k : Nat} (h : a * 2 ^ k ≤ n) : a ≤ halfEven n k := by
  rw [← halfEven_mul_pow_self a k]
  exact halfEven_mono h k

theorem halfEven_le {a n k : Nat} (h : n ≤ a * 2 ^ k) : halfEven n k ≤ a := by
  rw [← halfEven_mul_pow_self a k]
  exact halfEven_mono h k

/-- The integer with 53 binary digits, and zeros after them, that is nearest to a natural number. -/
def nearest (n : Nat) : Nat :=
  halfEven n (n.log2 - 52) * 2 ^ (n.log2 - 52)

theorem nearest_of_le {n : Nat} (h : n ≤ 2 ^ 53) : nearest n = n := by
  rcases h.lt_or_eq with h | rfl
  · have hlog : n.log2 - 52 = 0 := by
      rcases Nat.eq_zero_or_pos n with rfl | hpos
      · rfl
      · have := (Nat.log2_lt hpos.ne').mpr h
        omega
    rw [nearest, hlog, halfEven_zero, Nat.pow_zero, Nat.mul_one]
  · decide +kernel

/-- A number rounded to 53 binary digits, without the zeros after them. -/
def significand (n : Nat) : Nat :=
  halfEven (n * 2 ^ 53) (n.log2 + 1)

theorem significand_bounds {n : Nat} (hn : n ≠ 0) :
    2 ^ 52 ≤ significand n ∧ significand n ≤ 2 ^ 53 := by
  constructor
  · refine le_halfEven ?_
    calc
      2 ^ 52 * 2 ^ (n.log2 + 1) = 2 ^ n.log2 * 2 ^ 53 := by rw [Nat.pow_succ]; omega
      _ ≤ n * 2 ^ 53 := Nat.mul_le_mul_right _ (Nat.log2_self_le hn)
  · refine halfEven_le ?_
    rw [Nat.mul_comm]
    exact Nat.mul_le_mul_left _ Nat.lt_log2_self.le

theorem nearest_mul_pow (n : Nat) : nearest n * 2 ^ 52 = significand n * 2 ^ n.log2 := by
  rw [nearest, significand]
  rcases Nat.le_total 52 n.log2 with h | h
  · obtain ⟨i, hi⟩ := Nat.exists_eq_add_of_le h
    have hshift : n.log2 + 1 = i + 53 := by omega
    rw [hshift, halfEven_mul_pow, hi, Nat.add_sub_cancel_left, Nat.mul_assoc, ← Nat.pow_add,
      Nat.add_comm i]
  · have hpow : 2 ^ (52 - n.log2) * 2 ^ n.log2 = 2 ^ 52 := by
      rw [← Nat.pow_add, Nat.sub_add_cancel h]
    have hscale : n * 2 ^ 53 = n * 2 ^ (52 - n.log2) * 2 ^ (n.log2 + 1) := by
      rw [Nat.mul_assoc, Nat.pow_succ 2 n.log2, ← Nat.mul_assoc (2 ^ (52 - n.log2)), hpow]
      omega
    rw [hscale, halfEven_mul_pow_self, Nat.mul_assoc n, hpow, Nat.sub_eq_zero_of_le h,
      halfEven_zero, Nat.pow_zero, Nat.mul_one]

theorem log2_mul_two_pow {n : Nat} (hn : n ≠ 0) (j : Nat) : (n * 2 ^ j).log2 = n.log2 + j := by
  have hpos := Nat.two_pow_pos j
  rw [Nat.log2_eq_iff (Nat.mul_ne_zero hn hpos.ne'), Nat.add_right_comm, Nat.pow_add, Nat.pow_add]
  exact ⟨Nat.mul_le_mul_right _ (Nat.log2_self_le hn),
    Nat.mul_lt_mul_of_pos_right Nat.lt_log2_self hpos⟩

theorem nearest_mul_two_pow (n j : Nat) : nearest (n * 2 ^ j) = nearest n * 2 ^ j := by
  rcases Nat.eq_zero_or_pos n with rfl | hpos
  · rw [Nat.zero_mul, nearest_of_le (Nat.zero_le _), Nat.zero_mul]
  have hsignificand : significand (n * 2 ^ j) = significand n := by
    rw [significand, significand, log2_mul_two_pow hpos.ne', Nat.mul_right_comm,
      Nat.add_right_comm, halfEven_mul_pow]
  refine Nat.mul_right_cancel (Nat.two_pow_pos 52) ?_
  calc
    nearest (n * 2 ^ j) * 2 ^ 52 = significand n * 2 ^ (n.log2 + j) := by
      rw [nearest_mul_pow, hsignificand, log2_mul_two_pow hpos.ne']
    _ = nearest n * 2 ^ 52 * 2 ^ j := by rw [nearest_mul_pow, Nat.pow_add, Nat.mul_assoc]
    _ = nearest n * 2 ^ j * 2 ^ 52 := Nat.mul_right_comm _ _ _

theorem nearest_bounds {n : Nat} (hn : n ≠ 0) :
    2 ^ n.log2 ≤ nearest n ∧ nearest n ≤ 2 ^ (n.log2 + 1) := by
  obtain ⟨hlow, hhigh⟩ := significand_bounds hn
  have hlow := Nat.mul_le_mul_right (2 ^ n.log2) hlow
  have hhigh := Nat.mul_le_mul_right (2 ^ n.log2) hhigh
  have heq := nearest_mul_pow n
  rw [Nat.pow_succ]
  omega

theorem nearest_mono {m n : Nat} (h : m ≤ n) : nearest m ≤ nearest n := by
  rcases Nat.eq_zero_or_pos m with rfl | hm
  · exact Nat.zero_le _
  have hlog : m.log2 ≤ n.log2 := by
    rw [Nat.le_log2 (by omega)]
    exact (Nat.log2_self_le hm.ne').trans h
  rcases hlog.lt_or_eq with hlt | heq
  · -- A power of two lies between them.
    calc
      nearest m ≤ 2 ^ (m.log2 + 1) := (nearest_bounds hm.ne').2
      _ ≤ 2 ^ n.log2 := Nat.pow_le_pow_right (by decide) hlt
      _ ≤ nearest n := (nearest_bounds (by omega)).1
  · rw [nearest, nearest, heq]
    exact Nat.mul_le_mul_right _ (halfEven_mono h _)

theorem two_pow_dvd_nearest {n j : Nat} (h : 52 + j ≤ n.log2) : 2 ^ j ∣ nearest n :=
  Dvd.dvd.mul_left (Nat.pow_dvd_pow 2 (by omega)) _

theorem nearest_two_pow (k : Nat) : nearest (2 ^ k) = 2 ^ k := by
  have h := nearest_mul_two_pow 1 k
  rwa [nearest_of_le (n := 1) (by decide), Nat.one_mul] at h

/-- A quotient in quarters. What is cut off makes the last digit odd, so that rounding can tell it
from nothing and from a half. -/
def quarters (a b : Nat) : Nat :=
  2 * (2 * a / b) + if 2 * a % b = 0 then 0 else 1

@[simp]
theorem quarters_one (a : Nat) : quarters a 1 = a * 2 ^ 2 := by
  rw [quarters, Nat.div_one, Nat.mod_one, if_pos rfl]
  omega

theorem quarters_le_iff {a b : Nat} (hb : 0 < b) (t : Nat) :
    quarters a b ≤ t * 2 ^ 2 ↔ a ≤ t * b := by
  have hsplit := Nat.div_add_mod (2 * a) b
  have hscale : 2 * a ≤ 2 * t * b ↔ a ≤ t * b := by
    rw [Nat.mul_assoc]
    exact Nat.mul_le_mul_left_iff (by decide)
  rw [← hscale, quarters]
  by_cases hrest : 2 * a % b = 0
  · rw [hrest, Nat.add_zero, Nat.mul_comm] at hsplit
    rw [if_pos hrest, ← hsplit, Nat.mul_le_mul_right_iff hb, hsplit]
    omega
  · -- The quotient itself cannot be the bound, as something is cut off.
    have hne : 2 * a ≠ 2 * t * b := fun heq => hrest (heq ▸ Nat.mul_mod_left _ _)
    have hlt := Nat.div_lt_iff_lt_mul (x := 2 * a) (y := 2 * t) hb
    rw [if_neg hrest]
    omega

theorem le_quarters_iff {a b : Nat} (hb : 0 < b) (t : Nat) :
    t * 2 ^ 2 ≤ quarters a b ↔ t * b ≤ a := by
  have hle := Nat.le_div_iff_mul_le (x := 2 * t) (y := 2 * a) hb
  have hscale : 2 * t * b ≤ 2 * a ↔ t * b ≤ a := by
    rw [Nat.mul_assoc]
    exact Nat.mul_le_mul_left_iff (by decide)
  rw [← hscale, ← hle, quarters]
  split <;> omega

theorem quarters_bounds {a b : Nat} (hb : 0 < b) :
    a / b * 2 ^ 2 ≤ quarters a b ∧ quarters a b < (a / b + 1) * 2 ^ 2 := by
  rw [← Nat.not_le, le_quarters_iff hb, le_quarters_iff hb, Nat.not_le]
  exact ⟨Nat.div_mul_le_self a b, Nat.lt_mul_of_div_lt (Nat.lt_succ_self _) hb⟩

theorem log2_quarters {a b : Nat} (hb : 0 < b) (h : a / b ≠ 0) :
    (quarters a b).log2 = (a / b).log2 + 2 := by
  obtain ⟨hlow, hhigh⟩ := quarters_bounds (a := a) hb
  have hle := Nat.log2_self_le h
  have hlt : a / b < 2 ^ ((a / b).log2 + 1) := Nat.lt_log2_self
  rw [Nat.log2_eq_iff (by omega), Nat.add_right_comm, Nat.pow_add, Nat.pow_add]
  omega

theorem nearest_quarters_eq_iff {a b : Nat} (hb : 0 < b) (h : 2 ^ 63 * b ≤ a) :
    nearest (quarters a b) = 2 ^ 63 * 2 ^ 2 ↔ a ≤ (2 ^ 63 + 2 ^ 10) * b := by
  have hlow := nearest_mono ((le_quarters_iff hb _).mpr h)
  have hfirst : nearest (2 ^ 63 * 2 ^ 2) = 2 ^ 63 * 2 ^ 2 := by decide +kernel
  have hhalf : nearest ((2 ^ 63 + 2 ^ 10) * 2 ^ 2) = 2 ^ 63 * 2 ^ 2 := by decide +kernel
  have hbeyond : 2 ^ 63 * 2 ^ 2 < nearest ((2 ^ 63 + 2 ^ 10) * 2 ^ 2 + 1) := by decide +kernel
  rw [← quarters_le_iff hb]
  constructor
  · intro heq
    by_contra hgt
    have := nearest_mono (Nat.succ_le_of_lt (Nat.lt_of_not_le hgt))
    rw [heq] at this
    exact absurd hbeyond this.not_gt
  · intro hle
    rw [hfirst] at hlow
    exact le_antisymm ((nearest_mono hle).trans hhalf.le) hlow

theorem exists_nearest_quarters {a b k : Nat} (hb : 0 < b) (hk : 52 ≤ k) (h : 2 ^ k * b ≤ a) :
    ∃ v, v * 2 ^ 2 = nearest (quarters a b) ∧ 2 ^ k ≤ v := by
  have hle := (le_quarters_iff hb _).mpr h
  have hpos : quarters a b ≠ 0 := by
    have := Nat.two_pow_pos k
    omega
  rw [← Nat.pow_add] at hle
  have hlog := (Nat.le_log2 hpos).mpr hle
  obtain ⟨v, hv⟩ := two_pow_dvd_nearest (n := quarters a b) (j := 2) (by omega)
  have hnearest := nearest_mono hle
  rw [nearest_two_pow, Nat.pow_add] at hnearest
  exact ⟨v, by omega, by omega⟩

/-- The integer of double precision that is nearest to an integer. -/
def nearestInt : Int → Int
  | .ofNat n => nearest n
  | .negSucc n => -nearest (n + 1)

theorem nearestInt_of_natAbs_le {n : Int} (h : n.natAbs ≤ 2 ^ 53) : nearestInt n = n := by
  cases n with
  | ofNat n => exact congrArg Int.ofNat (nearest_of_le h)
  | negSucc n => exact congrArg (fun k : Nat => -(k : Int)) (nearest_of_le h)

theorem nearestInt_mono {m n : Int} (h : m ≤ n) : nearestInt m ≤ nearestInt n := by
  cases m with
  | ofNat m =>
      cases n with
      | ofNat n => exact Int.ofNat_le.mpr (nearest_mono (Int.ofNat_le.mp h))
      | negSucc n => exact absurd ((Int.natCast_nonneg m).trans h) (Int.negSucc_lt_zero n).not_ge
  | negSucc m =>
      cases n with
      | ofNat n =>
          rw [nearestInt, nearestInt]
          omega
      | negSucc n =>
          have hle : nearest (n + 1) ≤ nearest (m + 1) := nearest_mono (by omega)
          rw [nearestInt, nearestInt]
          omega

/-- Rounding keeps two integers apart and in order, unless they become one. -/
theorem nearestInt_lt_iff {m n : Int} :
    nearestInt m < nearestInt n ↔ m < n ∧ nearestInt m ≠ nearestInt n := by
  constructor
  · intro h
    refine ⟨?_, h.ne⟩
    by_contra hle
    exact absurd h (nearestInt_mono (Int.not_lt.mp hle)).not_gt
  · rintro ⟨hlt, hne⟩
    exact lt_of_le_of_ne (nearestInt_mono hlt.le) hne

end RequestQuery.Binary64
