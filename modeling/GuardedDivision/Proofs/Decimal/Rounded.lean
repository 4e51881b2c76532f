import GuardedDivision.Decimal.Literal
import GuardedDivision.Proofs.Binary64.Correct

namespace GuardedDivision.Decimal

open Binary64 (IsNearest sign nearest)

def value (d : Decimal) : ℚ := sign d.negative * (d.digits * 10 ^ d.exponent)

theorem abs_value (d : Decimal) : |d.value| = d.digits * 10 ^ d.exponent := by
  have hnonneg : (0 : ℚ) ≤ d.digits * 10 ^ d.exponent := by positivity
  rw [value, Binary64.abs_sign_mul, abs_of_nonneg hnonneg]

theorem value_eq_div (d : Decimal) : d.value = sign d.negative *
    (((d.digits * Nat.pow 10 d.exponent.toNat : Nat) : ℚ) /
      (Nat.pow 10 (-d.exponent).toNat : Nat)) := by
  obtain ⟨negative, digits, exponent⟩ := d
  rw [value]
  congr 1
  cases exponent with
  | ofNat e => simp
  | negSucc e =>
    rw [zpow_negSucc]
    simp [div_eq_mul_inv]

theorem isNearest_fraction (d : Decimal) : IsNearest d.negative d.value
    (nearest d.negative (d.digits * Nat.pow 10 d.exponent.toNat)
      (Nat.pow 10 (-d.exponent).toNat)) := by
  rw [value_eq_div]
  exact Binary64.isNearest_nearest _ _ (Nat.pow_pos (by decide))

theorem abs_value_of_zero {d : Decimal} (h : d.digits = 0) : |d.value| ≤ 1 / 2 ^ 1075 := by
  rw [abs_value, h, Nat.cast_zero, zero_mul]
  positivity

/-- With an exponent so great every number but zero is beyond the finite ones. -/
theorem le_abs_value {d : Decimal} (hdigits : d.digits ≠ 0) (h : 309 ≤ d.exponent) :
    2 ^ 1024 - 2 ^ 970 ≤ |d.value| := by
  have hpow : 2 ^ 1024 ≤ 10 ^ 309 := by decide +kernel
  have hcast : (2 : ℚ) ^ 1024 ≤ 10 ^ 309 := by
    have h := (Nat.cast_le (α := ℚ)).mpr hpow
    rwa [Nat.cast_pow, Nat.cast_pow, Nat.cast_ofNat, Nat.cast_ofNat] at h
  have hone : (1 : ℚ) ≤ d.digits := Nat.one_le_cast.mpr (Nat.pos_of_ne_zero hdigits)
  rw [abs_value]
  calc (2 : ℚ) ^ 1024 - 2 ^ 970 ≤ 2 ^ 1024 := sub_le_self _ (by positivity)
    _ ≤ 10 ^ 309 := hcast
    _ = 10 ^ (309 : ℤ) := (zpow_natCast 10 309).symm
    _ ≤ 10 ^ d.exponent := zpow_le_zpow_right₀ (by norm_num) h
    _ ≤ d.digits * 10 ^ d.exponent := le_mul_of_one_le_left (by positivity) hone

/-- With an exponent so far below zero a number is nearer to zero than to any other number. -/
theorem abs_value_le {d : Decimal} {k : Nat} (hdigits : d.digits ≤ 10 ^ k)
    (h : k + 324 ≤ -d.exponent) : |d.value| ≤ 1 / 2 ^ 1075 := by
  have hpow : 2 ^ 1075 ≤ 10 ^ 324 := by decide +kernel
  have hcast : (2 : ℚ) ^ 1075 ≤ 10 ^ 324 := by
    have h := (Nat.cast_le (α := ℚ)).mpr hpow
    rwa [Nat.cast_pow, Nat.cast_pow, Nat.cast_ofNat, Nat.cast_ofNat] at h
  have hk : (d.digits : ℚ) ≤ 10 ^ (k : ℤ) := by
    rw [zpow_natCast]
    exact_mod_cast hdigits
  rw [abs_value]
  calc (d.digits : ℚ) * 10 ^ d.exponent ≤ 10 ^ (k : ℤ) * 10 ^ d.exponent :=
        mul_le_mul_of_nonneg_right hk (by positivity)
    _ = 10 ^ (k + d.exponent) := (zpow_add₀ (by norm_num) _ _).symm
    _ ≤ 10 ^ (-324 : ℤ) := zpow_le_zpow_right₀ (by norm_num) (by omega)
    _ = 1 / 10 ^ 324 := by rw [zpow_neg, one_div]; rfl
    _ ≤ 1 / 2 ^ 1075 := one_div_le_one_div_of_le (by positivity) hcast

/-- The cut-offs are only met where rounding gives the same. -/
theorem toBinary64_eq_nearest (d : Decimal) : d.toBinary64 =
    nearest d.negative (d.digits * Nat.pow 10 d.exponent.toNat)
      (Nat.pow 10 (-d.exponent).toNat) := by
  have hnearest := d.isNearest_fraction
  obtain ⟨negative, digits, exponent⟩ := d
  cases exponent with
  | ofNat e =>
    rw [toBinary64]
    dsimp only
    split_ifs with hdigits he
    · exact (hnearest.zero (abs_value_of_zero hdigits)).symm
    · refine (hnearest.infinite (le_abs_value hdigits ?_)).symm
      change (309 : Int) ≤ (e : Int)
      omega
    · have hdenominator : (-Int.ofNat e).toNat = 0 := Int.toNat_of_nonpos (by simp)
      rw [hdenominator]
      rfl
  | negSucc e =>
    rw [toBinary64]
    dsimp only
    split_ifs with he
    · have hdigits : digits ≤ 10 ^ (digits.log2 + 1) :=
        Nat.lt_log2_self.le.trans (Nat.pow_le_pow_left (by decide) _)
      refine (hnearest.zero (abs_value_le hdigits ?_)).symm
      rw [Int.neg_negSucc]
      omega
    · have hnumerator : digits * Nat.pow 10 (Int.negSucc e).toNat = digits := Nat.mul_one digits
      rw [hnumerator]
      rfl

/-- A decimal is read as the number that its exact value rounds to. -/
theorem isNearest_toBinary64 (d : Decimal) : IsNearest d.negative d.value d.toBinary64 := by
  rw [toBinary64_eq_nearest]
  exact d.isNearest_fraction

theorem nearestRank_of_toBinary64 {d : Decimal} {negative : Bool} {rank : Binary64.Rank}
    (h : d.toBinary64 = .finite negative rank) : ∃ up down,
      Binary64.nearestRank (d.digits * Nat.pow 10 up) (Nat.pow 10 down) = rank.val := by
  rw [toBinary64_eq_nearest] at h
  exact ⟨_, _, Binary64.eq_of_ofRank h⟩

theorem abs_value_le_of_zero {d : Decimal} {negative : Bool}
    (h : d.toBinary64 = .zero negative) : |d.value| ≤ 1 / 2 ^ 1075 := by
  rw [toBinary64_eq_nearest] at h
  have hpos : 0 < Nat.pow 10 (-d.exponent).toNat := Nat.pow_pos (by decide)
  have hzero := (Binary64.nearestRank_eq_zero_iff _ hpos).mp (Binary64.eq_of_ofRank h)
  rwa [value_eq_div, Binary64.abs_sign_mul,
    abs_of_nonneg (div_nonneg (Nat.cast_nonneg _) (Nat.cast_nonneg _))]

end GuardedDivision.Decimal
