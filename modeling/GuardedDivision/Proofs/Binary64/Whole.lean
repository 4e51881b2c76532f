import GuardedDivision.Binary64.Arithmetic
import GuardedDivision.Proofs.Binary64.Nearest

namespace GuardedDivision.Binary64

def quanta? : Binary64 → Option Int
  | .finite negative rank => some (if negative then -(quanta rank : Int) else quanta rank)
  | _ => none

def IsWhole (x : Binary64) (n : Int) : Prop := x.quanta? = some (n <<< quantumPlaces)

def unit : Nat := 1 <<< quantumPlaces

theorem shiftLeft_quantumPlaces (n : Nat) : n <<< quantumPlaces = n * unit := by
  rw [unit, Nat.shiftLeft_eq, Nat.shiftLeft_eq 1, Nat.one_mul]

theorem shiftRight_quantumPlaces (n : Nat) : n >>> quantumPlaces = n / unit := by
  rw [unit, Nat.shiftRight_eq_div_pow, Nat.shiftLeft_eq, Nat.one_mul]

theorem int_shiftLeft_quantumPlaces (n : Int) : n <<< quantumPlaces = n * unit := by
  rw [unit, Int.shiftLeft_eq, Nat.shiftLeft_eq, Nat.one_mul, Int.natCast_pow]
  rfl

theorem unit_pos : 0 < unit := Nat.shiftLeft_pos_iff.mpr Nat.one_pos

theorem quanta_rowSize_lt_unit : quanta rowSize < unit := by decide +kernel

theorem rowSize_mul_unit_le : 2 * rowSize * unit ≤ quanta rankCount := by decide +kernel

def wholeRank (n : Nat) : Nat := floorRank (n <<< quantumPlaces)

theorem quanta_wholeRank {n : Nat} (hn : n < 2 * rowSize) : quanta (wholeRank n) = n * unit := by
  rw [← shiftLeft_quantumPlaces]
  exact quanta_floorRank_shift hn quantumPlaces

theorem nearestRank_zero {q : Nat} (hq : 0 < q) : nearestRank 0 q = 0 := by
  have hexact := roundQuanta_exact hq 0
  rw [quanta_zero, Nat.zero_mul] at hexact
  rw [nearestRank, Nat.zero_shiftLeft, hexact]

theorem nearestRank_one {n : Nat} (hn : n < 2 * rowSize) : nearestRank n 1 = wholeRank n := by
  rw [nearestRank, shiftLeft_quantumPlaces, ← quanta_wholeRank hn, ← Nat.mul_one (quanta _)]
  exact roundQuanta_exact Nat.one_pos _

theorem nearestRank_mono {p q p' q' : Nat} (hq : 0 < q) (hq' : 0 < q') (h : p * q' ≤ p' * q) :
    nearestRank p q ≤ nearestRank p' q' := by
  apply roundQuanta_mono hq hq'
  rw [shiftLeft_quantumPlaces, shiftLeft_quantumPlaces, Nat.mul_right_comm, Nat.mul_right_comm p']
  exact Nat.mul_le_mul_right _ h

theorem nearestRank_mul (p : Nat) {q k : Nat} (hq : 0 < q) (hk : 0 < k) :
    nearestRank (p * k) (q * k) = nearestRank p q := by
  apply roundQuanta_congr (Nat.mul_pos hq hk) hq
  rw [shiftLeft_quantumPlaces, shiftLeft_quantumPlaces]
  ac_rfl

theorem wholeRank_lt_rankCount {n : Nat} (hn : n < 2 * rowSize) : wholeRank n < rankCount := by
  rw [← quanta_strictMono.lt_iff_lt, quanta_wholeRank hn]
  exact (Nat.mul_lt_mul_of_pos_right hn unit_pos).trans_le rowSize_mul_unit_le

theorem nearest_one {n : Nat} (hn : n < 2 * rowSize) (negative : Bool) :
    nearest negative n 1 = .finite negative ⟨wholeRank n, wholeRank_lt_rankCount hn⟩ := by
  rw [nearest, nearestRank_one hn, ofRank, dif_pos (wholeRank_lt_rankCount hn)]

theorem isWhole_nearest_one {n : Nat} (hn : n < 2 * rowSize) (negative : Bool) :
    (nearest negative n 1).IsWhole (if negative then -(n : Int) else n) := by
  rw [nearest_one hn, IsWhole, quanta?, quanta_wholeRank hn, int_shiftLeft_quantumPlaces]
  cases negative with
  | false => rfl
  | true =>
    rw [if_pos rfl, if_pos rfl, Int.neg_mul]
    rfl

theorem wholeRank_zero : wholeRank 0 = 0 := by
  rw [wholeRank, Nat.zero_shiftLeft]
  decide

theorem nearest_zero (negative : Bool) : nearest negative 0 1 = zero negative := by
  rw [nearest_one (by decide), zero]
  simp only [wholeRank_zero]

theorem wholeRank_inj {m n : Nat} (hm : m < 2 * rowSize) (hn : n < 2 * rowSize)
    (h : wholeRank m = wholeRank n) : m = n := by
  have hq := congrArg quanta h
  rw [quanta_wholeRank hm, quanta_wholeRank hn] at hq
  exact Nat.eq_of_mul_eq_mul_right unit_pos hq

/-- No other whole number rounds to one of at most 53 binary places, but to the last of these. -/
theorem eq_of_nearestRank_one {m n : Nat} (hn : n + 1 < 2 * rowSize)
    (h : nearestRank m 1 = wholeRank n) : m = n := by
  by_cases hm : m < 2 * rowSize
  · rw [nearestRank_one hm] at h
    exact wholeRank_inj hm (by omega) h
  · -- rounding is monotone, and `n + 1` does not round to `n`
    have hle : nearestRank (n + 1) 1 ≤ nearestRank m 1 :=
      nearestRank_mono Nat.one_pos Nat.one_pos (by omega)
    rw [nearestRank_one hn, h] at hle
    have hquanta := quanta_strictMono.monotone hle
    rw [quanta_wholeRank hn, quanta_wholeRank (Nat.lt_of_succ_lt hn)] at hquanta
    have := Nat.le_of_mul_le_mul_right hquanta unit_pos
    omega

/-- The whole part of the rounded quotient is that of the exact one. -/
theorem shiftRight_nearestRank {n d : Nat} (hd : 0 < d) (hs : n + d ≤ rowSize) :
    quanta (nearestRank n d) >>> quantumPlaces = n / d := by
  have hself := Nat.div_le_self n d
  have hk : n / d + 1 < 2 * rowSize := by omega
  have hlow : wholeRank (n / d) ≤ nearestRank n d := by
    rw [← nearestRank_one (by omega)]
    exact nearestRank_mono Nat.one_pos hd (by rw [Nat.mul_one]; exact Nat.div_mul_le_self n d)
  have hhigh : nearestRank n d < wholeRank (n / d + 1) := by
    have hnext := quanta_wholeRank hk
    have hrow : rowSize < wholeRank (n / d + 1) := by
      rw [← quanta_strictMono.lt_iff_lt, hnext]
      exact quanta_rowSize_lt_unit.trans_le (Nat.le_mul_of_pos_left _ (Nat.succ_pos _))
    -- `r` is the rank below the next whole number; the quotient does not round beyond it
    obtain ⟨r, hr⟩ : ∃ r, wholeRank (n / d + 1) = r + 1 := ⟨wholeRank (n / d + 1) - 1, by omega⟩
    rw [hr] at hnext hrow ⊢
    rw [Nat.lt_succ_iff, nearestRank, shiftLeft_quantumPlaces, roundQuanta_le_iff _ hd]
    left
    have hexact : n + 1 ≤ (n / d + 1) * d :=
      Nat.succ_le_iff.mpr (Nat.lt_mul_of_div_lt (Nat.lt_succ_self _) hd)
    have hbound : (n / d + 1) * d ≤ rowSize := by
      have := Nat.div_mul_le_self n d
      rw [Nat.succ_mul]
      omega
    have hstep : step r * d ≤ unit := by
      apply Nat.le_of_mul_le_mul_right _ (show 0 < rowSize by decide)
      calc step r * d * rowSize = step r * rowSize * d := Nat.mul_right_comm _ _ _
        _ ≤ quanta (r + 1) * d := Nat.mul_le_mul_right d
            ((step_mul_le (by omega)).trans (quanta_strictMono.monotone (Nat.le_succ r)))
        _ = (n / d + 1) * d * unit := by rw [hnext, Nat.mul_right_comm]
        _ ≤ rowSize * unit := Nat.mul_le_mul_right unit hbound
        _ = unit * rowSize := Nat.mul_comm _ _
    have hmiddle : middle r * d + step r * d = 2 * ((n / d + 1) * d * unit) := by
      rw [middle, ← Nat.add_mul, Nat.add_right_comm, ← quanta_succ, hnext, ← Nat.two_mul,
        Nat.mul_assoc, Nat.mul_right_comm]
    have hgap : (n + 1) * unit ≤ (n / d + 1) * d * unit := Nat.mul_le_mul_right unit hexact
    have hpos := unit_pos
    rw [Nat.succ_mul] at hgap
    omega
  rw [shiftRight_quantumPlaces]
  have h₁ := quanta_strictMono.monotone hlow
  have h₂ := quanta_strictMono hhigh
  rw [quanta_wholeRank (by omega)] at h₁
  rw [quanta_wholeRank hk] at h₂
  exact Nat.div_eq_of_lt_le h₁ h₂

end GuardedDivision.Binary64
