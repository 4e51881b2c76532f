import GuardedDivision.Proofs.Binary64.Whole
import GuardedDivision.Proofs.IntegerDivision

namespace GuardedDivision

namespace Binary64

theorem exceeds_finite (a b : Bool) (r s : Rank) :
    (finite a r).exceeds (finite b s) = decide (s.val < r.val) := rfl

theorem epsilonRank_lt_one : nearestRank 1 1000000 < wholeRank 1 := by decide +kernel

theorem epsilon_eq : epsilon = .finite false ⟨nearestRank 1 1000000,
    epsilonRank_lt_one.trans (wholeRank_lt_rankCount (by decide))⟩ := by
  rw [epsilon, nearest, ofRank, dif_pos]

theorem wholeRank_pos {n : Nat} (hpos : 0 < n) (hn : n < 2 * rowSize) :
    wholeRank 1 ≤ wholeRank n := by
  rw [← quanta_strictMono.le_iff_le, quanta_wholeRank (by decide), quanta_wholeRank hn]
  exact Nat.mul_le_mul_right unit hpos

theorem exceeds_epsilon_nearest_one {n : Nat} (hn : n < 2 * rowSize) (negative : Bool) :
    (nearest negative n 1).exceeds epsilon = decide (n ≠ 0) := by
  rw [nearest_one hn, epsilon_eq, exceeds_finite]
  congr 1
  by_cases h : n = 0
  · subst n
    simp [wholeRank_zero]
  · have hlt := epsilonRank_lt_one.trans_le (wholeRank_pos (Nat.pos_of_ne_zero h) hn)
    simp [h, hlt]

theorem nearestRank_lt_rankCount {n d : Nat} (hd : 0 < d) (hs : n + d ≤ rowSize) :
    nearestRank n d < rankCount := by
  have hwhole := shiftRight_nearestRank hd hs
  rw [shiftRight_quantumPlaces] at hwhole
  have hquanta : quanta (nearestRank n d) < (n / d + 1) * unit := by
    rw [← hwhole]
    exact Nat.lt_mul_of_div_lt (Nat.lt_succ_self _) unit_pos
  have hself := Nat.div_le_self n d
  rw [← quanta_strictMono.lt_iff_lt]
  exact (hquanta.trans_le (Nat.mul_le_mul_right unit (by omega))).trans_le rowSize_mul_unit_le

theorem toInt32_div {n d : Nat} (hd : 0 < d) (hs : n + d ≤ rowSize) (a b : Bool) :
    ((nearest a n 1).div (nearest b d 1)).toInt32 =
      Int32.ofIntClamp (if a != b then -((n / d : Nat) : Int) else (n / d : Nat)) := by
  have hn' : n < 2 * rowSize := by omega
  have hd' : d < 2 * rowSize := by omega
  have hzero : wholeRank d ≠ 0 := by
    rw [← wholeRank_zero]
    exact fun h => hd.ne' (wholeRank_inj hd' (by decide) h)
  rw [nearest_one hn', nearest_one hd', div, if_neg hzero]
  simp only [quanta_wholeRank hn', quanta_wholeRank hd']
  rw [nearest, nearestRank_mul n hd unit_pos, ofRank, dif_pos (nearestRank_lt_rankCount hd hs),
    toInt32]
  simp only [shiftRight_nearestRank hd hs]

theorem tdiv_eq_natAbs_div (n d : Int) :
    n.tdiv d = if decide (n < 0) != decide (d < 0) then -((n.natAbs / d.natAbs : Nat) : Int)
      else (n.natAbs / d.natAbs : Nat) := by
  have hofNat (m : Nat) : decide (Int.ofNat m < 0) = false := by simp
  have hnegSucc (m : Nat) : decide (Int.negSucc m < 0) = true :=
    decide_eq_true (Int.negSucc_lt_zero m)
  cases n with
  | ofNat n =>
    cases d with
    | ofNat d =>
      rw [hofNat, hofNat]
      rfl
    | negSucc d =>
      rw [hofNat, hnegSucc]
      rfl
  | negSucc n =>
    cases d with
    | ofNat d =>
      rw [hofNat, hnegSucc]
      rfl
    | negSucc d =>
      rw [hnegSucc, hnegSucc]
      rfl

theorem toInt32_div_ofInt {n d : Int} (hd : d ≠ 0) (hs : n.natAbs + d.natAbs ≤ rowSize) :
    ((ofInt n).div (ofInt d)).toInt32 = Int32.ofIntClamp (n.tdiv d) := by
  rw [ofInt, ofInt, toInt32_div (Int.natAbs_pos.mpr hd) hs, tdiv_eq_natAbs_div]

theorem natAbs_toInt_le (n : Int32) : n.toInt.natAbs ≤ 0x80000000 := by
  have hlow := n.le_toInt
  have hhigh := n.toInt_lt
  omega

/-- The floating-point quotient of two integers is the integer one, or the greatest integer where
that leaves the 32-bit range. -/
theorem floatQuotient_ofInt32 (n : Int32) {d : Int32} (hd : d ≠ 0) :
    Unguarded.floatQuotient (.ofInt32 n) (.ofInt32 d) =
      if Overflows n d then Int32.maxValue else n / d := by
  have hs : n.toInt.natAbs + d.toInt.natAbs ≤ rowSize := by
    have hn := natAbs_toInt_le n
    have hd := natAbs_toInt_le d
    simp only [rowSize]
    omega
  rw [Unguarded.floatQuotient, ofInt32, ofInt32, toInt32_div_ofInt (toInt_ne_zero hd) hs]
  split
  · next h =>
    obtain ⟨rfl, rfl⟩ := h
    decide
  · next h => rw [← toInt_div h, Int32.ofIntClamp_toInt]

theorem exceeds_epsilon_ofInt32 (d : Int32) :
    (ofInt32 d).exceeds epsilon = decide (d ≠ 0) := by
  have hsize : d.toInt.natAbs < 2 * rowSize :=
    (natAbs_toInt_le d).trans_lt (by decide)
  rw [ofInt32, ofInt, exceeds_epsilon_nearest_one hsize]
  by_cases hd : d = 0
  · subst d
    decide
  · simp [hd, toInt_ne_zero hd]

end Binary64

end GuardedDivision
