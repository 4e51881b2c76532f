import GuardedDivision.Division

namespace GuardedDivision

/-- The law of truncating division: the remainder is smaller than the divisor, and if it is not
zero it has the sign of the numerator. -/
structure IsTruncated (n d q r : Int) : Prop where
  equation : n = q * d + r
  remainder_lt : r.natAbs < d.natAbs
  sign : r = 0 ∨ r.sign = n.sign

namespace IsTruncated

variable {n d q r : Int}

theorem ne_zero (h : IsTruncated n d q r) : d ≠ 0 := by
  have hlt := h.remainder_lt
  omega

theorem remainder_sign (h : IsTruncated n d q r) : 0 ≤ n ∧ 0 ≤ r ∨ n ≤ 0 ∧ r ≤ 0 := by
  obtain rfl | hsign := h.sign
  · omega
  · obtain hn | rfl | hn := Int.lt_trichotomy n 0
    · rw [Int.sign_eq_neg_one_of_neg hn, Int.sign_eq_neg_one_iff_neg] at hsign
      omega
    · rw [Int.sign_zero, Int.sign_eq_zero_iff_zero] at hsign
      omega
    · rw [Int.sign_eq_one_of_pos hn, Int.sign_eq_one_iff_pos] at hsign
      omega

theorem tdiv_tmod_eq (h : IsTruncated n d q r) : n.tdiv d = q ∧ n.tmod d = r := by
  have hequation : r + d * q = n := by rw [h.equation, Int.mul_comm, Int.add_comm]
  have hlt := h.remainder_lt
  obtain ⟨hn, hr⟩ | ⟨hn, hr⟩ := h.remainder_sign
  · exact (Int.tdiv_tmod_unique hn h.ne_zero).mpr ⟨hequation, hr, by omega⟩
  · exact (Int.tdiv_tmod_unique' hn h.ne_zero).mpr ⟨hequation, by omega, hr⟩

end IsTruncated

theorem isTruncated_tdiv (n : Int) {d : Int} (hd : d ≠ 0) :
    IsTruncated n d (n.tdiv d) (n.tmod d) where
  equation := by rw [Int.mul_comm, Int.mul_tdiv_add_tmod]
  remainder_lt := by
    rw [Int.natAbs_tmod]
    exact Nat.mod_lt _ (Int.natAbs_pos.mpr hd)
  sign := by
    by_cases hdvd : d ∣ n
    · exact .inl (Int.tmod_eq_zero_of_dvd hdvd)
    · exact .inr (by rw [Int.sign_tmod, if_neg hdvd])

theorem toInt_ne_zero {d : Int32} (hd : d ≠ 0) : d.toInt ≠ 0 := by
  rw [← Int32.toInt_zero]
  exact fun h => hd (Int32.toInt.inj h)

theorem Overflows.ne_zero {n d : Int32} (h : Overflows n d) : d ≠ 0 :=
  fun hd => absurd (hd.symm.trans h.2) (by decide)

theorem overflows_iff {n d : Int32} :
    Overflows n d ↔ n.toInt = -2147483648 ∧ d.toInt = -1 :=
  and_congr (@Int32.toInt_inj n Int32.minValue).symm (@Int32.toInt_inj d (-1)).symm

theorem toInt_div {n d : Int32} (h : ¬Overflows n d) : (n / d).toInt = n.toInt.tdiv d.toInt := by
  by_cases hn : n = Int32.minValue
  · exact Int32.toInt_div_of_ne_right n d fun hd => h ⟨hn, hd⟩
  · exact Int32.toInt_div_of_ne_left n d hn

namespace Guarded

structure Refuses (symbol : Char) (n d : Int32) (result : Except Refusal Int32) : Prop where
  zeroDivisor : result = .error .zeroDivisor ↔ d = 0
  overflow (m : Int32) (operator : Char) (e : Int32) :
    result = .error (.overflow m operator e) ↔
      (n.toInt = -2147483648 ∧ d.toInt = -1) ∧ m = n ∧ operator = symbol ∧ e = d

theorem refuses (symbol : Char) (n d value : Int32) : Refuses symbol n d
    (if d = 0 then .error .zeroDivisor
      else if Overflows n d then .error (.overflow n symbol d)
      else .ok value) := by
  by_cases hd : d = 0
  · constructor <;> simp [hd]
  · by_cases ho : Overflows n d <;> constructor <;> simp [← overflows_iff, hd, ho, eq_comm]

theorem quotient_eq_ok_iff {n d q : Int32} :
    quotient n d = .ok q ↔ (d ≠ 0 ∧ ¬Overflows n d) ∧ n / d = q := by
  unfold quotient
  by_cases hd : d = 0
  · simp [hd]
  · by_cases ho : Overflows n d <;> simp [hd, ho]

theorem remainder_eq_ok_iff {n d r : Int32} :
    remainder n d = .ok r ↔ (d ≠ 0 ∧ ¬Overflows n d) ∧ n % d = r := by
  unfold remainder
  by_cases hd : d = 0
  · simp [hd]
  · by_cases ho : Overflows n d <;> simp [hd, ho]

/-- The quotient and the remainder are refused for the same reasons, or neither is; and those that
are not refused are the only integers that obey the law of truncating division. -/
theorem quotient_remainder (n d : Int32) :
    Refuses '/' n d (quotient n d) ∧ Refuses '%' n d (remainder n d) ∧
    ((∃ q, quotient n d = .ok q) ↔ ∃ r, remainder n d = .ok r) ∧
    ∀ q r, quotient n d = .ok q → remainder n d = .ok r →
      IsTruncated n.toInt d.toInt q.toInt r.toInt ∧
      ∀ q' r' : Int, IsTruncated n.toInt d.toInt q' r' → q' = q.toInt ∧ r' = r.toInt := by
  refine ⟨refuses '/' n d _, refuses '%' n d _, ?_, fun q r hq hr => ?_⟩
  · simp only [quotient_eq_ok_iff, remainder_eq_ok_iff, exists_and_left, exists_eq']
  · obtain ⟨⟨hd, ho⟩, rfl⟩ := quotient_eq_ok_iff.mp hq
    obtain ⟨-, rfl⟩ := remainder_eq_ok_iff.mp hr
    rw [toInt_div ho, Int32.toInt_mod]
    refine ⟨isTruncated_tdiv _ (toInt_ne_zero hd), fun q' r' h => ?_⟩
    obtain ⟨hq', hr'⟩ := h.tdiv_tmod_eq
    exact ⟨hq'.symm, hr'.symm⟩

theorem quotient_remainder_least :
    quotient Int32.minValue (-7) = .ok 306783378 ∧ remainder Int32.minValue (-7) = .ok (-2) ∧
    IsTruncated (-2147483648) (-7) 306783378 (-2) := by
  have hq : quotient Int32.minValue (-7) = .ok 306783378 := rfl
  have hr : remainder Int32.minValue (-7) = .ok (-2) := rfl
  obtain ⟨-, -, -, hlaw⟩ := quotient_remainder Int32.minValue (-7)
  exact ⟨hq, hr, (hlaw _ _ hq hr).1⟩

end Guarded

end GuardedDivision
