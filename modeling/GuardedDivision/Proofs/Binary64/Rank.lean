import GuardedDivision.Binary64.Rounding
import Mathlib.Order.Monotone.Basic

namespace GuardedDivision.Binary64

theorem quanta_of_lt {r : Nat} (h : r < rowSize) : quanta r = r := if_pos h

theorem quanta_row (k : Nat) {m : Nat} (h : m < rowSize) :
    quanta ((k + 1) * rowSize + m) = (rowSize + m) <<< k := by
  have hr : ¬(k + 1) * rowSize + m < rowSize := by
    simp only [rowSize] at h ⊢
    omega
  have hd : ((k + 1) * rowSize + m) / rowSize - 1 = k := by
    simp only [rowSize] at h ⊢
    omega
  have hm : ((k + 1) * rowSize + m) % rowSize = m := by
    simp only [rowSize] at h ⊢
    omega
  rw [quanta, if_neg hr, hd, hm]

theorem quanta_place {place significand : Nat} (hlt : significand < 2 * rowSize)
    (hplace : place = 0 ∨ rowSize ≤ significand) :
    quanta (place * rowSize + significand) = significand <<< place := by
  by_cases hs : significand < rowSize
  · obtain rfl : place = 0 := hplace.resolve_right (by omega)
    rw [Nat.zero_mul, Nat.zero_add, quanta_of_lt hs, Nat.shiftLeft_zero]
  · have hr : place * rowSize + significand = (place + 1) * rowSize + (significand - rowSize) := by
      rw [Nat.succ_mul]
      omega
    rw [hr, quanta_row place (by omega), Nat.add_sub_cancel' (by omega)]

/-- The step from a rank to the next one: a quantum in the first two rows, and twice as much in
each later one. -/
def step (r : Nat) : Nat := 1 <<< (r / rowSize - 1)

theorem step_pos (r : Nat) : 0 < step r := Nat.shiftLeft_pos_iff.mpr Nat.one_pos

theorem step_place {place significand : Nat} (hlt : significand < 2 * rowSize)
    (hplace : place = 0 ∨ rowSize ≤ significand) :
    step (place * rowSize + significand) = 1 <<< place := by
  have hd : (place * rowSize + significand) / rowSize - 1 = place := by
    simp only [rowSize] at hlt hplace ⊢
    omega
  rw [step, hd]

theorem exists_place (r : Nat) : ∃ place significand, significand < 2 * rowSize ∧
    (place = 0 ∨ rowSize ≤ significand) ∧ r = place * rowSize + significand := by
  by_cases h : r < rowSize
  · exact ⟨0, r, by omega, .inl rfl, by omega⟩
  · refine ⟨r / rowSize - 1, rowSize + r % rowSize, ?_, .inr (by omega), ?_⟩ <;>
      simp only [rowSize] at h ⊢ <;> omega

theorem quanta_succ (r : Nat) : quanta (r + 1) = quanta r + step r := by
  obtain ⟨place, significand, hlt, hplace, rfl⟩ := exists_place r
  rw [quanta_place hlt hplace, step_place hlt hplace]
  by_cases hs : significand + 1 < 2 * rowSize
  · rw [Nat.add_assoc, quanta_place hs (hplace.imp_right Nat.le_succ_of_le)]
    simp only [Nat.shiftLeft_eq, Nat.add_mul]
  · -- the last significand of a row is followed by the first one of the next row
    have hr : place * rowSize + significand + 1 = (place + 1) * rowSize + rowSize := by
      rw [Nat.succ_mul]
      omega
    obtain rfl : significand = 2 * rowSize - 1 := by omega
    rw [hr, quanta_place (by decide) (.inr (Nat.le_refl _))]
    simp only [Nat.shiftLeft_eq, Nat.pow_succ, Nat.one_mul, ← Nat.succ_mul, rowSize]
    omega

theorem quanta_strictMono : StrictMono quanta :=
  strictMono_nat_of_lt_succ fun r => by
    have := step_pos r
    rw [quanta_succ]
    omega

theorem quanta_zero : quanta 0 = 0 := quanta_of_lt (by decide)

theorem quanta_pos {r : Nat} (hr : r ≠ 0) : 0 < quanta r := by
  rw [← quanta_zero]
  exact quanta_strictMono (Nat.pos_of_ne_zero hr)

theorem step_mul_le {r : Nat} (h : rowSize ≤ r) : step r * rowSize ≤ quanta r := by
  obtain ⟨place, significand, hlt, hplace, rfl⟩ := exists_place r
  have hs : rowSize ≤ significand := by
    obtain rfl | hs := hplace
    · omega
    · exact hs
  rw [quanta_place hlt hplace, step_place hlt hplace, Nat.shiftLeft_eq, Nat.shiftLeft_eq,
    Nat.one_mul, Nat.mul_comm]
  exact Nat.mul_le_mul_right _ hs

theorem shiftRight_place (n : Nat) : n >>> (n.log2 - 52) < 2 * rowSize ∧
    (n.log2 - 52 = 0 ∨ rowSize ≤ n >>> (n.log2 - 52)) := by
  have hrow : 2 * rowSize = 2 ^ 53 := by decide
  constructor
  · rw [Nat.shiftRight_eq_div_pow, hrow, Nat.div_lt_iff_lt_mul (Nat.two_pow_pos _), ← Nat.pow_add]
    exact Nat.lt_of_lt_of_le Nat.lt_log2_self (Nat.pow_le_pow_right (by decide) (by omega))
  · by_cases hs : n.log2 - 52 = 0
    · exact .inl hs
    · right
      have hn : n ≠ 0 := by
        rintro rfl
        exact hs (by decide)
      have hp : rowSize * 2 ^ (n.log2 - 52) = 2 ^ n.log2 := by
        rw [show rowSize = 2 ^ 52 by decide, ← Nat.pow_add]
        congr 1
        omega
      rw [Nat.shiftRight_eq_div_pow, Nat.le_div_iff_mul_le (Nat.two_pow_pos _), hp]
      exact Nat.log2_self_le hn

theorem quanta_floorRank (n : Nat) :
    quanta (floorRank n) = n >>> (n.log2 - 52) <<< (n.log2 - 52) := by
  obtain ⟨hlt, hplace⟩ := shiftRight_place n
  exact quanta_place hlt hplace

theorem quanta_floorRank_le (n : Nat) : quanta (floorRank n) ≤ n := by
  rw [quanta_floorRank, Nat.shiftLeft_eq, Nat.shiftRight_eq_div_pow]
  exact Nat.div_mul_le_self n _

theorem lt_quanta_floorRank_succ (n : Nat) : n < quanta (floorRank n + 1) := by
  obtain ⟨hlt, hplace⟩ := shiftRight_place n
  have hstep : step (floorRank n) = 1 <<< (n.log2 - 52) := step_place hlt hplace
  rw [quanta_succ, hstep, quanta_floorRank]
  simp only [Nat.shiftLeft_eq, Nat.shiftRight_eq_div_pow, ← Nat.add_mul]
  exact Nat.lt_mul_of_div_lt (Nat.lt_succ_self _) (Nat.two_pow_pos _)

theorem quanta_floorRank_shift {m : Nat} (hm : m < 2 * rowSize) (e : Nat) :
    quanta (floorRank (m <<< e)) = m <<< e := by
  have hs : (m <<< e).log2 - 52 ≤ e := by
    by_cases h0 : m <<< e = 0
    · simp [h0]
    · have hlt : m <<< e < 2 ^ (53 + e) := by
        rw [Nat.shiftLeft_eq, Nat.pow_add]
        exact Nat.mul_lt_mul_of_pos_right hm (Nat.two_pow_pos e)
      have hlog := (Nat.log2_lt h0).mpr hlt
      omega
  have hdvd : 2 ^ ((m <<< e).log2 - 52) ∣ m <<< e := by
    have h := Nat.dvd_mul_left_of_dvd (Nat.pow_dvd_pow 2 hs) m
    rwa [← Nat.shiftLeft_eq m e] at h
  rw [quanta_floorRank, Nat.shiftRight_eq_div_pow, Nat.shiftLeft_eq _ ((m <<< e).log2 - 52)]
  exact Nat.div_mul_cancel hdvd

end GuardedDivision.Binary64
