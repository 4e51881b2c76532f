import GuardedDivision.Proofs.Decimal.Coarsest
import GuardedDivision.Proofs.Decimal.Form
import GuardedDivision.Decimal.Literal
import Mathlib.Data.List.DropRight
import Mathlib.Data.Nat.Factorization.Basic

namespace GuardedDivision

namespace Numeral

/-- The number of digits before the zeros at the end of a numeral. -/
def significant (n : Nat) : Nat := ((ofNat n).rdropWhile (· = '0')).length

theorem eq_zero_of_digitChar {m : Nat} (hm : m < 10) (h : Nat.digitChar m = '0') : m = 0 := by
  have hzero : ∀ m < 10, Nat.digitChar m = '0' → m = 0 := by decide
  exact hzero m hm h

theorem significant_eq_length {n : Nat} (h : n % 10 ≠ 0) : significant n = (ofNat n).length := by
  have hlast : (ofNat n).rdropWhile (· = '0') = ofNat n := by
    rw [List.rdropWhile_eq_self_iff]
    intro hne hc
    have hget := getLast?_ofNat n
    rw [List.getLast?_eq_some_getLast hne, of_decide_eq_true hc] at hget
    exact h (eq_zero_of_digitChar (Nat.mod_lt n (by decide)) (Option.some.inj hget).symm)
  rw [significant, hlast]

theorem significant_mul_pow {n : Nat} (h : n % 10 ≠ 0) (k : Nat) :
    significant (n * Nat.pow 10 k) = (ofNat n).length := by
  have hpos : 0 < n := Nat.pos_of_ne_zero fun hn => h (by rw [hn])
  rw [← significant_eq_length h, significant, significant, ofNat_mul_pow hpos]
  induction k with
  | zero => rw [List.replicate_zero, List.append_nil]
  | succ k ih =>
    rw [List.replicate_succ', ← List.append_assoc, List.rdropWhile_concat_pos _ _ _ rfl, ih]

theorem exists_significant {n : Nat} (hn : n ≠ 0) :
    ∃ m k, n = m * Nat.pow 10 k ∧ (ofNat m).length = significant n := by
  obtain ⟨k, m, hm, rfl⟩ := Nat.exists_eq_pow_mul_and_not_dvd hn 10 (by decide)
  refine ⟨m, k, Nat.mul_comm _ _, ?_⟩
  rw [Nat.mul_comm]
  exact (significant_mul_pow (fun h => hm (Nat.dvd_of_mod_eq_zero h)) k).symm

theorem lt_pow_length (n : Nat) : n < Nat.pow 10 (ofNat n).length :=
  (Nat.length_toDigits_le_iff (by decide) Nat.length_toDigits_pos).mp (Nat.le_refl _)

theorem pow_le_of_lt_length {n k : Nat} (hk : 0 < k) (h : k < (ofNat n).length) :
    Nat.pow 10 k ≤ n := by
  by_contra hlt
  have hle := (Nat.length_toDigits_le_iff (by decide) hk).mpr (Nat.lt_of_not_le hlt)
  exact absurd hle (Nat.not_le.mpr h)

end Numeral

namespace Shortest.GridPoint

open Binary64 (quantumPlaces nearestRank)

/-- No decimal that reads back as a rank has fewer digits than the point on the coarsest grid. -/
theorem IsCoarsest.length_le {g : GridPoint} {rank m up down : Nat} (h : g.IsCoarsest rank)
    (hread : nearestRank (m * Nat.pow 10 up) (Nat.pow 10 down) = rank) :
    (Numeral.ofNat g.count).length ≤ (Numeral.ofNat m).length := by
  have hpos := pow_ten_pos
  by_contra hlonger
  have hlength : 0 < (Numeral.ofNat m).length := Nat.length_toDigits_pos
  have hm := Numeral.lt_pow_length m
  have hcount := Numeral.pow_le_of_lt_length hlength (Nat.lt_of_not_le hlonger)
  generalize (Numeral.ofNat m).length = length at hlength hm hcount
  by_cases hplace : up + quantumPlaces ≤ g.place + down
  · -- a power of ten lies between the two
    have hlow : m * Nat.pow 10 up * Nat.pow 10 quantumPlaces ≤
        1 * Nat.pow 10 (g.place + length) * Nat.pow 10 down := by
      calc m * Nat.pow 10 up * Nat.pow 10 quantumPlaces
          ≤ Nat.pow 10 length * Nat.pow 10 up * Nat.pow 10 quantumPlaces :=
            Nat.mul_le_mul_right _ (Nat.mul_le_mul_right _ hm.le)
        _ = Nat.pow 10 (length + (up + quantumPlaces)) := by
            rw [pow_ten_add, pow_ten_add, Nat.mul_assoc]
        _ ≤ Nat.pow 10 (length + (g.place + down)) :=
            Nat.pow_le_pow_right (by decide) (Nat.add_le_add_left hplace length)
        _ = 1 * Nat.pow 10 (g.place + length) * Nat.pow 10 down := by
            rw [Nat.one_mul, ← pow_ten_add, Nat.add_left_comm, Nat.add_assoc]
    have hhigh : 1 * Nat.pow 10 (g.place + length) ≤ g.count * Nat.pow 10 g.place := by
      rw [Nat.one_mul, pow_ten_add, Nat.mul_comm]
      exact Nat.mul_le_mul_right _ hcount
    have hpower : ({ count := 1, place := g.place + length } : GridPoint).rank = rank :=
      Binary64.nearestRank_between (hpos _) (hpos _) (hpos _) hlow (Nat.mul_le_mul_right _ hhigh)
        hread h.rank_eq
    have hle : g.place + length ≤ g.place := h.place_le hpower
    omega
  · -- the decimal itself lies on a coarser grid
    obtain ⟨place, hsum⟩ : ∃ place, place + down = up + quantumPlaces :=
      ⟨up + quantumPlaces - down, by omega⟩
    have heq : m * Nat.pow 10 place * Nat.pow 10 down =
        m * Nat.pow 10 up * Nat.pow 10 quantumPlaces := by
      rw [Nat.mul_assoc, ← pow_ten_add, hsum, pow_ten_add, Nat.mul_assoc]
    have hcoarser : ({ count := m, place } : GridPoint).rank = rank :=
      Binary64.nearestRank_between (hpos _) (hpos _) (hpos _) heq.ge heq.le hread hread
    have hle : place ≤ g.place := h.place_le hcoarser
    omega

end Shortest.GridPoint

end GuardedDivision
