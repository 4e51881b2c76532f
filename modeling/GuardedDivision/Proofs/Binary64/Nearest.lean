import GuardedDivision.Proofs.Binary64.Rank
import Mathlib.Order.Defs.LinearOrder

namespace GuardedDivision.Binary64

theorem floorRank_le_roundQuanta (p q : Nat) : floorRank (p / q) ≤ roundQuanta p q := by
  rw [roundQuanta]
  split_ifs <;> omega

theorem roundQuanta_le_floorRank_succ (p q : Nat) : roundQuanta p q ≤ floorRank (p / q) + 1 := by
  rw [roundQuanta]
  split_ifs <;> omega

theorem roundQuanta_le_iff (p : Nat) {q : Nat} (hq : 0 < q) (r : Nat) :
    roundQuanta p q ≤ r ↔ 2 * p < middle r * q ∨ 2 * p = middle r * q ∧ r % 2 = 0 := by
  have hge : quanta (floorRank (p / q)) * q ≤ p :=
    (Nat.mul_le_mul_right q (quanta_floorRank_le _)).trans (Nat.div_mul_le_self _ q)
  have hlt : p < quanta (floorRank (p / q) + 1) * q :=
    Nat.lt_mul_of_div_lt (lt_quanta_floorRank_succ _) hq
  have hlow := floorRank_le_roundQuanta p q
  have hhigh := roundQuanta_le_floorRank_succ p q
  have hm : middle r * q = quanta r * q + quanta (r + 1) * q := Nat.add_mul _ _ _
  obtain hr | hr | hr := lt_trichotomy r (floorRank (p / q))
  · -- the fraction lies above the middle after `r`
    have h₁ : quanta r * q < quanta (floorRank (p / q)) * q :=
      Nat.mul_lt_mul_of_pos_right (quanta_strictMono hr) hq
    have h₂ : quanta (r + 1) * q ≤ quanta (floorRank (p / q)) * q :=
      Nat.mul_le_mul_right q (quanta_strictMono.monotone hr)
    omega
  · rw [roundQuanta, ← hr]
    split_ifs <;> omega
  · -- and here it lies below
    have h₁ : quanta (floorRank (p / q) + 1) * q ≤ quanta r * q :=
      Nat.mul_le_mul_right q (quanta_strictMono.monotone hr)
    have h₂ : quanta r * q < quanta (r + 1) * q :=
      Nat.mul_lt_mul_of_pos_right (quanta_strictMono (Nat.lt_succ_self r)) hq
    omega

theorem roundQuanta_exact {q : Nat} (hq : 0 < q) (r : Nat) : roundQuanta (quanta r * q) q = r := by
  have hle : roundQuanta (quanta r * q) q ≤ r := by
    have hs : quanta r * q < quanta (r + 1) * q :=
      Nat.mul_lt_mul_of_pos_right (quanta_strictMono (Nat.lt_succ_self r)) hq
    rw [roundQuanta_le_iff _ hq, middle, Nat.add_mul]
    omega
  have hge : ¬roundQuanta (quanta r * q) q < r := by
    intro hlt
    obtain ⟨s, rfl⟩ : ∃ s, r = s + 1 := ⟨r - 1, by omega⟩
    have hs : quanta s * q < quanta (s + 1) * q :=
      Nat.mul_lt_mul_of_pos_right (quanta_strictMono (Nat.lt_succ_self s)) hq
    rw [Nat.lt_succ_iff, roundQuanta_le_iff _ hq, middle, Nat.add_mul] at hlt
    omega
  omega

theorem roundQuanta_mono {p q p' q' : Nat} (hq : 0 < q) (hq' : 0 < q') (h : p * q' ≤ p' * q) :
    roundQuanta p q ≤ roundQuanta p' q' := by
  have hr := (roundQuanta_le_iff p' hq' (roundQuanta p' q')).mp (Nat.le_refl _)
  rw [roundQuanta_le_iff p hq]
  generalize middle (roundQuanta p' q') = m at hr ⊢
  have hdouble : 2 * p * q' ≤ 2 * p' * q := by
    rw [Nat.mul_assoc, Nat.mul_assoc]
    exact Nat.mul_le_mul_left 2 h
  have hswap : m * q' * q = m * q * q' := Nat.mul_right_comm m q' q
  obtain hlt | ⟨heq, heven⟩ := hr
  · left
    have hlt' := Nat.mul_lt_mul_of_pos_right hlt hq
    exact Nat.lt_of_mul_lt_mul_right (by omega : 2 * p * q' < m * q * q')
  · rw [heq, hswap] at hdouble
    obtain hlt | heq' := Nat.lt_or_eq_of_le (Nat.le_of_mul_le_mul_right hdouble hq')
    · exact .inl hlt
    · exact .inr ⟨heq', heven⟩

theorem roundQuanta_congr {p q p' q' : Nat} (hq : 0 < q) (hq' : 0 < q') (h : p * q' = p' * q) :
    roundQuanta p q = roundQuanta p' q' :=
  Nat.le_antisymm (roundQuanta_mono hq hq' h.le) (roundQuanta_mono hq' hq h.ge)

theorem eq_of_ofRank {sign negative : Bool} {r : Nat} {rank : Rank}
    (h : ofRank sign r = .finite negative rank) : r = rank.val := by
  rw [ofRank] at h
  split at h
  · exact congrArg Fin.val (finite.inj h).2
  · contradiction

end GuardedDivision.Binary64
