import GuardedDivision.Proofs.Decimal.Shortest

namespace GuardedDivision

namespace Binary64

theorem nearestRank_quanta (rank : Nat) : nearestRank (quanta rank) unit = rank := by
  rw [nearestRank, shiftLeft_quantumPlaces]
  exact roundQuanta_exact unit_pos rank

/-- What lies between two fractions that are read alike is read as they are. -/
theorem nearestRank_between {p q low lowBase high highBase rank : Nat} (hq : 0 < q)
    (hlowBase : 0 < lowBase) (hhighBase : 0 < highBase)
    (hlow : low * q ≤ p * lowBase) (hhigh : p * highBase ≤ high * q)
    (hrankLow : nearestRank low lowBase = rank) (hrankHigh : nearestRank high highBase = rank) :
    nearestRank p q = rank :=
  Nat.le_antisymm ((nearestRank_mono hq hhighBase hhigh).trans hrankHigh.le)
    (hrankLow.ge.trans (nearestRank_mono hlowBase hq hlow))

theorem step_le_quanta {rank : Nat} (hpos : 0 < rank) : step rank ≤ quanta rank := by
  obtain ⟨place, significand, hlt, hplace, rfl⟩ := exists_place rank
  have hs : 0 < significand := by
    obtain rfl | hs := hplace
    · omega
    · exact Nat.lt_of_lt_of_le (by decide) hs
  rw [quanta_place hlt hplace, step_place hlt hplace, Nat.shiftLeft_eq, Nat.shiftLeft_eq]
  exact Nat.mul_le_mul_right _ hs

theorem le_of_nearestRank {p q rank : Nat} (hq : 0 < q) (hpos : 0 < rank)
    (h : nearestRank p q = rank) : 2 * (p * unit) ≤ 3 * quanta rank * q := by
  have hle := (roundQuanta_le_iff (p <<< quantumPlaces) hq rank).mp h.le
  have hmiddle : middle rank * q ≤ 3 * quanta rank * q := by
    have hstep := step_le_quanta hpos
    rw [middle, quanta_succ]
    exact Nat.mul_le_mul_right q (by omega)
  rw [shiftLeft_quantumPlaces] at hle
  omega

end Binary64

namespace Shortest

open Binary64 (quanta quantumPlaces unit nearestRank)

theorem pow_ten_add (m k : Nat) : Nat.pow 10 (m + k) = Nat.pow 10 m * Nat.pow 10 k :=
  Nat.pow_add 10 m k

theorem two_pow_le (x : Nat) : Nat.pow 2 x ≤ Nat.pow 10 (x * 30103 / 100000 + 1) := by
  have hbase : Nat.pow 2 100000 ≤ Nat.pow 10 30103 := by decide +kernel
  generalize he : 100000 = e, hn : 30103 = n at hbase ⊢
  have hexponent : n * x ≤ (x * n / e + 1) * e := by
    subst e n
    omega
  rw [Nat.pow_eq, Nat.pow_eq, ← Nat.pow_le_pow_iff_left (n := e) (by omega)]
  calc (2 ^ x) ^ e = (2 ^ e) ^ x := Nat.pow_right_comm 2 x e
    _ ≤ (10 ^ n) ^ x := Nat.pow_le_pow_left hbase x
    _ = 10 ^ (n * x) := (Nat.pow_mul 10 n x).symm
    _ ≤ 10 ^ ((x * n / e + 1) * e) := Nat.pow_le_pow_right (by decide) hexponent
    _ = (10 ^ (x * n / e + 1)) ^ e := Nat.pow_mul 10 _ e

namespace GridPoint

theorem below_le (place rank : Nat) :
    (below place rank).count * Nat.pow 10 place * unit ≤
      quanta rank * Nat.pow 10 quantumPlaces := by
  rw [below, Binary64.shiftLeft_quantumPlaces, Nat.mul_assoc]
  exact Nat.div_mul_le_self _ _

theorem lt_below_succ (place rank : Nat) :
    quanta rank * Nat.pow 10 quantumPlaces <
      (below place rank).succ.count * Nat.pow 10 place * unit := by
  have hpos : 0 < Nat.pow 10 place * unit := Nat.mul_pos (pow_ten_pos place) Binary64.unit_pos
  rw [succ, below, Binary64.shiftLeft_quantumPlaces, Nat.mul_assoc]
  exact Nat.lt_mul_of_div_lt (Nat.lt_succ_self _) hpos

theorem onGrid?_place_ne_none {g : GridPoint} {rank : Nat} (h : g.rank = rank) :
    onGrid? g.place rank ≠ none := by
  have hbase := pow_ten_pos quantumPlaces
  have hexact := Binary64.nearestRank_quanta rank
  by_cases hcount : g.count ≤ (below g.place rank).count
  · -- the neighbour below lies between the point and the magnitude
    apply onGrid?_ne_none
    exact Binary64.nearestRank_between hbase hbase Binary64.unit_pos
      (Nat.mul_le_mul_right _ (Nat.mul_le_mul_right _ hcount)) (below_le g.place rank) h hexact
  · have hcount' : (below g.place rank).succ.count ≤ g.count := Nat.lt_of_not_le hcount
    have hhigh : (below g.place rank).succ.rank = rank :=
      Binary64.nearestRank_between hbase Binary64.unit_pos hbase (lt_below_succ g.place rank).le
        (Nat.mul_le_mul_right _ (Nat.mul_le_mul_right _ hcount')) hexact h
    simp only [onGrid?, if_pos hhigh]
    split
    · split <;> simp
    · simp

theorem count_pos {g : GridPoint} (h : g.rank ≠ 0) : 0 < g.count := by
  apply Nat.pos_of_ne_zero
  intro hzero
  apply h
  rw [rank, hzero, Nat.zero_mul, Binary64.nearestRank_zero (pow_ten_pos _)]

/-- The step of the first grid that is not tried is more than twice the magnitude. -/
theorem lt_step_topPlace (rank : Nat) : 3 * quanta rank * Nat.pow 10 quantumPlaces <
    2 * (Nat.pow 10 (topPlace rank + 1) * unit) := by
  -- the great constants get names, so that no later step computes with them
  obtain ⟨power, hpower, hconstant⟩ : ∃ power,
      (∀ k, Nat.pow 10 (752 + k) = power * Nat.pow 10 k) ∧
        3 * Nat.pow 10 quantumPlaces ≤ 2 * 2 * unit * power :=
    ⟨_, pow_ten_add 752, by decide +kernel⟩
  have hlog : quanta rank < Nat.pow 2 ((quanta rank).log2 + 1) := Nat.lt_log2_self
  have hten := two_pow_le ((quanta rank).log2 + 2)
  have hsucc : Nat.pow 2 ((quanta rank).log2 + 2) = Nat.pow 2 ((quanta rank).log2 + 1) * 2 := rfl
  have hpos := pow_ten_pos quantumPlaces
  rw [topPlace, Nat.add_assoc, hpower]
  generalize Nat.pow 10 quantumPlaces = base at hconstant hpos ⊢
  generalize Nat.pow 10 (((quanta rank).log2 + 2) * 30103 / 100000 + 1) = ten at hten ⊢
  generalize unit = u at hconstant ⊢
  calc 3 * quanta rank * base
      = 3 * base * quanta rank := Nat.mul_right_comm _ _ _
    _ < 3 * base * Nat.pow 2 ((quanta rank).log2 + 1) :=
        Nat.mul_lt_mul_of_pos_left hlog (Nat.mul_pos (by decide) hpos)
    _ ≤ 2 * 2 * u * power * Nat.pow 2 ((quanta rank).log2 + 1) := Nat.mul_le_mul_right _ hconstant
    _ = 2 * (power * Nat.pow 2 ((quanta rank).log2 + 2) * u) := by
        rw [hsucc]
        ac_rfl
    _ ≤ 2 * (power * ten * u) :=
        Nat.mul_le_mul_left 2 (Nat.mul_le_mul_right u (Nat.mul_le_mul_left power hten))

theorem place_le_topPlace {g : GridPoint} (h : g.rank ≠ 0) : g.place ≤ topPlace g.rank := by
  have hread := Binary64.le_of_nearestRank (pow_ten_pos quantumPlaces) (Nat.pos_of_ne_zero h)
    (rfl : _ = g.rank)
  have hstep := lt_step_topPlace g.rank
  by_contra hplace
  have hpow : Nat.pow 10 (topPlace g.rank + 1) ≤ g.count * Nat.pow 10 g.place :=
    (Nat.pow_le_pow_right (by decide) (Nat.lt_of_not_le hplace)).trans
      (Nat.le_mul_of_pos_left _ (count_pos h))
  have hmul := Nat.mul_le_mul_right unit hpow
  omega

theorem rank_below_zero (rank : Nat) : (below 0 rank).rank = rank := by
  have hexact : (below 0 rank).count * Nat.pow 10 0 * unit =
      quanta rank * Nat.pow 10 quantumPlaces := by
    have hpow (places : Nat) : 1 <<< places ∣ Nat.pow 10 places := by
      rw [Nat.shiftLeft_eq, Nat.one_mul]
      exact ⟨5 ^ places, Nat.mul_pow 2 5 places⟩
    have hdvd : unit ∣ quanta rank * Nat.pow 10 quantumPlaces :=
      Nat.dvd_mul_left_of_dvd (hpow quantumPlaces) _
    have hone : Nat.pow 10 0 = 1 := rfl
    rw [below, Binary64.shiftLeft_quantumPlaces, hone, Nat.one_mul, Nat.mul_one]
    exact Nat.div_mul_cancel hdvd
  have hplace : (below 0 rank).place = 0 := rfl
  rw [GridPoint.rank, nearestRank, Binary64.shiftLeft_quantumPlaces, hplace, hexact]
  exact Binary64.roundQuanta_exact (pow_ten_pos quantumPlaces) rank

end GridPoint

/-- A point that reads back as a rank, on the coarsest grid that has such a point. -/
structure GridPoint.IsCoarsest (g : GridPoint) (rank : Nat) : Prop where
  rank_eq : g.rank = rank
  place_le {other : GridPoint} (h : other.rank = rank) : other.place ≤ g.place

theorem rank_search (rank place : Nat) : (search rank place).rank = rank := by
  induction place with
  | zero => exact GridPoint.rank_below_zero rank
  | succ place ih =>
    rw [search]
    cases hg : GridPoint.onGrid? (place + 1) rank with
    | some g => exact (GridPoint.onGrid?_eq_some hg).1
    | none => exact ih

theorem isCoarsest_point {rank : Nat} (hne : rank ≠ 0) : (point rank).IsCoarsest rank where
  rank_eq := rank_search rank (topPlace rank)
  place_le := by
    intro other h
    obtain hplace | hplace := Nat.eq_zero_or_pos other.place
    · rw [hplace]
      exact Nat.zero_le _
    · subst h
      exact (search_spec hplace (GridPoint.onGrid?_place_ne_none rfl)
        (GridPoint.place_le_topPlace hne)).2

/-- The digits of the shortest decimal do not end in a zero. -/
theorem GridPoint.IsCoarsest.count_mod {g : GridPoint} {rank : Nat} (h : g.IsCoarsest rank) :
    g.count % 10 ≠ 0 := by
  intro hten
  have hcount : g.count / 10 * Nat.pow 10 (g.place + 1) = g.count * Nat.pow 10 g.place := by
    rw [Nat.pow_eq, Nat.pow_succ', ← Nat.mul_assoc,
      Nat.div_mul_cancel (Nat.dvd_of_mod_eq_zero hten)]
    rfl
  have hcoarser : ({ count := g.count / 10, place := g.place + 1 } : GridPoint).rank = rank := by
    rw [GridPoint.rank, hcount]
    exact h.rank_eq
  exact Nat.not_succ_le_self g.place (h.place_le hcoarser)

end Shortest

end GuardedDivision
