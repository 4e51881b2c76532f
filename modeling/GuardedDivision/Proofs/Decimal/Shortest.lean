import GuardedDivision.Decimal.Shortest
import GuardedDivision.Proofs.Binary64.Whole
import GuardedDivision.Proofs.Numeral

namespace GuardedDivision.Shortest

open Binary64 (quanta quantumPlaces unit rowSize wholeRank nearestRank)

namespace GridPoint

theorem onGrid?_eq_some {place rank : Nat} {g : GridPoint} (h : onGrid? place rank = some g) :
    g.rank = rank ∧ g.place = place := by
  simp only [onGrid?] at h
  split at h
  · next hlow =>
    split at h
    · next hhigh =>
      obtain rfl := Option.some.inj h
      exact ⟨hhigh.1, rfl⟩
    · obtain rfl := Option.some.inj h
      exact ⟨hlow, rfl⟩
  · split at h
    · next hhigh =>
      obtain rfl := Option.some.inj h
      exact ⟨hhigh, rfl⟩
    · exact nomatch h

theorem onGrid?_ne_none {place rank : Nat} (h : (below place rank).rank = rank) :
    onGrid? place rank ≠ none := by
  simp only [onGrid?, if_pos h]
  split <;> simp

end GridPoint

theorem search_spec {least rank : Nat} (hleast : 0 < least)
    (hgrid : GridPoint.onGrid? least rank ≠ none) {place : Nat} (hplace : least ≤ place) :
    (search rank place).rank = rank ∧ least ≤ (search rank place).place := by
  induction place with
  | zero => omega
  | succ place ih =>
    rw [search]
    cases hg : GridPoint.onGrid? (place + 1) rank with
    | some g =>
      obtain ⟨hr, hp⟩ := GridPoint.onGrid?_eq_some hg
      exact ⟨hr, hplace.trans hp.ge⟩
    | none =>
      have hne : least ≠ place + 1 := by
        rintro rfl
        exact hgrid hg
      exact ih (by omega)

theorem pow_ten_pos (places : Nat) : 0 < Nat.pow 10 places := Nat.pow_pos (by decide)

theorem GridPoint.rank_whole (count places : Nat) :
    ({ count, place := quantumPlaces + places } : GridPoint).rank =
      nearestRank (count * Nat.pow 10 places) 1 := by
  have h := Binary64.nearestRank_mul (count * Nat.pow 10 places) (q := 1)
    (k := Nat.pow 10 quantumPlaces) Nat.one_pos (pow_ten_pos _)
  rw [rank, ← h, Nat.one_mul, Nat.mul_assoc, Nat.pow_eq, Nat.pow_eq, Nat.pow_eq, ← Nat.pow_add,
    Nat.add_comm places]

theorem GridPoint.below_wholeRank {n : Nat} (hn : n < 2 * rowSize) :
    below quantumPlaces (wholeRank n) = { count := n, place := quantumPlaces } := by
  have hpos : 0 < Nat.pow 10 quantumPlaces * unit :=
    Nat.mul_pos (pow_ten_pos _) Binary64.unit_pos
  rw [below, Binary64.quanta_wholeRank hn, Binary64.shiftLeft_quantumPlaces, Nat.mul_assoc,
    Nat.mul_comm unit, Nat.mul_div_cancel n hpos]

theorem GridPoint.text_whole {count : Nat} (hcount : 0 < count) (places : Nat) :
    ({ count, place := quantumPlaces + places } : GridPoint).text =
      Numeral.ofNat (count * Nat.pow 10 places) := by
  rw [Numeral.ofNat_mul_pow hcount, text, if_pos (Nat.le_add_right _ _), Nat.add_sub_cancel_left]

theorem le_topPlace_wholeRank {n : Nat} (hpos : 0 < n) (hn : n < 2 * rowSize) :
    quantumPlaces ≤ topPlace (wholeRank n) := by
  have hquanta : 1 <<< quantumPlaces ≤ quanta (wholeRank n) := by
    rw [Binary64.quanta_wholeRank hn]
    exact Nat.le_mul_of_pos_left unit hpos
  have hlog : quantumPlaces ≤ (quanta (wholeRank n)).log2 := by
    rw [Nat.shiftLeft_eq, Nat.one_mul] at hquanta
    have hne := ((Nat.two_pow_pos quantumPlaces).trans_le hquanta).ne'
    exact (Nat.le_log2 hne).mpr hquanta
  rw [topPlace]
  simp only [quantumPlaces] at hlog ⊢
  omega

theorem point_wholeRank {n : Nat} (hpos : 0 < n) (hn : n + 1 < 2 * rowSize) :
    (point (wholeRank n)).text = Numeral.ofNat n := by
  have hn' : n < 2 * rowSize := by omega
  have hgrid : GridPoint.onGrid? quantumPlaces (wholeRank n) ≠ none := by
    apply GridPoint.onGrid?_ne_none
    have hrank := GridPoint.rank_whole n 0
    rw [Nat.add_zero, Nat.pow_eq, Nat.pow_zero, Nat.mul_one, Binary64.nearestRank_one hn'] at hrank
    rw [GridPoint.below_wholeRank hn', hrank]
  obtain ⟨hrank, hplace⟩ := search_spec (by decide) hgrid (le_topPlace_wholeRank hpos hn')
  rw [point]
  generalize search (wholeRank n) (topPlace (wholeRank n)) = g at hrank hplace ⊢
  obtain ⟨count, place⟩ := g
  obtain ⟨places, rfl⟩ : ∃ places, place = quantumPlaces + places := Nat.exists_eq_add_of_le hplace
  rw [GridPoint.rank_whole] at hrank
  obtain rfl := Binary64.eq_of_nearestRank_one hn hrank
  exact GridPoint.text_whole (Nat.pos_of_mul_pos_right hpos) places

theorem magnitude_wholeRank {n : Nat} (hn : n + 1 < 2 * rowSize) :
    magnitude (wholeRank n) = Numeral.ofNat n := by
  rw [magnitude]
  split
  · next hzero =>
    rw [← Binary64.wholeRank_zero] at hzero
    obtain rfl := Binary64.wholeRank_inj (Nat.lt_of_succ_lt hn) (by decide) hzero
    rfl
  · next hne =>
    refine point_wholeRank (Nat.pos_of_ne_zero ?_) hn
    rintro rfl
    exact hne Binary64.wholeRank_zero

end GuardedDivision.Shortest

namespace GuardedDivision.Binary64

theorem text_nearest_one {n : Nat} (hn : n + 1 < 2 * rowSize) (negative : Bool) :
    (nearest negative n 1).text =
      if negative then '-' :: Numeral.ofNat n else Numeral.ofNat n := by
  rw [nearest_one (Nat.lt_of_succ_lt hn), text, Shortest.magnitude_wholeRank hn]

end GuardedDivision.Binary64
