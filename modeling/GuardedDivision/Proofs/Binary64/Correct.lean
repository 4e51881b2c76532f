import GuardedDivision.Proofs.Binary64.Whole
import Mathlib.Algebra.Order.Field.Rat
import Mathlib.Algebra.Order.Field.Power
import Mathlib.Tactic.FieldSimp
import Mathlib.Tactic.Linarith
import Mathlib.Tactic.Positivity
import Mathlib.Tactic.Ring

namespace GuardedDivision.Binary64

def rankValue (rank : Nat) : ℚ := quanta rank / unit

def sign (negative : Bool) : ℚ := if negative then -1 else 1

def value? : Binary64 → Option ℚ
  | .finite negative rank => some (sign negative * rankValue rank)
  | _ => none

/-- The number that an exact value rounds to, with the sign that it is written with if it is zero.
Ranks are even where their significands are. -/
structure IsNearest (negative : Bool) (exact : ℚ) (x : Binary64) : Prop where
  infinite : 2 ^ 1024 - 2 ^ 970 ≤ |exact| → x = .infinity negative
  finite : |exact| < 2 ^ 1024 - 2 ^ 970 → ∃ rank v,
    x = .finite negative rank ∧ x.value? = some v ∧
      ∀ (other : Binary64) (w : ℚ), other.value? = some w → w ≠ v →
        |exact - v| < |exact - w| ∨ |exact - v| = |exact - w| ∧ rank.val % 2 = 0
  zero : |exact| ≤ 1 / 2 ^ 1075 → x = .zero negative

theorem unit_cast_pos : (0 : ℚ) < unit := Nat.cast_pos.mpr unit_pos

theorem rankValue_strictMono : StrictMono rankValue := fun r s h => by
  have hquanta : (quanta r : ℚ) < quanta s := Nat.cast_lt.mpr (quanta_strictMono h)
  exact div_lt_div_of_pos_right hquanta unit_cast_pos

theorem rankValue_nonneg (rank : Nat) : 0 ≤ rankValue rank :=
  div_nonneg (Nat.cast_nonneg _) unit_cast_pos.le

theorem nearestRank_le_iff (p : Nat) {q : Nat} (hq : 0 < q) (r : Nat) :
    nearestRank p q ≤ r ↔ 2 * (p / q : ℚ) < rankValue r + rankValue (r + 1) ∨
      2 * (p / q : ℚ) = rankValue r + rankValue (r + 1) ∧ r % 2 = 0 := by
  have hq' : (0 : ℚ) < q := Nat.cast_pos.mpr hq
  have hsum : rankValue r + rankValue (r + 1) = (middle r : ℚ) / unit := by
    rw [rankValue, rankValue, middle, Nat.cast_add, add_div]
  have hfraction : 2 * (p / q : ℚ) = 2 * p / q := (mul_div_assoc 2 _ _).symm
  have hscale : ((2 * (p * unit) : Nat) : ℚ) = 2 * p * unit := by
    push_cast
    ring
  have hmiddle : ((middle r * q : Nat) : ℚ) = middle r * q := Nat.cast_mul _ _
  rw [nearestRank, roundQuanta_le_iff _ hq, shiftLeft_quantumPlaces, hsum, hfraction,
    div_lt_div_iff₀ hq' unit_cast_pos, div_eq_div_iff hq'.ne' unit_cast_pos.ne', ← hscale,
    ← hmiddle, Nat.cast_lt, Nat.cast_inj]

theorem abs_sub_lt_abs_sub {m v w : ℚ} (h : 0 < (w - v) * (v + w - 2 * m)) :
    |m - v| < |m - w| := by
  refine sq_lt_sq.mp ?_
  have hdifference : (m - w) ^ 2 - (m - v) ^ 2 = (w - v) * (v + w - 2 * m) := by ring
  linarith

/-- No other rank is as near to a fraction as the one that it rounds to, but for ties. -/
theorem nearer_nearestRank (p : Nat) {q : Nat} (hq : 0 < q) {r s : Nat} (hr : nearestRank p q = r)
    (hne : s ≠ r) : |(p / q : ℚ) - rankValue r| < |(p / q : ℚ) - rankValue s| ∨
      |(p / q : ℚ) - rankValue r| = |(p / q : ℚ) - rankValue s| ∧ r % 2 = 0 := by
  have hmiddle := nearestRank_le_iff p hq
  generalize (p / q : ℚ) = m at hmiddle ⊢
  have htie (heq : 2 * m = rankValue r + rankValue s) :
      |m - rankValue r| = |m - rankValue s| := abs_eq_abs.mpr (.inr (by linarith))
  obtain hlt | hlt := Nat.lt_or_gt_of_ne hne
  · -- the fraction does not round to the rank before `r`
    obtain ⟨t, rfl⟩ : ∃ t, r = t + 1 := ⟨r - 1, by omega⟩
    have hlow := mt (hmiddle t).mpr (by omega)
    have hs : rankValue s ≤ rankValue t := rankValue_strictMono.monotone (by omega)
    have ht : rankValue t < rankValue (t + 1) := rankValue_strictMono (Nat.lt_succ_self t)
    obtain ⟨hge, heven⟩ := not_or.mp hlow
    obtain hgt | heq := lt_or_eq_of_le (show rankValue (t + 1) + rankValue s ≤ 2 * m by linarith)
    · exact .inl (abs_sub_lt_abs_sub (mul_pos_of_neg_of_neg (by linarith) (by linarith)))
    · have hodd : t % 2 ≠ 0 := fun h => heven ⟨by linarith, h⟩
      exact .inr ⟨htie heq.symm, by omega⟩
  · have hhigh := (hmiddle r).mp hr.le
    have hs : rankValue (r + 1) ≤ rankValue s := rankValue_strictMono.monotone hlt
    have hsucc : rankValue r < rankValue (r + 1) := rankValue_strictMono (Nat.lt_succ_self r)
    obtain hlow | ⟨heq, heven⟩ := hhigh
    · exact .inl (abs_sub_lt_abs_sub (mul_pos (by linarith) (by linarith)))
    · obtain hs | hs := lt_or_eq_of_le hs
      · exact .inl (abs_sub_lt_abs_sub (mul_pos (by linarith) (by linarith)))
      · exact .inr ⟨htie (by rw [heq, hs]), heven⟩

theorem value?_eq_some {x : Binary64} {v : ℚ} (h : x.value? = some v) :
    ∃ negative rank, x = .finite negative rank ∧ v = sign negative * rankValue rank := by
  cases x with
  | nan | infinity => contradiction
  | finite negative rank => exact ⟨negative, rank, rfl, (Option.some.inj h).symm⟩

theorem abs_sign_mul (negative : Bool) (v : ℚ) : |sign negative * v| = |v| := by
  cases negative <;> simp [sign]

theorem abs_sign_mul_sub (a b : Bool) (m v : ℚ) :
    |sign a * m - sign b * v| = if a = b then |m - v| else |m + v| := by
  split
  · next h => rw [h, ← mul_sub, abs_sign_mul]
  · next h =>
    have hopposite : sign b = -sign a := by
      cases a <;> cases b <;> simp [sign] at h ⊢
    rw [hopposite, neg_mul, sub_neg_eq_add, ← mul_add, abs_sign_mul]

theorem nearer_signed {m v w : ℚ} {even : Prop} (hm : 0 ≤ m) (hw : 0 ≤ w)
    (h : |m - v| < |m - w| ∨ |m - v| = |m - w| ∧ even) :
    |m - v| < |m + w| ∨ |m - v| = |m + w| ∧ even := by
  have hle : |m - w| ≤ |m + w| := by
    rw [abs_of_nonneg (add_nonneg hm hw)]
    exact abs_le.mpr ⟨by linarith, by linarith⟩
  obtain hlt | ⟨heq, heven⟩ := h
  · exact .inl (hlt.trans_le hle)
  · obtain hlt | hlt := lt_or_eq_of_le hle
    · exact .inl (heq.trans_lt hlt)
    · exact .inr ⟨heq.trans hlt, heven⟩

theorem rankValue_last :
    rankValue (rankCount - 1) + rankValue rankCount = 2 * (2 ^ 1024 - 2 ^ 970) := by
  have hmiddle : middle (rankCount - 1) + 2 * 2 ^ 970 * unit = 2 * 2 ^ 1024 * unit := by
    decide +kernel
  have hcast := congrArg (Nat.cast : Nat → ℚ) hmiddle
  rw [middle, Nat.cast_add, Nat.cast_add, Nat.cast_mul, Nat.cast_mul, Nat.cast_mul, Nat.cast_mul,
    Nat.cast_pow, Nat.cast_pow, Nat.cast_ofNat] at hcast
  have hsum : rankValue (rankCount - 1) + rankValue (rankCount - 1 + 1) =
      ((quanta (rankCount - 1) : ℚ) + quanta (rankCount - 1 + 1)) / unit := (add_div _ _ _).symm
  refine hsum.trans ((div_eq_iff unit_cast_pos.ne').mpr ?_)
  rw [mul_sub, sub_mul]
  exact eq_sub_of_add_eq hcast

theorem nearestRank_lt_rankCount_iff (p : Nat) {q : Nat} (hq : 0 < q) :
    nearestRank p q < rankCount ↔ (p / q : ℚ) < 2 ^ 1024 - 2 ^ 970 := by
  have hle := nearestRank_le_iff p hq (rankCount - 1)
  have hodd : (rankCount - 1) % 2 ≠ 0 := by decide
  have hcount : rankCount - 1 + 1 = rankCount := by decide
  rw [hcount, rankValue_last] at hle
  have hlt : nearestRank p q < rankCount ↔ nearestRank p q ≤ rankCount - 1 := by
    rw [← Nat.lt_succ_iff, Nat.succ_eq_add_one, hcount]
  rw [hlt, hle, or_iff_left fun h => hodd h.2]
  exact mul_lt_mul_iff_right₀ two_pos

theorem nearestRank_mono_of_le {p q p' q' : Nat} (hq : 0 < q) (hq' : 0 < q')
    (h : (p / q : ℚ) ≤ p' / q') : nearestRank p q ≤ nearestRank p' q' := by
  apply nearestRank_mono hq hq'
  rw [div_le_div_iff₀ (Nat.cast_pos.mpr hq) (Nat.cast_pos.mpr hq')] at h
  exact_mod_cast h

theorem unit_cast : (unit : ℚ) = 2 ^ quantumPlaces := by
  rw [unit, Nat.shiftLeft_eq, Nat.one_mul, Nat.cast_pow, Nat.cast_ofNat]

theorem rankValue_first : rankValue 0 + rankValue (0 + 1) = 2 * (1 / 2 ^ 1075) := by
  have hpow : (2 : ℚ) ^ 1075 = 2 * 2 ^ quantumPlaces := pow_succ' 2 quantumPlaces
  rw [rankValue, rankValue, quanta_of_lt (by decide), quanta_of_lt (by decide), Nat.cast_zero,
    zero_div, zero_add, zero_add, Nat.cast_one, unit_cast, hpow, mul_one_div,
    div_mul_cancel_left₀ two_ne_zero, one_div]

theorem nearestRank_eq_zero_iff (p : Nat) {q : Nat} (hq : 0 < q) :
    nearestRank p q = 0 ↔ (p / q : ℚ) ≤ 1 / 2 ^ 1075 := by
  rw [← Nat.le_zero, nearestRank_le_iff p hq, rankValue_first, and_iff_left (by decide),
    ← le_iff_lt_or_eq]
  exact mul_le_mul_iff_right₀ two_pos

theorem rankValue_zero : rankValue 0 = 0 := by
  rw [rankValue, quanta_zero, Nat.cast_zero, zero_div]

theorem nearer_finite (negative : Bool) (p : Nat) {q : Nat} (hq : 0 < q) {r : Nat}
    (hr : nearestRank p q = r) {other : Binary64} {w : ℚ} (hother : other.value? = some w)
    (hne : w ≠ sign negative * rankValue r) :
    |sign negative * (p / q) - sign negative * rankValue r| < |sign negative * (p / q) - w| ∨
      |sign negative * (p / q) - sign negative * rankValue r| = |sign negative * (p / q) - w| ∧
        r % 2 = 0 := by
  have hm : (0 : ℚ) ≤ p / q := div_nonneg (Nat.cast_nonneg p) (Nat.cast_nonneg q)
  obtain ⟨otherNegative, s, rfl, rfl⟩ := value?_eq_some hother
  rw [abs_sign_mul_sub, abs_sign_mul_sub, if_pos rfl]
  by_cases hs : s.val = r
  · -- the opposite of the number itself
    rw [hs] at hne ⊢
    have hsign : negative ≠ otherNegative := by
      rintro rfl
      exact hne rfl
    have hpos : 0 < rankValue r := by
      refine lt_of_le_of_ne (rankValue_nonneg r) fun hzero => hne ?_
      rw [← hzero, mul_zero, mul_zero]
    have hfraction : (0 : ℚ) < p / q := by
      refine lt_of_le_of_ne hm fun hzero => hpos.ne' ?_
      rw [← hr, (nearestRank_eq_zero_iff p hq).mpr (hzero ▸ by positivity), rankValue_zero]
    rw [if_neg hsign, ← sub_neg_eq_add]
    exact .inl (abs_sub_lt_abs_sub (mul_pos_of_neg_of_neg (by linarith) (by linarith)))
  · have hnear := nearer_nearestRank p hq hr hs
    split
    · exact hnear
    · exact nearer_signed hm (rankValue_nonneg s) hnear

/-- To round to the nearest rank is to round correctly. -/
theorem isNearest_nearest (negative : Bool) (p : Nat) {q : Nat} (hq : 0 < q) :
    IsNearest negative (sign negative * (p / q)) (nearest negative p q) := by
  have hm : (0 : ℚ) ≤ p / q := div_nonneg (Nat.cast_nonneg p) (Nat.cast_nonneg q)
  have habs : |sign negative * (p / q : ℚ)| = p / q := by
    rw [abs_sign_mul, abs_of_nonneg hm]
  constructor
  case infinite =>
    intro h
    rw [habs, ← not_lt, ← nearestRank_lt_rankCount_iff p hq] at h
    rw [nearest, ofRank, dif_neg h]
  case finite =>
    intro h
    rw [habs, ← nearestRank_lt_rankCount_iff p hq] at h
    rw [nearest, ofRank, dif_pos h]
    exact ⟨_, _, rfl, rfl, fun other w => nearer_finite negative p hq rfl⟩
  case zero =>
    intro h
    rw [habs, ← nearestRank_eq_zero_iff p hq] at h
    rw [nearest, ofRank, h]
    exact dif_pos (by decide)

/-- Of the ranks of finite numbers none is as near to a magnitude, but for ties. -/
def IsNearestRank (m : ℚ) (r : Nat) : Prop := ∀ s < rankCount, s ≠ r →
  |m - rankValue r| < |m - rankValue s| ∨ |m - rankValue r| = |m - rankValue s| ∧ r % 2 = 0

theorem IsNearestRank.not_lt {m : ℚ} {r s : Nat} (hr : IsNearestRank m r) (hs : IsNearestRank m s)
    (hcount : s < rankCount) : ¬r < s := by
  intro hlt
  obtain ⟨htie, hr_even⟩ := (hr s hcount hlt.ne').resolve_left fun h =>
    (hs r (hlt.trans hcount) hlt.ne).elim (fun h' => lt_asymm h h') fun h' => h.ne' h'.1
  obtain ⟨-, hs_even⟩ := (hs r (hlt.trans hcount) hlt.ne).resolve_left htie.not_gt
  have hlow : rankValue r < rankValue (r + 1) := rankValue_strictMono (Nat.lt_succ_self r)
  have hhigh : rankValue (r + 1) < rankValue s := rankValue_strictMono (by omega)
  have hmiddle : m - rankValue r = -(m - rankValue s) :=
    (abs_eq_abs.mp htie).resolve_left fun h => by linarith
  have hnearer : |m - rankValue (r + 1)| < |m - rankValue r| :=
    abs_sub_lt_abs_sub (mul_pos_of_neg_of_neg (by linarith) (by linarith))
  obtain h | ⟨h, -⟩ := hr (r + 1) (by omega) (Nat.succ_ne_self r)
  · exact lt_asymm h hnearer
  · exact hnearer.ne' h

theorem IsNearestRank.unique {m : ℚ} {r s : Nat} (hr : IsNearestRank m r) (hs : IsNearestRank m s)
    (hr_count : r < rankCount) (hs_count : s < rankCount) : r = s :=
  Nat.le_antisymm (Nat.le_of_not_lt (hs.not_lt hr hr_count))
    (Nat.le_of_not_lt (hr.not_lt hs hs_count))

theorem sign_mul_sign (negative : Bool) (m : ℚ) : sign negative * (sign negative * m) = m := by
  cases negative <;> simp [sign]

theorem IsNearest.exists_rank {negative : Bool} {exact : ℚ} {x : Binary64}
    (h : IsNearest negative exact x) (hfinite : |exact| < 2 ^ 1024 - 2 ^ 970) :
    ∃ rank, x = .finite negative rank ∧ IsNearestRank (sign negative * exact) rank.val := by
  obtain ⟨rank, v, rfl, hv, hnear⟩ := h.finite hfinite
  obtain rfl := Option.some.inj hv
  refine ⟨rank, rfl, fun s hs hne => ?_⟩
  have hvalue : sign negative * rankValue s ≠ sign negative * rankValue rank.val := fun heq =>
    hne (rankValue_strictMono.injective (by rw [← sign_mul_sign negative (rankValue s), heq,
      sign_mul_sign]))
  have hother := hnear (.finite negative ⟨s, hs⟩) _ rfl hvalue
  rw [← sign_mul_sign negative exact, abs_sign_mul_sub, abs_sign_mul_sub, if_pos rfl, if_pos rfl]
    at hother
  exact hother

theorem IsNearest.unique {negative : Bool} {exact : ℚ} {x y : Binary64}
    (hx : IsNearest negative exact x) (hy : IsNearest negative exact y) : x = y := by
  obtain hfinite | hinfinite := lt_or_ge |exact| (2 ^ 1024 - 2 ^ 970)
  · obtain ⟨r, rfl, hr⟩ := hx.exists_rank hfinite
    obtain ⟨s, rfl, hs⟩ := hy.exists_rank hfinite
    rw [Fin.ext (hr.unique hs r.isLt s.isLt)]
  · rw [hx.infinite hinfinite, hy.infinite hinfinite]

end GuardedDivision.Binary64
