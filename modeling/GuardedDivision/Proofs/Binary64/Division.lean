import GuardedDivision.Binary64.Arithmetic
import GuardedDivision.Proofs.Binary64.Correct
import Mathlib.Data.Rat.Floor

namespace GuardedDivision.Binary64

/-- Finite numbers have their exact quotient, rounded correctly. Divided by zero they are infinite,
but for zero itself. -/
inductive IsQuotient : Binary64 → Binary64 → Binary64 → Prop
  | nan {n d : Binary64} : n = .nan ∨ d = .nan → IsQuotient n d .nan
  | ofInfinities (a b : Bool) : IsQuotient (.infinity a) (.infinity b) .nan
  | ofInfinity (a b : Bool) (s : Rank) : IsQuotient (.infinity a) (.finite b s) (.infinity (a != b))
  | byInfinity (a b : Bool) (r : Rank) : IsQuotient (.finite a r) (.infinity b) (.zero (a != b))
  | ofZeros (a b : Bool) : IsQuotient (.zero a) (.zero b) .nan
  | byZero {a b : Bool} {r : Rank} {v : ℚ} : (finite a r).value? = some v → v ≠ 0 →
    IsQuotient (.finite a r) (.zero b) (.infinity (a != b))
  | rounded {a b : Bool} {r s : Rank} {v w : ℚ} {q : Binary64} :
    (finite a r).value? = some v → (finite b s).value? = some w → w ≠ 0 →
    IsNearest (a != b) (v / w) q → IsQuotient (.finite a r) (.finite b s) q

theorem rankValue_eq_zero_iff {r : Nat} : rankValue r = 0 ↔ r = 0 := by
  rw [← rankValue_zero]
  exact rankValue_strictMono.injective.eq_iff

theorem sign_ne_zero (negative : Bool) : sign negative ≠ 0 := by
  cases negative <;> simp [sign]

theorem sign_div_sign (a b : Bool) : sign a / sign b = sign (a != b) := by
  cases a <;> cases b <;> simp [sign]

theorem finite_eq_zero {negative : Bool} {r : Rank} (h : r.val = 0) :
    finite negative r = zero negative := congrArg (finite negative) (Fin.ext h)

theorem isNearest_div (a b : Bool) (r : Rank) {s : Rank} (hs : s.val ≠ 0) :
    IsNearest (a != b) (sign a * rankValue r / (sign b * rankValue s))
      ((finite a r).div (finite b s)) := by
  have hquotient : sign a * rankValue r / (sign b * rankValue s) =
      sign (a != b) * (quanta r / quanta s) := by
    rw [mul_div_mul_comm, sign_div_sign, rankValue, rankValue,
      div_div_div_cancel_right₀ unit_cast_pos.ne']
  rw [div, if_neg hs, hquotient]
  exact isNearest_nearest _ _ (quanta_pos hs)

theorem isQuotient_div (n d : Binary64) : IsQuotient n d (n.div d) := by
  cases n with
  | nan => exact .nan (.inl rfl)
  | infinity a =>
    cases d with
    | nan => exact .nan (.inr rfl)
    | infinity b => exact .ofInfinities a b
    | finite b s => exact .ofInfinity a b s
  | finite a r =>
    cases d with
    | nan => exact .nan (.inr rfl)
    | infinity b => exact .byInfinity a b r
    | finite b s =>
      by_cases hs : s.val = 0
      · rw [div, if_pos hs, finite_eq_zero hs]
        by_cases hr : r.val = 0
        · rw [if_pos hr, finite_eq_zero hr]
          exact .ofZeros a b
        · rw [if_neg hr]
          exact .byZero rfl (mul_ne_zero (sign_ne_zero a) (mt rankValue_eq_zero_iff.mp hr))
      · exact .rounded rfl rfl (mul_ne_zero (sign_ne_zero b) (mt rankValue_eq_zero_iff.mp hs))
          (isNearest_div a b r hs)

theorem rank_ne_zero {negative : Bool} {r : Rank} {v : ℚ}
    (hv : (finite negative r).value? = some v) (hne : v ≠ 0) : r.val ≠ 0 := by
  intro hr
  apply hne
  rw [← Option.some.inj hv, hr, rankValue_zero, mul_zero]

theorem IsQuotient.eq_div {n d q : Binary64} (h : IsQuotient n d q) : q = n.div d := by
  cases h with
  | nan h =>
    obtain rfl | rfl := h
    · rfl
    · cases n <;> rfl
  | ofInfinities | ofInfinity | byInfinity | ofZeros => rfl
  | byZero hv hne => rw [zero, div, if_pos rfl, if_neg (rank_ne_zero hv hne)]
  | rounded hv hw hne hnear =>
    have hs := rank_ne_zero hw hne
    obtain rfl := Option.some.inj hv
    obtain rfl := Option.some.inj hw
    exact hnear.unique (isNearest_div _ _ _ hs)

def truncate (v : ℚ) : ℤ := if 0 ≤ v then ⌊v⌋ else ⌈v⌉

inductive IsClamped : Binary64 → Int32 → Prop
  | nan : IsClamped .nan 0
  | infinity (negative : Bool) :
    IsClamped (.infinity negative) (if negative then Int32.minValue else Int32.maxValue)
  | finite {x : Binary64} {v : ℚ} {i : Int32} : x.value? = some v →
    i.toInt = max (-2147483648) (min 2147483647 (truncate v)) → IsClamped x i

theorem truncate_neg (v : ℚ) : truncate (-v) = -truncate v := by
  obtain hv | rfl | hv := lt_trichotomy v 0
  · rw [truncate, truncate, if_pos (by linarith), if_neg (by linarith), Int.floor_neg]
  · simp [truncate]
  · rw [truncate, truncate, if_neg (by linarith), if_pos hv.le, Int.ceil_neg]

theorem truncate_rankValue (r : Nat) :
    truncate (rankValue r) = (quanta r >>> quantumPlaces : Nat) := by
  have hfloor := Rat.floor_intCast_div_natCast (quanta r) unit
  rw [truncate, if_pos (rankValue_nonneg r), shiftRight_quantumPlaces, rankValue]
  rw [Int.cast_natCast] at hfloor
  exact hfloor

theorem toInt_ofIntClamp (n : Int) :
    (Int32.ofIntClamp n).toInt = max (-2147483648) (min 2147483647 n) := by
  have hmin : Int32.minValue.toInt = -2147483648 := rfl
  have hmax : Int32.maxValue.toInt = 2147483647 := rfl
  unfold Int32.ofIntClamp
  split
  · split
    · rw [Int32.toInt_ofIntLE]
      omega
    · omega
  · omega

theorem isClamped_toInt32 (x : Binary64) : IsClamped x x.toInt32 := by
  cases x with
  | nan => exact .nan
  | infinity negative => exact .infinity negative
  | finite negative rank =>
    refine .finite rfl ?_
    rw [toInt32, toInt_ofIntClamp]
    cases negative with
    | false =>
      have hvalue : sign false * rankValue rank = rankValue rank := one_mul _
      rw [hvalue, truncate_rankValue]
      rfl
    | true =>
      have hvalue : sign true * rankValue rank = -rankValue rank := neg_one_mul _
      rw [hvalue, truncate_neg, truncate_rankValue]
      rfl

end GuardedDivision.Binary64
