import GuardedDivision.Proofs.Binary64.Division
import GuardedDivision.Proofs.Binary64.Quotient

namespace GuardedDivision

namespace Binary64

def IsSmall (x : Binary64) : Prop :=
  ∃ v e, x.value? = some v ∧ epsilon.value? = some e ∧ |v| ≤ e

def IsRefused (d : Binary64) : Prop := d = .nan ∨ d.IsSmall

def IsPositive (x : Binary64) : Prop := x = .infinity false ∨ ∃ v, x.value? = some v ∧ 0 < v

def IsNegative (x : Binary64) : Prop := x = .infinity true ∨ ∃ v, x.value? = some v ∧ v < 0

theorem value?_epsilon : epsilon.value? = some (rankValue (nearestRank 1 1000000)) := by
  rw [epsilon_eq, value?, sign, if_neg Bool.false_ne_true, one_mul]

theorem rankValue_pos {r : Nat} (hr : r ≠ 0) : 0 < rankValue r :=
  div_pos (Nat.cast_pos.mpr (quanta_pos hr)) unit_cast_pos

theorem abs_sign_mul_rankValue (negative : Bool) (r : Nat) :
    |sign negative * rankValue r| = rankValue r := by
  rw [abs_sign_mul, abs_of_nonneg (rankValue_nonneg r)]

theorem isSmall_iff {x : Binary64} :
    x.IsSmall ↔ ∃ negative s, x = .finite negative s ∧ s.val ≤ nearestRank 1 1000000 := by
  constructor
  · rintro ⟨v, e, hv, he, hle⟩
    obtain ⟨negative, s, rfl, rfl⟩ := value?_eq_some hv
    obtain rfl := Option.some.inj (value?_epsilon.symm.trans he)
    rw [abs_sign_mul_rankValue, rankValue_strictMono.le_iff_le] at hle
    exact ⟨negative, s, rfl, hle⟩
  · rintro ⟨negative, s, rfl, hle⟩
    refine ⟨_, _, rfl, value?_epsilon, ?_⟩
    rw [abs_sign_mul_rankValue]
    exact rankValue_strictMono.monotone hle

theorem isSmall_zero (negative : Bool) : (zero negative).IsSmall :=
  isSmall_iff.mpr ⟨negative, _, rfl, Nat.zero_le _⟩

theorem epsilonRank_lt_rankCount : nearestRank 1 1000000 < rankCount :=
  epsilonRank_lt_one.trans (wholeRank_lt_rankCount (by decide))

theorem isSmall_nearest_iff {negative : Bool} {p q : Nat} :
    (nearest negative p q).IsSmall ↔ nearestRank p q ≤ nearestRank 1 1000000 := by
  rw [isSmall_iff, nearest]
  constructor
  · rintro ⟨b, s, hs, hle⟩
    rwa [eq_of_ofRank hs]
  · intro hle
    rw [ofRank, dif_pos (hle.trans_lt epsilonRank_lt_rankCount)]
    exact ⟨_, _, rfl, hle⟩

theorem isRefused_nearest_iff {negative : Bool} {p q : Nat} :
    (nearest negative p q).IsRefused ↔ nearestRank p q ≤ nearestRank 1 1000000 := by
  have hnan : nearest negative p q ≠ .nan := by
    rw [nearest, ofRank]
    split <;> simp
  rw [IsRefused, or_iff_right hnan, isSmall_nearest_iff]

theorem exceeds_epsilon_iff {d : Binary64} : d.exceeds epsilon = true ↔ ¬d.IsRefused := by
  rw [IsRefused, isSmall_iff, epsilon_eq]
  cases d with
  | nan => simp [exceeds]
  | infinity b => simp [exceeds]
  | finite b s => simp [exceeds_finite]

def wholeQuotient (s m : Nat) : Nat := quanta (nearestRank (m * unit) (quanta s)) >>> quantumPlaces

def signedQuotient (s : Nat) (k : Int) : Int :=
  if k < 0 then -(wholeQuotient s k.natAbs : Int) else wholeQuotient s k.natAbs

section Accepted

variable {s : Nat} (hs : nearestRank 1 1000000 < s)

include hs

theorem quanta_pos_of_lt : 0 < quanta s := quanta_pos (Nat.ne_zero_of_lt hs)

theorem wholeQuotient_zero : wholeQuotient s 0 = 0 := by
  rw [wholeQuotient, Nat.zero_mul, nearestRank_zero (quanta_pos_of_lt hs), quanta_zero,
    Nat.zero_shiftRight]

theorem wholeQuotient_mono {m n : Nat} (h : m ≤ n) : wholeQuotient s m ≤ wholeQuotient s n := by
  have hpos := quanta_pos_of_lt hs
  have hrank : nearestRank (m * unit) (quanta s) ≤ nearestRank (n * unit) (quanta s) :=
    nearestRank_mono hpos hpos (Nat.mul_le_mul_right _ (Nat.mul_le_mul_right _ h))
  rw [wholeQuotient, wholeQuotient, shiftRight_quantumPlaces, shiftRight_quantumPlaces]
  exact Nat.div_le_div_right (quanta_strictMono.monotone hrank)

theorem signedQuotient_zero : signedQuotient s 0 = 0 := by
  rw [signedQuotient, if_neg (by decide), Int.natAbs_zero, wholeQuotient_zero hs, Nat.cast_zero]

theorem signedQuotient_mono {k l : Int} (h : k ≤ l) : signedQuotient s k ≤ signedQuotient s l := by
  rw [signedQuotient, signedQuotient]
  by_cases hl : l < 0
  · -- both are negative, and the lesser one has the greater magnitude
    have hmagnitude := wholeQuotient_mono hs (show l.natAbs ≤ k.natAbs by omega)
    rw [if_pos hl, if_pos (by omega)]
    omega
  · rw [if_neg hl]
    by_cases hk : k < 0
    · rw [if_pos hk]
      omega
    · have hmagnitude := wholeQuotient_mono hs (show k.natAbs ≤ l.natAbs by omega)
      rw [if_neg hk]
      omega

/-- No integer is so great that its quotient by a number beyond the least ones is infinite. -/
theorem nearestRank_quotient_lt {m : Nat} (hm : m ≤ 0x80000000) :
    nearestRank (m * unit) (quanta s) < rankCount := by
  have hunit : unit ≤ 0x100000 * quanta (nearestRank 1 1000000) := by decide +kernel
  have hquanta : quanta (nearestRank 1 1000000) ≤ quanta s := quanta_strictMono.monotone hs.le
  have hscale : unit ≤ 0x100000 * quanta s := hunit.trans (Nat.mul_le_mul_left _ hquanta)
  have hbound : m * unit * 1 ≤ 0x8000000000000 * quanta s :=
    calc m * unit * 1 = m * unit := Nat.mul_one _
      _ ≤ 0x80000000 * (0x100000 * quanta s) := Nat.mul_le_mul hm hscale
      _ = 0x8000000000000 * quanta s := (Nat.mul_assoc _ _ _).symm
  calc nearestRank (m * unit) (quanta s) ≤ nearestRank 0x8000000000000 1 :=
        nearestRank_mono (quanta_pos_of_lt hs) Nat.one_pos hbound
    _ = wholeRank 0x8000000000000 := nearestRank_one (by decide)
    _ < rankCount := wholeRank_lt_rankCount (by decide)

end Accepted

section Rank

variable {s : Rank} (hs : nearestRank 1 1000000 < s.val) (k : Int32) (b : Bool)

include hs

theorem div_finite : (ofInt32 k).div (.finite b s) = .finite (decide (k.toInt < 0) != b)
    ⟨nearestRank (k.toInt.natAbs * unit) (quanta s),
      nearestRank_quotient_lt hs (natAbs_toInt_le k)⟩ := by
  have hk : k.toInt.natAbs < 2 * rowSize := (natAbs_toInt_le k).trans_lt (by decide)
  rw [ofInt32, ofInt, nearest_one hk, div, if_neg (Nat.ne_zero_of_lt hs)]
  simp only [quanta_wholeRank hk]
  rw [nearest, ofRank, dif_pos (nearestRank_quotient_lt hs (natAbs_toInt_le k))]

theorem floatQuotient_finite : Unguarded.floatQuotient (.ofInt32 k) (.finite b s) =
    Int32.ofIntClamp (if b then -signedQuotient s k.toInt else signedQuotient s k.toInt) := by
  rw [Unguarded.floatQuotient, div_finite hs, toInt32, signedQuotient]
  congr 1
  by_cases hk : k.toInt < 0 <;> cases b <;> simp [hk, wholeQuotient]

end Rank

theorem div_infinity (k : Int32) (b : Bool) :
    (ofInt32 k).div (.infinity b) = .zero (decide (k.toInt < 0) != b) := by
  have hk : k.toInt.natAbs < 2 * rowSize := (natAbs_toInt_le k).trans_lt (by decide)
  rw [ofInt32, ofInt, nearest_one hk, div]

theorem floatQuotient_infinity (k : Int32) (b : Bool) :
    Unguarded.floatQuotient (.ofInt32 k) (.infinity b) = Int32.ofIntClamp 0 := by
  have hzero (negative : Bool) : (zero negative).toInt32 = Int32.ofIntClamp 0 := by
    cases negative <;> decide
  rw [Unguarded.floatQuotient, div_infinity, hzero]

end Binary64

/-- A division by a positive number: its results rise with the numerator, and have no other sign. -/
structure Rises (f : Int32 → Int32) : Prop where
  mono (m n : Int32) : m ≤ n → f m ≤ f n
  nonneg (n : Int32) : 0 ≤ n → 0 ≤ f n
  nonpos (n : Int32) : n ≤ 0 → f n ≤ 0

structure Falls (f : Int32 → Int32) : Prop where
  anti (m n : Int32) : m ≤ n → f n ≤ f m
  nonpos (n : Int32) : 0 ≤ n → f n ≤ 0
  nonneg (n : Int32) : n ≤ 0 → 0 ≤ f n

theorem ofIntClamp_mono {m n : Int} (h : m ≤ n) : Int32.ofIntClamp m ≤ Int32.ofIntClamp n := by
  rw [Int32.le_iff_toInt_le, Binary64.toInt_ofIntClamp, Binary64.toInt_ofIntClamp]
  omega

section Clamped

variable {f : Int32 → Int32} {g : Int → Int} (hzero : g 0 = 0)
  (hf : ∀ k, f k = Int32.ofIntClamp (g k.toInt))

include hzero hf

theorem apply_zero_of_clamped : f 0 = 0 := by
  rw [hf, Int32.toInt_zero, hzero]
  decide

theorem Rises.of_clamped (hmono : ∀ {k l : Int}, k ≤ l → g k ≤ g l) : Rises f := by
  have hrise (m n : Int32) (h : m ≤ n) : f m ≤ f n := by
    rw [hf, hf]
    exact ofIntClamp_mono (hmono (Int32.le_iff_toInt_le.mp h))
  have h0 := apply_zero_of_clamped hzero hf
  exact ⟨hrise, fun n h => h0 ▸ hrise 0 n h, fun n h => h0 ▸ hrise n 0 h⟩

theorem Falls.of_clamped (hanti : ∀ {k l : Int}, k ≤ l → g l ≤ g k) : Falls f := by
  have hfall (m n : Int32) (h : m ≤ n) : f n ≤ f m := by
    rw [hf, hf]
    exact ofIntClamp_mono (hanti (Int32.le_iff_toInt_le.mp h))
  have h0 := apply_zero_of_clamped hzero hf
  exact ⟨hfall, fun n h => h0 ▸ hfall 0 n h, fun n h => h0 ▸ hfall n 0 h⟩

end Clamped

namespace Binary64

structure Divides (d : Binary64) : Prop where
  finite (k : Int32) (q : Binary64) : IsQuotient (.ofInt32 k) d q → ∃ v, q.value? = some v
  sign : d.IsPositive ∨ d.IsNegative
  positive : d.IsPositive → Rises fun k => Unguarded.floatQuotient (.ofInt32 k) d
  negative : d.IsNegative → Falls fun k => Unguarded.floatQuotient (.ofInt32 k) d

theorem isPositive_finite {s : Rank} (hs : s.val ≠ 0) : (finite false s).IsPositive :=
  .inr ⟨_, rfl, mul_pos one_pos (rankValue_pos hs)⟩

theorem isNegative_finite {s : Rank} (hs : s.val ≠ 0) : (finite true s).IsNegative :=
  .inr ⟨_, rfl, mul_neg_of_neg_of_pos neg_one_lt_zero (rankValue_pos hs)⟩

theorem IsPositive.not_isNegative {d : Binary64} (h : d.IsPositive) : ¬d.IsNegative := by
  rintro (rfl | ⟨w, hw, hneg⟩)
  · obtain h | ⟨v, hv, -⟩ := h
    · exact absurd h (by decide)
    · contradiction
  · obtain rfl | ⟨v, hv, hpos⟩ := h
    · contradiction
    · obtain rfl := Option.some.inj (hv.symm.trans hw)
      exact lt_asymm hpos hneg

theorem divides_infinity (b : Bool) : Divides (.infinity b) where
  finite k q hq := by
    rw [hq.eq_div, div_infinity]
    exact ⟨_, rfl⟩
  sign := by
    cases b with
    | false => exact .inl (.inl rfl)
    | true => exact .inr (.inl rfl)
  positive _ := .of_clamped rfl (floatQuotient_infinity · b) fun _ => Int.le_refl 0
  negative _ := .of_clamped rfl (floatQuotient_infinity · b) fun _ => Int.le_refl 0

theorem divides_finite {s : Rank} (hs : nearestRank 1 1000000 < s.val) (b : Bool) :
    Divides (.finite b s) := by
  have hne : s.val ≠ 0 := Nat.ne_zero_of_lt hs
  have hfinite (k : Int32) (q : Binary64) (hq : IsQuotient (.ofInt32 k) (.finite b s) q) :
      ∃ v, q.value? = some v := by
    rw [hq.eq_div, div_finite hs]
    exact ⟨_, rfl⟩
  have hzero := signedQuotient_zero hs
  have hmono {k l : Int} (h : k ≤ l) : signedQuotient s k ≤ signedQuotient s l :=
    signedQuotient_mono hs h
  have hquotient := floatQuotient_finite hs
  cases b with
  | false =>
    have hpos := isPositive_finite hne
    exact ⟨hfinite, .inl hpos, fun _ => .of_clamped hzero (hquotient · false) hmono,
      fun hneg => absurd hneg hpos.not_isNegative⟩
  | true =>
    have hneg := isNegative_finite hne
    have hzero' : -signedQuotient s 0 = 0 := by rw [hzero, neg_zero]
    exact ⟨hfinite, .inr hneg, fun hpos => absurd hneg hpos.not_isNegative,
      fun _ => .of_clamped hzero' (hquotient · true) fun h => Int.neg_le_neg (hmono h)⟩

theorem divides_of_accepted {d : Binary64} (hd : ¬d.IsRefused) : Divides d := by
  cases d with
  | nan => exact absurd (.inl rfl) hd
  | infinity b => exact divides_infinity b
  | finite b s =>
    apply divides_finite
    rw [← not_le]
    exact fun hle => hd (.inr (isSmall_iff.mpr ⟨b, s, rfl, hle⟩))

/-- Refused are NaN and what counts as zero. Every other quotient is rounded, cut to a whole number
and clamped to the 32-bit range. -/
theorem floatQuotient_guard (n d : Binary64) :
    (Guarded.floatQuotient n d = .error .zeroDivisor ↔ d.IsRefused) ∧
    (∀ m symbol e, Guarded.floatQuotient n d ≠ .error (.overflow m symbol e)) ∧
    (¬d.IsRefused → Guarded.floatQuotient n d = .ok (Unguarded.floatQuotient n d)) ∧
    (∃ q, IsQuotient n d q) ∧
    (∀ q, IsQuotient n d q → IsClamped q (Unguarded.floatQuotient n d)) ∧
    (¬d.IsRefused → Divides d) := by
  refine ⟨?_, ?_, ?_, ⟨_, isQuotient_div n d⟩, ?_, divides_of_accepted⟩
  · by_cases hd : d.IsRefused <;> simp [Guarded.floatQuotient, exceeds_epsilon_iff, hd]
  · intro m symbol e
    rw [Guarded.floatQuotient]
    split <;> simp
  · intro hd
    rw [Guarded.floatQuotient, if_pos (exceeds_epsilon_iff.mpr hd), Unguarded.floatQuotient]
  · intro q hq
    rw [hq.eq_div]
    exact isClamped_toInt32 _

theorem floatQuotient_guard_tenth :
    Guarded.floatQuotient (.ofInt32 1) (ofBits 0x3FB999999999999A) = .ok 10 ∧
    Rises fun k => Unguarded.floatQuotient (.ofInt32 k) (ofBits 0x3FB999999999999A) := by
  have htenth : ofBits 0x3FB999999999999A = .finite false ⟨0x3FB999999999999A, by decide⟩ := by
    decide +kernel
  have hd : ¬(ofBits 0x3FB999999999999A).IsRefused := exceeds_epsilon_iff.mp (by decide +kernel)
  have hpos : (ofBits 0x3FB999999999999A).IsPositive := htenth ▸ isPositive_finite (by decide)
  have hten : Unguarded.floatQuotient (.ofInt32 1) (ofBits 0x3FB999999999999A) = 10 := by
    decide +kernel
  obtain ⟨-, -, hok, -, -, hdivides⟩ := floatQuotient_guard (.ofInt32 1) (ofBits 0x3FB999999999999A)
  exact ⟨hten ▸ hok hd, (hdivides hd).positive hpos⟩

end Binary64

end GuardedDivision
