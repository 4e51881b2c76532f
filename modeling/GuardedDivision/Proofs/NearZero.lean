import GuardedDivision.Proofs.Decimal.Reading
import GuardedDivision.Proofs.FloatDivision
import GuardedDivision.Proofs.FloatGuard
import GuardedDivision.Proofs.IntegerReading

namespace GuardedDivision

open Binary64 (IsNearest nearest nearestRank rankValue sign)
open Literal (Spells kept)

namespace Result

def IsRejected (r : Result) : Prop :=
  ∃ report, r = .reported report ∧ report.outcome = .refused .zeroDivisor

def IsAccepted (r : Result) : Prop :=
  ∃ report v, r = .reported report ∧ report.outcome = .value v

end Result

/-- The magnitude that a decimal counts with: its exact one, unless the last digits of its exponent
are not kept. -/
inductive HasMagnitude : List Char → ℚ → Prop
  | exact {text whole fraction : List Char} {negative : Bool} {exponent : Int} :
    Spells text negative (.decimal whole fraction exponent) →
    exponent.natAbs < 655360 ∨ text.length ≤ 65200 →
    HasMagnitude text |(Decimal.ofParts negative whole fraction exponent).value|
  | kept {text whole fraction : List Char} {negative : Bool} {exponent : Int} :
    Spells text negative (.decimal whole fraction exponent) →
    HasMagnitude text |(Decimal.ofParts negative whole fraction (kept exponent)).value|

def IsEntered (unread : Bytes) (m : ℚ) : Prop := ∃ line text rest,
  Console.IsFirstLine unread (Utf8.encode line) rest ∧ Blank.IsTrimmed line text ∧
    HasMagnitude text m

theorem Decimal.exists_fraction (d : Decimal) : ∃ p q : Nat, 0 < q ∧ |d.value| = p / q ∧
    d.toBinary64 = nearest d.negative p q := by
  refine ⟨_, _, Nat.pow_pos (by decide), ?_, d.toBinary64_eq_nearest⟩
  rw [value_eq_div, Binary64.abs_sign_mul,
    abs_of_nonneg (div_nonneg (Nat.cast_nonneg _) (Nat.cast_nonneg _))]
  rfl

theorem HasMagnitude.exists_decimal {text : List Char} {m : ℚ} (h : HasMagnitude text m) :
    ∃ d : Decimal, |d.value| = m ∧ Binary64.ofText? text = some d.toBinary64 := by
  cases h with
  | @exact whole fraction negative exponent hspells hsmall =>
    obtain ⟨hdigits, hlength⟩ := hspells.digits
    refine ⟨_, rfl, ?_⟩
    rw [← Decimal.toBinary64_kept negative exponent hdigits (hsmall.imp_right hlength.trans)]
    exact Binary64.ofText?_of_spells hspells
  | kept hspells => exact ⟨_, rfl, Binary64.ofText?_of_spells hspells⟩

section Line

variable {γ : Type} [WordSource γ]

theorem readFloat_of_isFirstLine {unread rest : Bytes} {line text : List Char} {x : Binary64}
    (words : γ) (hline : Console.IsFirstLine unread (Utf8.encode line) rest)
    (htext : Blank.IsTrimmed line text) (hx : Binary64.ofText? text = some x) :
    (Source.console.readFloat { unread, words }).1 = .ok x := by
  have hne : Utf8.encode line ≠ [] := by
    apply Utf8.encode_ne_nil
    rintro rfl
    obtain rfl : [] = text := htext.trim_eq
    contradiction
  rw [Binary64.readFloat_console, Console.cutLine_eq_iff.mpr hline]
  exact Console.readLine_eq_ok hne (htext.trim_eq.symm ▸ hx)

def enteredResult (n : Int32) (catchFaults : Bool) (unread : Bytes) (words : γ) : Result :=
  ((Case.float n .console .guarded).run catchFaults { unread, words }).result

/-- The guard decides by the rank that the magnitude of a decimal rounds to. -/
structure DecidesBy (r : Result) (p q : Nat) : Prop where
  rejected : r.IsRejected ↔ nearestRank p q ≤ nearestRank 1 1000000
  accepted : r.IsAccepted ↔ nearestRank 1 1000000 < nearestRank p q

theorem decidesBy_reported (c : Case) (hc : c.route = .guarded) (negative : Bool) (p q : Nat) :
    DecidesBy (.reported
      { subject := c, denominator := .float (nearest negative p q),
        outcome := c.outcome (.float (nearest negative p q)) }) p q := by
  have hexceeds : (nearest negative p q).exceeds epsilon = true ↔
      nearestRank 1 1000000 < nearestRank p q := by
    rw [Binary64.exceeds_epsilon_iff, Binary64.isRefused_nearest_iff, not_le]
  rw [Case.outcome_guarded_float c hc]
  by_cases h : nearestRank 1 1000000 < nearestRank p q
  · rw [if_pos (hexceeds.mpr h)]
    constructor <;> simp [Result.IsRejected, Result.IsAccepted, h]
  · rw [if_neg (mt hexceeds.mp h)]
    constructor <;> simp [Result.IsRejected, Result.IsAccepted, h, Nat.le_of_not_lt h]

theorem IsEntered.exists_decidesBy {unread : Bytes} {m : ℚ} (h : IsEntered unread m) (n : Int32)
    (catchFaults : Bool) (words : γ) : ∃ p q : Nat, 0 < q ∧ m = p / q ∧
      DecidesBy (enteredResult n catchFaults unread words) p q := by
  obtain ⟨line, text, rest, hline, htext, hm⟩ := h
  obtain ⟨d, rfl, hx⟩ := hm.exists_decimal
  obtain ⟨p, q, hq, hfraction, hround⟩ := d.exists_fraction
  refine ⟨p, q, hq, hfraction, ?_⟩
  have hread := readFloat_of_isFirstLine words hline htext hx
  have hresult : enteredResult n catchFaults unread words =
      (Case.float n .console .guarded).result catchFaults (.float d.toBinary64) := by
    rw [enteredResult, Case.run_result, Case.readDenominator_float, hread]
    rfl
  rw [hresult, Case.result_float, hround]
  exact decidesBy_reported _ rfl d.negative p q

/-- A decimal is rejected if the number nearest to its magnitude counts as zero, and else it is
accepted. -/
structure Decides (r : Result) (m : ℚ) : Prop where
  nearest : ∃ y, IsNearest false m y ∧ (r.IsRejected ↔ y.IsSmall) ∧ (r.IsAccepted ↔ ¬y.IsSmall)
  rejected : m ≤ 1 / 1000000 → r.IsRejected
  accepted : r.IsAccepted → 1 / 1000000 < m

theorem DecidesBy.decides {r : Result} {p q : Nat} (h : DecidesBy r p q) (hq : 0 < q) :
    Decides r (p / q) := by
  have hnearest : IsNearest false (p / q) (nearest false p q) := by
    have hround := Binary64.isNearest_nearest false p hq
    have hsign : sign false * (p / q : ℚ) = p / q := one_mul _
    rwa [hsign] at hround
  have hrejected (hle : (p / q : ℚ) ≤ 1 / 1000000) : r.IsRejected := by
    have hmillionth : (p / q : ℚ) ≤ (1 : Nat) / (1000000 : Nat) := by
      rwa [Nat.cast_one, Nat.cast_ofNat]
    exact h.rejected.mpr (Binary64.nearestRank_mono_of_le hq (by decide) hmillionth)
  refine ⟨⟨_, hnearest, ?_, ?_⟩, hrejected, fun haccepted => ?_⟩
  · rw [h.rejected, Binary64.isSmall_nearest_iff]
  · rw [h.accepted, Binary64.isSmall_nearest_iff, not_le]
  · by_contra hle
    exact (h.accepted.mp haccepted).not_ge (h.rejected.mp (hrejected (not_lt.mp hle)))

/-- The number that stands for a millionth is the nearest one, and it is less than a millionth. -/
theorem epsilon_lt : ∃ e, epsilon.value? = some e ∧ IsNearest false (1 / 1000000) epsilon ∧
    e < 1 / 1000000 := by
  have hquanta : Binary64.quanta (nearestRank 1 1000000) * 1000000 < Binary64.unit := by
    decide +kernel
  refine ⟨_, Binary64.value?_epsilon, ?_, ?_⟩
  · have hround := Binary64.isNearest_nearest false 1 (show 0 < 1000000 by decide)
    rwa [Nat.cast_one, Nat.cast_ofNat, sign, if_neg Bool.false_ne_true, one_mul] at hround
  · rw [rankValue, div_lt_div_iff₀ Binary64.unit_cast_pos (by norm_num), one_mul]
    exact_mod_cast hquanta

example : epsilon.toBits = 0x3EB0C6F7A0B5ED8D := by decide +kernel

/-- No decimal up to a millionth is accepted; and if a decimal is accepted, so is every greater one,
whatever they divide. -/
theorem guard_entered :
    (∃ e, epsilon.value? = some e ∧ IsNearest false (1 / 1000000) epsilon ∧ e < 1 / 1000000) ∧
    (∀ (n : Int32) (catchFaults : Bool) (words : γ) (unread : Bytes) (m : ℚ),
      IsEntered unread m → Decides (enteredResult n catchFaults unread words) m) ∧
    ∀ (n n' : Int32) (catchFaults catchFaults' : Bool) (words words' : γ) (unread unread' : Bytes)
      (m m' : ℚ), IsEntered unread m → IsEntered unread' m' → m ≤ m' →
      (enteredResult n catchFaults unread words).IsAccepted →
        (enteredResult n' catchFaults' unread' words').IsAccepted := by
  refine ⟨epsilon_lt, fun n catchFaults words unread m hm => ?_,
    fun n n' catchFaults catchFaults' words words' unread unread' m m' hm hm' hle haccepted => ?_⟩
  · obtain ⟨p, q, hq, rfl, hdecides⟩ := hm.exists_decidesBy n catchFaults words
    exact hdecides.decides hq
  · obtain ⟨p, q, hq, rfl, hdecides⟩ := hm.exists_decidesBy n catchFaults words
    obtain ⟨p', q', hq', rfl, hdecides'⟩ := hm'.exists_decidesBy n' catchFaults' words'
    have hrank := Binary64.nearestRank_mono_of_le hq hq' hle
    exact hdecides'.accepted.mpr ((hdecides.accepted.mp haccepted).trans_le hrank)

end Line

section Powers

variable (e : Int)

def powerText : List Char := '1' :: 'e' :: Numeral.ofInt e

theorem hasMagnitude_powerText (he : e.natAbs < 655360) : HasMagnitude (powerText e) (10 ^ e) := by
  have hone : Numeral.IsDigits ['1'] := ⟨List.cons_ne_nil _ _, List.forall_mem_singleton.mpr rfl⟩
  have hspells : Spells (powerText e) false (.decimal ['1'] [] e) :=
    .unsigned (.decimal (.whole hone) (.scaled (.inl rfl) (Numeral.denotes_ofInt e)))
  have hdigits : Nat.ofDigitChars 10 ['1'] 0 = 1 := by decide
  have hexponent : (Decimal.ofParts false ['1'] [] e).exponent = e := Int.sub_zero e
  have hvalue : |(Decimal.ofParts false ['1'] [] e).value| = 10 ^ e := by
    rw [Decimal.abs_value, hexponent, Decimal.ofParts, List.append_nil, hdigits, Nat.cast_one,
      one_mul]
  exact hvalue ▸ .exact hspells (.inl he)

theorem isEntered_powerText (he : e.natAbs < 655360) :
    IsEntered (Utf8.encode (powerText e)) (10 ^ e) := by
  have hnewline : '\n' ∉ powerText e := by
    simp [powerText, Numeral.newline_not_mem_ofInt]
  have hblank : ∀ c ∈ powerText e, Blank.isBlank c = false := by
    intro c hc
    obtain rfl | hc := List.mem_cons.mp hc
    · rfl
    · obtain rfl | hc := List.mem_cons.mp hc
      · rfl
      · exact Numeral.isBlank_of_mem_ofInt hc
  exact ⟨_, _, _, .unended (Utf8.newline_not_mem_encode hnewline), Blank.isTrimmed_self hblank,
    hasMagnitude_powerText e he⟩

end Powers

theorem guard_entered_powers :
    (enteredResult (γ := WordCycle) 100 true (Utf8.encode "1e-6".toList)
      { words := [] }).IsRejected ∧
    (enteredResult (γ := WordCycle) 100 true (Utf8.encode "1e400".toList)
      { words := [] }).IsAccepted := by
  have hmillionth := isEntered_powerText (-6) (by decide)
  have hfifth := isEntered_powerText (-5) (by decide)
  have hinfinite := isEntered_powerText 400 (by decide)
  have hresult : enteredResult (γ := WordCycle) 100 true (Utf8.encode (powerText (-5)))
      { words := [] } = .reported
        { subject := .float 100 .console .guarded, denominator := .float (.nearest false 1 100000),
          outcome := .value 10000000 } := by
    decide +kernel
  obtain ⟨-, hdecides, haccepts⟩ := guard_entered (γ := WordCycle)
  constructor
  · exact (hdecides 100 true { words := [] } _ _ hmillionth).rejected (by norm_num)
  · have hle : (10 : ℚ) ^ (-5 : ℤ) ≤ 10 ^ (400 : ℤ) :=
      zpow_le_zpow_right₀ (by norm_num) (by decide)
    exact haccepts 100 100 true true _ _ _ _ _ _ hfifth hinfinite hle ⟨_, _, hresult, rfl⟩

/-- Not every decimal is decided on by its exact value: with an exponent that is too long one next
to zero is accepted. -/
theorem tiny_not_rejected : ¬∀ (unread rest : Bytes) (line text whole fraction : List Char)
    (negative : Bool) (exponent : Int),
    Console.IsFirstLine unread (Utf8.encode line) rest → Blank.IsTrimmed line text →
    Spells text negative (.decimal whole fraction exponent) →
      ∃ y, IsNearest false |(Decimal.ofParts negative whole fraction exponent).value| y ∧
        ((enteredResult (γ := WordCycle) 100 true unread { words := [] }).IsRejected ↔
          y.IsSmall) := by
  intro h
  -- the number of ones gets a name, so that no step writes them out
  obtain ⟨n, hn⟩ : ∃ n, n = 65535 := ⟨_, rfl⟩
  have hline := Console.cutLine_eq_iff.mp (Binary64.cutLine_onesText n)
  have htext : Blank.IsTrimmed (Binary64.onesText n) (Binary64.onesText n) :=
    Blank.trim_eq_iff.mp (Binary64.trim_onesText n)
  have hspells := Binary64.spells_onesText n
  obtain ⟨y, hy, hrejected⟩ := h _ _ _ _ _ _ _ _ hline htext hspells
  have hzero : y = .zero false := by
    apply hy.zero
    rw [abs_abs]
    exact Binary64.onesDecimal_le n (by omega)
  have hentered : IsEntered (Utf8.encode (Binary64.onesText n))
      |(Binary64.onesDecimal n (kept (-655360))).value| := ⟨_, _, _, hline, htext, .kept hspells⟩
  obtain ⟨p, q, hq, hm, hdecides⟩ :=
    hentered.exists_decidesBy (γ := WordCycle) 100 true { words := [] }
  have htenth : 1 / 10 ≤ |(Binary64.onesDecimal n (kept (-655360))).value| := by
    have hexponent : kept (-655360) = -(n + 1 : Int) := by rw [Binary64.kept_onesText, hn]; rfl
    rw [hexponent]
    exact Binary64.tenth_le_onesDecimal n
  have hgreat : nearestRank 1 10 ≤ nearestRank p q := by
    apply Binary64.nearestRank_mono_of_le (by decide) hq
    rwa [Nat.cast_one, Nat.cast_ofNat, ← hm]
  have hsmall : nearestRank p q ≤ nearestRank 1 1000000 :=
    hdecides.rejected.mp (hrejected.mpr (hzero ▸ Binary64.isSmall_zero false))
  have hlt : nearestRank 1 1000000 < nearestRank 1 10 := by decide +kernel
  exact (hlt.trans_le hgreat).not_ge hsmall

end GuardedDivision
