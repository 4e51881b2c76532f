import GuardedDivision.Proofs.Decimal.Grammar
import GuardedDivision.Proofs.Decimal.RoundTrip
import GuardedDivision.Proofs.Decimal.Rounded

namespace GuardedDivision

open Binary64 (IsNearest)
open Literal (Spells Spelling Mantissa kept keptSize)

namespace Decimal

/-- With no more than some tens of thousands of digits, what is kept of an exponent is enough. -/
theorem toBinary64_kept (negative : Bool) {whole fraction : List Char} (exponent : Int)
    (hdigits : ∀ c ∈ whole ++ fraction, c.isDigit = true)
    (h : exponent.natAbs < 655360 ∨ (whole ++ fraction).length ≤ 65200) :
    (ofParts negative whole fraction (kept exponent)).toBinary64 =
      (ofParts negative whole fraction exponent).toBinary64 := by
  by_cases hlt : exponent.natAbs < 655360
  · rw [Literal.kept_of_lt hlt]
  have hlength := h.resolve_left hlt
  rw [List.length_append] at hlength
  have hkept := (ofParts negative whole fraction (kept exponent)).isNearest_toBinary64
  have hexact := (ofParts negative whole fraction exponent).isNearest_toBinary64
  have hbound : Nat.ofDigitChars 10 (whole ++ fraction) 0 ≤ 10 ^ (whole ++ fraction).length :=
    (Numeral.ofDigitChars_lt hdigits).le
  obtain ⟨hgreat, hkeptGreat⟩ | ⟨hsmall, hkeptSmall⟩ := Literal.kept_of_le (Nat.le_of_not_lt hlt)
  · by_cases hzero : Nat.ofDigitChars 10 (whole ++ fraction) 0 = 0
    · exact (hkept.zero (abs_value_of_zero hzero)).trans
        (hexact.zero (abs_value_of_zero hzero)).symm
    · refine (hkept.infinite (le_abs_value hzero ?_)).trans
        (hexact.infinite (le_abs_value hzero ?_)).symm
      all_goals
        simp only [ofParts]
        omega
  · refine (hkept.zero (abs_value_le hbound ?_)).trans (hexact.zero (abs_value_le hbound ?_)).symm
    all_goals
      simp only [ofParts, List.length_append]
      omega

end Decimal

namespace Binary64

variable {γ : Type} [WordSource γ]

theorem ofText?_of_spells {text : List Char} {negative : Bool} {spelling : Spelling}
    (h : Spells text negative spelling) :
    ofText? text = some (spelling.literal negative).toBinary64 := by
  rw [ofText?, Literal.ofText?_eq_some_iff.mpr ⟨negative, spelling, h, rfl⟩, Option.map_some]

theorem ofText?_eq_none {text : List Char}
    (h : ¬∃ negative spelling, Spells text negative spelling) : ofText? text = none := by
  rw [ofText?, Option.map_eq_none_iff, Option.eq_none_iff_forall_ne_some]
  intro literal hliteral
  obtain ⟨negative, spelling, hspells, -⟩ := Literal.ofText?_eq_some_iff.mp hliteral
  exact h ⟨negative, spelling, hspells⟩

theorem readFloat_console (unread : Bytes) (words : γ) :
    (Source.console.readFloat { unread, words }).1 =
      Console.readLine ofText? (Console.cutLine unread).1 := rfl

section Line

variable {unread : Bytes} {line : List Char} {negative : Bool} {spelling : Spelling} (words : γ)
  (hne : unread ≠ []) (hline : (Console.cutLine unread).1 = Utf8.encode line)

include hne hline

theorem encode_ne_nil_of_line : Utf8.encode line ≠ [] := by
  rw [← hline]
  cases unread with
  | nil => contradiction
  | cons b rest => exact (Console.mem_lines (Console.lines_cons b rest ▸ List.mem_cons_self)).1

theorem readFloat_of_spells (h : Spells (Blank.trim line) negative spelling) :
    (Source.console.readFloat { unread, words }).1 =
      .ok (spelling.literal negative).toBinary64 := by
  rw [readFloat_console, hline]
  exact Console.readLine_eq_ok (encode_ne_nil_of_line hne hline) (ofText?_of_spells h)

theorem readFloat_of_not_spells
    (h : ¬∃ negative spelling, Spells (Blank.trim line) negative spelling) :
    (Source.console.readFloat { unread, words }).1 = .error (.notNumber (Blank.trim line)) := by
  rw [readFloat_console, hline]
  exact Console.readLine_eq_error (encode_ne_nil_of_line hne hline) (ofText?_eq_none h)

end Line

/-- Exactly the texts of the grammar are read, each as the number that its value rounds to, with the
exponent as far as it is kept. -/
theorem readFloat_line {unread : Bytes} {line : List Char} (words : γ) (hne : unread ≠ [])
    (hline : (Console.cutLine unread).1 = Utf8.encode line) :
    let text := Blank.trim line
    let result := (Source.console.readFloat { unread, words }).1
    ((∃ x, result = .ok x) ↔ ∃ negative spelling, Spells text negative spelling) ∧
    ((¬∃ negative spelling, Spells text negative spelling) → result = .error (.notNumber text)) ∧
    ∀ negative spelling, Spells text negative spelling →
      match spelling with
      | .nan => result = .ok .nan
      | .infinity => result = .ok (.infinity negative)
      | .decimal whole fraction exponent => ∃ x, result = .ok x ∧
        IsNearest negative (Decimal.ofParts negative whole fraction (kept exponent)).value x ∧
        (exponent.natAbs < 655360 ∨ text.length ≤ 65200 →
          IsNearest negative (Decimal.ofParts negative whole fraction exponent).value x) := by
  intro text result
  have hspelled {negative : Bool} {spelling : Spelling} (h : Spells text negative spelling) :
      result = .ok (spelling.literal negative).toBinary64 :=
    readFloat_of_spells words hne hline h
  have hunspelled (h : ¬∃ negative spelling, Spells text negative spelling) :
      result = .error (.notNumber text) := readFloat_of_not_spells words hne hline h
  refine ⟨⟨fun ⟨x, hx⟩ => ?_, fun ⟨negative, spelling, h⟩ => ⟨_, hspelled h⟩⟩, hunspelled,
    fun negative spelling h => ?_⟩
  · by_contra hnone
    exact nomatch hx.symm.trans (hunspelled hnone)
  · cases spelling with
    | nan | infinity => exact hspelled h
    | decimal whole fraction exponent =>
      obtain ⟨hdigits, hlength⟩ := h.digits
      have hkept := (Decimal.ofParts negative whole fraction (kept exponent)).isNearest_toBinary64
      refine ⟨_, hspelled h, hkept, fun hsmall => ?_⟩
      have hexact := (Decimal.ofParts negative whole fraction exponent).isNearest_toBinary64
      rw [← Decimal.toBinary64_kept negative exponent hdigits (hsmall.imp_right hlength.trans)]
        at hexact
      exact hexact

theorem readFloat_line_tenth :
    (Source.console.readFloat (γ := WordCycle)
      { unread := Utf8.encode "\u3000-.1e-0\t\n7".toList, words := { words := [] } }).1 =
        .ok (ofBits 0xBFB999999999999A) ∧
    IsNearest true (-(1 / 10)) (ofBits 0xBFB999999999999A) := by
  have hline : (Console.cutLine (Utf8.encode "\u3000-.1e-0\t\n7".toList)).1 =
      Utf8.encode "\u3000-.1e-0\t\n".toList := by
    decide +kernel
  have htext : Blank.trim "\u3000-.1e-0\t\n".toList = "-.1e-0".toList := by decide +kernel
  have hmantissa : Mantissa ".1".toList [] ['1'] :=
    @Mantissa.pointed [] ['1'] nofun (List.forall_mem_singleton.mpr rfl) (List.cons_ne_nil _ _)
  have hscale : Literal.Scales "e-0".toList 0 :=
    .scaled (.inl rfl) (.negative (Numeral.isDigits_ofNat 0))
  have hspells : Spells "-.1e-0".toList true (.decimal [] ['1'] 0) :=
    .negative (.decimal hmantissa hscale)
  obtain ⟨-, -, hread⟩ :=
    readFloat_line (γ := WordCycle) { words := [] } (by decide +kernel) hline
  rw [htext] at hread
  obtain ⟨x, hx, -, hexact⟩ := hread true _ hspells
  have hresult : (Source.console.readFloat (γ := WordCycle)
      { unread := Utf8.encode "\u3000-.1e-0\t\n7".toList, words := { words := [] } }).1 =
        .ok (ofBits 0xBFB999999999999A) := by
    decide +kernel
  obtain rfl := Except.ok.inj (hx.symm.trans hresult)
  have hvalue : (Decimal.ofParts true [] ['1'] 0).value = -(1 / 10) := by
    have hdigits : Nat.ofDigitChars 10 ['1'] 0 = 1 := by decide
    norm_num [Decimal.value, Decimal.ofParts, sign, hdigits]
  exact ⟨hresult, hvalue ▸ hexact (.inl (by decide))⟩

section Ones

variable (n : Nat)

def onesText : List Char := List.replicate (n + 1) '1' ++ "e-655360".toList

def onesDecimal (exponent : Int) : Decimal :=
  .ofParts false (List.replicate (n + 1) '1') [] exponent

theorem spells_onesText :
    Spells (onesText n) false (.decimal (List.replicate (n + 1) '1') [] (-655360)) := by
  have hdigits : Numeral.IsDigits (List.replicate (n + 1) '1') :=
    ⟨List.replicate_succ_ne_nil, fun c hc => (List.mem_replicate.mp hc).2 ▸ rfl⟩
  have hexponent : Numeral.Denotes "-655360".toList (-655360) :=
    .negative (Numeral.isDigits_ofNat 655360)
  exact .unsigned (.decimal (.whole hdigits) (.scaled (.inl rfl) hexponent))

theorem onesText_subset : onesText n ⊆ "1e-6530".toList := by
  intro c hc
  obtain hc | hc := List.mem_append.mp hc
  · rw [(List.mem_replicate.mp hc).2]
    decide
  · have hsubset : "e-655360".toList ⊆ "1e-6530".toList := by decide
    exact hsubset hc

theorem trim_onesText : Blank.trim (onesText n) = onesText n := by
  have hall : "1e-6530".toList.all (!Blank.isBlank ·) = true := by decide
  have hblank : ∀ d ∈ onesText n, Blank.isBlank d = false := fun d hd => by
    simpa using List.all_eq_true.mp hall d (onesText_subset n hd)
  exact (Blank.isTrimmed_self hblank).trim_eq

theorem cutLine_onesText :
    Console.cutLine (Utf8.encode (onesText n)) = (Utf8.encode (onesText n), []) := by
  have hprintable : Printable "1e-6530".toList := by decide
  exact Console.cutLine_of_not_mem
    (hprintable.of_subset (onesText_subset n)).newline_not_mem_encode

theorem tenth_le_onesDecimal : 1 / 10 ≤ |(onesDecimal n (-(n + 1 : Int))).value| := by
  have hones := Numeral.pow_le_ofDigitChars (List.replicate n '1')
  rw [List.length_replicate] at hones
  have hdigits : (10 : ℚ) ^ (n : ℤ) ≤ (onesDecimal n (-(n + 1 : Int))).digits := by
    rw [zpow_natCast, onesDecimal, Decimal.ofParts, List.append_nil, List.replicate_succ]
    exact_mod_cast hones
  have hexponent : (onesDecimal n (-(n + 1 : Int))).exponent = -(n + 1 : Int) := Int.sub_zero _
  rw [Decimal.abs_value, hexponent]
  calc (1 : ℚ) / 10 = 10 ^ (n : ℤ) * 10 ^ (-(n + 1 : ℤ)) := by
        rw [← zpow_add₀ (by norm_num), show (n : ℤ) + -(n + 1) = -1 by omega, zpow_neg_one, one_div]
    _ ≤ _ := mul_le_mul_of_nonneg_right hdigits (by positivity)

theorem onesDecimal_le {exponent : Int} (h : n + 325 ≤ -exponent) :
    |(onesDecimal n exponent).value| ≤ 1 / 2 ^ 1075 := by
  have hdigits : (onesDecimal n exponent).digits ≤ 10 ^ (n + 1) := by
    have hones : ∀ c ∈ List.replicate (n + 1) '1', c.isDigit = true :=
      fun c hc => (List.mem_replicate.mp hc).2 ▸ rfl
    have hlt := Numeral.ofDigitChars_lt hones
    rw [List.length_replicate] at hlt
    rw [onesDecimal, Decimal.ofParts, List.append_nil]
    exact hlt.le
  refine Decimal.abs_value_le hdigits ?_
  have hexponent : (onesDecimal n exponent).exponent = exponent := Int.sub_zero _
  rw [hexponent]
  omega

end Ones

theorem kept_onesText : kept (-655360) = -65536 := by
  have hsize : keptSize 655360 = 65536 := by
    rw [keptSize, if_neg (by decide)]
    exact Literal.keptSize_of_lt (by decide)
  exact congrArg (fun m : Nat => -(m : Int)) hsize

/-- Not every decimal is read as the number that its exact value rounds to: of an exponent that is
too long a tenth is kept. -/
theorem exponent_not_kept : ¬∀ (unread : Bytes) (line whole fraction : List Char)
    (negative : Bool) (exponent : Int),
    unread ≠ [] → (Console.cutLine unread).1 = Utf8.encode line →
    Spells (Blank.trim line) negative (.decimal whole fraction exponent) →
      ∃ x, (Source.console.readFloat (γ := WordCycle) { unread, words := { words := [] } }).1 =
          .ok x ∧
        IsNearest negative (Decimal.ofParts negative whole fraction exponent).value x := by
  intro h
  -- the number of ones gets a name, so that no step writes them out
  obtain ⟨n, hn⟩ : ∃ n, n = 65535 := ⟨_, rfl⟩
  have hne : Utf8.encode (onesText n) ≠ [] :=
    Utf8.encode_ne_nil (List.append_ne_nil_of_right_ne_nil _ (by decide))
  have hline := congrArg Prod.fst (cutLine_onesText n)
  have hspells : Spells (Blank.trim (onesText n)) false
      (.decimal (List.replicate (n + 1) '1') [] (-655360)) :=
    (trim_onesText n).symm ▸ spells_onesText n
  obtain ⟨x, hx, hexact⟩ := h _ _ _ _ _ _ hne hline hspells
  have hzero : x = .zero false := hexact.zero (onesDecimal_le n (by omega))
  have hkept := readFloat_of_spells (γ := WordCycle) { words := [] } hne hline hspells
  have hread : (onesDecimal n (-(n + 1 : Int))).toBinary64 = .zero false := by
    have hexponent : -(n + 1 : Int) = kept (-655360) := by rw [kept_onesText, hn]; rfl
    rw [hexponent, ← hzero]
    exact Except.ok.inj (hkept.symm.trans hx)
  have hsmall := (tenth_le_onesDecimal n).trans (Decimal.abs_value_le_of_zero hread)
  have hpow : (2 : ℚ) ^ 4 ≤ 2 ^ 1075 := pow_le_pow_right₀ one_le_two (by decide)
  have hlarge : 1 / 2 ^ 1075 ≤ 1 / (2 : ℚ) ^ 4 := one_div_le_one_div_of_le (by positivity) hpow
  exact absurd (hsmall.trans hlarge) (by norm_num)

end Binary64

end GuardedDivision
