import GuardedDivision.Proofs.Decimal.Literal
import Mathlib.Data.List.Induction

namespace GuardedDivision

open Numeral (IsDigits)

namespace Numeral

theorem digitValue_lt {c : Char} (h : c.isDigit = true) : digitValue c < 10 := by
  have hn := Char.isDigit_iff_toNat.mp h
  have h0 : '0'.toNat = 48 := rfl
  have h9 : '9'.toNat = 57 := rfl
  rw [digitValue]
  omega

theorem ofDigitChars_concat (digits : List Char) (c : Char) :
    Nat.ofDigitChars 10 (digits ++ [c]) 0 = 10 * Nat.ofDigitChars 10 digits 0 + digitValue c :=
  List.foldl_append

theorem ofDigitChars_lt {digits : List Char} (h : ∀ c ∈ digits, c.isDigit = true) :
    Nat.ofDigitChars 10 digits 0 < Nat.pow 10 digits.length := by
  induction digits using List.reverseRecOn with
  | nil => exact Nat.one_pos
  | append_singleton digits c ih =>
    have hdigits := ih fun d hd => h d (List.mem_append_left _ hd)
    have hc := digitValue_lt (h c (List.mem_append_right _ List.mem_cons_self))
    have hpow : Nat.pow 10 (digits.length + 1) = Nat.pow 10 digits.length * 10 := rfl
    rw [ofDigitChars_concat, List.length_append, List.length_singleton, hpow]
    omega

theorem pow_le_ofDigitChars (digits : List Char) :
    Nat.pow 10 digits.length ≤ Nat.ofDigitChars 10 ('1' :: digits) 0 := by
  induction digits using List.reverseRecOn with
  | nil => decide
  | append_singleton digits c ih =>
    have hpow : Nat.pow 10 (digits.length + 1) = Nat.pow 10 digits.length * 10 := rfl
    rw [← List.cons_append, ofDigitChars_concat, List.length_append, List.length_singleton, hpow]
    omega

end Numeral

def Decimal.ofParts (negative : Bool) (whole fraction : List Char) (exponent : Int) : Decimal where
  negative
  digits := Nat.ofDigitChars 10 (whole ++ fraction) 0
  exponent := exponent - fraction.length

namespace Literal

inductive Scales : List Char → Int → Prop
  | unscaled : Scales [] 0
  | scaled {e : Char} {text : List Char} {n : Int} : e = 'e' ∨ e = 'E' → Numeral.Denotes text n →
    Scales (e :: text) n

inductive Spelling where
  | nan
  | infinity
  | decimal (whole fraction : List Char) (exponent : Int)

inductive SpellsUnsigned : List Char → Spelling → Prop
  | nan {word : List Char} : word.map Char.toLower = "nan".toList → SpellsUnsigned word .nan
  | infinity {word : List Char} :
    word.map Char.toLower = "inf".toList ∨ word.map Char.toLower = "infinity".toList →
    SpellsUnsigned word .infinity
  | decimal {mantissa scale whole fraction : List Char} {exponent : Int} :
    Mantissa mantissa whole fraction → Scales scale exponent →
    SpellsUnsigned (mantissa ++ scale) (.decimal whole fraction exponent)

/-- The texts of floating-point numbers, after at most one sign. -/
inductive Spells : List Char → Bool → Spelling → Prop
  | unsigned {text : List Char} {spelling : Spelling} :
    SpellsUnsigned text spelling → Spells text false spelling
  | positive {text : List Char} {spelling : Spelling} :
    SpellsUnsigned text spelling → Spells ('+' :: text) false spelling
  | negative {text : List Char} {spelling : Spelling} :
    SpellsUnsigned text spelling → Spells ('-' :: text) true spelling

/-- What is kept of the size of an exponent: last digits are left out until it is small enough. -/
def keptSize (n : Nat) : Nat := if n < 655360 then n else keptSize (n / 10)

def kept : Int → Int
  | .ofNat n => keptSize n
  | .negSucc n => -keptSize (n + 1)

def Spelling.literal (negative : Bool) : Spelling → Literal
  | .nan => .nan
  | .infinity => .infinity negative
  | .decimal whole fraction exponent => .decimal (.ofParts negative whole fraction (kept exponent))

theorem keptSize_of_lt {n : Nat} (h : n < 655360) : keptSize n = n := by
  rw [keptSize, if_pos h]

theorem le_keptSize {n : Nat} (h : 655360 ≤ n) : 65536 ≤ keptSize n := by
  fun_induction keptSize n with
  | case1 n hlt => omega
  | case2 n hge ih =>
    by_cases hlow : n / 10 < 655360
    · rw [keptSize_of_lt hlow]
      omega
    · exact ih (by omega)

theorem exponentSize_eq {digits : List Char} (h : ∀ c ∈ digits, c.isDigit = true) :
    exponentSize digits = keptSize (Nat.ofDigitChars 10 digits 0) := by
  induction digits using List.reverseRecOn with
  | nil => exact (keptSize_of_lt (by decide)).symm
  | append_singleton digits c ih =>
    have hdigits := ih fun d hd => h d (List.mem_append_left _ hd)
    have hc := Numeral.digitValue_lt (h c (List.mem_append_right _ List.mem_cons_self))
    have hsize : exponentSize (digits ++ [c]) =
        if exponentSize digits < 65536 then 10 * exponentSize digits + Numeral.digitValue c
        else exponentSize digits := List.foldl_append
    rw [hsize, Numeral.ofDigitChars_concat, hdigits]
    generalize Nat.ofDigitChars 10 digits 0 = n
    obtain hn | hn := Nat.lt_or_ge n 655360
    · rw [keptSize_of_lt hn]
      split
      · rw [keptSize_of_lt (by omega)]
      · rw [keptSize, if_neg (by omega), Nat.mul_add_div (by decide), Nat.div_eq_of_lt hc,
          Nat.add_zero, keptSize_of_lt hn]
    · have hkept := le_keptSize hn
      rw [if_neg (by omega), keptSize.eq_def (10 * n + _), if_neg (by omega),
        Nat.mul_add_div (by decide), Nat.div_eq_of_lt hc, Nat.add_zero]

theorem exponentSize?_eq_some_iff {digits : List Char} {n : Nat} :
    exponentSize? digits = some n ↔
      IsDigits digits ∧ n = keptSize (Nat.ofDigitChars 10 digits 0) := by
  constructor
  · intro h
    unfold exponentSize? at h
    split at h
    · next hd =>
      have hall := List.all_eq_true.mp hd.2
      obtain rfl := Option.some.inj h
      exact ⟨⟨hd.1, hall⟩, exponentSize_eq hall⟩
    · contradiction
  · rintro ⟨hd, rfl⟩
    have hall : digits.all Char.isDigit = true := List.all_eq_true.mpr hd.isDigit
    rw [exponentSize?, if_pos ⟨hd.ne_nil, hall⟩, exponentSize_eq hd.isDigit]

theorem kept_of_lt {exponent : Int} (h : exponent.natAbs < 655360) : kept exponent = exponent := by
  cases exponent with
  | ofNat n => exact congrArg Int.ofNat (keptSize_of_lt h)
  | negSucc n => exact congrArg (fun m : Nat => -(m : Int)) (keptSize_of_lt h)

theorem kept_of_le {exponent : Int} (h : 655360 ≤ exponent.natAbs) :
    655360 ≤ exponent ∧ 65536 ≤ kept exponent ∨ exponent ≤ -655360 ∧ kept exponent ≤ -65536 := by
  cases exponent with
  | ofNat n =>
    have hkept := le_keptSize (show 655360 ≤ n from h)
    exact .inl ⟨Int.ofNat_le.mpr h, Int.ofNat_le.mpr hkept⟩
  | negSucc n =>
    have hkept := le_keptSize (show 655360 ≤ n + 1 from h)
    exact .inr ⟨Int.neg_le_neg (Int.ofNat_le.mpr h), Int.neg_le_neg (Int.ofNat_le.mpr hkept)⟩

theorem kept_zero : kept 0 = 0 := congrArg Int.ofNat (keptSize_of_lt (by decide))

theorem kept_neg (n : Nat) : kept (-(n : Int)) = -keptSize n := by
  cases n with
  | zero => rw [keptSize_of_lt (by decide)]; exact kept_zero
  | succ n => rfl

theorem exponent?_of_scales {text : List Char} {n : Int} (h : Scales text n) :
    exponent? text = some (kept n) := by
  cases h with
  | unscaled => rw [kept_zero]; rfl
  | scaled he hn =>
    unfold exponent?
    simp only [if_pos he]
    cases hn with
    | unsigned hd =>
      obtain ⟨c, rest, rfl, hc⟩ := hd.exists_cons
      have hplus : c ≠ '+' := Numeral.ne_of_class hc rfl
      have hminus : c ≠ '-' := Numeral.ne_of_class hc rfl
      split
      · simp_all
      · simp_all
      · rw [exponentSize?_eq_some_iff.mpr ⟨hd, rfl⟩]
        rfl
    | positive hd =>
      exact congrArg (Option.map Int.ofNat) (exponentSize?_eq_some_iff.mpr ⟨hd, rfl⟩)
    | negative hd =>
      rw [kept_neg]
      exact congrArg (Option.map fun n : Nat => -(n : Int))
        (exponentSize?_eq_some_iff.mpr ⟨hd, rfl⟩)

theorem exists_scales {text : List Char} {n : Int} (h : exponent? text = some n) :
    ∃ exact, Scales text exact ∧ n = kept exact := by
  unfold exponent? at h
  split at h
  · exact ⟨0, .unscaled, (Option.some.inj h).symm.trans kept_zero.symm⟩
  · split at h
    · next he =>
      split at h
      all_goals
        obtain ⟨m, hm, rfl⟩ := Option.map_eq_some_iff.mp h
        obtain ⟨hd, rfl⟩ := exponentSize?_eq_some_iff.mp hm
      · exact ⟨_, .scaled he (.positive hd), rfl⟩
      · exact ⟨_, .scaled he (.negative hd), (kept_neg _).symm⟩
      · exact ⟨_, .scaled he (.unsigned hd), rfl⟩
    · contradiction

theorem Scales.ends {text : List Char} {n : Int} (h : Scales text n) : Ends text := by
  cases h with
  | unscaled => exact nofun
  | scaled he hn =>
    rintro c hc
    obtain rfl := Option.some.inj hc
    obtain rfl | rfl := he <;> decide

theorem exists_mantissa {negative : Bool} {text : List Char} {d : Decimal}
    (h : decimal? negative text = some d) : ∃ mantissa rest whole fraction e,
      text = mantissa ++ rest ∧ Mantissa mantissa whole fraction ∧ exponent? rest = some e ∧
      d = { negative, digits := Numeral.value (whole ++ fraction),
            exponent := e - fraction.length } := by
  have hdigits (l : List Char) : ∀ c ∈ l.takeWhile Char.isDigit, c.isDigit = true :=
    fun c => List.mem_takeWhile_imp
  have hcut (l : List Char) : l.takeWhile Char.isDigit ++ l.dropWhile Char.isDigit = l :=
    List.takeWhile_append_dropWhile
  have hwhole := hdigits text
  rw [← hcut text]
  unfold decimal? at h
  generalize text.takeWhile Char.isDigit = whole at h hwhole ⊢
  generalize text.dropWhile Char.isDigit = rest at h ⊢
  dsimp only at h
  split at h
  · next later =>
    dsimp only at h
    split at h
    · contradiction
    · next hne =>
      obtain ⟨e, he, rfl⟩ := Option.map_eq_some_iff.mp h
      refine ⟨_, _, whole, _, e, ?_, .pointed hwhole (hdigits later) hne, he, rfl⟩
      rw [List.append_assoc, List.cons_append, hcut]
  · dsimp only at h
    rw [List.append_nil] at h
    split at h
    · contradiction
    · next hne =>
      obtain ⟨e, he, rfl⟩ := Option.map_eq_some_iff.mp h
      refine ⟨whole, rest, whole, [], e, rfl, .whole ⟨hne, hwhole⟩, he, ?_⟩
      rw [List.append_nil]

theorem ofParts_eq (negative : Bool) (whole fraction : List Char) (exponent : Int) :
    Decimal.ofParts negative whole fraction exponent =
      { negative, digits := Numeral.value (whole ++ fraction),
        exponent := exponent - fraction.length } := by
  rw [Decimal.ofParts, Numeral.value_eq_ofDigitChars]

theorem unsigned?_of_spells (negative : Bool) {text : List Char} {spelling : Spelling}
    (h : SpellsUnsigned text spelling) :
    unsigned? negative text = some (spelling.literal negative) := by
  cases h with
  | nan hword =>
    have hinf : ¬("nan".toList = "inf".toList ∨ "nan".toList = "infinity".toList) := by decide
    rw [unsigned?, hword, if_neg hinf, if_pos rfl]
    rfl
  | infinity hword => exact if_pos hword
  | decimal hmantissa hscale =>
    obtain ⟨c, rest, rfl, hc⟩ := hmantissa.exists_cons
    rw [List.cons_append, unsigned?_of_start negative hc, ← List.cons_append,
      decimal?_mantissa negative hmantissa hscale.ends, exponent?_of_scales hscale,
      Spelling.literal, ofParts_eq]
    rfl

theorem exists_spelling {negative : Bool} {text : List Char} {literal : Literal}
    (h : unsigned? negative text = some literal) :
    ∃ spelling, SpellsUnsigned text spelling ∧ literal = spelling.literal negative := by
  rw [unsigned?] at h
  split_ifs at h with hinf hnan
  · exact ⟨.infinity, .infinity hinf, (Option.some.inj h).symm⟩
  · exact ⟨.nan, .nan hnan, (Option.some.inj h).symm⟩
  · obtain ⟨d, hd, rfl⟩ := Option.map_eq_some_iff.mp h
    obtain ⟨mantissa, rest, whole, fraction, e, rfl, hmantissa, he, rfl⟩ := exists_mantissa hd
    obtain ⟨exact, hscale, rfl⟩ := exists_scales he
    refine ⟨.decimal whole fraction exact, .decimal hmantissa hscale, ?_⟩
    rw [Spelling.literal, ofParts_eq]

theorem SpellsUnsigned.ne_cons {text : List Char} {spelling : Spelling}
    (h : SpellsUnsigned text spelling) {c : Char} (hc : c = '+' ∨ c = '-') (rest : List Char) :
    text ≠ c :: rest := by
  rintro rfl
  have hletter : c.toLower ≠ 'n' ∧ c.toLower ≠ 'i' ∧ c.isDigit = false ∧ c ≠ '.' := by
    obtain rfl | rfl := hc <;> decide
  obtain ⟨hn, hi, hdigit, hpoint⟩ := hletter
  generalize htext : c :: rest = text at h
  cases h with
  | nan hword =>
    rw [← htext] at hword
    exact hn (List.cons.inj hword).1
  | infinity hword =>
    rw [← htext] at hword
    obtain hword | hword := hword <;> exact hi (List.cons.inj hword).1
  | decimal hmantissa hscale =>
    obtain ⟨d, later, rfl, hd⟩ := hmantissa.exists_cons
    obtain rfl := (List.cons.inj htext).1
    obtain hd | hd := hd
    · rw [hdigit] at hd
      contradiction
    · exact hpoint hd

theorem Spells.digits {text whole fraction : List Char} {negative : Bool} {exponent : Int}
    (h : Spells text negative (.decimal whole fraction exponent)) :
    (∀ c ∈ whole ++ fraction, c.isDigit = true) ∧ (whole ++ fraction).length ≤ text.length := by
  have hunsigned {unsigned : List Char}
      (h : SpellsUnsigned unsigned (.decimal whole fraction exponent)) :
      (∀ c ∈ whole ++ fraction, c.isDigit = true) ∧
        (whole ++ fraction).length ≤ unsigned.length := by
    cases h with
    | decimal hmantissa hscale =>
      refine ⟨hmantissa.isDigit, hmantissa.length_le.trans ?_⟩
      rw [List.length_append]
      exact Nat.le_add_right _ _
  cases h with
  | unsigned h => exact hunsigned h
  | positive h | negative h =>
    obtain ⟨hdigits, hlength⟩ := hunsigned h
    exact ⟨hdigits, Nat.le_succ_of_le hlength⟩

/-- Exactly the texts of the grammar are read, each as the number that it spells. -/
theorem ofText?_eq_some_iff {text : List Char} {literal : Literal} :
    ofText? text = some literal ↔
      ∃ negative spelling, Spells text negative spelling ∧ literal = spelling.literal negative := by
  constructor
  · intro h
    unfold ofText? at h
    split at h
    all_goals obtain ⟨spelling, hspells, hliteral⟩ := exists_spelling h
    · exact ⟨false, spelling, .positive hspells, hliteral⟩
    · exact ⟨true, spelling, .negative hspells, hliteral⟩
    · exact ⟨false, spelling, .unsigned hspells, hliteral⟩
  · rintro ⟨negative, spelling, hspells, rfl⟩
    cases hspells with
    | unsigned h =>
      unfold ofText?
      split
      · exact absurd rfl (h.ne_cons (.inl rfl) _)
      · exact absurd rfl (h.ne_cons (.inr rfl) _)
      · exact unsigned?_of_spells false h
    | positive h => exact unsigned?_of_spells false h
    | negative h => exact unsigned?_of_spells true h

end Literal

end GuardedDivision
