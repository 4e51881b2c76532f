import GuardedDivision.Decimal.Literal
import GuardedDivision.Proofs.Binary64.Whole
import GuardedDivision.Proofs.Numeral
import Mathlib.Data.List.TakeWhile

namespace GuardedDivision

open Numeral (IsDigits)

theorem toLower_of_isDigit {c : Char} (h : c.isDigit = true) : c.toLower = c := by
  have hn := Char.isDigit_iff_toNat.mp h
  unfold Char.toLower
  rw [dif_neg]
  rintro ⟨hA, -⟩
  have hle : 'A'.toNat ≤ c.toNat := hA
  have h9 : '9'.toNat < 'A'.toNat := by decide
  omega

namespace Literal

theorem unsigned?_of_start (negative : Bool) {c : Char} (hc : c.isDigit = true ∨ c = '.')
    (rest : List Char) :
    unsigned? negative (c :: rest) = (decimal? negative (c :: rest)).map .decimal := by
  have hlower : c.toLower = c := by
    obtain h | rfl := hc
    · exact toLower_of_isDigit h
    · rfl
  have hne {first : Char} (hdigit : first.isDigit = false) (hpoint : first ≠ '.')
      (word : List Char) : (c :: rest).map Char.toLower ≠ first :: word := by
    intro he
    rw [List.map_cons, hlower] at he
    obtain rfl := (List.cons.inj he).1
    obtain h | h := hc
    · exact Numeral.ne_of_class h hdigit rfl
    · exact hpoint h
  have hinf : ¬((c :: rest).map Char.toLower = "inf".toList ∨
      (c :: rest).map Char.toLower = "infinity".toList) :=
    not_or.mpr ⟨hne (by decide) (by decide) _, hne (by decide) (by decide) _⟩
  have hnan : ¬(c :: rest).map Char.toLower = "nan".toList := hne (by decide) (by decide) _
  simp only [unsigned?, if_neg hinf, if_neg hnan]

inductive Mantissa : List Char → List Char → List Char → Prop
  | whole {whole : List Char} : IsDigits whole → Mantissa whole whole []
  | pointed {whole fraction : List Char} : (∀ c ∈ whole, c.isDigit = true) →
    (∀ c ∈ fraction, c.isDigit = true) → whole ++ fraction ≠ [] →
    Mantissa (whole ++ '.' :: fraction) whole fraction

theorem Mantissa.isDigit {mantissa whole fraction : List Char}
    (h : Mantissa mantissa whole fraction) : ∀ c ∈ whole ++ fraction, c.isDigit = true := by
  cases h with
  | whole hw =>
    rw [List.append_nil]
    exact hw.isDigit
  | pointed hw hf => exact List.forall_mem_append.mpr ⟨hw, hf⟩

theorem Mantissa.length_le {mantissa whole fraction : List Char}
    (h : Mantissa mantissa whole fraction) : (whole ++ fraction).length ≤ mantissa.length := by
  cases h with
  | whole => rw [List.append_nil]
  | pointed =>
    simp only [List.length_append, List.length_cons]
    omega

theorem Mantissa.exists_cons {mantissa whole fraction : List Char}
    (h : Mantissa mantissa whole fraction) :
    ∃ c rest, mantissa = c :: rest ∧ (c.isDigit = true ∨ c = '.') := by
  cases h with
  | whole hw =>
    obtain ⟨c, rest, rfl, hc⟩ := hw.exists_cons
    exact ⟨c, rest, rfl, .inl hc⟩
  | pointed hw hf hne =>
    cases whole with
    | nil => exact ⟨'.', fraction, rfl, .inr rfl⟩
    | cons c rest => exact ⟨c, rest ++ '.' :: fraction, rfl, .inl (hw c List.mem_cons_self)⟩

def Ends (rest : List Char) : Prop := ∀ c ∈ rest.head?, c.isDigit = false ∧ c ≠ '.'

theorem takeWhile_digits {digits rest : List Char} (hd : ∀ c ∈ digits, c.isDigit = true)
    (hr : ∀ c ∈ rest.head?, c.isDigit = false) :
    (digits ++ rest).takeWhile Char.isDigit = digits ∧
      (digits ++ rest).dropWhile Char.isDigit = rest := by
  rw [List.takeWhile_append_of_pos hd, List.dropWhile_append_of_pos hd]
  cases rest with
  | nil => exact ⟨List.append_nil digits, rfl⟩
  | cons c rest =>
    have hc : ¬c.isDigit = true := by simp [hr c rfl]
    rw [List.takeWhile_cons_of_neg hc, List.dropWhile_cons_of_neg hc, List.append_nil]
    exact ⟨rfl, rfl⟩

theorem decimal?_mantissa (negative : Bool) {mantissa whole fraction rest : List Char}
    (h : Mantissa mantissa whole fraction) (hrest : Ends rest) :
    decimal? negative (mantissa ++ rest) = (exponent? rest).map fun e =>
      { negative, digits := Numeral.value (whole ++ fraction),
        exponent := e - fraction.length } := by
  have hdigit : ∀ c ∈ rest.head?, c.isDigit = false := fun c hc => (hrest c hc).1
  cases h with
  | whole hw =>
    obtain ⟨htake, hdrop⟩ := takeWhile_digits hw.isDigit hdigit
    simp only [decimal?, htake, hdrop]
    split
    · next later heq =>
      exact absurd rfl (hrest '.' rfl).2
    · simp [hw.ne_nil]
  | pointed hw hf hne =>
    have hpoint : ∀ c ∈ ('.' :: (fraction ++ rest)).head?, c.isDigit = false := by simp
    obtain ⟨htake, hdrop⟩ := takeWhile_digits hw hpoint
    obtain ⟨htake', hdrop'⟩ := takeWhile_digits hf hdigit
    simp only [decimal?, List.append_assoc, List.cons_append, htake, hdrop, htake', hdrop',
      if_neg hne]

theorem ends_nil : Ends [] := nofun

theorem decimal?_digits (negative : Bool) {digits : List Char} (h : IsDigits digits) :
    decimal? negative digits =
      some { negative, digits := Numeral.value digits, exponent := 0 } := by
  have hread := decimal?_mantissa negative (.whole h) ends_nil
  rw [List.append_nil, exponent?, Option.map_some] at hread
  exact hread

theorem unsigned?_digits (negative : Bool) {digits : List Char} (h : IsDigits digits) :
    unsigned? negative digits =
      some (.decimal { negative, digits := Numeral.value digits, exponent := 0 }) := by
  obtain ⟨c, rest, rfl, hc⟩ := h.exists_cons
  rw [unsigned?_of_start negative (.inl hc), decimal?_digits negative h, Option.map_some]

end Literal

namespace Decimal

theorem toBinary64_whole (negative : Bool) (digits : Nat) :
    ({ negative, digits, exponent := 0 } : Decimal).toBinary64 =
      .nearest negative digits 1 := by
  unfold toBinary64
  split
  · next e he =>
    obtain rfl : e = 0 := (Int.ofNat.inj he).symm
    split
    · next h =>
      obtain rfl : digits = 0 := h
      exact (Binary64.nearest_zero negative).symm
    · rw [if_neg (by decide), Nat.pow_eq, Nat.pow_zero, Nat.mul_one]
  · contradiction

end Decimal

namespace Binary64

theorem ofText?_of_int? {text : List Char} {n : Int} (h : Numeral.int? text = some n) :
    ∃ negative : Bool, n = (if negative then -(n.natAbs : Int) else n.natAbs) ∧
      ofText? text = some (nearest negative n.natAbs 1) := by
  obtain ⟨negative, digits, hd, hn, htext⟩ := Numeral.int?_eq_some h
  have habs : n.natAbs = Numeral.value digits := by
    subst hn
    cases negative <;> simp
  have hliteral : Literal.ofText? text =
      some (.decimal { negative, digits := Numeral.value digits, exponent := 0 }) := by
    obtain rfl | ⟨rfl, rfl⟩ := htext
    · cases negative with
      | false => exact Literal.unsigned?_digits false hd
      | true => exact Literal.unsigned?_digits true hd
    · obtain ⟨c, rest, rfl, hc⟩ := hd.exists_cons
      have hplus : c ≠ '+' := Numeral.ne_of_class hc rfl
      have hminus : c ≠ '-' := Numeral.ne_of_class hc rfl
      unfold Literal.ofText?
      split
      · simp_all
      · simp_all
      · exact Literal.unsigned?_digits false hd
  refine ⟨negative, by rw [habs]; exact hn, ?_⟩
  rw [ofText?, hliteral, habs, Option.map_some, Literal.toBinary64, Decimal.toBinary64_whole]

end Binary64

end GuardedDivision
