import GuardedDivision.Decimal.Shortest
import GuardedDivision.Proofs.Numeral

namespace GuardedDivision

namespace Numeral

theorem value_zeros (k : Nat) (digits : List Char) :
    value (List.replicate k '0' ++ digits) = value digits := by
  have hzero : scan 10 digitValue (List.replicate k '0') = 0 := by
    induction k with
    | zero => rfl
    | succ k ih =>
      rw [List.replicate_succ', scan_append, ih]
      rfl
  simp only [value, valueIn_eq_scan, scan_append, hzero, Nat.zero_mul, Nat.zero_add]

theorem getLast?_ofNat (n : Nat) : (ofNat n).getLast? = some (Nat.digitChar (n % 10)) := by
  by_cases hn : n < 10
  · rw [ofNat, Nat.toDigits_of_lt_base hn, Nat.mod_eq_of_lt hn]
    rfl
  · rw [ofNat, Nat.toDigits_of_base_le (by decide) (by omega), List.getLast?_append]
    rfl

end Numeral

namespace Shortest.GridPoint

open Binary64 (quantumPlaces)
open Numeral (IsDigits)

theorem text_of_le {g : GridPoint} (h : quantumPlaces ≤ g.place) :
    g.text = Numeral.ofNat g.count ++ List.replicate (g.place - quantumPlaces) '0' := by
  rw [text, if_pos h]

structure Pointed (g : GridPoint) (whole fraction : List Char) : Prop where
  text_eq : g.text = whole ++ '.' :: fraction
  isDigits_whole : IsDigits whole
  isDigits_fraction : IsDigits fraction
  length_fraction : fraction.length = quantumPlaces - g.place
  value_eq : Numeral.value (whole ++ fraction) = g.count
  getLast?_fraction : fraction.getLast? = (Numeral.ofNat g.count).getLast?

theorem exists_pointed {g : GridPoint} (h : g.place < quantumPlaces) :
    ∃ whole fraction, g.Pointed whole fraction := by
  let digits := Numeral.ofNat g.count
  let places := quantumPlaces - g.place
  let padded := List.replicate (places + 1 - digits.length) '0' ++ digits
  have hdigits : IsDigits digits := Numeral.isDigits_ofNat g.count
  have hplaces : 0 < places := Nat.sub_pos_of_lt h
  have hlength : places + 1 ≤ padded.length := by
    simp only [padded, List.length_append, List.length_replicate]
    omega
  have hpadded : ∀ c ∈ padded, c.isDigit = true := by
    intro c hc
    obtain hc | hc := List.mem_append.mp hc
    · rw [(List.mem_replicate.mp hc).2]
      decide
    · exact hdigits.isDigit c hc
  have hlast : (padded.drop (padded.length - places)).getLast? = digits.getLast? := by
    rw [List.getLast?_drop, if_neg (by omega), List.getLast?_append,
      List.getLast?_eq_some_getLast hdigits.ne_nil]
    rfl
  refine ⟨padded.take (padded.length - places), padded.drop (padded.length - places), ?_⟩
  constructor
  case text_eq => rw [GridPoint.text, if_neg (Nat.not_le.mpr h)]
  case isDigits_whole =>
    refine ⟨?_, fun c hc => hpadded c (List.mem_of_mem_take hc)⟩
    rw [← List.length_pos_iff, List.length_take]
    omega
  case isDigits_fraction =>
    refine ⟨?_, fun c hc => hpadded c (List.mem_of_mem_drop hc)⟩
    rw [← List.length_pos_iff, List.length_drop]
    omega
  case length_fraction =>
    rw [List.length_drop]
    omega
  case value_eq =>
    rw [List.take_append_drop, Numeral.value_zeros]
    exact Numeral.value_ofNat g.count
  case getLast?_fraction => exact hlast

end Shortest.GridPoint

namespace Binary64

def alphabet : List Char :=
  ['0', '1', '2', '3', '4', '5', '6', '7', '8', '9', '.', '-', 'i', 'n', 'f', 'N', 'a']

theorem mem_alphabet_of_isDigit {c : Char} (h : c.isDigit = true) : c ∈ alphabet := by
  have hall : ∀ n ≤ '9'.toNat, (Char.ofNat n).isDigit = true → Char.ofNat n ∈ alphabet := by
    decide
  have hc := hall c.toNat (Char.isDigit_iff_toNat.mp h).2
  rw [Char.ofNat_toNat] at hc
  exact hc h

theorem subset_alphabet {digits : List Char} (h : Numeral.IsDigits digits) :
    digits ⊆ alphabet := fun c hc => mem_alphabet_of_isDigit (h.isDigit c hc)

theorem text_gridPoint_subset (g : Shortest.GridPoint) : g.text ⊆ alphabet := by
  by_cases h : quantumPlaces ≤ g.place
  · rw [Shortest.GridPoint.text_of_le h]
    apply List.append_subset.mpr
    refine ⟨subset_alphabet (Numeral.isDigits_ofNat g.count), ?_⟩
    intro c hc
    rw [(List.mem_replicate.mp hc).2]
    decide
  · obtain ⟨whole, fraction, hg⟩ := Shortest.GridPoint.exists_pointed (Nat.lt_of_not_le h)
    rw [hg.text_eq]
    apply List.append_subset.mpr
    refine ⟨subset_alphabet hg.isDigits_whole, ?_⟩
    exact List.cons_subset.mpr ⟨by decide, subset_alphabet hg.isDigits_fraction⟩

theorem text_subset (x : Binary64) : x.text ⊆ alphabet := by
  have hmagnitude (rank : Nat) : Shortest.magnitude rank ⊆ alphabet := by
    rw [Shortest.magnitude]
    split
    · decide
    · exact text_gridPoint_subset _
  cases x with
  | nan => decide
  | infinity negative => cases negative <;> decide
  | finite negative rank =>
    rw [text]
    split
    · exact List.cons_subset.mpr ⟨by decide, hmagnitude rank⟩
    · exact hmagnitude rank

end Binary64

end GuardedDivision
