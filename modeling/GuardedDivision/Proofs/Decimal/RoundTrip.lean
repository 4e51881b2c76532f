import GuardedDivision.Proofs.Console
import GuardedDivision.Proofs.Decimal.Literal
import GuardedDivision.Proofs.Decimal.Rounded
import GuardedDivision.Proofs.Decimal.Significant
import GuardedDivision.Proofs.Printable
import GuardedDivision.Source

namespace GuardedDivision

open Numeral (IsDigits)

namespace Literal

theorem decimal?_pointed (negative : Bool) {whole fraction : List Char} (hw : IsDigits whole)
    (hf : IsDigits fraction) : decimal? negative (whole ++ '.' :: fraction) =
      some { negative, digits := Numeral.value (whole ++ fraction),
             exponent := -(fraction.length : Int) } := by
  have hne : whole ++ fraction ≠ [] := List.append_ne_nil_of_left_ne_nil hw.ne_nil fraction
  have hread := decimal?_mantissa negative (.pointed hw.isDigit hf.isDigit hne) ends_nil
  rw [List.append_nil, exponent?, Option.map_some, Int.zero_sub] at hread
  exact hread

theorem ofText?_signed (negative : Bool) {c : Char} (hc : c.isDigit = true) (rest : List Char) :
    ofText? (if negative then '-' :: c :: rest else c :: rest) =
      (decimal? negative (c :: rest)).map .decimal := by
  have hunsigned := unsigned?_of_start negative (.inl hc) rest
  have hplus : c ≠ '+' := Numeral.ne_of_class hc rfl
  have hminus : c ≠ '-' := Numeral.ne_of_class hc rfl
  rw [← hunsigned]
  cases negative with
  | true => rfl
  | false =>
    rw [if_neg Bool.false_ne_true]
    unfold ofText?
    split
    · simp_all
    · simp_all
    · rfl

end Literal

namespace Decimal

open Binary64 (quantumPlaces nearestRank)

theorem toBinary64_places (negative : Bool) (digits places : Nat) :
    ({ negative, digits, exponent := -(places : Int) } : Decimal).toBinary64 =
      .nearest negative digits (Nat.pow 10 places) := by
  have hnumerator : (-(places : Int)).toNat = 0 := Int.toNat_of_nonpos (by omega)
  have hdenominator : (- -(places : Int)).toNat = places := by omega
  rw [toBinary64_eq_nearest, hnumerator, hdenominator]
  exact congrArg (Binary64.nearest negative · _) (Nat.mul_one digits)

end Decimal

namespace Shortest

open Binary64 (quantumPlaces nearestRank)

inductive IsMagnitude : List Char → Prop
  | whole {digits : List Char} (h : IsDigits digits) : IsMagnitude digits
  | pointed {whole fraction : List Char} (hw : IsDigits whole) (hf : IsDigits fraction)
      (hlast : fraction.getLast? ≠ some '0') : IsMagnitude (whole ++ '.' :: fraction)

theorem IsMagnitude.exists_cons {text : List Char} (h : IsMagnitude text) :
    ∃ c rest, text = c :: rest ∧ c.isDigit = true := by
  cases h with
  | whole h => exact h.exists_cons
  | pointed hw hf hlast =>
    obtain ⟨c, rest, rfl, hc⟩ := hw.exists_cons
    exact ⟨c, _, rfl, hc⟩

theorem IsMagnitude.not_mem {text : List Char} (h : IsMagnitude text)
    (hlast : text.getLast? = some '0') : '.' ∉ text := by
  cases h with
  | whole hdigits => exact hdigits.not_mem rfl
  | pointed hw hf hzero =>
    rw [List.getLast?_append_cons, List.getLast?_cons, List.getLast?_eq_some_getLast hf.ne_nil]
      at hlast
    exact absurd ((List.getLast?_eq_some_getLast hf.ne_nil).trans hlast) hzero

structure ReadsAs (negative : Bool) (text : List Char) (rank digits : Nat) : Prop where
  isMagnitude : IsMagnitude text
  exists_decimal : ∃ d, Literal.decimal? negative text = some d ∧
    d.toBinary64 = Binary64.ofRank negative rank ∧ Numeral.significant d.digits = digits

namespace GridPoint

variable {g : GridPoint} (hmod : g.count % 10 ≠ 0) (negative : Bool)
include hmod

theorem readsAs_of_lt (hplace : g.place < quantumPlaces) :
    ReadsAs negative g.text g.rank (Numeral.ofNat g.count).length := by
  obtain ⟨whole, fraction, hg⟩ := exists_pointed hplace
  constructor
  case isMagnitude =>
    rw [hg.text_eq]
    refine .pointed hg.isDigits_whole hg.isDigits_fraction fun hlast => ?_
    rw [hg.getLast?_fraction, Numeral.getLast?_ofNat] at hlast
    exact hmod (Numeral.eq_zero_of_digitChar (Nat.mod_lt _ (by decide)) (Option.some.inj hlast))
  case exists_decimal =>
    have hread := Literal.decimal?_pointed negative hg.isDigits_whole hg.isDigits_fraction
    rw [← hg.text_eq, hg.value_eq, hg.length_fraction] at hread
    refine ⟨_, hread, ?_, ?_⟩
    · have hsplit : Nat.pow 10 quantumPlaces =
          Nat.pow 10 (quantumPlaces - g.place) * Nat.pow 10 g.place := by
        rw [← pow_ten_add, Nat.sub_add_cancel hplace.le]
      rw [Decimal.toBinary64_places negative, Binary64.nearest, rank,
        hsplit, Binary64.nearestRank_mul _ (pow_ten_pos _) (pow_ten_pos _)]
    · exact Numeral.significant_eq_length hmod

theorem readsAs_of_le (hplace : quantumPlaces ≤ g.place) :
    ReadsAs negative g.text g.rank (Numeral.ofNat g.count).length := by
  have hcount : 0 < g.count := Nat.pos_of_ne_zero fun h => hmod (by rw [h])
  obtain ⟨count, place⟩ := g
  obtain ⟨places, rfl⟩ : ∃ places, place = quantumPlaces + places := Nat.exists_eq_add_of_le hplace
  have hdigits := Numeral.isDigits_ofNat (count * Nat.pow 10 places)
  rw [text_whole hcount, rank_whole]
  constructor
  case isMagnitude => exact .whole hdigits
  case exists_decimal =>
    refine ⟨_, Literal.decimal?_digits negative hdigits, ?_, ?_⟩
    · rw [Numeral.value_ofNat, Decimal.toBinary64_whole]
      rfl
    · rw [Numeral.value_ofNat]
      exact Numeral.significant_mul_pow hmod places

end GridPoint

/-- The text of a magnitude is read as its rank, with as few digits as can be. -/
theorem readsAs_magnitude (rank : Nat) (negative : Bool) :
    ∃ digits, ReadsAs negative (magnitude rank) rank digits ∧
      (rank = 0 ∧ digits = 0 ∨ rank ≠ 0 ∧ ∀ m up down,
        nearestRank (m * Nat.pow 10 up) (Nat.pow 10 down) = rank →
          digits ≤ (Numeral.ofNat m).length) := by
  by_cases hne : rank = 0
  · subst rank
    have hdigits : IsDigits ['0'] := Numeral.isDigits_ofNat 0
    have hsignificant : Numeral.significant (Numeral.value ['0']) = 0 := by decide
    rw [magnitude, if_pos rfl]
    exact ⟨0, ⟨.whole hdigits, _, Literal.decimal?_digits negative hdigits, rfl, hsignificant⟩,
      .inl ⟨rfl, rfl⟩⟩
  · have h := isCoarsest_point hne
    rw [magnitude, if_neg hne]
    generalize point rank = g at h ⊢
    refine ⟨(Numeral.ofNat g.count).length, ?_, .inr ⟨hne, fun m up down => h.length_le⟩⟩
    rw [← h.rank_eq]
    obtain hplace | hplace := Nat.lt_or_ge g.place quantumPlaces
    · exact GridPoint.readsAs_of_lt h.count_mod negative hplace
    · exact GridPoint.readsAs_of_le h.count_mod negative hplace

end Shortest

/-- The digits of a literal before the zeros at their end. The words have none. -/
def Literal.significant : Literal → Nat
  | .decimal d => Numeral.significant d.digits
  | _ => 0

namespace Binary64

/-- A text is read as a number, and no other one that is has fewer significant digits. -/
structure IsShortest (text : List Char) (x : Binary64) (own : Literal) : Prop where
  read : Literal.ofText? text = some own
  value : own.toBinary64 = x
  significant_le {other : List Char} {literal : Literal} :
    Literal.ofText? other = some literal → literal.toBinary64 = x →
      own.significant ≤ literal.significant

theorem le_significant {d : Decimal} {negative : Bool} {rank : Rank} {digits : Nat}
    (hne : rank.val ≠ 0) (h : d.toBinary64 = .finite negative rank)
    (hleast : ∀ m up down, nearestRank (m * Nat.pow 10 up) (Nat.pow 10 down) = rank.val →
      digits ≤ (Numeral.ofNat m).length) : digits ≤ Numeral.significant d.digits := by
  obtain ⟨up, down, hread⟩ := Decimal.nearestRank_of_toBinary64 h
  have hdigits : d.digits ≠ 0 := by
    intro hzero
    rw [hzero, Nat.zero_mul, nearestRank_zero (Shortest.pow_ten_pos down)] at hread
    exact hne hread.symm
  obtain ⟨m, k, hm, hlength⟩ := Numeral.exists_significant hdigits
  rw [hm, Nat.mul_assoc, ← Shortest.pow_ten_add] at hread
  rw [← hlength]
  exact hleast m (k + up) down hread

theorem exists_isShortest {x : Binary64} (hx : x ≠ .nan) : ∃ own, IsShortest x.text x own := by
  cases x with
  | nan => contradiction
  | infinity negative =>
    refine ⟨.infinity negative, ?_, rfl, fun _ _ => Nat.zero_le _⟩
    cases negative <;> rfl
  | finite negative rank =>
    obtain ⟨digits, ⟨hmagnitude, d, hread, hvalue, hdigits⟩, hleast⟩ :=
      Shortest.readsAs_magnitude rank.val negative
    obtain ⟨c, rest, htext, hc⟩ := hmagnitude.exists_cons
    have hsigned := Literal.ofText?_signed negative hc rest
    rw [← htext, hread, Option.map_some] at hsigned
    refine ⟨.decimal d, hsigned, ?_, fun {other literal} _ hliteral => ?_⟩
    · rw [Literal.toBinary64, hvalue, ofRank, dif_pos rank.isLt]
    · rw [Literal.significant, hdigits]
      obtain ⟨-, rfl⟩ | ⟨hne, hleast⟩ := hleast
      · exact Nat.zero_le _
      · cases literal with
        | nan => cases hliteral
        | infinity negative => cases hliteral
        | decimal other => exact le_significant hne hliteral hleast

def IsPlain (text : List Char) : Prop :=
  ∃ unsigned, (unsigned = "inf".toList ∨ Shortest.IsMagnitude unsigned) ∧
    (text = unsigned ∨ text = '-' :: unsigned)

theorem ne_nil_of_unsigned {unsigned : List Char}
    (h : unsigned = "inf".toList ∨ Shortest.IsMagnitude unsigned) : unsigned ≠ [] := by
  obtain rfl | hmagnitude := h
  · decide
  · obtain ⟨c, rest, rfl, -⟩ := hmagnitude.exists_cons
    exact List.cons_ne_nil c rest

theorem IsPlain.ne_nil {text : List Char} (h : IsPlain text) : text ≠ [] := by
  obtain ⟨unsigned, hunsigned, rfl | rfl⟩ := h
  · exact ne_nil_of_unsigned hunsigned
  · exact List.cons_ne_nil '-' unsigned

theorem IsPlain.not_suffix {text : List Char} (h : IsPlain text) : ¬['.', '0'] <:+ text := by
  obtain ⟨unsigned, hunsigned, htext⟩ := h
  rintro ⟨front, hfront⟩
  have hlast : text.getLast? = some '0' := by
    rw [← hfront, List.getLast?_append]
    rfl
  have hpoint : '.' ∈ text := by simp [← hfront]
  have hboth : unsigned.getLast? = some '0' ∧ '.' ∈ unsigned := by
    obtain rfl | rfl := htext
    · exact ⟨hlast, hpoint⟩
    · rw [← List.singleton_append,
        List.getLast?_append_of_ne_nil _ (ne_nil_of_unsigned hunsigned)] at hlast
      exact ⟨hlast, (List.mem_cons.mp hpoint).resolve_left (by decide)⟩
  obtain rfl | hmagnitude := hunsigned
  · exact absurd hboth.2 (by decide)
  · exact hmagnitude.not_mem hboth.1 hboth.2

theorem isPlain_text {x : Binary64} (hx : x ≠ .nan) : IsPlain x.text := by
  cases x with
  | nan => contradiction
  | infinity negative =>
    refine ⟨"inf".toList, .inl rfl, ?_⟩
    cases negative with
    | false => exact .inl rfl
    | true => exact .inr rfl
  | finite negative rank =>
    obtain ⟨digits, hread, -⟩ := Shortest.readsAs_magnitude rank.val negative
    refine ⟨Shortest.magnitude rank.val, .inr hread.isMagnitude, ?_⟩
    rw [text]
    split
    · exact .inr rfl
    · exact .inl rfl

theorem toBits_ofBits {bits : UInt64} (h : ofBits bits ≠ .nan) :
    (ofBits bits).toBits = bits := by
  have hlt : bits.toNat < 0x10000000000000000 := bits.toNat_lt
  have hzero : (0 : UInt64).toNat = 0 := rfl
  have htop : (0x8000000000000000 : UInt64).toNat = 0x8000000000000000 := rfl
  apply UInt64.toNat_inj.mp
  obtain ⟨negative, hsign⟩ : ∃ negative, decide (0x8000000000000000 ≤ bits.toNat) = negative :=
    ⟨_, rfl⟩
  simp only [ofBits, hsign] at h ⊢
  split at h
  · next hrank =>
    rw [dif_pos hrank]
    cases negative with
    | false =>
      have hbits := Nat.lt_of_not_le (of_decide_eq_false hsign)
      simp only [toBits, Bool.false_eq_true, if_false, UInt64.toNat_add, UInt64.toNat_ofNat']
      omega
    | true =>
      have hbits := of_decide_eq_true hsign
      simp only [toBits, if_true, UInt64.toNat_add, UInt64.toNat_ofNat']
      omega
  · next hrank =>
    rw [dif_neg hrank]
    split at h
    · next heq =>
      rw [if_pos heq]
      cases negative with
      | false =>
        have hbits := Nat.lt_of_not_le (of_decide_eq_false hsign)
        rw [Nat.mod_eq_of_lt hbits] at heq
        rw [heq]
        rfl
      | true =>
        have hbits := of_decide_eq_true hsign
        have hsum : bits.toNat = 0x8000000000000000 + rankCount := by omega
        rw [hsum]
        rfl
    · contradiction

end Binary64

namespace Console

theorem readLine_encode {α : Type} {ofText? : List Char → Option α} {c : Char}
    {rest tail : List Char} {value : α} (hread : ofText? (c :: rest) = some value)
    (h : ∀ d ∈ c :: rest, Blank.isBlank d = false) (htail : ∀ d ∈ tail, Blank.isBlank d = true) :
    readLine ofText? (Utf8.encode (c :: rest ++ tail)) = .ok value := by
  have hne : Utf8.encode (c :: rest ++ tail) ≠ [] :=
    Utf8.encode_ne_nil (List.cons_ne_nil c (rest ++ tail))
  have htrim := (Blank.isTrimmed_append (List.forall_mem_nil _) h htail).trim_eq
  rw [List.nil_append] at htrim
  rw [← htrim] at hread
  exact readLine_eq_ok hne hread

end Console

namespace Binary64

theorem isBlank_eq_false {c : Char} (h : c ∈ alphabet) : Blank.isBlank c = false := by
  have hall : alphabet.all (!Blank.isBlank ·) = true := by decide
  simpa using List.all_eq_true.mp hall c h

theorem ofText?_text {x : Binary64} (hx : x ≠ .nan) : ofText? x.text = some x := by
  obtain ⟨own, hown⟩ := exists_isShortest hx
  rw [ofText?, hown.read, Option.map_some, hown.value]

theorem readLine_text {x : Binary64} (hx : x ≠ .nan) (tail : List Char)
    (htail : ∀ d ∈ tail, Blank.isBlank d = true) :
    Console.readLine ofText? (Utf8.encode (x.text ++ tail)) = .ok x := by
  have hread := ofText?_text hx
  have hblank : ∀ d ∈ x.text, Blank.isBlank d = false := fun d hd =>
    isBlank_eq_false (text_subset x hd)
  obtain ⟨c, rest, htext⟩ := List.exists_cons_of_ne_nil (isPlain_text hx).ne_nil
  rw [htext] at hread hblank ⊢
  exact Console.readLine_encode hread hblank htail

variable {γ : Type} [WordSource γ]

/-- The text of a number is read as this number, has no exponent and no fraction that ends in a
zero, and no text with fewer significant digits is read as it. -/
theorem readFloat_text (bits : UInt64) (hnumber : ofBits bits ≠ .nan) (words : γ) (later : Bytes) :
    (ofBits bits).toBits = bits ∧
    Source.console.readFloat
        { unread := Utf8.encode (Denominator.float (ofBits bits)).text, words } =
      (.ok (ofBits bits), { unread := [], words }) ∧
    Source.console.readFloat
        { unread := Utf8.encode (Denominator.float (ofBits bits)).text ++ 0x0A :: later, words } =
      (.ok (ofBits bits), { unread := later, words }) ∧
    IsPlain (Denominator.float (ofBits bits)).text ∧
    'e' ∉ (Denominator.float (ofBits bits)).text ∧
    'E' ∉ (Denominator.float (ofBits bits)).text ∧
    ¬['.', '0'] <:+ (Denominator.float (ofBits bits)).text ∧
    ∃ own, IsShortest (Denominator.float (ofBits bits)).text (ofBits bits) own := by
  have hconsole (unread : Bytes) : Source.console.readFloat { unread, words } =
      (Console.readLine ofText? (Console.cutLine unread).1,
        { unread := (Console.cutLine unread).2, words }) := rfl
  have hexponent : 'e' ∉ alphabet ∧ 'E' ∉ alphabet := by decide
  refine ⟨toBits_ofBits hnumber, ?_, ?_, isPlain_text hnumber,
    fun he => hexponent.1 (text_subset _ he), fun he => hexponent.2 (text_subset _ he),
    (isPlain_text hnumber).not_suffix, exists_isShortest hnumber⟩ <;>
    generalize ofBits bits = x at hnumber ⊢
  · have hline := readLine_text hnumber [] nofun
    rw [List.append_nil] at hline
    rw [Denominator.text, hconsole,
      Console.cutLine_of_not_mem (printable_text x).newline_not_mem_encode, hline]
  · have hline := readLine_text hnumber ['\n'] (List.forall_mem_singleton.mpr rfl)
    rw [Utf8.encode_concat_newline] at hline
    rw [Denominator.text, hconsole,
      Console.cutLine_append (printable_text x).newline_not_mem_encode, hline]

theorem readFloat_text_least :
    ofBits 1 ≠ .nan ∧ (ofBits 1).text = "0.".toList ++ List.replicate 323 '0' ++ ['5'] ∧
    Source.console.readFloat (γ := WordCycle)
        { unread := Utf8.encode ("0.".toList ++ List.replicate 323 '0' ++ ['5']) ++ [0x0A],
          words := { words := [] } } =
      (.ok (ofBits 1), { unread := [], words := { words := [] } }) := by
  have hnumber : ofBits 1 ≠ .nan := by decide
  have htext : (ofBits 1).text = "0.".toList ++ List.replicate 323 '0' ++ ['5'] := by
    decide +kernel
  have hread := (readFloat_text 1 hnumber ({ words := [] } : WordCycle) []).2.2.1
  rw [Denominator.text, htext] at hread
  exact ⟨hnumber, htext, hread⟩

end Binary64

end GuardedDivision
