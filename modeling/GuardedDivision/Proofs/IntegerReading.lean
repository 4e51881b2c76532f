import GuardedDivision.Proofs.Console
import GuardedDivision.Proofs.Numeral

namespace GuardedDivision

namespace Numeral

theorem isBlank_of_isDigit {c : Char} (h : c.isDigit = true) : Blank.isBlank c = false := by
  have hn := Char.isDigit_iff_toNat.mp h
  have h0 : '0'.toNat = 48 := rfl
  have h9 : '9'.toNat = 57 := rfl
  rw [h0, h9] at hn
  simp only [Blank.isBlank, CharRanges.contains, Blank.whiteSpace, List.any_cons, List.any_nil,
    Bool.or_false, Bool.or_eq_false_iff, Bool.and_eq_false_iff, decide_eq_false_iff_not]
  omega

theorem isBlank_of_mem_ofInt {n : Int} {c : Char} (h : c ∈ ofInt n) : Blank.isBlank c = false := by
  obtain hdigit | rfl := mem_ofInt h
  · exact isBlank_of_isDigit hdigit
  · decide

theorem newline_not_mem_ofInt (n : Int) : '\n' ∉ ofInt n := not_mem_ofInt (by decide) (by decide) n

theorem denotes_ofInt (n : Int) : Denotes (ofInt n) n := int?_eq_some_iff.mp (int?_ofInt n)

theorem Denotes.ne_nil {text : List Char} {n : Int} (h : Denotes text n) : text ≠ [] := by
  cases h with
  | unsigned hd => exact hd.ne_nil
  | positive | negative => exact List.cons_ne_nil _ _

end Numeral

namespace Source

open Blank (isBlank)
open Console (IsFirstLine IsReading)
open Numeral (Denotes)

theorem readLine_blanks (v : Int32) {before after : List Char}
    (hbefore : ∀ c ∈ before, isBlank c = true) (hafter : ∀ c ∈ after, isBlank c = true) :
    Console.readLine Numeral.int32?
      (Utf8.encode (before ++ Numeral.ofInt v.toInt ++ after)) = .ok v := by
  have hdenotes := Numeral.denotes_ofInt v.toInt
  have htrimmed := Blank.isTrimmed_append hbefore
    (fun c => Numeral.isBlank_of_mem_ofInt (n := v.toInt)) hafter
  have hne : before ++ Numeral.ofInt v.toInt ++ after ≠ [] := by simp [hdenotes.ne_nil]
  apply Console.readLine_eq_ok (Utf8.encode_ne_nil hne)
  rw [htrimmed.trim_eq]
  exact Numeral.int32?_eq_some_iff.mpr hdenotes

variable {γ : Type} [WordSource γ]

theorem readInt_of_isFirstLine {unread line rest : Bytes} (words : γ)
    (h : IsFirstLine unread line rest) : Source.console.readInt { unread, words } =
      (Console.readLine Numeral.int32? line, { unread := rest, words }) := by
  rw [readInt, read, Console.cutLine_eq_iff.mpr h]

/-- The first line settles what is read, and is used up, whatever it is read as. -/
theorem readInt_line (unread : Bytes) (words : γ) :
    (∃ line rest, IsFirstLine unread line rest ∧ (line = [] ↔ unread = []) ∧
      (Source.console.readInt { unread, words }).2 = { unread := rest, words } ∧
      IsReading (fun text (v : Int32) => Denotes text v.toInt) line
        (Source.console.readInt { unread, words }).1) ∧
    ∀ (v : Int32) (before after : List Char) (later : Bytes),
      (∀ c ∈ before ++ after, isBlank c = true ∧ c ≠ '\n') →
      Source.console.readInt
          { unread := Utf8.encode (before ++ (Denominator.int v).text ++ after), words } =
        (.ok v, { unread := [], words }) ∧
      Source.console.readInt
          { unread := Utf8.encode (before ++ (Denominator.int v).text ++ after) ++ 0x0A :: later,
            words } =
        (.ok v, { unread := later, words }) := by
  constructor
  · have hline := Console.isFirstLine_cutLine unread
    refine ⟨_, _, hline, hline.eq_nil_iff, ?_, ?_⟩
    · rw [readInt_of_isFirstLine words hline]
    · rw [readInt_of_isFirstLine words hline]
      exact Console.isReading_readLine (fun _ _ => Numeral.int32?_eq_some_iff) _
  · intro v before after later hblank
    obtain ⟨hbefore, hafter⟩ := List.forall_mem_append.mp hblank
    have hbefore' : ∀ c ∈ before, isBlank c = true := fun c hc => (hbefore c hc).1
    have hafter' : ∀ c ∈ after, isBlank c = true := fun c hc => (hafter c hc).1
    have hnewline : '\n' ∉ before ++ Numeral.ofInt v.toInt ++ after := by
      simp only [List.mem_append, not_or]
      exact ⟨⟨fun hm => (hbefore _ hm).2 rfl, Numeral.newline_not_mem_ofInt v.toInt⟩,
        fun hm => (hafter _ hm).2 rfl⟩
    have hencode := Utf8.newline_not_mem_encode hnewline
    have htext : (Denominator.int v).text = Numeral.ofInt v.toInt := rfl
    rw [htext]
    constructor
    · rw [readInt_of_isFirstLine words (.unended hencode), readLine_blanks v hbefore' hafter']
    · -- the newline is one more blank after the text
      have hended : ∀ c ∈ after ++ ['\n'], isBlank c = true :=
        List.forall_mem_append.mpr ⟨hafter', List.forall_mem_singleton.mpr rfl⟩
      rw [readInt_of_isFirstLine words (.ended hencode), ← Utf8.encode_concat_newline,
        List.append_assoc, readLine_blanks v hbefore' hended]

theorem readInt_line_least :
    Source.console.readInt (γ := WordCycle)
        { unread := Utf8.encode "\u3000-2147483648\t".toList ++ 0x0A :: [0xFF],
          words := { words := [] } } =
      (.ok Int32.minValue, { unread := [0xFF], words := { words := [] } }) := by
  have hblank : ∀ c ∈ ['\u3000'] ++ ['\t'], isBlank c = true ∧ c ≠ '\n' :=
    List.forall_mem_cons.mpr ⟨by decide, List.forall_mem_singleton.mpr (by decide)⟩
  exact ((readInt_line (γ := WordCycle) [] { words := [] }).2 Int32.minValue _ _ [0xFF] hblank).2

end Source

end GuardedDivision
