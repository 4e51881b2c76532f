import GuardedDivision.Proofs.Case
import GuardedDivision.Proofs.Decimal.Form
import GuardedDivision.Proofs.Lines
import GuardedDivision.Proofs.Utf8
import GuardedDivision.Run
import Mathlib.Tactic.SplitIfs

namespace GuardedDivision

/-- A text of characters from the blank to the tilde. -/
def Printable (text : List Char) : Prop := ∀ c ∈ text, ' ' ≤ c ∧ c ≤ '~'

instance (text : List Char) : Decidable (Printable text) := List.decidableBAll _ text

namespace Printable

theorem append {first second : List Char} (h : Printable first) (h' : Printable second) :
    Printable (first ++ second) :=
  fun c hc => (List.mem_append.mp hc).elim (h c) (h' c)

theorem cons {c : Char} {text : List Char} (hc : ' ' ≤ c ∧ c ≤ '~') (h : Printable text) :
    Printable (c :: text) := by
  intro d hd
  obtain rfl | hd := List.mem_cons.mp hd
  · exact hc
  · exact h d hd

theorem of_subset {text alphabet : List Char} (h : Printable alphabet) (hs : text ⊆ alphabet) :
    Printable text := fun c hc => h c (hs hc)

theorem ofInt (n : Int) : Printable (Numeral.ofInt n) := by
  have halphabet : Printable Binary64.alphabet := by decide
  apply halphabet.of_subset
  intro c hc
  obtain hd | rfl := Numeral.mem_ofInt hc
  · exact Binary64.mem_alphabet_of_isDigit hd
  · decide

theorem newline_not_mem_encode {text : List Char} (h : Printable text) :
    (0x0A : UInt8) ∉ Utf8.encode text :=
  Utf8.newline_not_mem_encode fun hm => absurd (h _ hm).1 (by decide)

end Printable

namespace Binary64

theorem printable_text (x : Binary64) : Printable x.text := by
  have halphabet : Printable alphabet := by decide
  exact halphabet.of_subset x.text_subset

end Binary64

theorem Denominator.printable_text (d : Denominator) : Printable d.text := by
  cases d with
  | int value => exact .ofInt value.toInt
  | float value => exact value.printable_text

theorem Fault.printable_message (fault : Fault) : Printable fault.message := by
  cases fault <;> decide

theorem Refusal.printable_overflow (n d : Int32) (o : Operation) :
    Printable (Refusal.overflow n o.symbol d).message := by
  have hsymbol : ' ' ≤ o.symbol ∧ o.symbol ≤ '~' := by cases o <;> decide
  have htail : Printable " would overflow".toList := by decide
  exact ((Printable.ofInt _).append ((Printable.ofInt _).cons hsymbol)).append htail

namespace Report

theorem printable_division (r : Report) : Printable r.division := by
  have hsymbol : ' ' ≤ r.subject.operation.symbol ∧ r.subject.operation.symbol ≤ '~' := by
    cases r.subject.operation <;> decide
  exact (Printable.ofInt _).append (r.denominator.printable_text.cons hsymbol)

end Report

namespace Case

theorem eq_of_guardedResult_error {c : Case} {d : Denominator} {refusal : Refusal}
    (h : c.guardedResult d = .error refusal) : refusal = .zeroDivisor ∨
      ∃ n, d = .int n ∧ refusal = .overflow c.numerator c.operation.symbol n := by
  cases d with
  | int n =>
    rw [guardedResult_int] at h
    split_ifs at h
    · exact .inl (Except.error.inj h).symm
    · exact .inr ⟨n, rfl, (Except.error.inj h).symm⟩
  | float x =>
    rw [guardedResult, Guarded.floatQuotient] at h
    split_ifs at h
    exact .inl (Except.error.inj h).symm

theorem printable_line (c : Case) (d : Denominator) :
    Printable (Report.line ⟨c, d, c.outcome d⟩) := by
  have hdivision (outcome : Outcome) : Printable (Report.division ⟨c, d, outcome⟩) :=
    Report.printable_division _
  have hequals : Printable " = ".toList := by decide
  have hfaulted : Printable " faulted: ".toList := by decide
  unfold outcome
  cases c.route with
  | guarded =>
    cases hg : c.guardedResult d with
    | ok value => exact ((hdivision _).append hequals).append (.ofInt _)
    | error refusal =>
      obtain rfl | ⟨n, -, rfl⟩ := eq_of_guardedResult_error hg
      · exact (by decide : Printable (Refusal.message .zeroDivisor))
      · exact Refusal.printable_overflow c.numerator n c.operation
  | unguarded =>
    cases c.unguardedResult d with
    | ok value => exact ((hdivision _).append hequals).append (.ofInt _)
    | error fault => exact ((hdivision _).append hfaulted).append fault.printable_message

end Case

end GuardedDivision
