import GuardedDivision.Proofs.Blank
import GuardedDivision.Proofs.Lines
import GuardedDivision.Proofs.Utf8

namespace GuardedDivision.Console

structure IsReading {α : Type} (denotes : List Char → α → Prop) (line : Bytes)
    (result : Except ReadFailure α) : Prop where
  endOfInput : result = .error .endOfInput ↔ line = []
  notUtf8 : result = .error .notUtf8 ↔ line ≠ [] ∧ ¬∃ text, line = Utf8.encode text
  value (v : α) : result = .ok v ↔ line ≠ [] ∧
    ∃ text number, line = Utf8.encode text ∧ Blank.IsTrimmed text number ∧ denotes number v
  notNumber (input : List Char) : result = .error (.notNumber input) ↔ line ≠ [] ∧
    ∃ text, line = Utf8.encode text ∧ Blank.IsTrimmed text input ∧ ∀ v, ¬denotes input v

variable {α : Type} {ofText? : List Char → Option α}

theorem readLine_nil : readLine ofText? [] = .error .endOfInput := rfl

theorem readLine_of_not_encode {line : Bytes} (hne : line ≠ [])
    (h : ¬∃ text, line = Utf8.encode text) : readLine ofText? line = .error .notUtf8 := by
  have hdecode : Utf8.decode? line = none := by
    rw [Option.eq_none_iff_forall_ne_some]
    exact fun text htext => h ⟨text, Utf8.decode?_eq_some_iff.mp htext⟩
  rw [readLine, if_neg hne, hdecode]

section Line

variable {line : List Char} (hne : Utf8.encode line ≠ [])

include hne

theorem readLine_eq_ok {value : α} (h : ofText? (Blank.trim line) = some value) :
    readLine ofText? (Utf8.encode line) = .ok value := by
  rw [readLine, if_neg hne, Utf8.decode?_encode]
  simp only [h]

theorem readLine_eq_error (h : ofText? (Blank.trim line) = none) :
    readLine ofText? (Utf8.encode line) = .error (.notNumber (Blank.trim line)) := by
  rw [readLine, if_neg hne, Utf8.decode?_encode]
  simp only [h]

end Line

theorem exists_encode_iff {text : List Char} {p : List Char → Prop} :
    (∃ other, Utf8.encode text = Utf8.encode other ∧ p other) ↔ p text := by
  constructor
  · rintro ⟨other, hother, h⟩
    exact Utf8.encode_inj hother ▸ h
  · exact fun h => ⟨text, rfl, h⟩

/-- What a line is read as is settled by the texts that are read as numbers. -/
theorem isReading_readLine {denotes : List Char → α → Prop}
    (h : ∀ text v, ofText? text = some v ↔ denotes text v) (line : Bytes) :
    IsReading denotes line (readLine ofText? line) := by
  by_cases hne : line = []
  · subst hne
    rw [readLine_nil]
    constructor <;> simp
  by_cases hencode : ∃ text, line = Utf8.encode text
  · obtain ⟨text, rfl⟩ := hencode
    cases hread : ofText? (Blank.trim text) with
    | some v =>
      rw [readLine_eq_ok hne hread]
      constructor <;> simp [hne, ← Blank.trim_eq_iff, exists_encode_iff, ← h, hread, eq_comm]
    | none =>
      rw [readLine_eq_error hne hread]
      constructor <;> simp [hne, ← Blank.trim_eq_iff, exists_encode_iff, ← h, hread, eq_comm]
  · rw [readLine_of_not_encode hne hencode]
    constructor <;> simp [hne, not_exists.mp hencode]

end GuardedDivision.Console
