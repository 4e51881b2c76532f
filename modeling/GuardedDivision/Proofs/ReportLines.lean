import GuardedDivision.Proofs.Decimal.RoundTrip

namespace GuardedDivision

theorem eq_of_append_cons_eq {p : Char → Bool} {before first rest later : List Char} {c d : Char}
    (hbefore : ∀ x ∈ before, p x = false) (hfirst : ∀ x ∈ first, p x = false) (hc : p c = true)
    (hd : p d = true) (h : before ++ c :: rest = first ++ d :: later) :
    before = first ∧ c = d ∧ rest = later := by
  induction before generalizing first with
  | nil =>
    cases first with
    | nil => exact ⟨rfl, List.cons.inj h⟩
    | cons x first =>
      rw [(List.cons.inj h).1, hfirst x List.mem_cons_self] at hc
      contradiction
  | cons x before ih =>
    cases first with
    | nil =>
      rw [← (List.cons.inj h).1, hbefore x List.mem_cons_self] at hd
      contradiction
    | cons y first =>
      obtain ⟨rfl, htail⟩ := List.cons.inj h
      obtain ⟨rfl, hrest⟩ := ih (fun z hz => hbefore z (List.mem_cons_of_mem x hz))
        (fun z hz => hfirst z (List.mem_cons_of_mem x hz)) htail
      exact ⟨rfl, hrest⟩

namespace Numeral

theorem ofInt_toInt_inj {m n : Int32} (h : ofInt m.toInt = ofInt n.toInt) : m = n := by
  have hm := int?_ofInt m.toInt
  rw [h, int?_ofInt] at hm
  exact Int32.toInt_inj.mp (Option.some.inj hm).symm

end Numeral

namespace Binary64

/-- Every number is read back from its text. A NaN is one number here, whatever its word is. -/
theorem text_inj {x y : Binary64} (h : x.text = y.text) : x = y := by
  have hread (z : Binary64) : ofText? z.text = some z := by
    by_cases hz : z = .nan
    · rw [hz]
      rfl
    · exact ofText?_text hz
  have hx := hread x
  rw [h, hread y] at hx
  exact (Option.some.inj hx).symm

end Binary64

def isSign (c : Char) : Bool := c = '/' || c = '%'

theorem Operation.isSign_symbol (o : Operation) : isSign o.symbol = true := by
  cases o <;> rfl

theorem isSign_eq_false_of_mem_ofInt {n : Int} {c : Char} (h : c ∈ Numeral.ofInt n) :
    isSign c = false := by
  obtain hdigit | rfl := Numeral.mem_ofInt h
  · have hslash : c ≠ '/' := Numeral.ne_of_class hdigit rfl
    have hpercent : c ≠ '%' := Numeral.ne_of_class hdigit rfl
    simp [isSign, hslash, hpercent]
  · rfl

theorem eq_of_ofInt_append_eq {m n : Int32} {c d : Char} {text other : List Char}
    (hc : isSign c = true) (hd : isSign d = true)
    (h : Numeral.ofInt m.toInt ++ c :: text = Numeral.ofInt n.toInt ++ d :: other) :
    m = n ∧ c = d ∧ text = other := by
  obtain ⟨hn, hrest⟩ := eq_of_append_cons_eq (fun _ => isSign_eq_false_of_mem_ofInt)
    (fun _ => isSign_eq_false_of_mem_ofInt) hc hd h
  exact ⟨Numeral.ofInt_toInt_inj hn, hrest⟩

def Outcome.IsSigned (outcome : Outcome) : Prop :=
  ∀ n operator d, outcome = .refused (.overflow n operator d) → isSign operator = true

namespace Outcome

def told : Outcome → List Char
  | .value v => "= ".toList ++ Numeral.ofInt v.toInt
  | .refused .zeroDivisor => "would result in a divide by zero".toList
  | .refused (.overflow _ _ _) => "would overflow".toList
  | .faulted message => "faulted: ".toList ++ message

/-- The second word of a line tells the kind of its outcome, and what follows tells which one it is.
Only the numbers of an overflow do not stand there. -/
theorem eq_or_overflow_of_told_eq {o o' : Outcome} (h : o.told = o'.told) :
    o = o' ∨ ∃ m c d n c' e,
      o = .refused (.overflow m c d) ∧ o' = .refused (.overflow n c' e) := by
  have hwould : "would result in a divide by zero".toList ≠ "would overflow".toList := by decide
  cases o with
  | value v =>
    cases o' with
    | value w => exact .inl (congrArg value (Numeral.ofInt_toInt_inj (List.append_cancel_left h)))
    | refused refusal => cases refusal <;> exact absurd (List.cons.inj h).1 (by decide)
    | faulted message => exact absurd (List.cons.inj h).1 (by decide)
  | refused refusal =>
    cases o' with
    | value w => cases refusal <;> exact absurd (List.cons.inj h).1 (by decide)
    | refused refusal' =>
      cases refusal with
      | zeroDivisor =>
        cases refusal' with
        | zeroDivisor => exact .inl rfl
        | overflow n c' e => exact absurd h hwould
      | overflow m c d =>
        cases refusal' with
        | zeroDivisor => exact absurd h.symm hwould
        | overflow n c' e => exact .inr ⟨m, c, d, n, c', e, rfl, rfl⟩
    | faulted message => cases refusal <;> exact absurd (List.cons.inj h).1 (by decide)
  | faulted message =>
    cases o' with
    | value w => exact absurd (List.cons.inj h).1 (by decide)
    | refused refusal => cases refusal <;> exact absurd (List.cons.inj h).1 (by decide)
    | faulted message' => exact .inl (congrArg faulted (List.append_cancel_left h))

end Outcome

namespace Report

/-- Two reports on the same division, as far as it can be told from their texts: an integer and a
floating-point number can have the same text. -/
structure SameDivision (r s : Report) : Prop where
  numerator : r.subject.numerator = s.subject.numerator
  symbol : r.subject.operation.symbol = s.subject.operation.symbol
  text : r.denominator.text = s.denominator.text
  int (d e : Int32) : r.denominator = .int d → s.denominator = .int e → d = e
  float (x y : Binary64) : r.denominator = .float x → s.denominator = .float y → x = y

theorem division_eq_iff {r s : Report} : r.division = s.division ↔ r.SameDivision s := by
  constructor
  · intro h
    obtain ⟨hnumerator, hsymbol, htext⟩ := eq_of_ofInt_append_eq
      r.subject.operation.isSign_symbol s.subject.operation.isSign_symbol h
    refine ⟨hnumerator, hsymbol, htext, fun d e hd he => ?_, fun x y hx hy => ?_⟩
    · rw [hd, he] at htext
      exact Numeral.ofInt_toInt_inj htext
    · rw [hx, hy] at htext
      exact Binary64.text_inj htext
  · intro h
    rw [division, division, h.numerator, h.symbol, h.text]

/-- The first word of a line: the division, or what stands in its place in a refusal. -/
def word (r : Report) : List Char :=
  match r.outcome with
  | .refused .zeroDivisor => "This".toList
  | .refused (.overflow n operator d) =>
    Numeral.ofInt n.toInt ++ operator :: Numeral.ofInt d.toInt
  | .value _ | .faulted _ => r.division

theorem word_of_ne_refused {r : Report} (h : ∀ refusal, r.outcome ≠ .refused refusal) :
    r.word = r.division := by
  rw [word]
  cases ho : r.outcome with
  | value v => rfl
  | refused refusal => exact absurd ho (h refusal)
  | faulted message => rfl

theorem line_eq (r : Report) : r.line = r.word ++ ' ' :: r.outcome.told := by
  rw [line, word]
  cases r.outcome with
  | value v => exact List.append_assoc _ _ _
  | refused refusal =>
    cases refusal with
    | zeroDivisor =>
      exact (by decide : "This would result in a divide by zero".toList =
        "This".toList ++ ' ' :: "would result in a divide by zero".toList)
    | overflow n operator d => rfl
  | faulted message => exact List.append_assoc _ _ _

theorem blank_not_mem_ofInt (n : Int) : ' ' ∉ Numeral.ofInt n :=
  Numeral.not_mem_ofInt rfl (by decide) n

theorem blank_not_mem_text (d : Denominator) : ' ' ∉ d.text := by
  cases d with
  | int value => exact blank_not_mem_ofInt _
  | float value =>
    have halphabet : ' ' ∉ Binary64.alphabet := by decide
    exact fun h => halphabet (value.text_subset h)

theorem blank_not_mem_word {r : Report} (h : r.outcome.IsSigned) : ' ' ∉ r.word := by
  have hsigned {c : Char} {before after : List Char} (hc : isSign c = true)
      (hbefore : ' ' ∉ before) (hafter : ' ' ∉ after) : ' ' ∉ before ++ c :: after := by
    have hne : ' ' ≠ c := by
      rintro rfl
      contradiction
    simp [hne, hbefore, hafter]
  have hdivision : ' ' ∉ r.division := hsigned r.subject.operation.isSign_symbol
    (blank_not_mem_ofInt _) (blank_not_mem_text _)
  rw [word]
  cases ho : r.outcome with
  | value v => exact hdivision
  | refused refusal =>
    cases refusal with
    | zeroDivisor => exact (by decide : ' ' ∉ "This".toList)
    | overflow n operator d =>
      exact hsigned (h n operator d ho) (blank_not_mem_ofInt _) (blank_not_mem_ofInt _)
  | faulted message => exact hdivision

theorem eq_of_line_eq {r s : Report} (hr : r.outcome.IsSigned) (hs : s.outcome.IsSigned)
    (h : r.line = s.line) : r.word = s.word ∧ r.outcome.told = s.outcome.told := by
  have hblank {text : List Char} (ht : ' ' ∉ text) : ∀ c ∈ text, decide (c = ' ') = false := by
    intro c hc
    exact decide_eq_false fun he => ht (he ▸ hc)
  rw [line_eq, line_eq] at h
  obtain ⟨hword, -, htold⟩ := eq_of_append_cons_eq (hblank (blank_not_mem_word hr))
    (hblank (blank_not_mem_word hs)) rfl rfl h
  exact ⟨hword, htold⟩

theorem outcome_eq_of_line_eq {r s : Report} (hr : r.outcome.IsSigned) (hs : s.outcome.IsSigned)
    (h : r.line = s.line) : r.outcome = s.outcome := by
  obtain ⟨hword, htold⟩ := eq_of_line_eq hr hs h
  obtain he | ⟨m, c, d, n, c', e, ho, ho'⟩ := Outcome.eq_or_overflow_of_told_eq htold
  · exact he
  · rw [word, word, ho, ho'] at hword
    obtain ⟨rfl, rfl, hd⟩ := eq_of_ofInt_append_eq (hr m c d ho) (hs n c' e ho') hword
    rw [ho, ho', Numeral.ofInt_toInt_inj hd]

/-- Two reports have the same line exactly if they have the same outcome and, where it is a value or
a fault, their divisions look the same. -/
theorem line_eq_iff {r s : Report} (hr : r.outcome.IsSigned) (hs : s.outcome.IsSigned) :
    (r.line = s.line ↔ r.outcome = s.outcome ∧
      ((∀ refusal, r.outcome ≠ .refused refusal) → r.SameDivision s)) ∧
    (r.line = s.line → r.isFault = s.isFault) := by
  have hline (h : r.line = s.line) : r.outcome = s.outcome := outcome_eq_of_line_eq hr hs h
  refine ⟨⟨fun h => ⟨hline h, fun hne => ?_⟩, fun ⟨houtcome, hdivision⟩ => ?_⟩, fun h => ?_⟩
  · have hword := (eq_of_line_eq hr hs h).1
    rw [word_of_ne_refused hne, word_of_ne_refused (hline h ▸ hne)] at hword
    exact division_eq_iff.mp hword
  · have hword : r.word = s.word := by
      by_cases hne : ∀ refusal, r.outcome ≠ .refused refusal
      · rw [word_of_ne_refused hne, word_of_ne_refused (houtcome ▸ hne)]
        exact division_eq_iff.mpr (hdivision hne)
      · obtain ⟨refusal, hrefusal⟩ : ∃ refusal, r.outcome = .refused refusal := by
          simpa using hne
        rw [word, word, ← houtcome, hrefusal]
        cases refusal <;> rfl
    rw [line_eq, line_eq, hword, houtcome]
  · rw [isFault, isFault, hline h]

theorem line_eq_iff_misleading :
    let r : Report := ⟨⟨100, .zero, .divide, .unguarded⟩, .int 5, .faulted " = 5".toList⟩
    let s : Report :=
      ⟨⟨100, .console, .float, .guarded⟩, .float (.ofInt32 5), .faulted " = 5".toList⟩
    r.line = s.line ∧ r.SameDivision s ∧ r.isFault = s.isFault := by
  intro r s
  have hr : r.outcome.IsSigned := nofun
  have hs : s.outcome.IsSigned := nofun
  have hline : r.line = s.line := by decide +kernel
  have h := line_eq_iff hr hs
  exact ⟨hline, (h.1.mp hline).2 nofun, h.2 hline⟩

end Report

end GuardedDivision
