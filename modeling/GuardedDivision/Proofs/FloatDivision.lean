import GuardedDivision.Proofs.Binary64.Quotient
import GuardedDivision.Proofs.Case
import GuardedDivision.Proofs.Decimal.Literal
import GuardedDivision.Proofs.Decimal.Shortest

namespace GuardedDivision

namespace Binary64

/-- Whether a number is what a text or a word of an integer is read as: the integer as a
floating-point number, or zero with a minus sign. -/
def Denotes (x : Binary64) (d : Int32) : Prop := x = ofInt32 d ∨ d = 0 ∧ x = zero true

theorem natAbs_toInt_lt (d : Int32) : d.toInt.natAbs + 1 < 2 * rowSize :=
  Nat.lt_of_le_of_lt (Nat.succ_le_succ (natAbs_toInt_le d)) (by decide)

theorem text_ofInt32 (d : Int32) : (ofInt32 d).text = Numeral.ofInt d.toInt := by
  rw [ofInt32, ofInt, text_nearest_one (natAbs_toInt_lt d)]
  cases d.toInt with
  | ofNat n => rfl
  | negSucc n =>
    rw [if_pos (decide_eq_true (Int.negSucc_lt_zero n))]
    rfl

theorem isWhole_ofInt32 (d : Int32) : (ofInt32 d).IsWhole d.toInt := by
  have h := isWhole_nearest_one (Nat.lt_of_succ_lt (natAbs_toInt_lt d)) (d.toInt < 0)
  have hd : d.toInt =
      if decide (d.toInt < 0) = true then -(d.toInt.natAbs : Int) else d.toInt.natAbs := by
    split
    · next hneg =>
      have := of_decide_eq_true hneg
      omega
    · next hneg =>
      have := of_decide_eq_false (eq_false_of_ne_true hneg)
      omega
  rw [← hd] at h
  exact h

theorem ofText?_of_int32? {text : List Char} {d : Int32} (h : Numeral.int32? text = some d) :
    ∃ x, x.Denotes d ∧ ofText? text = some x := by
  obtain ⟨negative, hd, htext⟩ := ofText?_of_int? (Numeral.int32?_eq_some h)
  refine ⟨_, ?_, htext⟩
  by_cases hz : d = 0
  · subst d
    cases negative with
    | false => exact .inl rfl
    | true => exact .inr ⟨rfl, nearest_zero true⟩
  · left
    have hne := toInt_ne_zero hz
    have hsign : negative = decide (d.toInt < 0) := by
      cases negative with
      | false =>
        have hnonneg : d.toInt = d.toInt.natAbs := hd
        exact (decide_eq_false (by omega)).symm
      | true =>
        have hneg : d.toInt = -(d.toInt.natAbs : Int) := hd
        exact (decide_eq_true (by omega)).symm
    rw [ofInt32, ofInt, hsign]

variable {x : Binary64} {d : Int32}

theorem Denotes.isWhole (h : x.Denotes d) : x.IsWhole d.toInt := by
  obtain rfl | ⟨rfl, rfl⟩ := h
  · exact isWhole_ofInt32 d
  · rw [← nearest_zero]
    exact isWhole_nearest_one (by decide) true

theorem Denotes.exceeds_epsilon (h : x.Denotes d) : x.exceeds epsilon = decide (d ≠ 0) := by
  obtain rfl | ⟨rfl, rfl⟩ := h
  · exact exceeds_epsilon_ofInt32 d
  · rw [← nearest_zero]
    exact exceeds_epsilon_nearest_one (by decide) true

theorem Denotes.eq_ofInt32 (h : x.Denotes d) (hd : d ≠ 0) : x = ofInt32 d :=
  h.resolve_right fun hz => hd hz.1

end Binary64

/-- How a reading of an integer and one of a floating-point number from the same source belong
together. -/
structure ReadingsAgree (whole : Except ReadFailure Int32) (float : Except ReadFailure Binary64) :
    Prop where
  endOfInput : whole = .error .endOfInput ↔ float = .error .endOfInput
  notUtf8 : whole = .error .notUtf8 ↔ float = .error .notUtf8
  notNumber (input : List Char) :
    float = .error (.notNumber input) → whole = .error (.notNumber input)
  value (d : Int32) : whole = .ok d → ∃ x, x.Denotes d ∧ float = .ok x

theorem Console.readingsAgree (line : Bytes) :
    ReadingsAgree (readLine Numeral.int32? line) (readLine Binary64.ofText? line) := by
  unfold readLine
  split
  · constructor <;> simp
  · cases Utf8.decode? line with
    | none => constructor <;> simp
    | some text =>
      dsimp only
      generalize Blank.trim text = input
      cases hw : Numeral.int32? input with
      | some d =>
        obtain ⟨x, hx, hf⟩ := Binary64.ofText?_of_int32? hw
        rw [hf]
        constructor <;> simp [hx]
      | none => cases Binary64.ofText? input <;> constructor <;> simp

namespace Source

variable {γ : Type} [WordSource γ]

theorem readingsAgree (source : Source) (input : Input γ) :
    ReadingsAgree (source.readInt input).1 (source.readFloat input).1 := by
  have hvalue (d : Int32) : ReadingsAgree (.ok d) (.ok (.ofInt32 d)) := by
    constructor <;> simp [Binary64.Denotes]
  unfold readInt readFloat read
  cases source with
  | zero => exact hvalue 0
  | fixed d => exact hvalue d
  | random => exact hvalue (WordSource.next input.words).1.toInt32
  | console => exact Console.readingsAgree (Console.cutLine input.unread).1

theorem rest_readFloat (source : Source) (input : Input γ) :
    (source.readFloat input).2 = (source.readInt input).2 := by
  cases source <;> simp only [readFloat, readInt, read]

end Source

structure QuotientsAgree (d : Int32) (whole float : Report) : Prop where
  subject : float.subject = { whole.subject with operation := .float }
  denominator : ∃ x, float.denominator = .float x ∧ x.IsWhole d.toInt
  same : ¬Overflows whole.subject.numerator d →
    float.outcome = whole.outcome ∧ float.line = whole.line
  overflow : Overflows whole.subject.numerator d →
    whole.outcome = .refused (.overflow whole.subject.numerator '/' d) ∧
      float.outcome = .value Int32.maxValue

/-- How the results of both cases belong together. Without the guard, integers that cannot be
divided stop the case or are faults, and nothing is said about them. -/
structure QuotientResults (route : Route) (whole float : Result) : Prop where
  endOfInput : whole = .unread .endOfInput → float = .unread .endOfInput
  notUtf8 : whole = .unread .notUtf8 → float = .unread .notUtf8
  notNumber (input : List Char) :
    float = .unread (.notNumber input) → whole = .unread (.notNumber input)
  report (r : Report) (d : Int32) : whole = .reported r → r.denominator = .int d →
    route = .guarded ∨ d ≠ 0 ∧ ¬Overflows r.subject.numerator d →
      ∃ s, float = .reported s ∧ QuotientsAgree d r s

namespace Case

def whole (numerator : Int32) (source : Source) (route : Route) : Case :=
  { numerator, source, operation := .divide, route }

def float (numerator : Int32) (source : Source) (route : Route) : Case :=
  { numerator, source, operation := .float, route }

variable {n d : Int32} {x : Binary64} (source : Source) (route : Route)

theorem result_float (catchFaults : Bool) :
    (float n source route).result catchFaults (.float x) = .reported
      { subject := float n source route, denominator := .float x,
        outcome := (float n source route).outcome (.float x) } := by
  obtain hr | ⟨-, fault, hf, -⟩ := (float n source route).result_cases catchFaults (.float x)
  · exact hr
  · exact nomatch hf

theorem outcome_float (hx : x.Denotes d) (hd : route = .guarded ∨ d ≠ 0 ∧ ¬Overflows n d) :
    (float n source route).outcome (.float x) =
      if Overflows n d then .value Int32.maxValue
      else (whole n source route).outcome (.int d) := by
  have hquotient (hz : d ≠ 0) : Unguarded.floatQuotient (.ofInt32 n) x =
      if Overflows n d then Int32.maxValue else n / d := by
    rw [hx.eq_ofInt32 hz]
    exact Binary64.floatQuotient_ofInt32 n hz
  cases route with
  | guarded =>
    rw [outcome_guarded_float _ rfl, outcome_guarded_int _ rfl, hx.exceeds_epsilon]
    by_cases hz : d = 0
    · have ho : ¬Overflows n d := fun h => h.ne_zero hz
      rw [if_neg (by simp [hz]), if_neg ho, if_pos hz]
    · rw [if_pos (decide_eq_true hz), if_neg hz]
      by_cases ho : Overflows n d <;> simp [float, whole, hquotient hz, ho, Operation.onInt32]
  | unguarded =>
    obtain ⟨hz, ho⟩ := hd.resolve_left (by decide)
    rw [outcome_unguarded_float _ rfl, outcome_unguarded_int _ rfl]
    simp [float, whole, hquotient hz, hz, ho, Operation.onInt32]

theorem line_eq_of_outcome_eq (hx : x.Denotes d) {outcome : Outcome}
    (h : d ≠ 0 ∨ ∃ refusal, outcome = .refused refusal) :
    Report.line ⟨float n source route, .float x, outcome⟩ =
      Report.line ⟨whole n source route, .int d, outcome⟩ := by
  obtain hd | ⟨refusal, rfl⟩ := h
  · have hdivision : Report.division ⟨float n source route, .float x, outcome⟩ =
        Report.division ⟨whole n source route, .int d, outcome⟩ := by
      simp only [Report.division, float, whole, Denominator.text, hx.eq_ofInt32 hd,
        Binary64.text_ofInt32, Operation.symbol]
    cases outcome <;> simp only [Report.line, hdivision]
  · rfl

theorem quotientsAgree (hx : x.Denotes d) (hd : route = .guarded ∨ d ≠ 0 ∧ ¬Overflows n d) :
    QuotientsAgree d
      ⟨whole n source route, .int d, (whole n source route).outcome (.int d)⟩
      ⟨float n source route, .float x, (float n source route).outcome (.float x)⟩ where
  subject := rfl
  denominator := ⟨x, rfl, hx.isWhole⟩
  same (ho : ¬Overflows n d) := by
    rw [outcome_float source route hx hd, if_neg ho]
    refine ⟨rfl, line_eq_of_outcome_eq source route hx ?_⟩
    obtain rfl | ⟨hz, -⟩ := hd
    · rw [outcome_guarded_int _ rfl]
      by_cases hz : d = 0
      · exact .inr ⟨.zeroDivisor, if_pos hz⟩
      · exact .inl hz
    · exact .inl hz
  overflow (ho : Overflows n d) := by
    have hz : d ≠ 0 := ho.ne_zero
    obtain rfl : route = .guarded := hd.resolve_right fun h => h.2 ho
    rw [outcome_float source .guarded hx hd, outcome_guarded_int _ rfl, if_pos ho, if_neg hz]
    exact ⟨if_pos ho, rfl⟩

variable {γ : Type} [WordSource γ]

theorem readDenominator_whole (n : Int32) (input : Input γ) :
    (whole n source route).readDenominator input =
      ((source.readInt input).1.map .int, (source.readInt input).2) := rfl

theorem readDenominator_float (n : Int32) (input : Input γ) :
    (float n source route).readDenominator input =
      ((source.readFloat input).1.map .float, (source.readFloat input).2) := rfl

theorem map_eq_error_iff {α β : Type} {f : α → β} {e : Except ReadFailure α}
    {failure : ReadFailure} : e.map f = .error failure ↔ e = .error failure := by
  cases e <;> simp [Except.map]

theorem quotientResults (n : Int32) (catchFaults : Bool) (input : Input γ) :
    QuotientResults route ((whole n source route).run catchFaults input).result
      ((float n source route).run catchFaults input).result := by
  have hread := source.readingsAgree input
  constructor
  case report =>
    intro r d hr hd hroute
    rw [run_result, readDenominator_whole] at hr
    cases hw : (source.readInt input).1 with
    | error e =>
      rw [hw] at hr
      exact nomatch hr
    | ok d' =>
      rw [hw] at hr
      obtain rfl := eq_of_result_reported hr
      obtain rfl := Denominator.int.inj hd
      obtain ⟨x, hx, hf⟩ := hread.value d' hw
      rw [run_result, readDenominator_float, hf]
      exact ⟨_, result_float source route catchFaults, quotientsAgree source route hx hroute⟩
  all_goals
    simp only [run_unread_iff, readDenominator_whole, readDenominator_float, map_eq_error_iff]
  case endOfInput => exact hread.endOfInput.mp
  case notUtf8 => exact hread.notUtf8.mp
  case notNumber => exact hread.notNumber

/-- The quotient of integers and that of floating-point numbers, asked of the same source on the
same input: both leave the same input, and their results belong together. -/
theorem run_float (n : Int32) (catchFaults : Bool) (input : Input γ) :
    ((float n source route).run catchFaults input).rest =
        ((whole n source route).run catchFaults input).rest ∧
      QuotientResults route ((whole n source route).run catchFaults input).result
        ((float n source route).run catchFaults input).result := by
  refine ⟨?_, quotientResults source route n catchFaults input⟩
  rw [run_rest, run_rest, readDenominator_float, readDenominator_whole]
  exact source.rest_readFloat input

end Case

end GuardedDivision
