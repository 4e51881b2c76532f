import GuardedDivision.Session

namespace GuardedDivision

namespace Operation

def onInt32 : Operation → Int32 → Int32 → Int32
  | .modulo, n, d => n % d
  | _, n, d => n / d

def zeroFault : Operation → Fault
  | .modulo => .remainderByZero
  | _ => .divisionByZero

def overflowFault : Operation → Fault
  | .modulo => .remainderOverflow
  | _ => .divisionOverflow

end Operation

namespace Case

theorem guardedResult_int (c : Case) (d : Int32) :
    c.guardedResult (.int d) =
      if d = 0 then .error .zeroDivisor
      else if Overflows c.numerator d then
        .error (.overflow c.numerator c.operation.symbol d)
      else .ok (c.operation.onInt32 c.numerator d) := by
  unfold guardedResult
  cases c.operation <;> rfl

theorem unguardedResult_int (c : Case) (d : Int32) :
    c.unguardedResult (.int d) =
      if d = 0 then .error c.operation.zeroFault
      else if Overflows c.numerator d then .error c.operation.overflowFault
      else .ok (c.operation.onInt32 c.numerator d) := by
  unfold unguardedResult
  cases c.operation <;> rfl

/-- What comes of a case when faults are caught. -/
def outcome (c : Case) (d : Denominator) : Outcome :=
  match c.route with
  | .guarded => match c.guardedResult d with
    | .ok value => .value value
    | .error refusal => .refused refusal
  | .unguarded => match c.unguardedResult d with
    | .ok value => .value value
    | .error fault => .faulted fault.message

theorem result_caught (c : Case) (d : Denominator) :
    c.result true d = .reported { subject := c, denominator := d, outcome := c.outcome d } := by
  unfold result outcome
  cases c.route with
  | guarded => cases c.guardedResult d <;> rfl
  | unguarded => cases c.unguardedResult d <;> rfl

/-- A case whose denominator has been read is reported, or a fault that nobody catches stops it. -/
theorem result_cases (c : Case) (catchFaults : Bool) (d : Denominator) :
    c.result catchFaults d = .reported { subject := c, denominator := d, outcome := c.outcome d } ∨
      c.route = .unguarded ∧ ∃ fault, c.unguardedResult d = .error fault ∧
        c.result catchFaults d = .stopped fault := by
  cases catchFaults with
  | true => exact .inl (c.result_caught d)
  | false =>
    unfold result outcome
    cases c.route with
    | guarded =>
      left
      cases c.guardedResult d <;> rfl
    | unguarded =>
      cases c.unguardedResult d with
      | ok value => exact .inl rfl
      | error fault => exact .inr ⟨rfl, fault, rfl, rfl⟩

theorem eq_of_result_reported {c : Case} {catchFaults : Bool} {d : Denominator} {r : Report}
    (h : c.result catchFaults d = .reported r) :
    r = { subject := c, denominator := d, outcome := c.outcome d } := by
  obtain hr | ⟨-, fault, -, hs⟩ := c.result_cases catchFaults d
  · rw [hr] at h
    exact (Result.reported.inj h).symm
  · rw [hs] at h
    exact nomatch h

theorem outcome_guarded_int (c : Case) (hc : c.route = .guarded) (d : Int32) :
    c.outcome (.int d) =
      if d = 0 then .refused .zeroDivisor
      else if Overflows c.numerator d then
        .refused (.overflow c.numerator c.operation.symbol d)
      else .value (c.operation.onInt32 c.numerator d) := by
  simp only [outcome, hc, guardedResult_int]
  by_cases hz : d = 0
  · simp [hz]
  · by_cases ho : Overflows c.numerator d <;> simp [hz, ho]

theorem outcome_unguarded_int (c : Case) (hc : c.route = .unguarded) (d : Int32) :
    c.outcome (.int d) =
      if d = 0 then .faulted c.operation.zeroFault.message
      else if Overflows c.numerator d then .faulted c.operation.overflowFault.message
      else .value (c.operation.onInt32 c.numerator d) := by
  simp only [outcome, hc, unguardedResult_int]
  by_cases hz : d = 0
  · simp [hz]
  · by_cases ho : Overflows c.numerator d <;> simp [hz, ho]

theorem outcome_guarded_float (c : Case) (hc : c.route = .guarded) (d : Binary64) :
    c.outcome (.float d) =
      if d.exceeds epsilon then .value (Unguarded.floatQuotient (.ofInt32 c.numerator) d)
      else .refused .zeroDivisor := by
  simp only [outcome, hc, guardedResult, Guarded.floatQuotient, Unguarded.floatQuotient]
  by_cases he : d.exceeds epsilon = true <;> simp [he]

theorem outcome_unguarded_float (c : Case) (hc : c.route = .unguarded) (d : Binary64) :
    c.outcome (.float d) = .value (Unguarded.floatQuotient (.ofInt32 c.numerator) d) := by
  simp only [outcome, hc, unguardedResult]

variable {γ : Type} [WordSource γ]

theorem readDenominator_kind (c : Case) (input : Input γ) {d : Denominator}
    (h : (c.readDenominator input).1 = .ok d) :
    (c.operation ≠ .float ∧ ∃ n, d = .int n) ∨ (c.operation = .float ∧ ∃ x, d = .float x) := by
  unfold readDenominator at h
  cases ho : c.operation with
  | divide | modulo =>
    rw [ho] at h
    cases hr : (c.source.readInt input).1 with
    | error e => simp [hr, Except.map] at h
    | ok n =>
      simp only [hr, Except.map, Except.ok.injEq] at h
      exact .inl ⟨by decide, n, h.symm⟩
  | float =>
    rw [ho] at h
    cases hr : (c.source.readFloat input).1 with
    | error e => simp [hr, Except.map] at h
    | ok x =>
      simp only [hr, Except.map, Except.ok.injEq] at h
      exact .inr ⟨rfl, x, h.symm⟩

theorem run_result (c : Case) (catchFaults : Bool) (input : Input γ) :
    (c.run catchFaults input).result =
      match (c.readDenominator input).1 with
      | .error failure => .unread failure
      | .ok d => c.result catchFaults d := by
  unfold run
  split <;> simp_all

theorem run_unread_iff (c : Case) (catchFaults : Bool) (input : Input γ) (failure : ReadFailure) :
    (c.run catchFaults input).result = .unread failure ↔
      (c.readDenominator input).1 = .error failure := by
  rw [run_result]
  cases (c.readDenominator input).1 with
  | error e => simp
  | ok d => obtain h | ⟨-, fault, -, h⟩ := c.result_cases catchFaults d <;> simp [h]

theorem run_rest (c : Case) (catchFaults : Bool) (input : Input γ) :
    (c.run catchFaults input).rest = (c.readDenominator input).2 := by
  unfold run
  split <;> simp_all

end Case

end GuardedDivision
