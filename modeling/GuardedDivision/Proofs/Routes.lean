import GuardedDivision.Proofs.Case

namespace GuardedDivision

namespace Operation

def zeroText : Operation → String
  | .modulo => "attempt to calculate the remainder with a divisor of zero"
  | _ => "attempt to divide by zero"

def overflowText : Operation → String
  | .modulo => "attempt to calculate the remainder with overflow"
  | _ => "attempt to divide with overflow"

theorem message_zeroFault (o : Operation) : o.zeroFault.message = o.zeroText.toList := by
  cases o <;> rfl

theorem message_overflowFault (o : Operation) :
    o.overflowFault.message = o.overflowText.toList := by
  cases o <;> rfl

theorem zeroText_ne_overflowText (o : Operation) :
    o.zeroText.toList ≠ o.overflowText.toList := by
  cases o <;> simp [zeroText, overflowText]

end Operation

/-- How the outcomes on both routes belong together where integers are divided. -/
structure IntOutcomes (o : Operation) (n d : Int32) (guarded unguarded : Outcome) : Prop where
  value (v : Int32) : guarded = .value v ↔ unguarded = .value v
  zeroDivisor : guarded = .refused .zeroDivisor ↔ unguarded = .faulted o.zeroText.toList
  overflow :
    guarded = .refused (.overflow n o.symbol d) ↔ unguarded = .faulted o.overflowText.toList
  complete : (∃ v, guarded = .value v) ∨ guarded = .refused .zeroDivisor ∨
    guarded = .refused (.overflow n o.symbol d)

/-- Where floating-point numbers are divided, the guard refuses the denominators near zero, but
never for an overflow, and without it there is always a value. -/
structure FloatOutcomes (d : Binary64) (guarded unguarded : Outcome) : Prop where
  value (v : Int32) : guarded = .value v → unguarded = .value v
  zeroDivisor : guarded = .refused .zeroDivisor ↔ d.exceeds epsilon = false
  complete : (∃ v, guarded = .value v) ∨ guarded = .refused .zeroDivisor
  unfaulted : ∃ v, unguarded = .value v

namespace Case

def onRoute (c : Case) (route : Route) : Case := { c with route }

def turned (c : Case) : Case :=
  c.onRoute (match c.route with | .guarded => .unguarded | .unguarded => .guarded)

/-- Cases of which those at the chosen places take the other route. -/
def turnAt (chosen : Nat → Bool) (cases : List Case) : List Case :=
  cases.mapIdx fun i c => if chosen i then c.turned else c

def OutcomesAgree (c : Case) : Denominator → Outcome → Outcome → Prop
  | .int d, guarded, unguarded =>
    c.operation ≠ .float ∧ IntOutcomes c.operation c.numerator d guarded unguarded
  | .float d, guarded, unguarded => c.operation = .float ∧ FloatOutcomes d guarded unguarded

def ResultsAgree (c : Case) (guarded unguarded : Result) : Prop :=
  (∃ failure, guarded = .unread failure ∧ unguarded = .unread failure) ∨
    ∃ d g u, guarded = .reported ⟨c.onRoute .guarded, d, g⟩ ∧
      unguarded = .reported ⟨c.onRoute .unguarded, d, u⟩ ∧ c.OutcomesAgree d g u

def Counterparts (c : Case) (own other : Result) : Prop :=
  match c.route with
  | .guarded => c.ResultsAgree own other
  | .unguarded => c.ResultsAgree other own

theorem intOutcomes (c : Case) (d : Int32) :
    IntOutcomes c.operation c.numerator d ((c.onRoute .guarded).outcome (.int d))
      ((c.onRoute .unguarded).outcome (.int d)) := by
  have ht := c.operation.zeroText_ne_overflowText
  rw [outcome_guarded_int _ rfl, outcome_unguarded_int _ rfl]
  simp only [onRoute, Operation.message_zeroFault, Operation.message_overflowFault]
  by_cases hz : d = 0
  · simp only [hz, ↓reduceIte]
    constructor <;> simp [ht]
  · by_cases ho : Overflows c.numerator d
    · simp only [hz, ho, ↓reduceIte]
      constructor <;> simp [ht.symm]
    · simp only [hz, ho, ↓reduceIte]
      constructor <;> simp

theorem floatOutcomes (c : Case) (d : Binary64) :
    FloatOutcomes d ((c.onRoute .guarded).outcome (.float d))
      ((c.onRoute .unguarded).outcome (.float d)) := by
  rw [outcome_guarded_float _ rfl, outcome_unguarded_float _ rfl]
  by_cases he : d.exceeds epsilon
  · simp only [he, ↓reduceIte]
    constructor <;> simp [onRoute, he]
  · simp only [he]
    constructor <;> simp [he]

variable {γ : Type} [WordSource γ]

theorem resultsAgree (c : Case) (input : Input γ) :
    c.ResultsAgree ((c.onRoute .guarded).run true input).result
      ((c.onRoute .unguarded).run true input).result := by
  have hread : ∀ route, (c.onRoute route).readDenominator input = c.readDenominator input :=
    fun _ => rfl
  simp only [run_result, hread]
  cases hd : (c.readDenominator input).1 with
  | error failure => exact .inl ⟨failure, rfl, rfl⟩
  | ok d =>
    refine .inr ⟨d, _, _, result_caught _ d, result_caught _ d, ?_⟩
    obtain ⟨ho, n, rfl⟩ | ⟨ho, x, rfl⟩ := c.readDenominator_kind input hd
    · exact ⟨ho, c.intOutcomes n⟩
    · exact ⟨ho, c.floatOutcomes x⟩

theorem counterparts_turned (c : Case) (input : Input γ) :
    c.Counterparts (c.run true input).result (c.turned.run true input).result := by
  have h := c.resultsAgree input
  cases hc : c.route with
  | guarded =>
    have hown : c.onRoute .guarded = c := by rw [onRoute, ← hc]
    simp only [Counterparts, turned, hc]
    rwa [hown] at h
  | unguarded =>
    have hown : c.onRoute .unguarded = c := by rw [onRoute, ← hc]
    simp only [Counterparts, turned, hc]
    rwa [hown] at h

theorem rest_turned (c : Case) (input : Input γ) :
    (c.turned.run true input).rest = (c.run true input).rest := by
  rw [run_rest, run_rest]
  rfl

end Case

namespace Session

variable {γ : Type} [WordSource γ]

theorem length_results (catchFaults : Bool) (cases : List Case) (input : Input γ) :
    (run catchFaults cases input).results.length = cases.length := by
  induction cases generalizing input with
  | nil => rfl
  | cons c cases ih => simp [run, ih]

theorem run_turnAt_cons (chosen : Nat → Bool) (c : Case) (cases : List Case) (input : Input γ) :
    run true (Case.turnAt chosen (c :: cases)) input =
      let later := run true (Case.turnAt (fun i => chosen (i + 1)) cases) (c.run true input).rest
      { results := ((if chosen 0 then c.turned else c).run true input).result :: later.results
        rest := later.rest } := by
  have hrest : ((if chosen 0 then c.turned else c).run true input).rest =
      (c.run true input).rest := by
    split
    · exact c.rest_turned input
    · rfl
  simp only [Case.turnAt, List.mapIdx_cons, run, hrest]

theorem rest_turnAt (chosen : Nat → Bool) (cases : List Case) (input : Input γ) :
    (run true (Case.turnAt chosen cases) input).rest = (run true cases input).rest := by
  induction cases generalizing chosen input with
  | nil => rfl
  | cons c cases ih =>
    rw [run_turnAt_cons]
    exact ih _ _

theorem results_turnAt (chosen : Nat → Bool) (cases : List Case) (input : Input γ) {i : Nat}
    {c : Case} (hi : cases[i]? = some c) :
    ∃ own other, (run true cases input).results[i]? = some own ∧
      (run true (Case.turnAt chosen cases) input).results[i]? = some other ∧
      if chosen i then c.Counterparts own other else other = own := by
  induction cases generalizing chosen input i with
  | nil => simp at hi
  | cons b cases ih =>
    rw [run_turnAt_cons]
    cases i with
    | zero =>
      obtain rfl : b = c := by simpa using hi
      refine ⟨_, _, rfl, rfl, ?_⟩
      split
      · exact b.counterparts_turned input
      · rfl
    | succ i => exact ih (fun i => chosen (i + 1)) (b.run true input).rest (by simpa using hi)

/-- Any cases of a session may take the other route: the input that is left and the results of the
other cases are the same. -/
theorem run_turnAt (chosen : Nat → Bool) (cases : List Case) (input : Input γ) :
    (run true (Case.turnAt chosen cases) input).rest = (run true cases input).rest ∧
      (run true cases input).results.length = cases.length ∧
      (run true (Case.turnAt chosen cases) input).results.length = cases.length ∧
      ∀ i : Fin cases.length, ∃ own other,
        (run true cases input).results[i.val]? = some own ∧
        (run true (Case.turnAt chosen cases) input).results[i.val]? = some other ∧
        if chosen i then cases[i].Counterparts own other else other = own := by
  refine ⟨rest_turnAt chosen cases input, length_results true cases input, ?_, ?_⟩
  · rw [length_results, Case.turnAt, List.length_mapIdx]
  · intro i
    exact results_turnAt chosen cases input (by simp)

end Session

end GuardedDivision
