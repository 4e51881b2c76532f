import GuardedDivision.Proofs.Catching
import GuardedDivision.Proofs.FloatDivision

namespace GuardedDivision

def Denominator.Equals : Denominator → Int32 → Prop
  | .int d, v => d = v
  | .float x, v => x.IsWhole v.toInt

def Source.number? (word : UInt32) : Source → Option Int32
  | .zero => some 0
  | .fixed v => some v
  | .random => some word.toInt32
  | .console => none

structure Outcome.Guards (o : Operation) (n d : Int32) (outcome : Outcome) : Prop where
  zeroDivisor : outcome = .refused .zeroDivisor ↔ d = 0
  overflow : (∃ m symbol e, outcome = .refused (.overflow m symbol e)) ↔ Overflows n d
  own (m : Int32) (symbol : Char) (e : Int32) :
    outcome = .refused (.overflow m symbol e) → m = n ∧ symbol = o.symbol ∧ e = d

structure Outcome.Faults (o : Operation) (n d : Int32) (outcome : Outcome) : Prop where
  faulted : (∃ message, outcome = .faulted message) ↔ d = 0 ∨ Overflows n d
  zeroDivisor : d = 0 → outcome = .faulted o.zeroText.toList
  overflow : Overflows n d → outcome = .faulted o.overflowText.toList

/-- Whether a report can be on a case, where the random word that is next is given. -/
structure Report.Accords (r : Report) (c : Case) (word : UInt32) : Prop where
  subject : r.subject = c
  int : (∃ d, r.denominator = .int d) ↔ c.operation = .divide ∨ c.operation = .modulo
  float : (∃ x, r.denominator = .float x) ↔ c.operation = .float
  number (v : Int32) : c.source.number? word = some v → r.denominator.Equals v
  refused (refusal : Refusal) : r.outcome = .refused refusal → c.route = .guarded
  faulted (message : List Char) : r.outcome = .faulted message →
    c.route = .unguarded ∧ ∃ d, r.denominator = .int d
  guardedInt (d : Int32) : c.route = .guarded → r.denominator = .int d →
    r.outcome.Guards c.operation c.numerator d
  guardedFloat (x : Binary64) (m : Int32) (symbol : Char) (e : Int32) : c.route = .guarded →
    r.denominator = .float x → r.outcome ≠ .refused (.overflow m symbol e)
  unguardedInt (d : Int32) : c.route = .unguarded → r.denominator = .int d →
    r.outcome.Faults c.operation c.numerator d

namespace Case

variable {c : Case}

theorem guards_outcome (hc : c.route = .guarded) (d : Int32) :
    (c.outcome (.int d)).Guards c.operation c.numerator d := by
  rw [outcome_guarded_int c hc]
  by_cases hz : d = 0
  · subst hz
    have ho : ¬Overflows c.numerator 0 := fun h => h.ne_zero rfl
    constructor <;> simp [ho]
  · by_cases ho : Overflows c.numerator d
    · simp only [hz, ho, ↓reduceIte]
      constructor <;> simp +contextual [hz, ho, eq_comm]
    · simp only [hz, ho, ↓reduceIte]
      constructor <;> simp [hz, ho]

theorem faults_outcome (hc : c.route = .unguarded) (d : Int32) :
    (c.outcome (.int d)).Faults c.operation c.numerator d := by
  rw [outcome_unguarded_int c hc, Operation.message_zeroFault, Operation.message_overflowFault]
  by_cases hz : d = 0
  · subst hz
    have ho : ¬Overflows c.numerator 0 := fun h => h.ne_zero rfl
    constructor <;> simp [ho]
  · by_cases ho : Overflows c.numerator d <;> constructor <;> simp [hz, ho]

theorem route_of_refused {d : Denominator} {refusal : Refusal}
    (h : c.outcome d = .refused refusal) : c.route = .guarded := by
  unfold outcome at h
  cases hc : c.route with
  | guarded => rfl
  | unguarded =>
    rw [hc] at h
    cases hu : c.unguardedResult d with
    | ok value => simp [hu] at h
    | error fault => simp [hu] at h

theorem route_of_faulted {d : Denominator} {message : List Char}
    (h : c.outcome d = .faulted message) : c.route = .unguarded ∧ ∃ n, d = .int n := by
  unfold outcome at h
  cases hc : c.route with
  | guarded =>
    rw [hc] at h
    cases hg : c.guardedResult d with
    | ok value => simp [hg] at h
    | error refusal => simp [hg] at h
  | unguarded =>
    cases d with
    | int n => exact ⟨rfl, n, rfl⟩
    | float x =>
      rw [hc] at h
      exact nomatch h

variable {γ : Type} [WordSource γ] {input : Input γ}

theorem equals_readDenominator {d : Denominator} {v : Int32}
    (hd : (c.readDenominator input).1 = .ok d)
    (hv : c.source.number? (WordSource.next input.words).1 = some v) : d.Equals v := by
  have hread {α : Type} (ofInt32 : Int32 → α) (ofText? : List Char → Option α) :
      (c.source.read ofInt32 ofText? input).1 = .ok (ofInt32 v) := by
    cases hs : c.source with
    | zero | fixed n | random =>
      rw [hs] at hv
      rw [← Option.some.inj hv]
      rfl
    | console =>
      rw [hs] at hv
      exact nomatch hv
  unfold readDenominator at hd
  cases ho : c.operation with
  | divide | modulo =>
    simp only [ho, Source.readInt, hread, Except.map, Except.ok.injEq] at hd
    rw [← hd]
    rfl
  | float =>
    simp only [ho, Source.readFloat, hread, Except.map, Except.ok.injEq] at hd
    rw [← hd]
    exact Binary64.isWhole_ofInt32 v

theorem accords {catchFaults : Bool} {r : Report}
    (h : (c.run catchFaults input).result = .reported r) :
    r.Accords c (WordSource.next input.words).1 := by
  rw [run_result] at h
  cases hd : (c.readDenominator input).1 with
  | error failure =>
    rw [hd] at h
    exact nomatch h
  | ok d =>
    rw [hd] at h
    obtain rfl := eq_of_result_reported h
    have hkind := c.readDenominator_kind input hd
    constructor
    case subject => rfl
    case int =>
      obtain ⟨ho, n, rfl⟩ | ⟨ho, x, rfl⟩ := hkind
      · cases hop : c.operation <;> simp_all
      · simp [ho]
    case float =>
      obtain ⟨ho, n, rfl⟩ | ⟨ho, x, rfl⟩ := hkind <;> simp [ho]
    case number => exact fun v => equals_readDenominator hd
    case refused => exact fun refusal => route_of_refused
    case faulted => exact fun message => route_of_faulted
    case guardedInt =>
      rintro n hc rfl
      exact guards_outcome hc n
    case guardedFloat =>
      rintro x m symbol e hc rfl
      rw [outcome_guarded_float c hc]
      split <;> simp
    case unguardedInt =>
      rintro n hc rfl
      exact faults_outcome hc n

theorem guarded_result {catchFaults : Bool} (hc : c.route = .guarded) :
    (∀ fault, (c.run catchFaults input).result ≠ .stopped fault) ∧
      ∀ r, (c.run catchFaults input).result = .reported r → r.isFault = false := by
  constructor
  · intro fault h
    rw [run_result] at h
    cases hd : (c.readDenominator input).1 with
    | error failure =>
      rw [hd] at h
      exact nomatch h
    | ok d =>
      rw [hd] at h
      obtain hr | ⟨hroute, -⟩ := c.result_cases catchFaults d
      · exact nomatch hr.symm.trans h
      · exact nomatch hc.symm.trans hroute
  · intro r h
    rw [Bool.eq_false_iff]
    intro hfault
    obtain ⟨message, hmessage⟩ := r.isFault_eq_true_iff.mp hfault
    have hroute := ((accords h).faulted message hmessage).1
    exact nomatch hc.symm.trans hroute

end Case

namespace Session

variable {γ : Type} [WordSource γ] {catchFaults : Bool} {cases : List Case} {input : Input γ}
  {i : Nat}

theorem exists_case_of_result {result : Result}
    (h : (run catchFaults cases input).results[i]? = some result) :
    ∃ (c : Case) (here : Input γ), cases[i]? = some c ∧ (c.run catchFaults here).result = result ∧
      (WordSource.next here.words).1 =
        WordSource.word input.words (Case.wordCount (cases.take i)) := by
  rw [results_run, List.getElem?_mapIdx, Option.map_eq_some_iff] at h
  obtain ⟨c, hc, hresult⟩ := h
  exact ⟨c, _, hc, hresult, rfl⟩

/-- Every report of a session accords with its case and with the random word that is next there.
Behind the guard no case faults or stops. -/
theorem reports_accord (cases : List Case) (input : Input γ) (i : Nat) :
    (∀ r, (run true cases input).results[i]? = some (.reported r) →
      ∃ c, cases[i]? = some c ∧
        r.Accords c (WordSource.word input.words (Case.wordCount (cases.take i)))) ∧
    ∀ (catchFaults : Bool) (c : Case) (result : Result), cases[i]? = some c →
      c.route = .guarded → (run catchFaults cases input).results[i]? = some result →
        (∀ fault, result ≠ .stopped fault) ∧ ∀ r, result = .reported r → r.isFault = false := by
  constructor
  · intro r h
    obtain ⟨c, here, hc, hresult, hword⟩ := exists_case_of_result h
    exact ⟨c, hc, hword ▸ c.accords hresult⟩
  · intro catchFaults c result hc hroute h
    obtain ⟨c', here, hc', rfl, -⟩ := exists_case_of_result h
    obtain rfl := Option.some.inj (hc.symm.trans hc')
    exact c.guarded_result hroute

theorem reports_accord_least :
    let cases : List Case := [⟨Int32.minValue, .random, .modulo, .unguarded⟩]
    let input : Input WordCycle := { unread := [], words := { words := [0xFFFFFFFF] } }
    ∃ r, (run true cases input).results[0]? = some (.reported r) ∧
      r.outcome = .faulted "attempt to calculate the remainder with overflow".toList := by
  intro cases input
  let r : Report := ⟨⟨Int32.minValue, .random, .modulo, .unguarded⟩, .int (-1),
    .faulted Fault.remainderOverflow.message⟩
  have hr : (run true cases input).results[0]? = some (.reported r) := by decide +kernel
  obtain ⟨c, hc, haccords⟩ := (reports_accord cases input 0).1 r hr
  obtain rfl := Option.some.inj hc
  exact ⟨r, hr, (haccords.unguardedInt (-1) rfl rfl).overflow ⟨rfl, rfl⟩⟩

end Session

end GuardedDivision
