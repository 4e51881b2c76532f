import GuardedDivision.Program
import GuardedDivision.Proofs.Run

namespace GuardedDivision

namespace Case

variable {γ : Type} [WordSource γ]

def Faults (c : Case) (input : Input γ) : Prop :=
  c.route = .unguarded ∧ c.operation ≠ .float ∧
    ∃ d, (c.source.readInt input).1 = .ok d ∧ (d = 0 ∨ Overflows c.numerator d)

theorem unguardedResult_int_eq_error_iff (c : Case) (d : Int32) :
    (∃ fault, c.unguardedResult (.int d) = .error fault) ↔ d = 0 ∨ Overflows c.numerator d := by
  rw [unguardedResult_int]
  by_cases hz : d = 0
  · simp [hz]
  · by_cases ho : Overflows c.numerator d <;> simp [hz, ho]

theorem readDenominator_eq_int_iff (c : Case) (input : Input γ) (d : Int32) :
    (c.readDenominator input).1 = .ok (.int d) ↔
      c.operation ≠ .float ∧ (c.source.readInt input).1 = .ok d := by
  unfold readDenominator
  cases c.operation with
  | divide | modulo => cases h : (c.source.readInt input).1 <;> simp [h, Except.map]
  | float => cases h : (c.source.readFloat input).1 <;> simp [h, Except.map]

/-- A fault that is not caught stops a case, and nothing else does. -/
theorem run_stopped_iff (c : Case) (catchFaults : Bool) (input : Input γ) :
    (∃ fault, (c.run catchFaults input).result = .stopped fault) ↔
      catchFaults = false ∧ c.Faults input := by
  rw [run_result]
  constructor
  · rintro ⟨fault, h⟩
    cases hd : (c.readDenominator input).1 with
    | error failure =>
      rw [hd] at h
      exact nomatch h
    | ok d =>
      rw [hd] at h
      obtain hr | ⟨hroute, cause, hcause, -⟩ := c.result_cases catchFaults d
      · exact nomatch hr.symm.trans h
      · refine ⟨?_, hroute, ?_⟩
        · cases catchFaults with
          | false => rfl
          | true => exact nomatch (c.result_caught d).symm.trans h
        · obtain ⟨ho, n, rfl⟩ | ⟨-, x, rfl⟩ := c.readDenominator_kind input hd
          · have hread := (c.readDenominator_eq_int_iff input n).mp hd
            exact ⟨ho, n, hread.2, (c.unguardedResult_int_eq_error_iff n).mp ⟨cause, hcause⟩⟩
          · exact nomatch hcause
  · rintro ⟨rfl, hroute, ho, d, hd, hzero⟩
    obtain ⟨fault, hfault⟩ := (c.unguardedResult_int_eq_error_iff d).mpr hzero
    refine ⟨fault, ?_⟩
    rw [(c.readDenominator_eq_int_iff input d).mpr ⟨ho, hd⟩]
    simp only [result, hroute, hfault]
    rfl

end Case

namespace Run

variable {γ : Type} [WordSource γ]

theorem ending_single (catchFaults : Bool) (c : Case) (input : Input γ) :
    (ofCases catchFaults none [c] input).ending =
      match (c.run catchFaults input).result with
      | .reported r => .complete [r]
      | .unread failure => .unread failure
      | .stopped fault => .stopped fault := by
  cases h : (c.run catchFaults input).result with
  | reported r => rw [ending_of_reported h rfl, ofCases, Ending.after]
  | unread failure => exact ending_of_unread h []
  | stopped fault => exact ending_of_stopped h []

def demonstrated (numerator : Int32) : List Report :=
  (Case.demonstration numerator).map fun c =>
    { subject := c, denominator := .int 0, outcome := c.outcome (.int 0) }

theorem ending_demonstration (s : Settings) (freshSeed : UInt64) (console : Bytes) :
    (demonstration s freshSeed none console).ending =
      if s.catchFaults then .complete (demonstrated s.numerator)
      else .stopped .divisionByZero := by
  rw [demonstration, Case.demonstration]
  dsimp only
  cases s.catchFaults with
  | true =>
    rw [ending_of_reported rfl rfl, ending_of_reported rfl rfl, ofCases]
    rfl
  | false =>
    rw [ending_of_reported rfl rfl, ending_of_stopped rfl]
    rfl

end Run

namespace Program

/-- The settings in force: those of the file that is named, or else those that are found, for which
the defaults stand in if they cannot be read. -/
def settings (env : Environment) (line : CommandLine) : Except LoadFailure Settings :=
  match line.config? with
  | some path => Settings.ofPath env.tree env.working path
  | none => match Settings.discover env.tree env.working env.home with
    | .ok s => .ok s
    | .error _ => .ok {}

/-- The run that a command line asks for, with room for all it writes. -/
def asked (env : Environment) (line : CommandLine) (s : Settings) : Run ChaCha :=
  if line.level = .single then
    Run.single s env.freshSeed none (line.subject s) env.console
  else Run.demonstration s env.freshSeed none env.console

/-- The fault of the demonstration is what it shows, and counts as a success; a single case that is
a fault does not. -/
inductive Follows : CommandLine.Level → Ending → Verdict → Nat → Prop
  | demonstrated {level : CommandLine.Level} (reports : List Report) :
    level ≠ .single → Follows level (.complete reports) .success 0
  | value {r : Report} {v : Int32} :
    r.outcome = .value v → Follows .single (.complete [r]) .success 0
  | refused {r : Report} {refusal : Refusal} :
    r.outcome = .refused refusal → Follows .single (.complete [r]) .success 0
  | faulted {r : Report} {message : List Char} :
    r.outcome = .faulted message → Follows .single (.complete [r]) .faultReported 1
  | unread {level : CommandLine.Level} (failure : ReadFailure) :
    Follows level (.unread failure) (.failed (.unread failure)) 1
  | stopped {level : CommandLine.Level} (fault : Fault) :
    Follows level (.stopped fault) (.aborted (.uncaught fault)) 101

theorem load_eq_settings (env : Environment) (line : CommandLine) :
    (load env line).1 = settings env line := by
  unfold load settings
  cases line.config? with
  | some path =>
    dsimp only [loadNamed]
    cases Settings.ofPath env.tree env.working path <;> rfl
  | none =>
    dsimp only [loadFound, Settings.discover]
    cases Settings.discovered? env.tree env.working env.home with
    | none => rfl
    | some path =>
      dsimp only
      cases Settings.ofPath env.tree env.working path <;> rfl

theorem execute_of_unloaded {env : Environment} {line : CommandLine} {failure : LoadFailure}
    (hprinting : line.printing? ≠ some .default) (h : settings env line = .error failure) :
    execute env line =
      { verdict := .failed (.settings failure), output := [], events := (load env line).2 } := by
  have hload : load env line = (.error failure, (load env line).2) :=
    Prod.ext ((load_eq_settings env line).trans h) rfl
  rw [execute, if_neg hprinting, hload]

theorem execute_of_error {env : Environment} {line : CommandLine} {failure : LoadFailure}
    (hprinting : line.printing? = none) (h : settings env line = .error failure) :
    (execute env line).verdict = .failed (.settings failure) ∧
      (execute env line).output = [] := by
  have hdefault : line.printing? ≠ some .default := by
    rw [hprinting]
    exact nofun
  rw [execute_of_unloaded hdefault h]
  exact ⟨rfl, rfl⟩

theorem execute_of_ok {env : Environment} {line : CommandLine} {s : Settings}
    (hprinting : line.printing? = none) (h : settings env line = .ok s) :
    (execute env line).verdict =
        verdict (decide (line.level = .single)) (asked env line s).ending ∧
      (execute env line).output = (asked env line s).output := by
  have hload : load env line = (.ok s, (load env line).2) :=
    Prod.ext ((load_eq_settings env line).trans h) rfl
  rw [execute, hprinting, if_neg (by decide), hload]
  dsimp only
  rw [perform, hprinting, if_neg (by decide), asked]
  by_cases hlevel : line.level = .single
  · rw [if_pos hlevel, if_pos hlevel, decide_eq_true hlevel]
    exact ⟨rfl, rfl⟩
  · rw [if_neg hlevel, if_neg hlevel, decide_eq_false hlevel]
    exact ⟨rfl, rfl⟩

theorem follows_report (r : Report) : Follows .single (.complete [r])
    (verdict true (.complete [r])) (verdict true (.complete [r])).exitStatus := by
  have hverdict : verdict true (.complete [r]) =
      if r.isFault then .faultReported else .success := by
    simp [verdict]
  rw [hverdict, Report.isFault]
  cases ho : r.outcome with
  | value v => exact .value ho
  | refused refusal => exact .refused ho
  | faulted message => exact .faulted ho

theorem follows_verdict (env : Environment) (line : CommandLine) (s : Settings) :
    let ending := (asked env line s).ending
    Follows line.level ending (verdict (decide (line.level = .single)) ending)
      (verdict (decide (line.level = .single)) ending).exitStatus := by
  intro ending
  have hending : ending = (asked env line s).ending := rfl
  by_cases hlevel : line.level = .single
  · rw [asked, if_pos hlevel, Run.single, Run.ending_single] at hending
    rw [hending, decide_eq_true hlevel, hlevel]
    cases ((line.subject s).run s.catchFaults (s.input env.freshSeed env.console)).result with
    | reported r => exact follows_report r
    | unread failure => exact .unread failure
    | stopped fault => exact .stopped fault
  · rw [asked, if_neg hlevel, Run.ending_demonstration] at hending
    rw [hending, decide_eq_false hlevel]
    cases s.catchFaults with
    | true => exact .demonstrated _ hlevel
    | false => exact .stopped .divisionByZero

theorem exitStatus_verdict_eq_iff (faultsCount : Bool) (ending : Ending) :
    (verdict faultsCount ending).exitStatus = 101 ↔ ∃ fault, ending = .stopped fault := by
  cases ending with
  | complete reports =>
    rw [verdict]
    split <;> simp [Verdict.exitStatus]
  | unread failure => simp [verdict, Verdict.exitStatus]
  | outputFull => simp [verdict, Verdict.exitStatus]
  | stopped fault => simp [verdict, Verdict.exitStatus]

theorem asked_stopped_iff (env : Environment) (line : CommandLine) (s : Settings) :
    (∃ fault, (asked env line s).ending = .stopped fault) ↔ s.catchFaults = false ∧
      (line.level ≠ .single ∨
        (line.subject s).Faults (s.input env.freshSeed env.console)) := by
  rw [asked]
  by_cases hlevel : line.level = .single
  · rw [if_pos hlevel, Run.single, Run.ending_single]
    have hstopped := (line.subject s).run_stopped_iff s.catchFaults
      (s.input env.freshSeed env.console)
    simp only [hlevel, ne_eq, not_true_eq_false, false_or, ← hstopped]
    cases ((line.subject s).run s.catchFaults (s.input env.freshSeed env.console)).result <;> simp
  · rw [if_neg hlevel, Run.ending_demonstration]
    cases s.catchFaults <;> simp [hlevel]

/-- A log filter that is cut, or a file that is named and cannot be used, ends the program before
any case. Else verdict and exit status follow from the end of the run. -/
theorem run_command {env : Environment} {line : CommandLine}
    (hread : CommandLine.read? env.arguments = some (.command line))
    (hprinting : line.printing? = none) :
    (∀ cut, filter env line = .error cut →
      (run env).verdict = .aborted (.brokenFilter cut) ∧ (run env).verdict.exitStatus = 101 ∧
        (run env).output = []) ∧
    ∀ shown, filter env line = .ok shown →
      (∀ failure, settings env line = .error failure →
        (run env).verdict = .failed (.settings failure) ∧ (run env).verdict.exitStatus = 1 ∧
          (run env).output = []) ∧
      ∀ s, settings env line = .ok s →
        (run env).output = (asked env line s).output ∧
        Follows line.level (asked env line s).ending (run env).verdict
          (run env).verdict.exitStatus ∧
        ((run env).verdict.exitStatus = 101 ↔ s.catchFaults = false ∧
          (line.level ≠ .single ∨
            (line.subject s).Faults (s.input env.freshSeed env.console))) := by
  constructor
  · intro cut hcut
    rw [run, hread]
    dsimp only
    rw [hcut]
    exact ⟨rfl, rfl, rfl⟩
  · intro shown hshown
    have hverdict : (run env).verdict = (execute env line).verdict := by
      rw [run, hread]
      dsimp only
      rw [hshown]
    have houtput : (run env).output = (execute env line).output := by
      rw [run, hread]
      dsimp only
      rw [hshown]
    rw [hverdict, houtput]
    constructor
    · intro failure hfailure
      obtain ⟨hverdict, houtput⟩ := execute_of_error hprinting hfailure
      exact ⟨hverdict, congrArg Verdict.exitStatus hverdict, houtput⟩
    · intro s hs
      obtain ⟨hverdict, houtput⟩ := execute_of_ok hprinting hs
      rw [hverdict]
      refine ⟨houtput, follows_verdict env line s, ?_⟩
      rw [exitStatus_verdict_eq_iff, asked_stopped_iff]

def uncaught : Environment where
  arguments := ["--config=c.toml", "run", "--path", "unguarded"]
  logFilter := none
  tree := [("work", .directory [("c.toml", .file (Utf8.encode "catch_faults = false\n".toList))])]
  working := ["work"]
  home := "/home"
  console := []
  freshSeed := 0

theorem run_command_uncaught : (run uncaught).verdict.exitStatus = 101 := by
  have hread : CommandLine.read? uncaught.arguments = some (.command
      { top := [.config "c.toml"], level := .single, own := [.path .unguarded] }) := by
    decide +kernel
  have hsettings : settings uncaught
      { top := [.config "c.toml"], level := .single, own := [.path .unguarded] } =
        .ok { catchFaults := false } := by
    decide +kernel
  refine (((run_command hread rfl).2 _ rfl).2 _ hsettings).2.2.mpr ⟨rfl, .inr ?_⟩
  exact ⟨rfl, nofun, 0, rfl, .inl rfl⟩

def cutFilter : Environment where
  arguments := ["-q"]
  logFilter := some "\u3000a=debug"
  tree := []
  working := ["work"]
  home := "/home"
  console := []
  freshSeed := 0

/-- Not every stop is a fault that nobody catches. -/
theorem stop_without_fault : ¬∀ (env : Environment) (line : CommandLine) (s : Settings),
    CommandLine.read? env.arguments = some (.command line) → line.printing? = none →
    settings env line = .ok s →
      ((run env).verdict.exitStatus = 101 ↔ s.catchFaults = false ∧
        (line.level ≠ .single ∨
          (line.subject s).Faults (s.input env.freshSeed env.console))) := by
  intro h
  have hread : CommandLine.read? cutFilter.arguments = some (.command
      { top := [.flag .quiet], level := .demonstration, own := [] }) := by
    decide +kernel
  have hsettings : settings cutFilter
      { top := [.flag .quiet], level := .demonstration, own := [] } = .ok {} := by
    decide +kernel
  have hstatus : (run cutFilter).verdict.exitStatus = 101 := by decide +kernel
  exact absurd ((h _ _ _ hread rfl hsettings).mp hstatus).1 (by decide)

end Program

end GuardedDivision
