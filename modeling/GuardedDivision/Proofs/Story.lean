import GuardedDivision.Proofs.Fallback
import Mathlib.Data.List.Forall2
import Mathlib.Data.List.Infix

namespace GuardedDivision

/-- The events of a case, by what reading its denominator gives and what comes of it. -/
inductive Case.Told (c : Case) : Except ReadFailure Denominator → Result → List Log.Event → Prop
  | unread (failure : ReadFailure) : Told c (.error failure) (.unread failure) []
  | value {running : Log.Event} (d : Denominator) (v : Int32) :
    running.TellsCase c d → Told c (.ok d) (.reported ⟨c, d, .value v⟩) [running]
  | refused {running : Log.Event} (d : Denominator) (refusal : Refusal) :
    running.TellsCase c d → Told c (.ok d) (.reported ⟨c, d, .refused refusal⟩) [running]
  | faulted {running fault : Log.Event} (d : Denominator) (message : List Char) :
    running.TellsCase c d → fault.TellsFault message c.numerator d →
      Told c (.ok d) (.reported ⟨c, d, .faulted message⟩) [running, fault]
  | stopped {running : Log.Event} (d : Denominator) (fault : Fault) :
    running.TellsCase c d → Told c (.ok d) (.stopped fault) [running]

/-- A warning that a fault gives, and the line of the output that reports the same fault. -/
inductive SameFault : Log.Event → Bytes → Prop
  | intro {fault : Log.Event} (numerator : Int32) (operation : Operation)
      (denominator : Denominator) (message : List Char) :
    fault.TellsFault message numerator denominator →
      SameFault fault (Utf8.encode (Numeral.ofInt numerator.toInt ++
        operation.symbol :: denominator.text ++ " faulted: ".toList ++ message ++ ['\n']))

def saysFaulted (line : Bytes) : Bool := decide (Utf8.encode "faulted:".toList <:+: line)

namespace Log.Event

def warnsOfCase (e : Event) : Bool :=
  decide (e.level = .warn) && e.target == "divguard_core::case"

variable {e : Event} {c : Case} {d : Denominator} {message : List Char} {numerator : Int32}

theorem TellsCase.not_warnsOfCase (h : e.TellsCase c d) : ¬e.warnsOfCase = true := by
  obtain ⟨_, _, _, _, hevent⟩ := h
  rw [warnsOfCase, hevent.level_eq, hevent.target_eq]
  decide

theorem TellsFault.warnsOfCase (h : e.TellsFault message numerator d) : e.warnsOfCase = true := by
  rw [Event.warnsOfCase, h.level_eq, h.target_eq]
  decide

end Log.Event

namespace Case.Told

variable {c : Case} {reading : Except ReadFailure Denominator} {result : Result}
  {events : List Log.Event} {r : Report}

theorem target_eq (h : c.Told reading result events) :
    ∀ e ∈ events, e.target = "divguard_core::case" := by
  cases h with
  | unread => exact nofun
  | faulted _ _ hcase hfault =>
    exact List.forall_mem_cons.mpr
      ⟨hcase.target_eq, List.forall_mem_singleton.mpr hfault.target_eq⟩
  | value _ _ hcase | refused _ _ hcase | stopped _ _ hcase =>
    exact List.forall_mem_singleton.mpr hcase.target_eq

theorem filter_eq_nil (h : c.Told reading result events) (hnone : ∀ r, result ≠ .reported r) :
    events.filter Log.Event.warnsOfCase = [] := by
  cases h with
  | unread => rfl
  | stopped _ _ hcase => rw [List.filter_cons_of_neg hcase.not_warnsOfCase, List.filter_nil]
  | value | refused | faulted => exact absurd rfl (hnone _)

theorem sameFaults (h : c.Told reading (.reported r) events)
    (hline : saysFaulted r.output = r.isFault) :
    List.Forall₂ SameFault (events.filter Log.Event.warnsOfCase)
      ([r.output].filter saysFaulted) := by
  rw [List.filter_singleton, hline]
  cases h with
  | value _ _ hcase | refused _ _ hcase =>
    rw [List.filter_cons_of_neg hcase.not_warnsOfCase]
    exact .nil
  | faulted d message hcase hfault =>
    rw [List.filter_cons_of_neg hcase.not_warnsOfCase, List.filter_cons_of_pos hfault.warnsOfCase]
    exact .cons (.intro c.numerator c.operation d message hfault) .nil

end Case.Told

variable {γ : Type} [WordSource γ]

theorem Case.told_run (c : Case) (catchFaults : Bool) (input : Input γ) :
    c.Told (c.readDenominator input).1 (c.run catchFaults input).result
      (c.run catchFaults input).events := by
  rw [run_events, run_result]
  cases (c.readDenominator input).1 with
  | error failure => exact .unread failure
  | ok d =>
    have hcase := Log.Event.tells_runningCase c d
    obtain hr | ⟨-, fault, -, hs⟩ := c.result_cases catchFaults d
    · dsimp only
      rw [hr]
      cases c.outcome d with
      | value v => exact .value d v hcase
      | refused refusal => exact .refused d refusal hcase
      | faulted message =>
        exact .faulted d message hcase (Log.Event.tells_faulted message c.numerator d)
    · dsimp only
      rw [hs]
      exact .stopped d fault hcase

/-- What is told of cases in turn, with the reports that are written: a case without a report is the
last. -/
inductive Story (catchFaults : Bool) :
    List Case → Input γ → List Log.Event → List Report → Prop
  | ended (input : Input γ) : Story catchFaults [] input [] []
  | last {c : Case} {cases : List Case} {input : Input γ} {result : Result}
      {events : List Log.Event} :
    (c.run catchFaults input).result = result → (∀ r, result ≠ .reported r) →
    c.Told (c.readDenominator input).1 result events →
      Story catchFaults (c :: cases) input events []
  | next {c : Case} {cases : List Case} {input : Input γ} {r : Report}
      {events later : List Log.Event} {reports : List Report} :
    (c.run catchFaults input).result = .reported r →
    c.Told (c.readDenominator input).1 (.reported r) events →
    Story catchFaults cases (c.run catchFaults input).rest later reports →
      Story catchFaults (c :: cases) input (events ++ later) (r :: reports)

theorem Run.story_ofCases (catchFaults : Bool) (cases : List Case) (input : Input γ) :
    Story catchFaults cases input (ofCases catchFaults none cases input).events
      (Result.leading (Session.run catchFaults cases input).results) := by
  induction cases generalizing input with
  | nil => exact .ended input
  | cons c cases ih =>
    have htold := c.told_run catchFaults input
    cases h : (c.run catchFaults input).result with
    | reported r =>
      rw [h] at htold
      have hfits : Room.taken none r.output = r.output := rfl
      rw [Session.leading_cons h, ofCases, h]
      simp only [hfits, ↓reduceIte]
      exact .next h htold (ih _)
    | unread failure =>
      rw [h] at htold
      rw [Session.leading_of_unread h, ofCases, h]
      exact .last h (by simp) htold
    | stopped fault =>
      rw [h] at htold
      rw [Session.leading_of_stopped h, ofCases, h]
      exact .last h (by simp) htold

theorem Run.lines_ofCases (catchFaults : Bool) (cases : List Case) (input : Input γ) :
    Console.lines (ofCases catchFaults none cases input).output =
      (Result.leading (Session.run catchFaults cases input).results).map Report.output := by
  rw [output_ofCases, Room.taken]
  exact Report.cut_lines fun r hr => Session.printable_line_of_mem (Result.mem_of_mem_leading hr)

namespace Story

variable {catchFaults : Bool} {cases : List Case} {input : Input γ} {events : List Log.Event}
  {reports : List Report}

theorem target_eq (h : Story catchFaults cases input events reports) :
    ∀ e ∈ events, e.target = "divguard_core::case" := by
  induction h with
  | ended => exact nofun
  | last _ _ h => exact h.target_eq
  | next _ h _ ih => exact List.forall_mem_append.mpr ⟨h.target_eq, ih⟩

theorem sameFaults (h : Story catchFaults cases input events reports)
    (hline : ∀ r ∈ reports, saysFaulted r.output = r.isFault) :
    List.Forall₂ SameFault (events.filter Log.Event.warnsOfCase)
      ((reports.map Report.output).filter saysFaulted) := by
  induction h with
  | ended => exact .nil
  | last _ hnone htold =>
    rw [htold.filter_eq_nil hnone]
    exact .nil
  | next _ htold _ ih =>
    obtain ⟨hr, hreports⟩ := List.forall_mem_cons.mp hline
    rw [List.filter_append, List.map_cons, ← List.singleton_append, List.filter_append]
    exact List.rel_append (htold.sameFaults hr) (ih hreports)

end Story

theorem Denominator.colon_not_mem_text (d : Denominator) : ':' ∉ d.text := by
  cases d with
  | int value => exact Numeral.not_mem_ofInt (by decide) (by decide) value.toInt
  | float value => exact fun hm => absurd (value.text_subset hm) (by decide)

theorem Case.eq_of_outcome_refused {c : Case} {d : Denominator} {refusal : Refusal}
    (h : c.outcome d = .refused refusal) : refusal = .zeroDivisor ∨
      ∃ n, d = .int n ∧ refusal = .overflow c.numerator c.operation.symbol n := by
  unfold outcome at h
  cases hroute : c.route with
  | guarded =>
    rw [hroute] at h
    cases hg : c.guardedResult d with
    | ok value => simp [hg] at h
    | error cause =>
      simp only [hg] at h
      exact eq_of_guardedResult_error (hg.trans (congrArg Except.error (Outcome.refused.inj h)))
  | unguarded =>
    rw [hroute] at h
    cases hu : c.unguardedResult d <;> simp [hu] at h

/-- Of the lines of cases only those of faults have a colon. -/
theorem Case.colon_not_mem_line {c : Case} {d : Denominator}
    (h : ∀ message, c.outcome d ≠ .faulted message) :
    ':' ∉ Report.line ⟨c, d, c.outcome d⟩ := by
  have hint (n : Int) : ':' ∉ Numeral.ofInt n := Numeral.not_mem_ofInt (by decide) (by decide) n
  have hsymbol : ':' ≠ c.operation.symbol := by cases c.operation <;> decide
  cases ho : c.outcome d with
  | value v =>
    have hdivision : ':' ∉ Report.division ⟨c, d, .value v⟩ :=
      List.not_mem_append (hint _) (List.not_mem_cons_of_ne_of_not_mem hsymbol
        d.colon_not_mem_text)
    have hequals : ':' ∉ " = ".toList := by decide
    change ':' ∉ Report.division ⟨c, d, .value v⟩ ++ " = ".toList ++ Numeral.ofInt v.toInt
    exact List.not_mem_append (List.not_mem_append hdivision hequals) (hint _)
  | refused refusal =>
    obtain rfl | ⟨n, -, rfl⟩ := Case.eq_of_outcome_refused ho
    · exact (by decide : ':' ∉ Refusal.message .zeroDivisor)
    · have hoverflow : ':' ∉ " would overflow".toList := by decide
      change ':' ∉ Numeral.ofInt c.numerator.toInt ++ c.operation.symbol :: Numeral.ofInt n.toInt ++
        " would overflow".toList
      exact List.not_mem_append (List.not_mem_append (hint _)
        (List.not_mem_cons_of_ne_of_not_mem hsymbol (hint _))) hoverflow
  | faulted message => exact absurd ho (h message)

theorem saysFaulted_append (before after : List Char) :
    saysFaulted (Utf8.encode (before ++ "faulted:".toList ++ after)) = true := by
  apply decide_eq_true
  rw [Utf8.encode_append, Utf8.encode_append]
  exact List.infix_append _ _ _

theorem saysFaulted_eq_false {text : List Char} (h : ':' ∉ text) :
    saysFaulted (Utf8.encode text) = false := by
  apply decide_eq_false
  intro hpart
  have hcolon : (0x3A : UInt8) ∈ Utf8.encode "faulted:".toList := by decide
  exact Utf8.not_mem_encode (by decide) h (hpart.subset hcolon)

theorem Case.saysFaulted_output (c : Case) (d : Denominator) :
    saysFaulted (Report.output ⟨c, d, c.outcome d⟩) = Report.isFault ⟨c, d, c.outcome d⟩ := by
  cases ho : c.outcome d with
  | value v | refused refusal =>
    have hcolon := c.colon_not_mem_line (d := d) (by rw [ho]; exact nofun)
    rw [ho] at hcolon
    have hnewline : ':' ∉ ['\n'] := by decide
    rw [Report.output, saysFaulted_eq_false (List.not_mem_append hcolon hnewline)]
    rfl
  | faulted message =>
    have hfaulted : " faulted: ".toList = ' ' :: "faulted:".toList ++ [' '] := by decide
    have hline := saysFaulted_append (Report.division ⟨c, d, .faulted message⟩ ++ [' '])
      (' ' :: message ++ ['\n'])
    simpa [Report.output, Report.line, Report.isFault, hfaulted] using hline

namespace Program

def cases (line : CommandLine) (s : Settings) : List Case :=
  if line.level = .single then [line.subject s] else Case.demonstration s.numerator

inductive Announced (line : CommandLine) : List Log.Event → Prop
  | single : line.level = .single → Announced line []
  | demonstration {start : Log.Event} : line.level ≠ .single → start.TellsDemonstration →
    Announced line [start]

/-- What is told of the settings, with what is loaded. -/
inductive Opening (env : Environment) (line : CommandLine) :
    Except LoadFailure Settings → List Log.Event → Prop
  | named {path : String} {s : Settings} {loading loaded : Log.Event} :
    line.config? = some path → Settings.ofPath env.tree env.working path = .ok s →
    loading.TellsLoading path → loaded.TellsLoaded path →
      Opening env line (.ok s) [loading, loaded]
  | namedUnusable {path : String} {failure : LoadFailure} {loading : Log.Event} :
    line.config? = some path → Settings.ofPath env.tree env.working path = .error failure →
    loading.TellsLoading path → Opening env line (.error failure) [loading]
  | found {path : String} {s : Settings} {loaded : Log.Event} : line.config? = none →
    Settings.discovered? env.tree env.working env.home = some path →
    Settings.ofPath env.tree env.working path = .ok s → loaded.TellsLoaded path →
      Opening env line (.ok s) [loaded]
  | foundUnusable {path : String} {failure : LoadFailure} {usingDefaults : Log.Event} :
    line.config? = none → Settings.discovered? env.tree env.working env.home = some path →
    Settings.ofPath env.tree env.working path = .error failure →
    usingDefaults.TellsDefaults failure → Opening env line (.ok {}) [usingDefaults]
  | absent : line.config? = none →
    Settings.discovered? env.tree env.working env.home = none → Opening env line (.ok {}) []

variable {env : Environment} {line : CommandLine}

open Log.Event in
theorem opening_load (env : Environment) (line : CommandLine) :
    Opening env line (load env line).1 (load env line).2 := by
  rw [load]
  cases hconfig : line.config? with
  | some path =>
    dsimp only [loadNamed]
    cases hfile : Settings.ofPath env.tree env.working path with
    | ok s => exact .named hconfig hfile (tells_loading path) (tells_loaded path)
    | error failure => exact .namedUnusable hconfig hfile (tells_loading path)
  | none =>
    dsimp only [loadFound]
    cases hfound : Settings.discovered? env.tree env.working env.home with
    | none => exact .absent hconfig hfound
    | some path =>
      dsimp only
      cases hfile : Settings.ofPath env.tree env.working path with
      | ok s => exact .found hconfig hfound hfile (tells_loaded path)
      | error failure => exact .foundUnusable hconfig hfound hfile (tells_usingDefaults failure)

theorem announced_asked (env : Environment) (line : CommandLine) (s : Settings) :
    let run := Run.ofCases s.catchFaults none (cases line s) (s.input env.freshSeed env.console)
    ∃ announcement, Announced line announcement ∧
      (asked env line s).events = announcement ++ run.events ∧
      (asked env line s).output = run.output := by
  rw [asked, cases]
  by_cases hlevel : line.level = .single
  · rw [if_pos hlevel, if_pos hlevel]
    exact ⟨_, .single hlevel, rfl, rfl⟩
  · rw [if_neg hlevel, if_neg hlevel]
    exact ⟨_, .demonstration hlevel Log.Event.tells_runningDemonstration, rfl, rfl⟩

theorem Announced.target_ne {events : List Log.Event} (h : Announced line events) :
    ∀ e ∈ events, e.target ≠ "divguard_core::case" := by
  cases h with
  | single => exact nofun
  | demonstration _ hstart =>
    exact List.forall_mem_singleton.mpr (ne_of_eq_of_ne hstart.target_eq (by decide))

theorem Opening.target_ne {result : Except LoadFailure Settings} {events : List Log.Event}
    (h : Opening env line result events) : ∀ e ∈ events, e.target ≠ "divguard_core::case" := by
  cases h with
  | named _ _ hloading hloaded =>
    refine List.forall_mem_cons.mpr ⟨ne_of_eq_of_ne hloading.target_eq (by decide), ?_⟩
    exact List.forall_mem_singleton.mpr (ne_of_eq_of_ne hloaded.target_eq (by decide))
  | namedUnusable _ _ hevent | found _ _ _ hevent | foundUnusable _ _ _ hevent =>
    exact List.forall_mem_singleton.mpr (ne_of_eq_of_ne hevent.target_eq (by decide))
  | absent => exact nofun

theorem events_perform {s : Settings} (hprinting : line.printing? = none) :
    (perform env line s).events = (asked env line s).events := by
  rw [perform, asked, hprinting, if_neg (by decide)]
  split <;> rfl

theorem filter_append_of_target_ne {before told : List Log.Event} {keeps : Log.Event → Bool}
    (hbefore : ∀ e ∈ before, e.target ≠ "divguard_core::case")
    (hkeeps : ∀ e, keeps e = true → e.target = "divguard_core::case") :
    (before ++ told).filter keeps = told.filter keeps := by
  have hnone : before.filter keeps = [] :=
    List.filter_eq_nil_iff.mpr fun e he hkept => hbefore e he (hkeeps e hkept)
  rw [List.filter_append, hnone, List.nil_append]

theorem target_eq_of_warnsOfCase {e : Log.Event} (h : e.warnsOfCase = true) :
    e.target = "divguard_core::case" := by
  rw [Log.Event.warnsOfCase, Bool.and_eq_true] at h
  exact beq_iff_eq.mp h.2

theorem saysFaulted_output_of_mem {γ : Type} [WordSource γ] {catchFaults : Bool}
    {cases : List Case} {input : Input γ} {r : Report}
    (h : r ∈ Result.leading (Session.run catchFaults cases input).results) :
    saysFaulted r.output = r.isFault := by
  obtain ⟨c, -, d, rfl⟩ := Session.exists_outcome (Result.mem_of_mem_leading h)
  exact c.saysFaulted_output d

/-- With all events let through, the log opens with where the settings are from, and then the cases
tell their story, which is that of the reports that are written. -/
theorem run_story (hread : CommandLine.read? env.arguments = some (.command line))
    (hprinting : line.printing? = none) (htrace : env.logFilter = some "trace") :
    (∃ result opening, Opening env line result opening ∧
      match result with
      | .error _ => (run env).events = opening ∧ (run env).output = []
      | .ok s => ∃ announcement told reports, Announced line announcement ∧
        (run env).events = opening ++ announcement ++ told ∧
        (run env).events.filter (fun e => e.target == "divguard_core::case") = told ∧
        Story s.catchFaults (cases line s) (s.input env.freshSeed env.console) told reports ∧
        Console.lines (run env).output = reports.map Report.output) ∧
    List.Forall₂ SameFault ((run env).events.filter Log.Event.warnsOfCase)
      ((Console.lines (run env).output).filter saysFaulted) := by
  have hdefault : line.printing? ≠ some .default := by
    rw [hprinting]
    exact nofun
  have hopening := opening_load env line
  rw [run_trace hread htrace]
  cases hload : (load env line).1 with
  | error failure =>
    have hexecute := execute_of_unloaded hdefault ((load_eq_settings env line).symm.trans hload)
    rw [hload] at hopening
    rw [hexecute]
    refine ⟨⟨_, _, hopening, rfl, rfl⟩, ?_⟩
    have hwarns : (load env line).2.filter Log.Event.warnsOfCase = [] :=
      List.filter_eq_nil_iff.mpr fun e he hwarns =>
        hopening.target_ne e he (target_eq_of_warnsOfCase hwarns)
    rw [hwarns]
    exact .nil
  | ok s =>
    have hok := (load_eq_settings env line).symm.trans hload
    obtain ⟨announcement, hannounced, hevents, houtput⟩ := announced_asked env line s
    have hstory := Run.story_ofCases s.catchFaults (cases line s)
      (s.input env.freshSeed env.console)
    have hlines := Run.lines_ofCases s.catchFaults (cases line s)
      (s.input env.freshSeed env.console)
    rw [hload] at hopening
    have hbefore := List.forall_mem_append.mpr ⟨hopening.target_ne, hannounced.target_ne⟩
    rw [events_execute hdefault (Prod.ext hload rfl), events_perform hprinting, hevents,
      ← List.append_assoc, (execute_of_ok hprinting hok).2, houtput, hlines]
    constructor
    · refine ⟨_, _, hopening, _, _, _, hannounced, rfl, ?_, hstory, rfl⟩
      rw [filter_append_of_target_ne hbefore fun e => beq_iff_eq.mp]
      exact List.filter_eq_self.mpr fun e he => beq_iff_eq.mpr (hstory.target_eq e he)
    · rw [filter_append_of_target_ne hbefore fun e => target_eq_of_warnsOfCase]
      exact hstory.sameFaults fun r => saysFaulted_output_of_mem

theorem run_story_wronglyTyped :
    (run wronglyTyped).events.map (fun e => String.ofList e.text) =
      ["WARN divguard: Using default configuration: Failed to parse configuration:",
        "DEBUG divguard::runner: running demo ack=1",
        "DEBUG divguard_core::case: running case source=zero denominator=0 path=Guarded",
        "DEBUG divguard_core::case: running case source=zero denominator=0 path=Unguarded",
        "WARN divguard_core::case: unguarded sink faulted: attempt to divide by zero " ++
          "numerator=100 denominator=0"] ∧
      ((run wronglyTyped).events.filter Log.Event.warnsOfCase).length = 1 ∧
      List.Forall₂ SameFault ((run wronglyTyped).events.filter Log.Event.warnsOfCase)
        ((Console.lines (run wronglyTyped).output).filter saysFaulted) := by
  have hread : CommandLine.read? wronglyTyped.arguments = some (.command
      { top := [.flag .quiet], level := .demonstration, own := [] }) := by
    decide +kernel
  exact ⟨by decide +kernel, by decide +kernel, (run_story hread rfl rfl).2⟩

end Program

end GuardedDivision
