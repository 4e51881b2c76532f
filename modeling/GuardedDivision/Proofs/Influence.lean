import GuardedDivision.Proofs.CommandLine.Meaning
import GuardedDivision.Proofs.Program

namespace GuardedDivision

/-- Transcripts that may differ in their events only. With the verdict the exit status, the error
that is reported and the message of a stop are the same. -/
structure Transcript.EndsLike (t u : Transcript) : Prop where
  verdict : t.verdict = u.verdict
  output : t.output = u.output

section Reading

variable {γ : Type} [WordSource γ] {input other : Input γ}

theorem Source.read_congr {α : Type} {source : Source} (ofInt32 : Int32 → α)
    (ofText? : List Char → Option α)
    (hword : source = .random → (WordSource.next other.words).1 = (WordSource.next input.words).1)
    (hline : source = .console →
      (Console.cutLine other.unread).1 = (Console.cutLine input.unread).1) :
    (source.read ofInt32 ofText? other).1 = (source.read ofInt32 ofText? input).1 := by
  cases source with
  | zero | fixed value => rfl
  | random => simp only [read, hword rfl]
  | console => simp only [read, hline rfl]

namespace Case

variable {c : Case}

theorem readDenominator_congr
    (hword : c.source = .random →
      (WordSource.next other.words).1 = (WordSource.next input.words).1)
    (hline : c.source = .console →
      (Console.cutLine other.unread).1 = (Console.cutLine input.unread).1) :
    (c.readDenominator other).1 = (c.readDenominator input).1 := by
  unfold readDenominator
  cases c.operation with
  | divide | modulo =>
    exact congrArg (Except.map Denominator.int) (Source.read_congr _ _ hword hline)
  | float => exact congrArg (Except.map Denominator.float) (Source.read_congr _ _ hword hline)

theorem result_of_not_faults {d : Denominator} (h : ¬c.Faults input)
    (hd : (c.readDenominator input).1 = .ok d) (catchFaults : Bool) :
    c.result catchFaults d =
      .reported { subject := c, denominator := d, outcome := c.outcome d } := by
  obtain hr | ⟨-, fault, -, hstopped⟩ := c.result_cases catchFaults d
  · exact hr
  · have hrun := c.run_result catchFaults input
    rw [hd] at hrun
    exact absurd ((c.run_stopped_iff catchFaults input).mp ⟨fault, hrun.trans hstopped⟩).2 h

theorem run_result_congr {catchFaults catchOther : Bool}
    (hd : (c.readDenominator other).1 = (c.readDenominator input).1)
    (hcatch : c.Faults input → catchOther = catchFaults) :
    (c.run catchOther other).result = (c.run catchFaults input).result := by
  rw [run_result, run_result, hd]
  cases hread : (c.readDenominator input).1 with
  | error failure => rfl
  | ok d =>
    by_cases hfaults : c.Faults input
    · rw [hcatch hfaults]
    · dsimp only
      rw [result_of_not_faults hfaults hread, result_of_not_faults hfaults hread]

end Case

structure Run.Alike (r t : Run γ) : Prop where
  ending : r.ending = t.ending
  output : r.output = t.output
  events : r.events = t.events

theorem Case.run_events (c : Case) (catchFaults : Bool) (input : Input γ) :
    (c.run catchFaults input).events = match (c.readDenominator input).1 with
      | .error _ => []
      | .ok d => .runningCase c d :: (c.run catchFaults input).result.faultEvents := by
  rw [run]
  rcases c.readDenominator input with ⟨failure | d, rest⟩ <;> rfl

namespace Run

variable {catchFaults catchOther : Bool}

theorem alike_nil : (ofCases catchOther none [] other).Alike (ofCases catchFaults none [] input) :=
  ⟨rfl, rfl, rfl⟩

theorem alike_cons {c : Case} {cases : List Case}
    (hread : (c.readDenominator other).1 = (c.readDenominator input).1)
    (hresult : (c.run catchOther other).result = (c.run catchFaults input).result)
    (hrest : (ofCases catchOther none cases (c.run catchOther other).rest).Alike
      (ofCases catchFaults none cases (c.run catchFaults input).rest)) :
    (ofCases catchOther none (c :: cases) other).Alike
      (ofCases catchFaults none (c :: cases) input) := by
  have hevents : (c.run catchOther other).events = (c.run catchFaults input).events := by
    rw [Case.run_events, Case.run_events, hread, hresult]
  rw [ofCases, ofCases, hresult, hevents]
  cases (c.run catchFaults input).result with
  | unread failure | stopped fault => exact ⟨rfl, rfl, rfl⟩
  | reported report =>
    have hfits : Room.taken none report.output = report.output := rfl
    simp only [hfits, ↓reduceIte]
    exact ⟨congrArg (Ending.after report) hrest.ending, congrArg (report.output ++ ·) hrest.output,
      congrArg ((c.run catchFaults input).events ++ ·) hrest.events⟩

end Run

end Reading

theorem Run.demonstration_alike {s t : Settings} (hnumerator : t.numerator = s.numerator)
    (hcatch : t.catchFaults = s.catchFaults) (fresh freshOther : UInt64)
    (console consoleOther : Bytes) :
    (demonstration t freshOther none consoleOther).Alike (demonstration s fresh none console) := by
  have hcases : (ofCases s.catchFaults none (Case.demonstration s.numerator)
      (t.input freshOther consoleOther)).Alike
        (ofCases s.catchFaults none (Case.demonstration s.numerator) (s.input fresh console)) :=
    alike_cons rfl rfl (alike_cons rfl rfl alike_nil)
  rw [demonstration, demonstration, hnumerator, hcatch]
  exact ⟨hcases.ending, hcases.output, congrArg (.runningDemonstration :: ·) hcases.events⟩

namespace CommandLine

def Setting.namesFile : Setting → Bool
  | .config _ => true
  | _ => false

structure SameButFile (a b : CommandLine) : Prop where
  level : b.level = a.level
  top : (b.top.filter fun s => !s.namesFile) = a.top.filter fun s => !s.namesFile
  own : (b.own.filter fun s => !s.namesFile) = a.own.filter fun s => !s.namesFile

variable {a b : CommandLine}

theorem SameButFile.refl (a : CommandLine) : a.SameButFile a := ⟨rfl, rfl, rfl⟩

theorem eq_none_of_namesFile {α : Type} {pick : Setting → Option α}
    (hpick : ∀ path, pick (.config path) = none) (s : Setting) (hs : s.namesFile = true) :
    pick s = none := by
  cases s with
  | config path => exact hpick path
  | flag | printConfig | source | value | operation | path | numerator => contradiction

theorem findSome?_congr_without_file {α : Type} {pick : Setting → Option α}
    (hpick : ∀ path, pick (.config path) = none) {l m : List Setting}
    (h : (m.filter fun s => !s.namesFile) = l.filter fun s => !s.namesFile) :
    m.findSome? pick = l.findSome? pick := by
  rw [← findSome?_filter_not (eq_none_of_namesFile hpick) m, h,
    findSome?_filter_not (eq_none_of_namesFile hpick)]

namespace SameButFile

theorem printing? (h : a.SameButFile b) : b.printing? = a.printing? :=
  findSome?_congr_without_file (fun _ => rfl) h.top

theorem value? (h : a.SameButFile b) : b.value? = a.value? :=
  findSome?_congr_without_file (fun _ => rfl) h.own

theorem numerator? (h : a.SameButFile b) : b.numerator? = a.numerator? :=
  findSome?_congr_without_file (fun _ => rfl) h.own

theorem sourceKind (h : a.SameButFile b) : b.sourceKind = a.sourceKind :=
  congrArg (fun given : Option SourceKind => given.getD .zero)
    (findSome?_congr_without_file (fun _ => rfl) h.own)

theorem operation (h : a.SameButFile b) : b.operation = a.operation :=
  congrArg (fun given : Option Operation => given.getD .divide)
    (findSome?_congr_without_file (fun _ => rfl) h.own)

theorem route (h : a.SameButFile b) : b.route = a.route :=
  congrArg (fun given : Option Route => given.getD .guarded)
    (findSome?_congr_without_file (fun _ => rfl) h.own)

end SameButFile

end CommandLine

namespace Program

/-- A start of the program that reads a command line and has settings in force. -/
structure Start where
  env : Environment
  line : CommandLine
  settings : Settings
  read : CommandLine.read? env.arguments = some (.command line)
  loaded : Program.settings env line = .ok settings

namespace Start

def subject (start : Start) : Case := start.line.subject start.settings

def input (start : Start) : Input ChaCha :=
  start.settings.input start.env.freshSeed start.env.console

/-- Two starts that ask for the same case, as far as it uses settings and input. -/
structure SameCase (first second : Start) : Prop where
  operation : second.line.operation = first.line.operation
  route : second.line.route = first.line.route
  sourceKind : second.line.sourceKind = first.line.sourceKind
  given : second.line.numerator? = first.line.numerator?
  numerator : first.line.numerator? = none →
    second.settings.numerator = first.settings.numerator
  value : first.line.sourceKind = .fixed → second.line.value? = first.line.value?
  fixedDenominator : first.line.sourceKind = .fixed → first.line.value? = none →
    second.settings.fixedDenominator = first.settings.fixedDenominator
  seed : first.line.sourceKind = .random →
    second.settings.seed.getD second.env.freshSeed = first.settings.seed.getD first.env.freshSeed
  firstLine : first.line.sourceKind = .console →
    (Console.cutLine second.env.console).1 = (Console.cutLine first.env.console).1
  catchFaults : first.subject.Faults first.input →
    second.settings.catchFaults = first.settings.catchFaults

/-- Two starts that agree in all that their command lines use to run cases. -/
structure UsesAlike (first second : Start) : Prop where
  logFilter : second.env.logFilter = first.env.logFilter
  printing : second.line.printing? = first.line.printing?
  level : second.line.level = first.line.level
  single : first.line.level = .single → SameCase first second
  demonstration : first.line.level ≠ .single →
    second.settings.numerator = first.settings.numerator ∧
      second.settings.catchFaults = first.settings.catchFaults

variable {first second : Start}

theorem source_subject (start : Start) : start.subject.source =
    match start.line.sourceKind with
    | .zero => .zero
    | .fixed => .fixed (start.line.value?.getD start.settings.fixedDenominator)
    | .random => .random
    | .console => .console := rfl

theorem SameCase.source_eq (h : SameCase first second) :
    second.subject.source = first.subject.source := by
  rw [source_subject, source_subject, h.sourceKind]
  cases hkind : first.line.sourceKind with
  | zero | random | console => rfl
  | fixed =>
    dsimp only
    rw [h.value hkind]
    cases hvalue : first.line.value? with
    | none => rw [h.fixedDenominator hkind hvalue]
    | some v => rfl

theorem SameCase.numerator_eq (h : SameCase first second) :
    second.subject.numerator = first.subject.numerator := by
  change second.line.numerator?.getD _ = first.line.numerator?.getD _
  rw [h.given]
  cases hgiven : first.line.numerator? with
  | none => exact h.numerator hgiven
  | some v => rfl

theorem SameCase.subject_eq (h : SameCase first second) : second.subject = first.subject := by
  rw [subject, subject, CommandLine.subject, CommandLine.subject, Case.mk.injEq]
  exact ⟨h.numerator_eq, h.source_eq, h.operation, h.route⟩

theorem sourceKind_of_random {start : Start} (h : start.subject.source = .random) :
    start.line.sourceKind = .random := by
  rw [source_subject] at h
  cases hkind : start.line.sourceKind with
  | random => rfl
  | zero | fixed | console =>
    rw [hkind] at h
    contradiction

theorem sourceKind_of_console {start : Start} (h : start.subject.source = .console) :
    start.line.sourceKind = .console := by
  rw [source_subject] at h
  cases hkind : start.line.sourceKind with
  | console => rfl
  | zero | fixed | random =>
    rw [hkind] at h
    contradiction

theorem SameCase.readDenominator_eq (h : SameCase first second) :
    (first.subject.readDenominator second.input).1 =
      (first.subject.readDenominator first.input).1 := by
  refine Case.readDenominator_congr (fun hrandom => ?_) fun hconsole => ?_
  · rw [input, input, Settings.input, Settings.input, h.seed (sourceKind_of_random hrandom)]
  · exact h.firstLine (sourceKind_of_console hconsole)

theorem UsesAlike.asked_alike (h : UsesAlike first second) :
    (asked second.env second.line second.settings).Alike
      (asked first.env first.line first.settings) := by
  rw [asked, asked, h.level]
  by_cases hlevel : first.line.level = .single
  · have hcase := h.single hlevel
    have hread := hcase.readDenominator_eq
    rw [if_pos hlevel, if_pos hlevel]
    change (Run.ofCases _ none [second.subject] second.input).Alike
      (Run.ofCases _ none [first.subject] first.input)
    rw [hcase.subject_eq]
    exact Run.alike_cons hread (Case.run_result_congr hread hcase.catchFaults) Run.alike_nil
  · obtain ⟨hnumerator, hcatch⟩ := h.demonstration hlevel
    rw [if_neg hlevel, if_neg hlevel]
    exact Run.demonstration_alike hnumerator hcatch _ _ _ _

theorem usesAlike_of_settings_eq (hlogFilter : second.env.logFilter = first.env.logFilter)
    (hconsole : second.env.console = first.env.console)
    (hline : first.line.SameButFile second.line) (hsettings : second.settings = first.settings)
    (hseed : first.line.level = .single → first.line.sourceKind = .random →
      first.settings.seed = none → second.env.freshSeed = first.env.freshSeed) :
    first.UsesAlike second where
  logFilter := hlogFilter
  printing := hline.printing?
  level := hline.level
  single hlevel :=
    { operation := hline.operation
      route := hline.route
      sourceKind := hline.sourceKind
      given := hline.numerator?
      numerator := fun _ => by rw [hsettings]
      value := fun _ => hline.value?
      fixedDenominator := fun _ _ => by rw [hsettings]
      seed := fun hrandom => by
        rw [hsettings]
        cases hs : first.settings.seed with
        | none => exact hseed hlevel hrandom hs
        | some seed => rfl
      firstLine := fun _ => by rw [hconsole]
      catchFaults := fun _ => by rw [hsettings] }
  demonstration _ := by rw [hsettings]; exact ⟨rfl, rfl⟩

end Start

theorem run_endsLike {env : Environment} {line : CommandLine}
    (hread : CommandLine.read? env.arguments = some (.command line)) :
    (run env).EndsLike (match filter env line with
      | .error cut => { verdict := .aborted (.brokenFilter cut), output := [], events := [] }
      | .ok _ => execute env line) := by
  rw [run, hread]
  dsimp only
  cases filter env line <;> exact ⟨rfl, rfl⟩

theorem filter_eq_error_iff {env : Environment} {line : CommandLine} {cut : BrokenCut} :
    filter env line = .error cut ↔
      (env.logFilter.map String.toList).map Log.Filter.ofText = some (.error (.broken cut)) := by
  rw [filter, Log.Filter.inForce]
  generalize (env.logFilter.map String.toList).map Log.Filter.ofText = text
  cases text with
  | none => simp
  | some read =>
    cases read with
    | ok filter => simp
    | error cause => cases cause <;> simp

theorem run_congr_of_filter {env other : Environment} {line line' : CommandLine}
    (hread : CommandLine.read? env.arguments = some (.command line))
    (hread' : CommandLine.read? other.arguments = some (.command line'))
    (hcut : ∀ cut, filter other line' = .error cut ↔ filter env line = .error cut)
    (h : (execute other line').EndsLike (execute env line)) : (run other).EndsLike (run env) := by
  have hone := run_endsLike hread
  have hother := run_endsLike hread'
  cases hf : filter env line with
  | error cut =>
    rw [hf] at hone
    rw [(hcut cut).mpr hf] at hother
    exact ⟨hother.verdict.trans hone.verdict.symm, hother.output.trans hone.output.symm⟩
  | ok shown =>
    cases hf' : filter other line' with
    | error cut => exact absurd (hf.symm.trans ((hcut cut).mp hf')) nofun
    | ok shown' =>
      rw [hf] at hone
      rw [hf'] at hother
      exact ⟨hother.verdict.trans (h.verdict.trans hone.verdict.symm),
        hother.output.trans (h.output.trans hone.output.symm)⟩

theorem run_congr {env other : Environment} {line line' : CommandLine}
    (hread : CommandLine.read? env.arguments = some (.command line))
    (hread' : CommandLine.read? other.arguments = some (.command line'))
    (hfilter : other.logFilter = env.logFilter)
    (h : (execute other line').EndsLike (execute env line)) : (run other).EndsLike (run env) := by
  refine run_congr_of_filter hread hread' (fun cut => ?_) h
  rw [filter_eq_error_iff, filter_eq_error_iff, hfilter]

theorem execute_default {env : Environment} {line : CommandLine}
    (h : line.printing? = some .default) :
    execute env line = { verdict := .success, output := printed {}, events := [] } := if_pos h

theorem execute_current {env : Environment} {line : CommandLine} {s : Settings}
    (h : line.printing? = some .current) (hs : settings env line = .ok s) :
    execute env line =
      { verdict := .success, output := printed s, events := (load env line).2 } := by
  have hload : load env line = (.ok s, (load env line).2) :=
    Prod.ext ((load_eq_settings env line).trans hs) rfl
  rw [execute, h, if_neg (by decide), hload]
  dsimp only
  rw [perform, if_pos h, List.append_nil]

theorem Start.UsesAlike.execute_endsLike {first second : Start} (h : first.UsesAlike second)
    (hprinted : first.line.printing? = some .current → second.settings = first.settings) :
    (execute second.env second.line).EndsLike (execute first.env first.line) := by
  cases hprinting : first.line.printing? with
  | none =>
    obtain ⟨hverdict, houtput⟩ := execute_of_ok hprinting first.loaded
    obtain ⟨hverdict', houtput'⟩ := execute_of_ok (h.printing.trans hprinting) second.loaded
    rw [h.level, h.asked_alike.ending] at hverdict'
    exact ⟨hverdict'.trans hverdict.symm,
      houtput'.trans (h.asked_alike.output.trans houtput.symm)⟩
  | some printing =>
    have hprinting' := h.printing.trans hprinting
    cases printing with
    | default =>
      rw [execute_default hprinting, execute_default hprinting']
      exact ⟨rfl, rfl⟩
    | current =>
      rw [execute_current hprinting first.loaded, execute_current hprinting' second.loaded,
        hprinted hprinting]
      exact ⟨rfl, rfl⟩

/-- What a command does not use has no influence. To print the settings in force is to use them all.
-/
theorem run_usesAlike {first second : Start} (h : first.UsesAlike second)
    (hprinted : first.line.printing? = some .current → second.settings = first.settings) :
    (run second.env).EndsLike (run first.env) :=
  run_congr first.read second.read h.logFilter (h.execute_endsLike hprinted)

def sixByThree : Start where
  env :=
    { arguments := ["run", "--source=console", "--numerator=6"]
      logFilter := none
      tree := []
      working := ["work"]
      home := "/home"
      console := Utf8.encode "3\nno number".toList
      freshSeed := 0 }
  line := { top := [], level := .single, own := [.source .console, .numerator 6] }
  settings := {}
  read := by decide +kernel
  loaded := by decide +kernel

def sixByThreeElsewhere : Start where
  env :=
    { arguments := ["-v", "run", "--value=9", "--numerator", "6", "--source", "console"]
      logFilter := none
      tree := [("divguard.toml", .file (Utf8.encode
        "numerator = 1\nfixed_denominator = 7\ncatch_faults = false\nseed = 3".toList))]
      working := ["work"]
      home := "/home"
      console := Utf8.encode "3\n".toList
      freshSeed := 1 }
  line :=
    { top := [.flag .verbose]
      level := .single
      own := [.value 9, .numerator 6, .source .console] }
  settings := { numerator := 1, fixedDenominator := 7, catchFaults := false, seed := some 3 }
  read := by decide +kernel
  loaded := by decide +kernel

theorem run_usesAlike_elsewhere :
    (run sixByThreeElsewhere.env).output = Utf8.encode "6/3 = 2\n".toList := by
  have hcase : sixByThree.SameCase sixByThreeElsewhere :=
    { operation := rfl
      route := rfl
      sourceKind := rfl
      given := rfl
      numerator := nofun
      value := nofun
      fixedDenominator := nofun
      seed := nofun
      firstLine := fun _ => by decide +kernel
      catchFaults := fun h => nomatch h.1 }
  have huses : sixByThree.UsesAlike sixByThreeElsewhere :=
    { logFilter := rfl
      printing := rfl
      level := rfl
      single := fun _ => hcase
      demonstration := fun h => absurd rfl h }
  have houtput : (run sixByThree.env).output = Utf8.encode "6/3 = 2\n".toList := by decide +kernel
  exact (run_usesAlike huses nofun).output.trans houtput

def printsDefaults : Start where
  env :=
    { arguments := ["--print-config=current", "run", "--numerator=5"]
      logFilter := none
      tree := []
      working := []
      home := "/home"
      console := []
      freshSeed := 0 }
  line := { top := [.printConfig .current], level := .single, own := [.numerator 5] }
  settings := {}
  read := by decide +kernel
  loaded := by decide +kernel

def printsSeven : Start where
  env := { printsDefaults.env with
    tree := [("divguard.toml", .file (Utf8.encode "numerator = 7\n".toList))] }
  line := printsDefaults.line
  settings := { numerator := 7 }
  read := printsDefaults.read
  loaded := by decide +kernel

/-- The settings in force are printed as they are, used or not. -/
theorem unused_numerator_printed : ¬∀ first second : Start, first.UsesAlike second →
    (run second.env).EndsLike (run first.env) := by
  intro h
  have hcase : printsDefaults.SameCase printsSeven :=
    { operation := rfl
      route := rfl
      sourceKind := rfl
      given := rfl
      numerator := nofun
      value := fun _ => rfl
      fixedDenominator := fun _ _ => rfl
      seed := fun _ => rfl
      firstLine := fun _ => rfl
      catchFaults := fun _ => rfl }
  have huses : printsDefaults.UsesAlike printsSeven :=
    { logFilter := rfl
      printing := rfl
      level := rfl
      single := fun _ => hcase
      demonstration := fun h => absurd rfl h }
  have houtput : (run printsSeven.env).output ≠ (run printsDefaults.env).output := by decide +kernel
  exact houtput (h _ _ huses).output

end Program

end GuardedDivision
