import GuardedDivision.Proofs.CommandLine.Flags
import GuardedDivision.Proofs.Fallback

namespace GuardedDivision

namespace CommandLine

section Unflagged

variable {α : Type} {pick : Setting → Option α}

theorem eq_none_of_isFlag (hpick : ∀ flag, pick (.flag flag) = none) (s : Setting)
    (hs : s.isFlag = true) : pick s = none := by
  cases s with
  | flag flag => exact hpick flag
  | config | printConfig | source | value | operation | path | numerator => contradiction

theorem findSome?_withoutFlags (hpick : ∀ flag, pick (.flag flag) = none)
    (settings : List Setting) : (withoutFlags settings).findSome? pick = settings.findSome? pick :=
  findSome?_filter_not (eq_none_of_isFlag hpick) settings

variable (line : CommandLine)

theorem config?_unflagged : line.unflagged.config? = line.config? := by
  rw [config?, config?, unflagged, findSome?_withoutFlags fun _ => rfl,
    findSome?_withoutFlags fun _ => rfl]

theorem printing?_unflagged : line.unflagged.printing? = line.printing? :=
  findSome?_withoutFlags (fun _ => rfl) line.top

theorem subject_unflagged (s : Settings) : line.unflagged.subject s = line.subject s := by
  have hvalue : line.unflagged.value? = line.value? :=
    findSome?_withoutFlags (fun _ => rfl) line.own
  have hnumerator : line.unflagged.numerator? = line.numerator? :=
    findSome?_withoutFlags (fun _ => rfl) line.own
  have hkind : line.unflagged.sourceKind = line.sourceKind :=
    congrArg (fun given : Option SourceKind => given.getD .zero)
      (findSome?_withoutFlags (fun _ => rfl) line.own)
  have hoperation : line.unflagged.operation = line.operation :=
    congrArg (fun given : Option Operation => given.getD .divide)
      (findSome?_withoutFlags (fun _ => rfl) line.own)
  have hroute : line.unflagged.route = line.route :=
    congrArg (fun given : Option Route => given.getD .guarded)
      (findSome?_withoutFlags (fun _ => rfl) line.own)
  rw [subject, subject, hvalue, hnumerator, hkind, hoperation, hroute]

end Unflagged

end CommandLine

namespace Log.Filter

/-- A text that is cut inside a character when it is read as a filter. -/
def Cuts (text : Option String) (cut : BrokenCut) : Prop :=
  ∃ given, text = some given ∧ ofText given.toList = .error (.broken cut)

def Unused (text : Option String) : Prop :=
  ∀ given, text = some given → ofText given.toList = .error .malformed

/-- Which filter is in force, by the text that is given and by the flags. -/
inductive Governs (text : Option String) (verbose quiet : Bool) : Filter → Prop
  | given {given : String} {filter : Filter} : text = some given →
    ofText given.toList = .ok filter → Governs text verbose quiet filter
  | quiet {filter : Filter} : Unused text → quiet = true →
    ofText "error".toList = .ok filter → Governs text verbose quiet filter
  | verbose {filter : Filter} : Unused text → quiet = false → verbose = true →
    ofText "divguard=debug,divguard_core=debug".toList = .ok filter →
    Governs text verbose quiet filter
  | neither {filter : Filter} : Unused text → quiet = false → verbose = false →
    ofText "warn".toList = .ok filter → Governs text verbose quiet filter

theorem ofText_error : ofText "error".toList = .ok (ofFlags false true) := by decide +kernel

theorem ofText_debug :
    ofText "divguard=debug,divguard_core=debug".toList = .ok (ofFlags true false) := by
  decide +kernel

theorem ofText_warn : ofText "warn".toList = .ok (ofFlags false false) := by decide +kernel

theorem ofFlags_quiet (verbose : Bool) : ofFlags verbose true = ofFlags false true := rfl

theorem enables_debug (e : Event) : (ofFlags true false).enables e = true := by
  cases e <;> dsimp only [enables, Event.level, Event.target, Event.fields] <;> decide +kernel

theorem enables_ofFlags (verbose quiet : Bool) (e : Event) :
    (ofFlags verbose quiet).enables e = (!quiet && (verbose || e.level = .warn)) := by
  cases quiet with
  | true => cases e <;> rfl
  | false =>
    cases verbose with
    | true => exact enables_debug e
    | false => cases e <;> rfl

theorem governs_iff_of_unused {text : Option String} {verbose quiet : Bool} {filter : Filter}
    (h : Unused text) : Governs text verbose quiet filter ↔ ofFlags verbose quiet = filter := by
  constructor
  · intro hgoverns
    cases hgoverns with
    | given hgiven hfilter => exact nomatch (h _ hgiven).symm.trans hfilter
    | quiet _ hquiet hfilter =>
      rw [hquiet, ofFlags_quiet]
      exact Except.ok.inj (ofText_error.symm.trans hfilter)
    | verbose _ hquiet hverbose hfilter =>
      rw [hquiet, hverbose]
      exact Except.ok.inj (ofText_debug.symm.trans hfilter)
    | neither _ hquiet hverbose hfilter =>
      rw [hquiet, hverbose]
      exact Except.ok.inj (ofText_warn.symm.trans hfilter)
  · rintro rfl
    cases quiet with
    | true => exact .quiet h rfl (ofFlags_quiet verbose ▸ ofText_error)
    | false =>
      cases verbose with
      | true => exact .verbose h rfl rfl ofText_debug
      | false => exact .neither h rfl rfl ofText_warn

theorem inForce_of_unused {text : Option String} (h : Unused text) (verbose quiet : Bool) :
    inForce (text.map String.toList) verbose quiet = .ok (ofFlags verbose quiet) := by
  cases text with
  | none => rfl
  | some given => rw [inForce, Option.map_some, Option.map_some, h given rfl]

theorem inForce_eq_ok_iff {text : Option String} {verbose quiet : Bool} {filter : Filter} :
    inForce (text.map String.toList) verbose quiet = .ok filter ↔
      Governs text verbose quiet filter := by
  constructor
  · intro h
    by_cases hunused : Unused text
    · rw [governs_iff_of_unused hunused]
      exact Except.ok.inj ((inForce_of_unused hunused _ _).symm.trans h)
    · obtain ⟨given, hgiven, hread⟩ : ∃ given, text = some given ∧
        ofText given.toList ≠ .error .malformed := by simpa [Unused] using hunused
      rw [hgiven, inForce, Option.map_some, Option.map_some] at h
      cases hresult : ofText given.toList with
      | ok shown =>
        rw [hresult] at h
        obtain rfl := Except.ok.inj h
        exact .given hgiven hresult
      | error failure =>
        rw [hresult] at h hread
        cases failure with
        | malformed => exact absurd rfl hread
        | broken cut => contradiction
  · intro h
    by_cases hunused : Unused text
    · rw [inForce_of_unused hunused, (governs_iff_of_unused hunused).mp h]
    · cases h with
      | given hgiven hfilter =>
        rw [hgiven, inForce, Option.map_some, Option.map_some, hfilter]
      | quiet h | verbose h | neither h => exact absurd h hunused

end Log.Filter

namespace Program

variable {env : Environment} {arguments : List String} {logFilter : Option String}
  {line other : CommandLine}

theorem filter_eq_ok_iff {shown : Log.Filter} : filter env line = .ok shown ↔
    Log.Filter.Governs env.logFilter (line.has .verbose) (line.has .quiet) shown :=
  Log.Filter.inForce_eq_ok_iff

theorem filter_eq_error_iff_cuts {cut : BrokenCut} :
    filter env line = .error cut ↔ Log.Filter.Cuts env.logFilter cut := by
  rw [filter_eq_error_iff, Log.Filter.Cuts]
  cases env.logFilter <;> simp

theorem load_unflagged (env : Environment) (line : CommandLine) :
    load env line.unflagged = load env line := by
  rw [load, load, line.config?_unflagged]

theorem perform_unflagged (env : Environment) (line : CommandLine) (s : Settings) :
    perform env line.unflagged s = perform env line s := by
  rw [perform, perform, line.printing?_unflagged, line.subject_unflagged]
  rfl

theorem execute_unflagged (env : Environment) (line : CommandLine) :
    execute env line.unflagged = execute env line := by
  rw [execute, execute, line.printing?_unflagged, load_unflagged]
  simp only [perform_unflagged]

theorem execute_relogged (h : other.unflagged = line.unflagged) :
    execute { env with arguments, logFilter } other = execute env line := by
  rw [← execute_unflagged env line, ← h, execute_unflagged env other]
  rfl

theorem run_relogged (hread : CommandLine.read? env.arguments = some (.command line))
    (hother : CommandLine.read? arguments = some (.command other))
    (hflags : other.unflagged = line.unflagged)
    (hcut : ∀ cut, Log.Filter.Cuts logFilter cut ↔ Log.Filter.Cuts env.logFilter cut) :
    (run { env with arguments, logFilter }).EndsLike (run env) := by
  refine run_congr_of_filter hread hother (fun cut => ?_) ?_
  · exact filter_eq_error_iff_cuts.trans ((hcut cut).trans filter_eq_error_iff_cuts.symm)
  · rw [execute_relogged hflags]
    exact ⟨rfl, rfl⟩

theorem events_run_of_filter {shown : Log.Filter}
    (hread : CommandLine.read? env.arguments = some (.command line))
    (hshown : filter env line = .ok shown) :
    (run env).events = (execute env line).events.filter shown.enables := by
  rw [run, hread]
  dsimp only
  rw [hshown]

theorem run_of_cut {cut : BrokenCut}
    (hread : CommandLine.read? env.arguments = some (.command line))
    (hcut : filter env line = .error cut) :
    run env = { verdict := .aborted (.brokenFilter cut), output := [], events := [] } := by
  rw [run, hread]
  dsimp only
  rw [hcut]

theorem run_of_version (hread : CommandLine.read? env.arguments = some .version) :
    run env = { verdict := .success, output := Utf8.encode versionText, events := [] } := by
  rw [run, hread]

def verboseFault : Environment where
  arguments := ["-vq", "run", "--path", "unguarded"]
  logFilter := some "a=b"
  tree := []
  working := []
  home := "/home"
  console := []
  freshSeed := 0

end Program

end GuardedDivision
