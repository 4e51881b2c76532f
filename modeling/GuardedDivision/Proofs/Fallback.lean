import GuardedDivision.Proofs.Influence
import GuardedDivision.Proofs.Log.Event

namespace GuardedDivision

namespace Log.Filter

theorem ofText_trace : ofText "trace".toList = .ok (upTo .trace) := by decide +kernel

theorem enables_trace (e : Event) : (upTo .trace).enables e = true := by
  cases e <;> rfl

end Log.Filter

/-- What a request warns of if a file that is found cannot be used. Some requests load nothing. -/
def CommandLine.Request.warnings (failure : LoadFailure) : Request → List Log.Event
  | .version => []
  | .command line => if line.printing? = some .default then [] else [.usingDefaults failure]

theorem CommandLine.Request.tellsDefaults_of_mem_warnings {request : Request}
    {failure : LoadFailure} : ∀ e ∈ request.warnings failure, e.TellsDefaults failure := by
  cases request with
  | version => exact nofun
  | command line =>
    rw [warnings]
    split
    · exact nofun
    · exact List.forall_mem_singleton.mpr (Log.Event.tells_usingDefaults failure)

namespace Program

/-- Two environments with the same request, which names no file. The first finds a file that cannot
be used, and the second finds none. -/
structure Lacks (env other : Environment) (request : CommandLine.Request)
    (failure : LoadFailure) : Prop where
  arguments : other.arguments = env.arguments
  logFilter : other.logFilter = env.logFilter
  console : other.console = env.console
  unnamed : ∀ line, request = .command line → line.config? = none
  unusable : ∃ path, Settings.discovered? env.tree env.working env.home = some path ∧
    Settings.ofPath env.tree env.working path = .error failure
  absent : Settings.discovered? other.tree other.working other.home = none
  freshSeed : ∀ line, request = .command line → line.level = .single →
    line.sourceKind = .random → other.freshSeed = env.freshSeed

variable {env other : Environment} {line : CommandLine} {failure : LoadFailure}
  {events : List Log.Event}

theorem perform_congr {s : Settings} (h : (asked other line s).Alike (asked env line s)) :
    perform other line s = perform env line s := by
  obtain ⟨hending, houtput, hevents⟩ := h
  unfold asked at hending houtput hevents
  unfold perform
  by_cases hlevel : line.level = .single
  · simp only [if_pos hlevel] at hending houtput hevents ⊢
    rw [hending, houtput, hevents]
  · simp only [if_neg hlevel] at hending houtput hevents ⊢
    rw [hending, houtput, hevents]

theorem events_execute {s : Settings}
    (hprinting : line.printing? ≠ some .default) (hload : load env line = (.ok s, events)) :
    (execute env line).events = events ++ (perform env line s).events := by
  rw [execute, if_neg hprinting, hload]

theorem run_trace (hread : CommandLine.read? env.arguments = some (.command line))
    (htrace : env.logFilter = some "trace") : run env = execute env line := by
  have hfilter : filter env line = .ok (Log.Filter.upTo .trace) := by
    rw [filter, Log.Filter.inForce, htrace, Option.map_some, Option.map_some,
      Log.Filter.ofText_trace]
  rw [run, hread]
  dsimp only
  rw [hfilter]
  dsimp only
  rw [List.filter_eq_self.mpr fun e _ => Log.Filter.enables_trace e]

theorem events_run_trace (hread : CommandLine.read? env.arguments = some (.command line))
    (htrace : env.logFilter = some "trace") : (run env).events = (execute env line).events :=
  congrArg Transcript.events (run_trace hread htrace)

theorem load_of_unusable (hconfig : line.config? = none)
    (h : ∃ path, Settings.discovered? env.tree env.working env.home = some path ∧
      Settings.ofPath env.tree env.working path = .error failure) :
    load env line = (.ok {}, [.usingDefaults failure]) := by
  obtain ⟨path, hfound, hfailure⟩ := h
  rw [load, hconfig]
  dsimp only [loadFound]
  rw [hfound]
  dsimp only
  rw [hfailure]

theorem load_of_absent (hconfig : line.config? = none)
    (h : Settings.discovered? env.tree env.working env.home = none) :
    load env line = (.ok {}, []) := by
  rw [load, hconfig]
  dsimp only [loadFound]
  rw [h]

def Start.ofDefaults (hread : CommandLine.read? env.arguments = some (.command line))
    (hload : load env line = (.ok {}, events)) : Start where
  env := env
  line := line
  settings := {}
  read := hread
  loaded := by rw [← load_eq_settings, hload]

theorem Lacks.run_alike (h : Lacks env other (.command line) failure)
    (hread : CommandLine.read? env.arguments = some (.command line)) :
    (run env).EndsLike (run other) ∧
      (env.logFilter = some "trace" → (run env).events =
        (CommandLine.Request.command line).warnings failure ++ (run other).events) := by
  have hread' : CommandLine.read? other.arguments = some (.command line) := by
    rw [h.arguments, hread]
  have hload := load_of_unusable (h.unnamed line rfl) h.unusable
  have hload' := load_of_absent (h.unnamed line rfl) h.absent
  have huses : (Start.ofDefaults hread' hload').UsesAlike (Start.ofDefaults hread hload) :=
    Start.usesAlike_of_settings_eq h.logFilter.symm h.console.symm (.refl line) rfl
      fun hlevel hrandom _ => (h.freshSeed line rfl hlevel hrandom).symm
  refine ⟨run_congr hread' hread h.logFilter.symm (huses.execute_endsLike fun _ => rfl), ?_⟩
  intro htrace
  rw [events_run_trace hread htrace, events_run_trace hread' (h.logFilter.trans htrace),
    CommandLine.Request.warnings]
  by_cases hprinting : line.printing? = some .default
  · rw [if_pos hprinting, execute_default hprinting, execute_default hprinting]
    rfl
  · rw [if_neg hprinting, events_execute hprinting hload, events_execute hprinting hload',
      List.nil_append]
    exact congrArg _ (congrArg Transcript.events (perform_congr huses.asked_alike))

theorem run_of_named {path : String}
    (hread : CommandLine.read? env.arguments = some (.command line))
    (hconfig : line.config? = some path) (hprinting : line.printing? ≠ some .default)
    (hfailure : Settings.ofPath env.tree env.working path = .error failure)
    (hfilter : ∀ cut, filter env line ≠ .error cut) :
    (run env).verdict = .failed (.settings failure) ∧ (run env).output = [] ∧
      ∀ e ∈ (run env).events, e = .loading path := by
  have hsettings : settings env line = .error failure := by
    rw [settings, hconfig]
    exact hfailure
  have hevents : (load env line).2 = [.loading path] := by
    rw [load, hconfig]
    dsimp only [loadNamed]
    rw [hfailure]
  rw [run, hread]
  dsimp only
  cases hshown : filter env line with
  | error cut => exact absurd hshown (hfilter cut)
  | ok shown =>
    rw [execute_of_unloaded hprinting hsettings, hevents]
    exact ⟨rfl, rfl, fun e he => List.mem_singleton.mp (List.mem_filter.mp he).1⟩

/-- A file that is found and cannot be used counts for none, but for a warning. If it is named, the
program fails before any case runs. -/
theorem run_unusable {request : CommandLine.Request}
    (hread : CommandLine.read? env.arguments = some request) :
    (∀ (other : Environment) (failure : LoadFailure), Lacks env other request failure →
      (run env).EndsLike (run other) ∧
      (∀ line, request = .command line → settings env line = .ok {}) ∧
      (env.logFilter = some "trace" →
        (run env).events = request.warnings failure ++ (run other).events ∧
          ∀ e ∈ request.warnings failure, e.TellsDefaults failure)) ∧
    ∀ (line : CommandLine) (path : String) (failure : LoadFailure),
      request = .command line → line.config? = some path → line.printing? ≠ some .default →
      Settings.ofPath env.tree env.working path = .error failure →
      (∀ cut, filter env line ≠ .error cut) →
        (run env).verdict = .failed (.settings failure) ∧ (run env).verdict.exitStatus = 1 ∧
          (run env).output = [] ∧
          ∀ e ∈ (run env).events, e = .loading path ∧ e.TellsLoading path := by
  constructor
  · intro other failure h
    cases request with
    | version =>
      have hrun : run env = run other := by rw [run, run, h.arguments, hread]
      rw [hrun]
      refine ⟨⟨rfl, rfl⟩, ?_, fun _ => ⟨rfl, CommandLine.Request.tellsDefaults_of_mem_warnings⟩⟩
      rintro line ⟨⟩
    | command line =>
      obtain ⟨hends, hevents⟩ := h.run_alike hread
      refine ⟨hends, ?_, fun htrace =>
        ⟨hevents htrace, CommandLine.Request.tellsDefaults_of_mem_warnings⟩⟩
      rintro _ ⟨⟩
      rw [← load_eq_settings, load_of_unusable (h.unnamed line rfl) h.unusable]
  · rintro line path failure rfl hconfig hprinting hfailure hfilter
    obtain ⟨hverdict, houtput, hevents⟩ := run_of_named hread hconfig hprinting hfailure hfilter
    refine ⟨hverdict, congrArg Verdict.exitStatus hverdict, houtput, fun e he => ?_⟩
    obtain rfl := hevents e he
    exact ⟨rfl, Log.Event.tells_loading path⟩

def wronglyTyped : Environment where
  arguments := ["-q"]
  logFilter := some "trace"
  tree := [("work", .directory
    [("divguard.toml", .file (Utf8.encode "catch_faults = false\nnumerator = true\n".toList))])]
  working := ["work"]
  home := "/home"
  console := []
  freshSeed := 0

def wronglyTypedNamed : Environment :=
  { wronglyTyped with arguments := ["--config", "divguard.toml"] }

theorem run_unusable_wronglyTyped :
    (run wronglyTyped).EndsLike (run { wronglyTyped with tree := [], freshSeed := 1 }) ∧
      (run wronglyTypedNamed).verdict.exitStatus = 1 := by
  constructor
  · have hread : CommandLine.read? wronglyTyped.arguments = some (.command
        { top := [.flag .quiet], level := .demonstration, own := [] }) := by
      decide +kernel
    have hlacks : Lacks wronglyTyped { wronglyTyped with tree := [], freshSeed := 1 }
        (.command { top := [.flag .quiet], level := .demonstration, own := [] })
        (.unusable .malformed) :=
      { arguments := rfl
        logFilter := rfl
        console := rfl
        unnamed := by
          rintro _ ⟨⟩
          rfl
        unusable := ⟨"/work/divguard.toml", by decide +kernel, by decide +kernel⟩
        absent := by decide +kernel
        freshSeed := by
          rintro _ ⟨⟩ hlevel
          exact absurd hlevel (by decide) }
    exact ((run_unusable hread).1 _ _ hlacks).1
  · have hread : CommandLine.read? wronglyTypedNamed.arguments = some (.command
        { top := [.config "divguard.toml"], level := .demonstration, own := [] }) := by
      decide +kernel
    have hfailure : Settings.ofPath wronglyTypedNamed.tree wronglyTypedNamed.working
        "divguard.toml" = .error (.unusable .malformed) := by
      decide +kernel
    have hfilter : filter wronglyTypedNamed
        { top := [.config "divguard.toml"], level := .demonstration, own := [] } =
          .ok (Log.Filter.upTo .trace) := by
      decide +kernel
    refine ((run_unusable hread).2 _ "divguard.toml" _ rfl rfl nofun hfailure ?_).2.1
    intro cut hcut
    exact nomatch hfilter.symm.trans hcut

def missingAtVersion : Environment where
  arguments := ["--config=missing.toml", "-V"]
  logFilter := none
  tree := []
  working := ["work"]
  home := "/home"
  console := []
  freshSeed := 0

/-- To tell the version, no file is looked at. -/
theorem missing_named_ignored : ¬∀ (env : Environment) (path : String) (failure : LoadFailure),
    CommandLine.read? env.arguments ≠ none → "--config=" ++ path ∈ env.arguments →
    "--print-config" ∉ env.arguments → "--print-config=default" ∉ env.arguments →
    Settings.ofPath env.tree env.working path = .error failure →
      (run env).verdict.exitStatus = 1 := by
  intro h
  have hread : CommandLine.read? missingAtVersion.arguments ≠ none := by decide +kernel
  have hfailure : Settings.ofPath missingAtVersion.tree missingAtVersion.working "missing.toml" =
      .error (.unreadable .notFound) := by
    decide +kernel
  have hstatus : (run missingAtVersion).verdict.exitStatus = 0 := by decide +kernel
  have hone := h missingAtVersion "missing.toml" _ hread (by decide) (by decide) (by decide)
    hfailure
  exact absurd (hstatus.symm.trans hone) (by decide)

end Program

end GuardedDivision
