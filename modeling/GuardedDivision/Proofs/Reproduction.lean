import GuardedDivision.Proofs.Influence
import GuardedDivision.Proofs.Settings.RoundTrip

namespace GuardedDivision

theorem Verdict.eq_success_of_exitStatus {verdict : Verdict} (h : verdict.exitStatus = 0) :
    verdict = .success := by
  cases verdict with
  | success => rfl
  | faultReported | failed | aborted | misused => cases h

namespace Program

variable {env : Environment} {line : CommandLine}

theorem settings_congr {other : Environment} {line' : CommandLine} (htree : other.tree = env.tree)
    (hworking : other.working = env.working) (hhome : other.home = env.home)
    (hconfig : line'.config? = line.config?) : settings other line' = settings env line := by
  rw [settings, settings, htree, hworking, hhome, hconfig]

theorem settings_of_printed {path : String} {s : Settings} (hconfig : line.config? = some path)
    (h : env.tree.find env.working path = .ok (.file (printed s))) :
    settings env line = .ok s := by
  rw [settings, hconfig]
  dsimp only
  rw [Settings.ofPath, h]
  exact s.ofEntry_toText 1

theorem run_current {s : Settings} (hread : CommandLine.read? env.arguments = some (.command line))
    (hprinting : line.printing? = some .current) (hs : settings env line = .ok s)
    (hfilter : ∀ cut, filter env line ≠ .error cut) :
    (run env).verdict = .success ∧ (run env).output = printed s := by
  have hends := run_endsLike hread
  cases hshown : filter env line with
  | error cut => exact absurd hshown (hfilter cut)
  | ok shown =>
    rw [hshown] at hends
    dsimp only at hends
    rw [execute_current hprinting hs] at hends
    exact ⟨hends.verdict, hends.output⟩

theorem exists_settings_of_current
    (hread : CommandLine.read? env.arguments = some (.command line))
    (hprinting : line.printing? = some .current) (hsuccess : (run env).verdict = .success) :
    (∀ cut, filter env line ≠ .error cut) ∧ ∃ s, settings env line = .ok s := by
  have hends := run_endsLike hread
  cases hfilter : filter env line with
  | error cut =>
    rw [hfilter] at hends
    exact nomatch hsuccess.symm.trans hends.verdict
  | ok shown =>
    refine ⟨nofun, ?_⟩
    cases hs : settings env line with
    | ok s => exact ⟨s, rfl⟩
    | error failure =>
      have hdefault : line.printing? ≠ some .default := by
        rw [hprinting]
        exact nofun
      rw [hfilter] at hends
      dsimp only at hends
      rw [execute_of_unloaded hdefault hs] at hends
      exact nomatch hsuccess.symm.trans hends.verdict

/-- A command line that names the file of the printed settings ends as it did with the choice of
file that they are from, and they are printed again. -/
theorem run_printed (hread : CommandLine.read? env.arguments = some (.command line))
    (hprinting : line.printing? = some .current) (hstatus : (run env).verdict.exitStatus = 0) :
    (∀ (working location : Location), location ≠ [] → (∀ name ∈ location, IsName name) →
      (env.tree.putFile location (run env).output).find working location.text =
        .ok (.file (run env).output)) ∧
    ∀ (tree : FileTree) (path : String),
      tree.find env.working path = .ok (.file (run env).output) →
      (∀ (original stored : List String) (a b : CommandLine) (logFilter : Option String)
          (console : Bytes) (fresh freshStored : UInt64),
        CommandLine.read? original = some (.command a) →
        CommandLine.read? stored = some (.command b) →
        a.config? = line.config? → b.config? = some path → a.SameButFile b →
        (a.level = .single → a.sourceKind = .random →
          ∀ s, settings env line = .ok s → s.seed = none → freshStored = fresh) →
        (run { env with
            arguments := stored, tree, logFilter, console, freshSeed := freshStored }).EndsLike
          (run { env with arguments := original, logFilter, console, freshSeed := fresh })) ∧
      ∀ (stored : List String) (b : CommandLine),
        CommandLine.read? stored = some (.command b) → b.config? = some path →
        b.printing? = some .current →
          (run { env with arguments := stored, tree }).verdict.exitStatus = 0 ∧
            (run { env with arguments := stored, tree }).output = (run env).output := by
  have hsuccess := Verdict.eq_success_of_exitStatus hstatus
  obtain ⟨hfilter, s, hs⟩ := exists_settings_of_current hread hprinting hsuccess
  obtain ⟨-, houtput⟩ := run_current hread hprinting hs hfilter
  rw [houtput]
  refine ⟨fun working location hne hnames => FileTree.find_putFile _ working hne hnames _, ?_⟩
  intro tree path hfind
  constructor
  · intro original stored a b logFilter console fresh freshStored ha hb hchoice hpath hsame hseed
    let first : Start :=
      { env := { env with arguments := original, logFilter, console, freshSeed := fresh }
        line := a
        settings := s
        read := ha
        loaded := (settings_congr rfl rfl rfl hchoice).trans hs }
    let second : Start :=
      { env := { env with
          arguments := stored, tree, logFilter, console, freshSeed := freshStored }
        line := b
        settings := s
        read := hb
        loaded := settings_of_printed hpath hfind }
    have huses : first.UsesAlike second := Start.usesAlike_of_settings_eq rfl rfl hsame rfl
      fun hlevel hrandom hnone => hseed hlevel hrandom s hs hnone
    exact run_congr first.read second.read rfl (huses.execute_endsLike fun _ => rfl)
  · intro stored b hb hpath hprintingAgain
    let again : Environment := { env with arguments := stored, tree }
    have hread' : CommandLine.read? again.arguments = some (.command b) := hb
    have hfilter' (cut : BrokenCut) : filter again b ≠ .error cut :=
      fun hcut => hfilter cut (filter_eq_error_iff.mpr (filter_eq_error_iff.mp hcut))
    obtain ⟨hverdict, hsame⟩ :=
      run_current hread' hprintingAgain (settings_of_printed hpath hfind) hfilter'
    exact ⟨congrArg Verdict.exitStatus hverdict, hsame⟩

def printsFound : Environment where
  arguments := ["--print-config", "current"]
  logFilter := none
  tree := [("work", .directory
    [("divguard.toml", .file (Utf8.encode "numerator = 7\nseed = 5\n".toList))])]
  working := ["work"]
  home := "/home"
  console := []
  freshSeed := 0

theorem run_printed_found :
    (run { printsFound with
      arguments := ["run", "--config=/kept.toml", "--source=fixed"]
      tree := printsFound.tree.putFile ["kept.toml"] (run printsFound).output }).output =
        Utf8.encode "7/2 = 3\n".toList := by
  have hread : CommandLine.read? printsFound.arguments = some (.command
      { top := [.printConfig .current], level := .demonstration, own := [] }) := by
    decide +kernel
  have hstatus : (run printsFound).verdict.exitStatus = 0 := by decide +kernel
  obtain ⟨hfound, hruns⟩ := run_printed hread rfl hstatus
  have hpath := hfound printsFound.working ["kept.toml"] (by decide) (by decide)
  have horiginal : CommandLine.read? ["run", "--source=fixed"] = some (.command
      { top := [], level := .single, own := [.source .fixed] }) := by
    decide +kernel
  have hstored : CommandLine.read? ["run", "--config=/kept.toml", "--source=fixed"] =
      some (.command
        { top := [], level := .single, own := [.config "/kept.toml", .source .fixed] }) := by
    decide +kernel
  have hends := (hruns _ _ hpath).1 _ _ _ _ none [] 0 0 horiginal hstored rfl rfl
    ⟨rfl, rfl, rfl⟩ nofun
  have houtput : (run { printsFound with arguments := ["run", "--source=fixed"] }).output =
      Utf8.encode "7/2 = 3\n".toList := by
    decide +kernel
  exact hends.output.trans houtput

end Program

end GuardedDivision
