import GuardedDivision.Proofs.Log.Unbroken
import GuardedDivision.Proofs.Logging

namespace GuardedDivision.Program

open Log (Directive)
open Log.Filter (Cuts Lists Unused)

section Texts

variable {env : Environment} {text other : String} {given : Option String}
  {ds es before after : Log.Filter} {d f : Directive} {limit : Log.Limit} {item : List Char}

theorem filter_of_ofText {shown : Log.Filter} (h : Log.Filter.ofText text.toList = .ok shown)
    (line : CommandLine) : filter { env with logFilter := some text } line = .ok shown :=
  filter_eq_ok_iff.mpr (.given rfl h)

theorem run_of_ofText {shown : Log.Filter} (h : Log.Filter.ofText text.toList = .ok shown) :
    run { env with logFilter := some text } =
      { run { env with logFilter := some "trace" } with
        events := (run { env with logFilter := some "trace" }).events.filter shown.enables } := by
  cases hread : CommandLine.read? env.arguments with
  | none => simp only [run, hread, List.filter_nil]
  | some request =>
    cases request with
    | version => simp only [run, hread, List.filter_nil]
    | command line =>
      have htrace : run { env with logFilter := some "trace" } = execute env line :=
        run_trace hread rfl
      rw [htrace, run, hread]
      dsimp only
      rw [filter_of_ofText h]
      rfl

theorem enables_eq_shows (h : Lists text.toList ds) (hdistinct : (ds.map Directive.target).Nodup)
    (e : Log.Event) : ds.enables e = decide (ds.Shows e.level e.target.toList) :=
  Bool.eq_iff_iff.mpr
    ((Log.Filter.admits_iff_shows h.plain hdistinct).trans decide_eq_true_iff.symm)

theorem events_run_of_lists (h : Lists text.toList ds)
    (hdistinct : (ds.map Directive.target).Nodup) :
    (run { env with logFilter := some text }).events =
      (run { env with logFilter := some "trace" }).events.filter
        fun e => ds.Shows e.level e.target.toList := by
  rw [run_of_ofText h.ofText_eq]
  exact List.filter_congr fun e _ => enables_eq_shows h hdistinct e

theorem run_perm (h : Lists text.toList ds) (hother : Lists other.toList es)
    (hdistinct : (ds.map Directive.target).Nodup) (hperm : es.Perm ds) :
    run { env with logFilter := some other } = run { env with logFilter := some text } := by
  have hdistinct' : (es.map Directive.target).Nodup :=
    (hperm.map Directive.target).nodup_iff.mpr hdistinct
  have henables (e : Log.Event) : es.enables e = ds.enables e := by
    rw [enables_eq_shows hother hdistinct', enables_eq_shows h hdistinct]
    exact decide_eq_decide.mpr (Log.Filter.shows_iff_of_perm hperm)
  rw [run_of_ofText hother.ofText_eq, run_of_ofText h.ofText_eq, funext henables]

theorem events_run_replace (h : Lists text.toList (before ++ d :: after))
    (hother : Lists other.toList (before ++ { d with limit } :: after))
    (hdistinct : ((before ++ d :: after).map Directive.target).Nodup)
    (hf : f ∈ before ++ d :: after) (hproper : d.target <+: f.target ∧ d.target ≠ f.target) :
    (run { env with logFilter := some other }).events.filter
        (fun e => f.target.isPrefixOf e.target.toList) =
      (run { env with logFilter := some text }).events.filter
        (fun e => f.target.isPrefixOf e.target.toList) := by
  have hdistinct' : ((before ++ { d with limit } :: after).map Directive.target).Nodup := by
    rwa [List.map_append, List.map_cons] at hdistinct ⊢
  rw [events_run_of_lists hother hdistinct', events_run_of_lists h hdistinct, List.filter_filter,
    List.filter_filter]
  refine List.filter_congr fun e _ => ?_
  cases hstarts : f.target.isPrefixOf e.target.toList with
  | false => rfl
  | true =>
    rw [Bool.true_and, Bool.true_and]
    exact decide_eq_decide.mpr (Log.Filter.shows_replace_iff hproper hf
      (List.isPrefixOf_iff_prefix.mp hstarts) limit)

theorem run_of_unused (h : Unused given) :
    run { env with logFilter := given } = run { env with logFilter := none } := by
  cases hread : CommandLine.read? env.arguments with
  | none => simp only [run, hread]
  | some request =>
    cases request with
    | version => simp only [run, hread]
    | command line =>
      have hfilter : filter { env with logFilter := given } line =
          filter { env with logFilter := none } line := Log.Filter.inForce_of_unused h _ _
      simp only [run, hread, hfilter]
      rfl

theorem unused_of_unreadable (hitem : item ∈ fields ',' text.toList) (hne : item ≠ [])
    (hunreadable : ∀ r, Directive.ofText item ≠ .ok r) (hcuts : ∀ cut, ¬Cuts (some text) cut) :
    Unused (some text) := by
  rintro _ ⟨⟩
  cases hread : Log.Filter.ofText text.toList with
  | ok shown =>
    obtain ⟨r, hr⟩ := Log.Filter.exists_ok_of_ofText hread hitem hne
    exact absurd hr (hunreadable r)
  | error failure =>
    cases failure with
    | malformed => rfl
    | broken cut => exact absurd ⟨text, rfl, hread⟩ (hcuts cut)

end Texts

def overlapping : Environment where
  arguments := []
  logFilter := some "divguard=off,INFO,divguard_core=4"
  tree := []
  working := ["work"]
  home := "/home"
  console := []
  freshSeed := 0

end GuardedDivision.Program
