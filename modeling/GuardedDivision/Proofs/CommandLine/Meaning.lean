import GuardedDivision.CommandLine.Meaning
import GuardedDivision.Proofs.CommandLine.Reader

namespace GuardedDivision.CommandLine

theorem findSome?_filter_not {α : Type} {pick : Setting → Option α} {drops : Setting → Bool}
    (hpick : ∀ s, drops s = true → pick s = none) (settings : List Setting) :
    (settings.filter fun s => !drops s).findSome? pick = settings.findSome? pick := by
  induction settings with
  | nil => rfl
  | cons s settings ih =>
    rw [List.findSome?_cons]
    cases hs : drops s with
    | true =>
      rw [List.filter_cons_of_neg (by simp [hs]), hpick s hs]
      exact ih
    | false => rw [List.filter_cons_of_pos (by simp [hs]), List.findSome?_cons, ih]

/-- What a command line means, by the settings that it is made of. -/
structure Means (line : CommandLine) : Prop where
  config (path : String) : line.config? = some path ↔ .config path ∈ line.own ∨
    (∀ other, .config other ∉ line.own) ∧ .config path ∈ line.top
  printing (printing : Printing) : line.printing? = some printing ↔ .printConfig printing ∈ line.top
  flag (flag : Flag) : line.has flag = true ↔ .flag flag ∈ line.top ∨ .flag flag ∈ line.own
  value (v : Int32) : line.value? = some v ↔ .value v ∈ line.own
  numerator (v : Int32) : line.numerator? = some v ↔ .numerator v ∈ line.own
  sourceKind (kind : SourceKind) : line.sourceKind = kind ↔ .source kind ∈ line.own ∨
    kind = .zero ∧ ∀ other, .source other ∉ line.own
  operation (operation : Operation) : line.operation = operation ↔
    .operation operation ∈ line.own ∨ operation = .divide ∧ ∀ other, .operation other ∉ line.own
  route (route : Route) : line.route = route ↔ .path route ∈ line.own ∨
    route = .guarded ∧ ∀ other, .path other ∉ line.own

section

variable {α : Type} {pick : Setting → Option α} (embed : α → Setting) {settings : List Setting}

theorem findSome?_eq_some_iff (hpick : ∀ s a, pick s = some a ↔ s = embed a)
    (hkind : ∀ a b, (embed a).kind = (embed b).kind) (honce : AllOnce settings) (a : α) :
    settings.findSome? pick = some a ↔ embed a ∈ settings := by
  induction settings with
  | nil => simp
  | cons s settings ih =>
    rw [AllOnce, List.map_cons, List.nodup_cons] at honce
    rw [List.findSome?_cons, List.mem_cons]
    cases hs : pick s with
    | none =>
      have hne : embed a ≠ s := fun he => by
        rw [← he, (hpick _ a).mpr rfl] at hs
        contradiction
      exact (ih honce.2).trans (or_iff_right hne).symm
    | some b =>
      obtain rfl := (hpick s b).mp hs
      have hinj : embed a = embed b ↔ b = a := by
        rw [eq_comm, ← hpick, hs, Option.some.injEq]
      have hnone : embed a ∉ settings := fun hm =>
        honce.1 (hkind a b ▸ List.mem_map_of_mem hm)
      rw [or_iff_left hnone, hinj, Option.some.injEq]

theorem findSome?_eq_none_iff (hpick : ∀ s a, pick s = some a ↔ s = embed a) :
    settings.findSome? pick = none ↔ ∀ a, embed a ∉ settings := by
  rw [List.findSome?_eq_none_iff]
  constructor
  · intro h a ha
    have hnone := h _ ha
    rw [(hpick _ a).mpr rfl] at hnone
    contradiction
  · intro h s hs
    cases hp : pick s with
    | none => rfl
    | some a => exact absurd ((hpick s a).mp hp ▸ hs) (h a)

theorem getD_findSome?_eq_iff (hpick : ∀ s a, pick s = some a ↔ s = embed a)
    (hkind : ∀ a b, (embed a).kind = (embed b).kind) (honce : AllOnce settings) (default a : α) :
    (settings.findSome? pick).getD default = a ↔
      embed a ∈ settings ∨ a = default ∧ ∀ other, embed other ∉ settings := by
  rw [← findSome?_eq_some_iff embed hpick hkind honce, ← findSome?_eq_none_iff embed hpick]
  cases settings.findSome? pick with
  | none => simp [eq_comm]
  | some b => simp

end

theorem means_of_allOnce {line : CommandLine} (htop : AllOnce line.top) (hown : AllOnce line.own) :
    line.Means where
  config path := by
    rw [config?, Option.or_eq_some_iff]
    refine or_congr (findSome?_eq_some_iff .config (fun s a => ?_) (fun _ _ => rfl) hown path)
      (and_congr (findSome?_eq_none_iff .config fun s a => ?_)
        (findSome?_eq_some_iff .config (fun s a => ?_) (fun _ _ => rfl) htop path))
    all_goals cases s <;> simp
  printing printing := by
    refine findSome?_eq_some_iff .printConfig (fun s a => ?_) (fun _ _ => rfl) htop printing
    cases s <;> simp
  flag flag := by
    simp [has]
  value v := by
    refine findSome?_eq_some_iff .value (fun s a => ?_) (fun _ _ => rfl) hown v
    cases s <;> simp
  numerator v := by
    refine findSome?_eq_some_iff .numerator (fun s a => ?_) (fun _ _ => rfl) hown v
    cases s <;> simp
  sourceKind kind := by
    refine getD_findSome?_eq_iff .source (fun s a => ?_) (fun _ _ => rfl) hown .zero kind
    cases s <;> simp
  operation operation := by
    refine getD_findSome?_eq_iff .operation (fun s a => ?_) (fun _ _ => rfl) hown .divide operation
    cases s <;> simp
  route route := by
    refine getD_findSome?_eq_iff .path (fun s a => ?_) (fun _ _ => rfl) hown .guarded route
    cases s <;> simp

theorem Derives.means {arguments : List String} {line : CommandLine} (h : Derives arguments line) :
    line.Means := by
  cases h with
  | alone _ honce _ => exact means_of_allOnce honce List.nodup_nil
  | subcommand _ honce _ _ hownOnce _ => exact means_of_allOnce honce hownOnce

/-- Arguments are accepted as a command line if and only if the grammar derives it from them. It
derives one at most, and this means what its groups say. -/
theorem accepted_iff_derives (arguments : List String) :
    (∀ line, read? arguments = some (.command line) ↔ Derives arguments line) ∧
      (∀ line other, Derives arguments line → Derives arguments other → other = line) ∧
      ∀ line, Derives arguments line → line.Means := by
  refine ⟨fun line => read?_eq_some_iff, fun line other hline hother => ?_, fun line => (·.means)⟩
  have hread := read?_eq_some_iff.mpr hline
  rw [read?_eq_some_iff.mpr hother] at hread
  exact Request.command.inj (Option.some.inj hread)

theorem accepted_iff_derives_mixed :
    let arguments := ["--config=a", "-vq", "run", "--value", "-5", "--config", "b", "--"]
    let line : CommandLine :=
      { top := [.config "a", .flag .verbose, .flag .quiet]
        level := .single
        own := [.value (-5), .config "b"] }
    Derives arguments line ∧ (∀ other, Derives arguments other → other = line) ∧
      line.config? = some "b" := by
  intro arguments line
  obtain ⟨hread, hunique, hmeans⟩ := accepted_iff_derives arguments
  have hderives : Derives arguments line := (hread line).mp (by decide +kernel)
  refine ⟨hderives, fun other => hunique line other hderives, ?_⟩
  exact ((hmeans line hderives).config "b").mpr (.inl (by decide))

end GuardedDivision.CommandLine
