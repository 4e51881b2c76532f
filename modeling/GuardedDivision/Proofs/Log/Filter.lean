import GuardedDivision.Log.Filter
import GuardedDivision.Proofs.FileTree
import GuardedDivision.Proofs.Log.Directive
import Mathlib.Data.List.Nodup

namespace GuardedDivision.Log.Filter

/-- A directive decides about a target if it is for it, and none is that has a longer target. -/
structure Decides (ds : Filter) (target : List Char) (d : Directive) : Prop where
  starts : d.target <+: target
  longest : ∀ e ∈ ds, e.target <+: target → e.target.length ≤ d.target.length

instance (ds : Filter) (target : List Char) (d : Directive) : Decidable (Decides ds target d) :=
  decidable_of_iff (d.target <+: target ∧
      ∀ e ∈ ds, e.target <+: target → e.target.length ≤ d.target.length)
    ⟨fun ⟨starts, longest⟩ => ⟨starts, longest⟩, fun ⟨starts, longest⟩ => ⟨starts, longest⟩⟩

def Shows (ds : Filter) (level : Level) (target : List Char) : Prop :=
  ∃ d ∈ ds, ds.Decides target d ∧ d.limit.admits level = true

instance (ds : Filter) (level : Level) (target : List Char) : Decidable (ds.Shows level target) :=
  inferInstanceAs (Decidable (∃ d ∈ ds, ds.Decides target d ∧ d.limit.admits level = true))

inductive Lists : List Char → Filter → Prop
  | single {item : List Char} {d : Directive} : Directive.Spells item d → ',' ∉ item →
    Lists item [d]
  | cons {item text : List Char} {d : Directive} {ds : Filter} : Directive.Spells item d →
    ',' ∉ item → Lists text ds → Lists (item ++ ',' :: text) (d :: ds)

section Plain

variable {ds : Filter} {target : List Char} {names : List (List Char)} {level : Level}
  {d e : Directive}

theorem isFor_iff (hplain : d.field = none) :
    d.isFor target names = true ↔ d.target <+: target := by
  rw [Directive.isFor, hplain, Option.all_none, Bool.and_true, List.isPrefixOf_iff_prefix]

theorem yieldsTo_iff (hd : d.field = none) (he : e.field = none) :
    d.yieldsTo e = true ↔ d.target.length < e.target.length := by
  rw [Directive.yieldsTo, hd, he, Bool.and_false, Bool.or_false, Nat.blt_eq]

theorem mem_of_deciding? (h : ds.deciding? target names = some d) : d ∈ ds := by
  induction ds with
  | nil => contradiction
  | cons e later ih =>
    rw [deciding?] at h
    split at h
    all_goals split_ifs at h
    · cases h
      exact List.mem_cons_self
    · cases h
      exact List.mem_cons_self
    · next hlater _ =>
      cases h
      exact List.mem_cons_of_mem _ (ih hlater)

theorem deciding?_cons (hplain : ∀ e ∈ d :: ds, e.field = none) :
    deciding? target names (d :: ds) =
      if d.target <+: target ∧ ∀ e ∈ ds.deciding? target names, e.target.length < d.target.length
      then some d else ds.deciding? target names := by
  obtain ⟨hd, hds⟩ := List.forall_mem_cons.mp hplain
  rw [deciding?]
  cases he : ds.deciding? target names with
  | none => simp [isFor_iff hd]
  | some e => simp [isFor_iff hd, yieldsTo_iff (hds e (mem_of_deciding? he)) hd, and_comm]

theorem deciding?_decides (hplain : ∀ e ∈ ds, e.field = none) :
    (∀ d ∈ ds.deciding? target names, ds.Decides target d) ∧
      (ds.deciding? target names = none → ∀ e ∈ ds, ¬e.target <+: target) := by
  induction ds with
  | nil => exact ⟨nofun, fun _ => List.forall_mem_nil _⟩
  | cons d ds ih =>
    obtain ⟨hdecides, hnone⟩ := ih fun e he => hplain e (List.mem_cons_of_mem d he)
    rw [deciding?_cons hplain]
    -- By induction on the later directives: the first one takes over from none or a shorter one.
    cases hchosen : deciding? target names ds with
    | none =>
      have hother := hnone hchosen
      by_cases hd : d.target <+: target
      · rw [if_pos ⟨hd, nofun⟩]
        refine ⟨?_, nofun⟩
        rintro _ ⟨⟩
        exact ⟨hd, List.forall_mem_cons.mpr
          ⟨fun _ => Nat.le_refl _, fun e he hstarts => absurd hstarts (hother e he)⟩⟩
      · rw [if_neg fun h => hd h.1]
        exact ⟨nofun, fun _ => List.forall_mem_cons.mpr ⟨hd, hother⟩⟩
    | some f =>
      obtain ⟨hstarts, hlongest⟩ := hdecides f hchosen
      by_cases h : d.target <+: target ∧ f.target.length < d.target.length
      · rw [if_pos (by simpa using h)]
        refine ⟨?_, nofun⟩
        rintro _ ⟨⟩
        exact ⟨h.1, List.forall_mem_cons.mpr ⟨fun _ => Nat.le_refl _,
          fun e he hfor => Nat.le_of_lt (Nat.lt_of_le_of_lt (hlongest e he hfor) h.2)⟩⟩
      · rw [if_neg (by simpa using h)]
        refine ⟨?_, nofun⟩
        rintro _ ⟨⟩
        exact ⟨hstarts, List.forall_mem_cons.mpr
          ⟨fun hd => Nat.le_of_not_lt fun hlt => h ⟨hd, hlt⟩, hlongest⟩⟩

theorem Decides.eq (hdistinct : (ds.map Directive.target).Nodup) (hd : ds.Decides target d)
    (he : ds.Decides target e) (hdmem : d ∈ ds) (hemem : e ∈ ds) : d = e := by
  have hlength : d.target.length = e.target.length :=
    Nat.le_antisymm (he.longest d hdmem hd.starts) (hd.longest e hemem he.starts)
  have htarget : d.target = e.target :=
    (List.prefix_of_prefix_length_le hd.starts he.starts (Nat.le_of_eq hlength)).eq_of_length
      hlength
  exact List.inj_on_of_nodup_map hdistinct hdmem hemem htarget

/-- The longest target that an event's target starts with decides. -/
theorem admits_iff_shows (hplain : ∀ d ∈ ds, d.field = none)
    (hdistinct : (ds.map Directive.target).Nodup) :
    ds.admits level target names = true ↔ ds.Shows level target := by
  obtain ⟨hdecides, hnone⟩ := deciding?_decides hplain
  rw [admits]
  cases hchosen : ds.deciding? target names with
  | none =>
    refine ⟨nofun, ?_⟩
    rintro ⟨d, hd, hdecides, -⟩
    exact absurd hdecides.starts (hnone hchosen d hd)
  | some d =>
    have hd := mem_of_deciding? hchosen
    refine ⟨fun hlevel => ⟨d, hd, hdecides d hchosen, hlevel⟩, ?_⟩
    rintro ⟨e, he, hother, hlevel⟩
    rwa [(hdecides d hchosen).eq hdistinct hother hd he]

end Plain

section Changes

variable {ds es before after : Filter} {d f : Directive} {limit : Limit} {target : List Char}
  {level : Level}

theorem shows_iff_of_perm (h : es.Perm ds) : es.Shows level target ↔ ds.Shows level target := by
  have hdecides (d : Directive) : es.Decides target d ↔ ds.Decides target d :=
    ⟨fun ⟨starts, longest⟩ => ⟨starts, fun e he => longest e (h.mem_iff.mpr he)⟩,
      fun ⟨starts, longest⟩ => ⟨starts, fun e he => longest e (h.mem_iff.mp he)⟩⟩
  simp only [Shows, hdecides, h.mem_iff]

/-- Another limit for a directive that has a shorter target than one that an event is for makes no
difference to the event. -/
theorem Shows.replace (hproper : d.target <+: f.target ∧ d.target ≠ f.target)
    (hf : f ∈ before ++ d :: after) (hstarts : f.target <+: target)
    (h : Shows (before ++ d :: after) level target) (limit : Limit) :
    Shows (before ++ { d with limit } :: after) level target := by
  obtain ⟨g, hg, hdecides, hlevel⟩ := h
  have hshort : d.target.length < f.target.length :=
    Nat.lt_of_le_of_ne hproper.1.length_le fun he => hproper.2 (hproper.1.eq_of_length he)
  -- So the one that decides is longer than the one that changes, and stays.
  have hlong : f.target.length ≤ g.target.length := hdecides.longest f hf hstarts
  have hkept : g ∈ before ++ { d with limit } :: after := by
    rw [List.mem_append, List.mem_cons] at hg ⊢
    obtain hg | rfl | hg := hg
    · exact .inl hg
    · omega
    · exact .inr (.inr hg)
  refine ⟨g, hkept, ⟨hdecides.starts, fun e he hfor => ?_⟩, hlevel⟩
  rw [List.mem_append, List.mem_cons] at he
  obtain he | rfl | he := he
  · exact hdecides.longest e (by simp [he]) hfor
  · exact hdecides.longest d (by simp) hfor
  · exact hdecides.longest e (by simp [he]) hfor

theorem shows_replace_iff (hproper : d.target <+: f.target ∧ d.target ≠ f.target)
    (hf : f ∈ before ++ d :: after) (hstarts : f.target <+: target) (limit : Limit) :
    Shows (before ++ { d with limit } :: after) level target ↔
      Shows (before ++ d :: after) level target := by
  constructor
  case mpr => exact fun h => h.replace hproper hf hstarts limit
  intro h
  have hf' : f ∈ before ++ { d with limit } :: after := by
    rw [List.mem_append, List.mem_cons] at hf ⊢
    obtain hf | rfl | hf := hf
    · exact .inl hf
    · exact absurd rfl hproper.2
    · exact .inr (.inr hf)
  exact Shows.replace (d := { d with limit }) hproper hf' hstarts h d.limit

end Changes

section Reading

variable {text item : List Char} {items : List (List Char)} {ds : Filter}

theorem Lists.plain (h : Lists text ds) : ∀ d ∈ ds, d.field = none := by
  induction h with
  | single h => exact List.forall_mem_singleton.mpr h.field_eq
  | cons h _ _ ih => exact List.forall_mem_cons.mpr ⟨h.field_eq, ih⟩

theorem Lists.forall₂ (h : Lists text ds) :
    List.Forall₂ Directive.Spells (fields ',' text) ds := by
  induction h with
  | single h hcomma =>
    rw [fields_of_not_mem hcomma]
    exact .cons h .nil
  | cons h hcomma _ ih =>
    rw [fields_append hcomma]
    exact .cons h ih

theorem filter_ne_nil (h : List.Forall₂ Directive.Spells items ds) :
    items.filter (· ≠ []) = items := by
  induction h with
  | nil => rfl
  | cons h _ ih => rw [List.filter_cons_of_pos (by simp [h.ne_nil]), ih]

theorem mapM_ofText (h : List.Forall₂ Directive.Spells items ds) :
    items.mapM Directive.ofText = .ok (ds.map some) := by
  induction h with
  | nil => rfl
  | cons h _ ih =>
    rw [List.mapM_cons, h.ofText_eq, ih]
    rfl

theorem Lists.ofText_eq (h : Lists text ds) : ofText text = .ok ds := by
  have hread := mapM_ofText h.forall₂
  rw [ofText, filter_ne_nil h.forall₂]
  cases hitems : fields ',' text with
  | nil =>
    have hnil := h.forall₂
    rw [hitems] at hnil
    cases hnil
    cases h
  | cons item items =>
    rw [hitems] at hread
    dsimp only
    rw [hread]
    have hall : (ds.map some).filterMap id = ds := by
      rw [List.filterMap_map]
      exact List.filterMap_some
    exact congrArg Except.ok hall

theorem exists_ok_of_mapM {α β ε : Type} {f : α → Except ε β} {xs : List α} {ys : List β}
    (h : xs.mapM f = .ok ys) : ∀ x ∈ xs, ∃ y, f x = .ok y := by
  induction xs generalizing ys with
  | nil => exact List.forall_mem_nil _
  | cons x xs ih =>
    rw [List.mapM_cons] at h
    cases hx : f x with
    | error failure =>
      rw [hx] at h
      contradiction
    | ok y =>
      cases hxs : xs.mapM f with
      | error failure =>
        rw [hx, hxs] at h
        contradiction
      | ok rest => exact List.forall_mem_cons.mpr ⟨⟨y, hx⟩, ih hxs⟩

theorem exists_ok_of_ofText {filter : Filter} (h : ofText text = .ok filter)
    (hitem : item ∈ fields ',' text) (hne : item ≠ []) :
    ∃ r, Directive.ofText item = .ok r := by
  have hmem : item ∈ (fields ',' text).filter (· ≠ []) :=
    List.mem_filter.mpr ⟨hitem, decide_eq_true hne⟩
  rw [ofText] at h
  split at h
  · next hnone =>
    rw [hnone] at hmem
    contradiction
  · cases hitems : ((fields ',' text).filter (· ≠ [])).mapM Directive.ofText with
    | error failure =>
      rw [hitems] at h
      contradiction
    | ok read => exact exists_ok_of_mapM hitems item hmem

end Reading

end GuardedDivision.Log.Filter
