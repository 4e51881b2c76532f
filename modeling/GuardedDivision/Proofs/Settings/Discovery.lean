import GuardedDivision.Proofs.Location
import GuardedDivision.Settings.Discovery
import Mathlib.Data.List.Basic
import Mathlib.Data.List.Induction

namespace GuardedDivision

theorem find?_congr_until {α : Type} {p q : α → Bool} {l : List α}
    (h : ∀ (i : Nat) (x : α), l[i]? = some x → (∀ y ∈ l.take i, p y = false) → q x = p x) :
    l.find? q = l.find? p := by
  induction l with
  | nil => rfl
  | cons x l ih =>
    have hx : q x = p x := h 0 x rfl nofun
    rw [List.find?_cons, List.find?_cons, hx]
    cases hp : p x with
    | true => rfl
    | false =>
      refine ih fun i y hy hbefore => h (i + 1) y hy ?_
      rw [List.take_succ_cons]
      exact List.forall_mem_cons.mpr ⟨hp, hbefore⟩

theorem find?_eq_some_iff_take {α : Type} {p : α → Bool} {l : List α} {x : α} :
    l.find? p = some x ↔
      p x = true ∧ ∃ i, l[i]? = some x ∧ ∀ y ∈ l.take i, p y = false := by
  rw [List.find?_eq_some_iff_append]
  refine and_congr_right fun _ => ⟨?_, ?_⟩
  · rintro ⟨before, after, rfl, hbefore⟩
    refine ⟨before.length, by simp, ?_⟩
    rw [List.take_left]
    simpa using hbefore
  · rintro ⟨i, hx, hbefore⟩
    obtain ⟨hi, rfl⟩ := List.getElem?_eq_some_iff.mp hx
    refine ⟨l.take i, l.drop (i + 1), ?_, by simpa using hbefore⟩
    rw [← List.drop_eq_getElem_cons hi, List.take_append_drop]

theorem getElem?_flatMap_pair {α β : Type} (l : List α) (f g : α → β) (k : Nat) :
    (l.flatMap fun x => [f x, g x])[2 * k]? = l[k]?.map f ∧
      (l.flatMap fun x => [f x, g x])[2 * k + 1]? = l[k]?.map g := by
  induction l generalizing k with
  | nil => simp
  | cons x l ih =>
    cases k with
    | zero => simp
    | succ k =>
      have h := ih k
      rw [Nat.mul_succ]
      simpa using h

namespace Location

theorem getElem?_upward {here : Location} {k : Nat} (hk : k ≤ here.length) :
    here.upward[k]? = some (here.take (here.length - k)) := by
  have hlt : k < (List.range (here.length + 1)).length := by
    rw [List.length_range]
    omega
  rw [upward, List.getElem?_map, List.getElem?_reverse hlt, List.length_range,
    List.getElem?_range (by omega), Option.map_some]
  congr 2

theorem text_concat (directory : Location) (name : String) :
    text (directory ++ [name]) = directory.text ++ "/" ++ name := by
  rw [text, List.foldl_append]
  rfl

theorem getLast?_text {directory : Location} (h : ∀ name ∈ directory, IsName name) :
    directory.text.toList.getLast? ≠ some '/' := by
  cases directory using List.reverseRecOn with
  | nil => exact nofun
  | append_singleton directory name =>
    have hname := h name (by simp)
    have hne : name.toList ≠ [] := fun he => hname.ne_empty (String.toList_eq_nil_iff.mp he)
    intro hlast
    rw [text_concat, String.toList_append, List.getLast?_append_of_ne_nil _ hne] at hlast
    exact hname.slash (List.mem_of_getLast? hlast)

theorem join_text {directory : Location} (h : ∀ name ∈ directory, IsName name) (name : String) :
    Path.join directory.text name = text (directory ++ [name]) := by
  rw [Path.join, if_neg (getLast?_text h), text_concat]

end Location

namespace Settings

def ofContent : Option Bytes → Except LoadFailure Settings
  | none => .error (.unreadable .isDirectory)
  | some content => ofEntry (.ok (.file content))

variable {tree : FileTree} {working : Location} {path : String}

theorem holds_eq_isSome : tree.holds working path = (tree.seenBy working path).isSome := by
  rw [FileTree.holds, FileTree.seenBy]
  cases tree.find working path <;> rfl

theorem ofPath_of_seenBy {content : Option Bytes}
    (h : tree.seenBy working path = some content) :
    ofPath tree working path = ofContent content := by
  rw [FileTree.seenBy] at h
  rw [ofPath]
  cases hfind : tree.find working path with
  | error failure =>
    rw [hfind] at h
    cases h
  | ok entry =>
    rw [hfind] at h
    obtain rfl := Option.some.inj h
    cases entry <;> rfl

theorem join_ne_empty (directory : String) {name : String} (hname : name ≠ "") :
    Path.join directory name ≠ "" := by
  intro he
  have hlength := congrArg String.toList he
  rw [Path.join] at hlength
  split at hlength <;> simp_all

theorem isName_fileName {name : String} (h : name ∈ fileNames) : IsName name := by
  have hall : ∀ name ∈ fileNames, IsName name := by decide
  exact hall name h

theorem length_candidates (working : Location) (home : String) :
    (candidates working home).length = 2 * (working.length + 1) + 1 := by
  have hpairs (l : List Location) : (l.flatMap fun directory =>
      fileNames.map (Path.join directory.text)).length = 2 * l.length := by
    induction l with
    | nil => rfl
    | cons directory l ih =>
      rw [List.flatMap_cons, List.length_append, ih, List.length_map, List.length_cons]
      have htwo : fileNames.length = 2 := rfl
      omega
  rw [candidates, List.length_append, hpairs, Location.upward, List.length_map, List.length_reverse,
    List.length_range]
  rfl

/-- The files in the working directory and in those above it, each in its place in the order. -/
theorem getElem?_candidates (hworking : ∀ name ∈ working, IsName name) (home : String) {k : Nat}
    (hk : k ≤ working.length) :
    (candidates working home)[2 * k]? =
        some (Location.text (working.take (working.length - k) ++ ["divguard.toml"])) ∧
      (candidates working home)[2 * k + 1]? =
        some (Location.text (working.take (working.length - k) ++ [".divguard.toml"])) := by
  have hnames : ∀ name ∈ working.take (working.length - k), IsName name := fun name hname =>
    hworking name (List.mem_of_mem_take hname)
  have hpair := getElem?_flatMap_pair working.upward (Path.join ·.text "divguard.toml")
    (Path.join ·.text ".divguard.toml") k
  have hlength := length_candidates working home
  rw [candidates, List.length_append, List.length_singleton] at hlength
  rw [Location.getElem?_upward hk, Option.map_some, Option.map_some,
    Location.join_text hnames, Location.join_text hnames] at hpair
  rw [candidates, List.getElem?_append_left (by omega), List.getElem?_append_left (by omega)]
  exact hpair

theorem getElem?_candidates_home (working : Location) (home : String) :
    (candidates working home)[2 * (working.length + 1)]? =
      some (Path.join home ".config/divguard/divguard.toml") := by
  have hlength := length_candidates working home
  rw [candidates, List.length_append, List.length_singleton] at hlength
  rw [candidates, List.getElem?_append_right (by omega)]
  have hzero : 2 * (working.length + 1) - (working.upward.flatMap fun directory =>
      fileNames.map (Path.join directory.text)).length = 0 := by omega
  rw [hzero]
  rfl

theorem ne_empty_of_mem_candidates {home : String} (h : path ∈ candidates working home) :
    path ≠ "" := by
  rw [candidates, List.mem_append, List.mem_singleton] at h
  obtain h | rfl := h
  · obtain ⟨directory, -, hname⟩ := List.mem_flatMap.mp h
    obtain ⟨name, hn, rfl⟩ := List.mem_map.mp hname
    exact join_ne_empty _ (isName_fileName hn).ne_empty
  · exact join_ne_empty _ (by decide)

/-- A candidate has a say if none before it exists. -/
def HasSay (tree : FileTree) (working : Location) (home : String) (i : Nat) : Prop :=
  ∀ path ∈ (candidates working home).take i, tree.holds working path = false

instance (home : String) (i : Nat) : Decidable (HasSay tree working home i) :=
  inferInstanceAs (Decidable (∀ path ∈ _, _))

theorem discover_of_first {home : String} {i : Nat}
    (hpath : (candidates working home)[i]? = some path) (hholds : tree.holds working path = true)
    (hsay : HasSay tree working home i) :
    discover tree working home = ofPath tree working path := by
  have hfirst : discovered? tree working home = some path :=
    find?_eq_some_iff_take.mpr ⟨hholds, i, hpath, hsay⟩
  rw [discover, hfirst]

theorem discover_of_none {home : String}
    (h : ∀ path ∈ candidates working home, tree.holds working path = false) :
    discover tree working home = .ok {} := by
  have hnone : discovered? tree working home = none :=
    List.find?_eq_none.mpr fun path hpath => by simp [h path hpath]
  rw [discover, hnone]

/-- Only what is seen at the candidates that have a say can matter. -/
theorem discover_congr {new : FileTree} {home : String}
    (h : ∀ i path, (candidates working home)[i]? = some path → HasSay tree working home i →
      new.seenBy working path = tree.seenBy working path) :
    discover new working home = discover tree working home := by
  have hfirst : discovered? new working home = discovered? tree working home := by
    refine find?_congr_until fun i path hpath hsay => ?_
    rw [holds_eq_isSome, holds_eq_isSome, h i path hpath hsay]
  rw [discover, discover, hfirst]
  cases hdiscovered : discovered? tree working home with
  | none => rfl
  | some path =>
    obtain ⟨hholds, i, hpath, hsay⟩ := find?_eq_some_iff_take.mp hdiscovered
    have hseen := h i path hpath hsay
    rw [holds_eq_isSome] at hholds
    obtain ⟨content, hcontent⟩ := Option.isSome_iff_exists.mp hholds
    change ofPath new working path = ofPath tree working path
    rw [ofPath_of_seenBy hcontent, ofPath_of_seenBy (hseen.trans hcontent)]

structure Discovery (tree : FileTree) (working : Location) (home : String) : Prop where
  length : (candidates working home).length = 2 * (working.length + 1) + 1
  plain (k : Nat) (hk : k ≤ working.length) : (candidates working home)[2 * k]? =
    some (Location.text (working.take (working.length - k) ++ ["divguard.toml"]))
  hidden (k : Nat) (hk : k ≤ working.length) : (candidates working home)[2 * k + 1]? =
    some (Location.text (working.take (working.length - k) ++ [".divguard.toml"]))
  belowHome : (candidates working home)[2 * (working.length + 1)]? =
    some (Path.join home ".config/divguard/divguard.toml")
  /-- The path of a file in one of the directories leads there, from wherever it is followed. -/
  leads (k : Nat) (name : String) (hname : name ∈ fileNames) (e : Entry) :
    tree.find working (Location.text (working.take (working.length - k) ++ [name])) = .ok e ↔
      tree.at? (working.take (working.length - k) ++ [name]) = some e
  first (i : Nat) (path : String) (hpath : (candidates working home)[i]? = some path)
    (e : Entry) (he : tree.find working path = .ok e) (hsay : HasSay tree working home i) :
    discover tree working home = ofPath tree working path
  defaults (h : ∀ path ∈ candidates working home, ∀ e, tree.find working path ≠ .ok e) :
    discover tree working home = .ok {}
  /-- Nothing else matters: another tree gives the same settings if it looks alike where the
  candidates that have a say lead, and has no other directories on a detour to there. -/
  others (new : FileTree)
    (h : ∀ i path, (candidates working home)[i]? = some path → HasSay tree working home i →
      new.seen (Path.location working path) = tree.seen (Path.location working path) ∧
        ∀ place, Path.IsDetour working path place →
          (new.seen place = some none ↔ tree.seen place = some none)) :
    discover new working home = discover tree working home
  /-- A file may come, go or change anywhere but where a candidate that has a say leads. -/
  edits (new : FileTree) (place : Location) (hedit : FileTree.EditsFile place tree new)
    (h : ∀ i path, (candidates working home)[i]? = some path →
      Path.location working path = place → ¬HasSay tree working home i) :
    discover new working home = discover tree working home

theorem find_above (hworking : ∀ name ∈ working, IsName name) (k : Nat) {name : String}
    (hname : name ∈ fileNames) (e : Entry) :
    tree.find working (Location.text (working.take k ++ [name])) = .ok e ↔
      tree.at? (working.take k ++ [name]) = some e := by
  have hne : working.take k ++ [name] ≠ [] := by simp
  have hnames : ∀ other ∈ working.take k ++ [name], IsName other := by
    intro other hother
    obtain hother | hother := List.mem_append.mp hother
    · exact hworking other (List.mem_of_mem_take hother)
    · exact isName_fileName (List.mem_singleton.mp hother ▸ hname)
  exact FileTree.find_text hne hnames working e

/-- The first candidate that exists decides, whether it can be read or not, and nothing but the
candidates up to it has any influence. -/
theorem discovery (tree : FileTree) (working : Location) (home : String)
    (hworking : ∀ name ∈ working, IsName name) : Discovery tree working home where
  length := length_candidates working home
  plain k hk := (getElem?_candidates hworking home hk).1
  hidden k hk := (getElem?_candidates hworking home hk).2
  belowHome := getElem?_candidates_home working home
  leads k name hname e := find_above hworking _ hname e
  first i path hpath e he hsay := by
    refine discover_of_first hpath ?_ hsay
    rw [FileTree.holds, he]
  defaults h := by
    refine discover_of_none fun path hpath => ?_
    rw [FileTree.holds]
    cases he : tree.find working path with
    | error failure => rfl
    | ok e => exact absurd he (h path hpath e)
  others new h := by
    refine discover_congr fun i path hpath hsay => ?_
    obtain ⟨hplace, hdetours⟩ := h i path hpath hsay
    have hne := ne_empty_of_mem_candidates (List.mem_of_getElem? hpath)
    exact FileTree.seenBy_congr hne hplace hdetours
  edits new place hedit h := by
    refine discover_congr fun i path hpath hsay => ?_
    have hne := ne_empty_of_mem_candidates (List.mem_of_getElem? hpath)
    have hother : Path.location working path ≠ place := fun he => h i path hpath he hsay
    exact FileTree.seenBy_congr hne (hedit.elsewhere _ hother) fun other _ =>
      hedit.directory_iff other

def shadowed : FileTree := [
  ("work", .directory [("deep", .directory []), (".divguard.toml", .directory [])]),
  ("home", .directory [(".config", .directory [("divguard", .directory [
    ("divguard.toml", .file (Utf8.encode "seed = 7".toList))])])])]

theorem discovery_shadowed : (∀ name ∈ ["work", "deep"], IsName name) ∧
    shadowed.holds ["work", "deep"] "/home/.config/divguard/divguard.toml" = true ∧
    discover shadowed ["work", "deep"] "/home" = .error (.unreadable .isDirectory) ∧
    discover (shadowed.putFile ["divguard.toml"] [0xFF]) ["work", "deep"] "/home" =
      .error (.unreadable .isDirectory) := by
  have hworking : ∀ name ∈ ["work", "deep"], IsName name := by decide
  have hdiscovery := discovery shadowed ["work", "deep"] "/home" hworking
  have hfound : shadowed.find ["work", "deep"] "/work/.divguard.toml" = .ok (.directory []) :=
    (hdiscovery.leads 1 ".divguard.toml" (by decide) (.directory [])).mpr rfl
  have hdiscover : discover shadowed ["work", "deep"] "/home" =
      .error (.unreadable .isDirectory) := by
    rw [hdiscovery.first 3 "/work/.divguard.toml" (hdiscovery.hidden 1 (by decide)) _ hfound
      (by decide)]
    rfl
  refine ⟨hworking, by decide, hdiscover, ?_⟩
  have hedit : FileTree.EditsFile ["divguard.toml"] shadowed
      (shadowed.putFile ["divguard.toml"] [0xFF]) :=
    FileTree.editsFile_putFile (by decide) rfl (by decide) [0xFF]
  rw [hdiscovery.edits _ _ hedit, hdiscover]
  intro i path hpath hplace hsay
  by_cases hi : i < 4
  · have hnearer : ∀ i < 4, (candidates ["work", "deep"] "/home")[i]?.map
        (Path.location ["work", "deep"]) ≠ some ["divguard.toml"] := by decide
    apply hnearer i hi
    rw [hpath, Option.map_some, hplace]
  · have hmem : "/work/.divguard.toml" ∈ (candidates ["work", "deep"] "/home").take i :=
      List.take_subset_take_left _ (Nat.not_lt.mp hi) (by decide)
    have habsent := hsay _ hmem
    exact absurd habsent (by decide)

end Settings

end GuardedDivision
