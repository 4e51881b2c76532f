import GuardedDivision.Proofs.FileTree

namespace GuardedDivision

namespace Entry

def descend : Entry → Location → Option Entry
  | e, [] => some e
  | .directory entries, name :: rest => match entries.lookup name with
    | none => none
    | some entry => entry.descend rest
  | .file _, _ :: _ => none

theorem descend_nil (e : Entry) : e.descend [] = some e := by cases e <;> rfl

theorem descend_append (e : Entry) (first second : Location) :
    e.descend (first ++ second) = (e.descend first).bind fun entry => entry.descend second := by
  induction first generalizing e with
  | nil => rw [List.nil_append, descend_nil, Option.bind_some]
  | cons name first ih =>
    cases e with
    | file content => rfl
    | directory entries =>
      rw [List.cons_append, descend, descend]
      cases entries.lookup name with
      | none => rfl
      | some entry => exact ih entry

theorem directory_of_descend {root e : Entry} {first second : Location} (hne : second ≠ [])
    (h : root.descend (first ++ second) = some e) :
    ∃ entries, root.descend first = some (.directory entries) := by
  rw [descend_append] at h
  obtain ⟨entry, hentry, he⟩ := Option.bind_eq_some_iff.mp h
  obtain ⟨name, rest, rfl⟩ := List.exists_cons_of_ne_nil hne
  cases entry with
  | file content => exact nomatch he
  | directory entries => exact ⟨entries, hentry⟩

/-- What a reader sees of an entry: the content of a file, and of a directory no more than that it
is one. -/
def content? : Entry → Option Bytes
  | .file content => some content
  | .directory _ => none

end Entry

namespace FileTree

def at? (tree : FileTree) (place : Location) : Option Entry := Entry.descend (.directory tree) place

def seen (tree : FileTree) (place : Location) : Option (Option Bytes) :=
  (tree.at? place).map Entry.content?

theorem seen_eq_directory_iff {tree : FileTree} {place : Location} :
    tree.seen place = some none ↔ ∃ entries, tree.at? place = some (.directory entries) := by
  rw [seen]
  cases tree.at? place with
  | none => simp
  | some e => cases e <;> simp [Entry.content?]

/-- The entries above a location, the nearest first, and the entry there. -/
inductive Stands (root : Entry) : Location → List Entry → Entry → Prop
  | root : Stands root [] [] root
  | enter {here : Location} {above : List Entry} {entries : List (String × Entry)} {name : String}
    {entry : Entry} :
    Stands root here above (.directory entries) → entries.lookup name = some entry →
      Stands root (here ++ [name]) (.directory entries :: above) entry

theorem Stands.descend_eq {root e : Entry} {here : Location} {above : List Entry}
    (h : Stands root here above e) : root.descend here = some e := by
  induction h with
  | root => exact root.descend_nil
  | enter hstands hentry ih =>
    rw [Entry.descend_append, ih, Option.bind_some, Entry.descend, hentry]
    exact Entry.descend_nil _

def Passable (root : Entry) : Location → List String → Prop
  | _, [] => True
  | here, name :: rest =>
    (∃ entries, root.descend here = some (.directory entries)) ∧
      Passable root (here.step name) rest

theorem not_passable_of_none {root : Entry} {here : Location} (h : root.descend here = none)
    (names : List String) (found : Entry) :
    ¬(Passable root here names ∧ root.descend (names.foldl Location.step here) = some found) := by
  rintro ⟨hpassable, hfound⟩
  cases names with
  | nil => exact nomatch h.symm.trans hfound
  | cons name rest =>
    obtain ⟨⟨entries, hentries⟩, -⟩ := hpassable
    exact nomatch h.symm.trans hentries

theorem follow_eq_ok_iff {root e found : Entry} {here : Location} {above : List Entry}
    (h : Stands root here above e) (names : List String) :
    follow above e names = .ok found ↔
      Passable root here names ∧ root.descend (names.foldl Location.step here) = some found := by
  induction names generalizing here above e with
  | nil => simp [follow, Passable, h.descend_eq]
  | cons name rest ih =>
    cases e with
    | file content => simp [follow, Passable, h.descend_eq]
    | directory entries =>
      have hhere : ∃ entries, root.descend here = some (.directory entries) :=
        ⟨entries, h.descend_eq⟩
      rw [List.foldl_cons, Passable, follow.eq_def]
      simp only [hhere, true_and]
      by_cases hstay : name = "" ∨ name = "."
      · have hstep : here.step name = here := if_pos hstay
        rw [if_pos hstay, hstep]
        exact ih h
      · rw [if_neg hstay]
        by_cases hup : name = ".."
        · have hstep : here.step name = here.dropLast := by
            rw [Location.step, if_neg hstay, if_pos hup]
          rw [if_pos hup, hstep]
          cases h with
          | root => exact ih .root
          | enter habove hentry =>
            rw [List.dropLast_concat]
            exact ih habove
        · have hstep : here.step name = here ++ [name] := by
            rw [Location.step, if_neg hstay, if_neg hup]
          rw [if_neg hup, hstep]
          cases hentry : entries.lookup name with
          | some entry => exact ih (h.enter hentry)
          | none =>
            have hnone : root.descend (here ++ [name]) = none := by
              rw [Entry.descend_append, h.descend_eq, Option.bind_some, Entry.descend, hentry]
            simp only [reduceCtorEq, false_iff]
            exact not_passable_of_none hnone rest found

theorem passable_iff (tree : FileTree) (here : Location) (names : List String) :
    Passable (.directory tree) here names ↔
      ∀ place ∈ (Location.waypoints here names).dropLast, tree.seen place = some none := by
  induction names generalizing here with
  | nil => simp [Passable, Location.waypoints]
  | cons name rest ih =>
    have hne : Location.waypoints (here.step name) rest ≠ [] := by
      cases rest <;> simp [Location.waypoints]
    rw [Passable, Location.waypoints, List.dropLast_cons_of_ne_nil hne, List.forall_mem_cons, ih,
      seen_eq_directory_iff]
    rfl

end FileTree

namespace Path

def way (working : Location) (path : String) : List String := start working path ++ names path

def location (working : Location) (path : String) : Location :=
  (way working path).foldl Location.step []

/-- The places on the way of a path that are not above the location that it leads to. A path enters
and leaves them. -/
def IsDetour (working : Location) (path : String) (place : Location) : Prop :=
  place ∈ (Location.waypoints [] (way working path)).dropLast ∧
    ∀ rest ≠ [], place ++ rest ≠ location working path

end Path

namespace FileTree

variable {tree old new : FileTree} {working : Location} {path : String}

/-- A path finds what is at its location if all its detours are directories. -/
theorem find_eq_ok_iff (hpath : path ≠ "") (e : Entry) : tree.find working path = .ok e ↔
    (∀ place, Path.IsDetour working path place → tree.seen place = some none) ∧
      tree.at? (Path.location working path) = some e := by
  rw [find, if_neg hpath, follow_eq_ok_iff .root, passable_iff]
  refine and_congr_left fun he => ⟨fun h place hplace => h place hplace.1, fun h place hplace => ?_⟩
  by_cases habove : ∃ rest ≠ [], place ++ rest = Path.location working path
  · obtain ⟨rest, hne, hrest⟩ := habove
    have he' : Entry.descend (.directory tree) (place ++ rest) = some e := by
      rw [hrest]
      exact he
    exact seen_eq_directory_iff.mpr (Entry.directory_of_descend hne he')
  · exact h place ⟨hplace, fun rest hne hrest => habove ⟨rest, hne, hrest⟩⟩

def seenBy (tree : FileTree) (working : Location) (path : String) : Option (Option Bytes) :=
  (tree.find working path).toOption.map Entry.content?

theorem seenBy_eq_some_iff (hpath : path ≠ "") (content : Option Bytes) :
    tree.seenBy working path = some content ↔
      (∀ place, Path.IsDetour working path place → tree.seen place = some none) ∧
        tree.seen (Path.location working path) = some content := by
  have hfind (e : Entry) : (tree.find working path).toOption = some e ↔
      tree.find working path = .ok e := by
    cases tree.find working path <;> simp [Except.toOption]
  rw [seenBy, seen, Option.map_eq_some_iff, Option.map_eq_some_iff]
  constructor
  · rintro ⟨e, he, hcontent⟩
    obtain ⟨hdetours, hplace⟩ := (find_eq_ok_iff hpath e).mp ((hfind e).mp he)
    exact ⟨hdetours, e, hplace, hcontent⟩
  · rintro ⟨hdetours, e, hplace, hcontent⟩
    exact ⟨e, (hfind e).mpr ((find_eq_ok_iff hpath e).mpr ⟨hdetours, hplace⟩), hcontent⟩

/-- What a path finds depends on what is seen at its location and on its detours. -/
theorem seenBy_congr (hpath : path ≠ "")
    (hplace : new.seen (Path.location working path) = old.seen (Path.location working path))
    (hdetours : ∀ place, Path.IsDetour working path place →
      (new.seen place = some none ↔ old.seen place = some none)) :
    new.seenBy working path = old.seenBy working path := by
  apply Option.ext
  intro content
  rw [seenBy_eq_some_iff hpath, seenBy_eq_some_iff hpath, hplace]
  exact and_congr_left' (forall₂_congr hdetours)

end FileTree

namespace Location

theorem foldl_step (here : Location) {names : Location} (h : ∀ name ∈ names, IsName name) :
    names.foldl step here = here ++ names := by
  induction names generalizing here with
  | nil => rw [List.foldl_nil, List.append_nil]
  | cons name rest ih =>
    have hname := h name (by simp)
    have hstep : here.step name = here ++ [name] := by
      rw [step, if_neg (not_or.mpr ⟨hname.ne_empty, hname.ne_dot⟩), if_neg hname.ne_dots]
    rw [List.foldl_cons, hstep, ih _ fun other ho => h other (List.mem_cons_of_mem name ho),
      List.append_assoc, List.singleton_append]

theorem above_of_mem_waypoints {here place : Location} {names : Location}
    (h : ∀ name ∈ names, IsName name) (hplace : place ∈ (waypoints here names).dropLast) :
    ∃ rest ≠ [], place ++ rest = here ++ names := by
  induction names generalizing here with
  | nil => exact absurd hplace List.not_mem_nil
  | cons name rest ih =>
    have hrest : ∀ other ∈ rest, IsName other := fun other ho =>
      h other (List.mem_cons_of_mem name ho)
    have hname : ∀ other ∈ [name], IsName other := by simpa using h name (by simp)
    have hstep : here.step name = here ++ [name] := foldl_step here hname
    have hne : waypoints (here.step name) rest ≠ [] := by cases rest <;> simp [waypoints]
    rw [waypoints, List.dropLast_cons_of_ne_nil hne] at hplace
    obtain rfl | hplace := List.mem_cons.mp hplace
    · exact ⟨name :: rest, List.cons_ne_nil name rest, rfl⟩
    · obtain ⟨more, hmore, heq⟩ := ih hrest hplace
      refine ⟨more, hmore, ?_⟩
      rw [heq, hstep, List.append_assoc, List.singleton_append]

variable {place : Location}

theorem head?_text (hne : place ≠ []) : place.text.toList.head? = some '/' := by
  obtain ⟨name, rest, rfl⟩ := List.exists_cons_of_ne_nil hne
  rw [toList_text]
  rfl

theorem way_text (hne : place ≠ []) (h : ∀ name ∈ place, IsName name) (working : Location) :
    Path.way working place.text = "" :: place := by
  rw [Path.way, Path.start, if_pos (head?_text hne), List.nil_append, names_text hne h]

theorem location_text (hne : place ≠ []) (h : ∀ name ∈ place, IsName name) (working : Location) :
    Path.location working place.text = place := by
  rw [Path.location, way_text hne h, List.foldl_cons]
  exact foldl_step [] h

theorem not_isDetour_text (hne : place ≠ []) (h : ∀ name ∈ place, IsName name)
    (working other : Location) : ¬Path.IsDetour working place.text other := by
  rintro ⟨hmem, hdetour⟩
  rw [location_text hne h] at hdetour
  rw [way_text hne h, waypoints, List.dropLast_cons_of_ne_nil (by cases place <;> simp [waypoints])]
    at hmem
  obtain rfl | hmem := List.mem_cons.mp hmem
  · exact hdetour place hne rfl
  · obtain ⟨rest, hrest, heq⟩ := above_of_mem_waypoints h hmem
    exact hdetour rest hrest heq

end Location

namespace FileTree

theorem find_text {tree : FileTree} {place : Location} (hne : place ≠ [])
    (h : ∀ name ∈ place, IsName name) (working : Location) (e : Entry) :
    tree.find working place.text = .ok e ↔ tree.at? place = some e := by
  have hpath : place.text ≠ "" := fun he => by
    have hhead := Location.head?_text hne
    rw [he] at hhead
    exact nomatch hhead
  rw [find_eq_ok_iff hpath, Location.location_text hne h]
  exact and_iff_right fun other hother =>
    absurd hother (Location.not_isDetour_text hne h working other)

/-- Two trees of which one file is not the same: it is put into a directory, taken away, or its
content is another. -/
structure EditsFile (place : Location) (old new : FileTree) : Prop where
  elsewhere : ∀ other ≠ place, new.seen other = old.seen other
  old_file : old.seen place ≠ some none
  new_file : new.seen place ≠ some none

theorem EditsFile.directory_iff {place : Location} {old new : FileTree}
    (h : EditsFile place old new) (other : Location) :
    new.seen other = some none ↔ old.seen other = some none := by
  by_cases hother : other = place
  · subst other
    exact ⟨fun hnew => absurd hnew h.new_file, fun hold => absurd hold h.old_file⟩
  · rw [h.elsewhere other hother]

theorem lookup_set_of_ne {name other : String} (hne : other ≠ name) (entry : Entry)
    (tree : FileTree) : (tree.set name entry).lookup other = tree.lookup other := by
  have hne' : (other == name) = false := beq_false_of_ne hne
  induction tree with
  | nil => rw [set, List.lookup_cons, hne']
  | cons e tree ih =>
    obtain ⟨key, old⟩ := e
    by_cases hkey : key = name
    · subst key
      rw [set, if_pos rfl, List.lookup_cons, List.lookup_cons, hne']
    · rw [set, if_neg hkey, List.lookup_cons, List.lookup_cons, ih]

theorem seen_cons (tree : FileTree) (name : String) (rest : Location) :
    tree.seen (name :: rest) =
      (tree.lookup name).bind fun entry => (entry.descend rest).map Entry.content? := by
  rw [seen, at?, Entry.descend]
  cases tree.lookup name <;> rfl

theorem seen_cons_directory {tree entries : FileTree} {name : String}
    (h : tree.lookup name = some (.directory entries)) (rest : Location) :
    tree.seen (name :: rest) = entries.seen rest := by
  rw [seen_cons, h]
  rfl

theorem editsFile_single {tree : FileTree} {name : String} (hplace : tree.seen [name] ≠ some none)
    (content : Bytes) : EditsFile [name] tree (tree.set name (.file content)) where
  old_file := hplace
  new_file := by
    rw [seen_cons, lookup_set]
    exact nofun
  elsewhere other hother := by
    cases other with
    | nil => rfl
    | cons key rest =>
      rw [seen_cons, seen_cons]
      by_cases hkey : key = name
      · -- below the name there is nothing, neither before nor after
        subst key
        rw [lookup_set]
        cases rest with
        | nil => contradiction
        | cons next more =>
          rw [seen_cons] at hplace
          cases hold : tree.lookup name with
          | none => rfl
          | some entry =>
            cases entry with
            | file old => rfl
            | directory entries =>
              rw [hold] at hplace
              contradiction
      · rw [lookup_set_of_ne hkey]

theorem EditsFile.below {tree old new : FileTree} {name : String} {place : Location}
    (h : EditsFile place old new) (hold : tree.lookup name = some (.directory old)) :
    EditsFile (name :: place) tree (tree.set name (.directory new)) where
  old_file := by
    rw [seen_cons_directory hold]
    exact h.old_file
  new_file := by
    rw [seen_cons_directory (lookup_set name _ tree)]
    exact h.new_file
  elsewhere other hother := by
    cases other with
    | nil => rfl
    | cons key rest =>
      by_cases hkey : key = name
      · subst key
        rw [seen_cons_directory hold, seen_cons_directory (lookup_set name _ tree)]
        exact h.elsewhere rest fun he => hother (by rw [he])
      · rw [seen_cons, seen_cons, lookup_set_of_ne hkey]

theorem editsFile_putFile {place : Location} {tree : FileTree} (hne : place ≠ [])
    (hdirectory : tree.seen place.dropLast = some none) (hplace : tree.seen place ≠ some none)
    (content : Bytes) : EditsFile place tree (tree.putFile place content) := by
  unfold putFile
  induction place generalizing tree with
  | nil => contradiction
  | cons name place ih =>
    cases place with
    | nil => exact editsFile_single hplace content
    | cons next place =>
      have hnext : next :: place ≠ [] := List.cons_ne_nil next place
      rw [List.dropLast_cons_of_ne_nil hnext, seen_cons] at hdirectory
      obtain ⟨entry, hentry, hbelow⟩ := Option.bind_eq_some_iff.mp hdirectory
      cases entry with
      | file old =>
        exfalso
        cases hlast : (next :: place).dropLast with
        | nil =>
          rw [hlast] at hbelow
          exact nomatch hbelow
        | cons key rest =>
          rw [hlast] at hbelow
          exact nomatch hbelow
      | directory entries =>
        rw [seen_cons_directory hentry] at hplace
        rw [change, hentry]
        · exact (ih hnext hbelow hplace).below hentry
        · exact fun he => hnext he

end FileTree

end GuardedDivision
