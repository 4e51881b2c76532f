import GuardedDivision.FileTree

namespace GuardedDivision

theorem fields_of_not_mem {separator : Char} {text : List Char} (h : separator ∉ text) :
    fields separator text = [text] := by
  induction text with
  | nil => rfl
  | cons c text ih =>
    have hc : c ≠ separator := fun he => h (by simp [he])
    rw [fields, if_neg hc, ih fun hm => h (List.mem_cons_of_mem c hm)]

theorem fields_append {separator : Char} {text : List Char} (h : separator ∉ text)
    (rest : List Char) :
    fields separator (text ++ separator :: rest) = text :: fields separator rest := by
  induction text with
  | nil => rw [List.nil_append, fields, if_pos rfl]
  | cons c text ih =>
    have hc : c ≠ separator := fun he => h (by simp [he])
    rw [List.cons_append, fields, if_neg hc, ih fun hm => h (List.mem_cons_of_mem c hm)]

/-- A name of a file or a directory, which says itself where a path leads. -/
structure IsName (name : String) : Prop where
  ne_empty : name ≠ ""
  ne_dot : name ≠ "."
  ne_dots : name ≠ ".."
  slash : '/' ∉ name.toList

instance (name : String) : Decidable (IsName name) :=
  decidable_of_iff (name ≠ "" ∧ name ≠ "." ∧ name ≠ ".." ∧ '/' ∉ name.toList)
    ⟨fun ⟨hempty, hdot, hdots, hslash⟩ => ⟨hempty, hdot, hdots, hslash⟩,
      fun ⟨hempty, hdot, hdots, hslash⟩ => ⟨hempty, hdot, hdots, hslash⟩⟩

namespace Location

theorem toList_foldl (location : Location) (start : String) :
    (location.foldl (fun path name => path ++ "/" ++ name) start).toList =
      start.toList ++ location.flatMap fun name => '/' :: name.toList := by
  induction location generalizing start with
  | nil => simp
  | cons name location ih =>
    rw [List.foldl_cons, ih, List.flatMap_cons]
    simp

theorem toList_text (location : Location) :
    location.text.toList = location.flatMap fun name => '/' :: name.toList :=
  toList_foldl location ""

theorem fields_text {name : String} {location : Location} (hname : IsName name)
    (h : ∀ other ∈ location, IsName other) :
    fields '/' (name.toList ++ location.flatMap fun other => '/' :: other.toList) =
      name.toList :: location.map String.toList := by
  induction location generalizing name with
  | nil => simp [fields_of_not_mem hname.slash]
  | cons other location ih =>
    rw [List.flatMap_cons, List.cons_append, fields_append hname.slash,
      ih (h other (by simp)) fun o ho => h o (by simp [ho]), List.map_cons]

theorem names_text {location : Location} (hne : location ≠ [])
    (h : ∀ name ∈ location, IsName name) : Path.names location.text = "" :: location := by
  obtain ⟨name, rest, rfl⟩ := List.exists_cons_of_ne_nil hne
  have hrest : ∀ other ∈ rest, IsName other := fun other ho => h other (by simp [ho])
  have hfields := fields_text (h name (by simp)) hrest
  rw [Path.names, toList_text, List.flatMap_cons, List.cons_append, fields, if_pos rfl, hfields]
  simp

end Location

namespace FileTree

theorem lookup_set (name : String) (entry : Entry) (tree : FileTree) :
    (tree.set name entry).lookup name = some entry := by
  induction tree with
  | nil => simp [set]
  | cons e tree ih =>
    obtain ⟨other, old⟩ := e
    by_cases h : other = name
    · simp [set, h]
    · rw [set, if_neg h, List.lookup_cons, beq_false_of_ne (Ne.symm h)]
      exact ih

theorem follow_name {name : String} (h : IsName name) (above : List Entry)
    (entries : List (String × Entry)) (rest : List String) {entry : Entry}
    (hentry : entries.lookup name = some entry) :
    follow above (.directory entries) (name :: rest) =
      follow (.directory entries :: above) entry rest := by
  have hstay : ¬(name = "" ∨ name = ".") := not_or.mpr ⟨h.ne_empty, h.ne_dot⟩
  rw [follow.eq_def]
  simp only [if_neg hstay, if_neg h.ne_dots, hentry]

theorem follow_change {new : Option Entry → Entry} {entry : Entry} (hnew : ∀ old, new old = entry)
    {location : Location} (hne : location ≠ []) (h : ∀ name ∈ location, IsName name)
    (tree : FileTree) (above : List Entry) :
    follow above (.directory (change new location tree)) location = .ok entry := by
  induction location generalizing tree above with
  | nil => contradiction
  | cons name location ih =>
    have hname := h name (by simp)
    cases location with
    | nil =>
      rw [change, follow_name hname above _ [] (lookup_set name _ tree), follow, hnew]
    | cons next location =>
      rw [change, follow_name hname above _ _ (lookup_set name _ tree)]
      · apply ih (List.cons_ne_nil next location)
        exact fun other ho => h other (List.mem_cons_of_mem name ho)
      · intro hnil
        exact nomatch hnil

theorem find_putFile (tree : FileTree) (working : Location) {location : Location}
    (hne : location ≠ []) (h : ∀ name ∈ location, IsName name) (content : Bytes) :
    (tree.putFile location content).find working location.text = .ok (.file content) := by
  have hhead : location.text.toList.head? = some '/' := by
    obtain ⟨name, rest, rfl⟩ := List.exists_cons_of_ne_nil hne
    rw [Location.toList_text]
    rfl
  have hpath : location.text ≠ "" := by
    intro he
    rw [he] at hhead
    contradiction
  rw [find, if_neg hpath, Path.start, if_pos hhead, List.nil_append, Location.names_text hne h,
    follow, if_pos (.inl rfl)]
  exact follow_change (fun _ => rfl) hne h tree []

end FileTree

end GuardedDivision
