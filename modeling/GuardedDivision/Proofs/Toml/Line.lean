import GuardedDivision.Proofs.Toml.Document

namespace GuardedDivision.Toml

structure Line where
  key : List Char
  value : List Char
  item : Item
  bareKey : IsBare key
  bareValue : IsBare value
  item_eq : Scalar.item? value = some item
  holds : item.holds = true

namespace Line

def text (l : Line) : List Char := l.key ++ " = ".toList ++ l.value ++ ['\n']

def entry (l : Line) : Key × Item := (l.key, l.item)

def Spells (item : Item) (text : List Char) : Prop :=
  IsBare text ∧ Scalar.item? text = some item

theorem Spells.exists_word (item : Item) (text : List Char) (h : Spells item text) :
    ∃ w : Word, w.Written text ∧ w.item? = some item :=
  ⟨.bare text, .bare h.1.isUnquoted, h.2⟩

theorem isRow (l : Line) : IsRow Spells (some l.entry) (l.key ++ " = ".toList ++ l.value) := by
  have hnone : IsBlank [] := nofun
  have hblank : IsBlank [' '] := List.forall_mem_singleton.mpr rfl
  have h := IsRow.assignment hnone l.bareKey hblank hblank
    (show Spells l.item l.value from ⟨l.bareValue, l.item_eq⟩) (.blanks hnone)
  simpa [entry] using h

theorem isDocument_newlines (blanks : Nat) :
    IsDocument Spells (List.replicate (blanks + 1) none) (List.replicate blanks '\n') := by
  have hfiller : IsRow Spells none [] := .filler (.blanks nofun)
  induction blanks with
  | zero => exact .last hfiller
  | succ blanks ih => exact .next hfiller List.mem_cons_self ih

theorem isDocument (lines : List Line) (blanks : Nat) :
    IsDocument Spells (lines.map (fun l => some l.entry) ++ List.replicate (blanks + 1) none)
      (lines.flatMap text ++ List.replicate blanks '\n') := by
  induction lines with
  | nil => exact isDocument_newlines blanks
  | cons l lines ih =>
    have h := IsDocument.next l.isRow (List.mem_cons_self (a := ['\n'])) ih
    simpa [text] using h

end Line

/-- A text of lines with different keys, and newlines after them, has just their entries. -/
theorem Document.ofText_lines {lines : List Line} (hnodup : (lines.map Line.key).Nodup)
    (blanks : Nat) :
    Document.ofText (lines.flatMap Line.text ++ List.replicate blanks '\n') =
      .ok (lines.map Line.entry) := by
  have hspells : ∀ (item : Item) (text : List Char), Line.Spells item text →
      ∃ w : Word, w.Written text ∧ w.item? = some (id item) := Line.Spells.exists_word
  have hread := ofText_rows hspells (Line.isDocument lines blanks) List.mem_cons_self
  have hassigned : (lines.map (fun l : Line => some l.entry) ++
      List.replicate (blanks + 1) none).filterMap id = lines.map Line.entry := by
    simp [List.filterMap_append, List.filterMap_map]
  have hkeys : (lines.map Line.entry).map Prod.fst = lines.map Line.key := List.map_map
  have hentries : entries id (lines.map Line.entry) = lines.map Line.entry := List.map_id' _
  have hholds : entriesHold (entries id (lines.map Line.entry)) = true := by
    rw [entriesHold_entries, List.all_map]
    exact List.all_eq_true.mpr fun l _ => l.holds
  rw [hassigned, if_pos ⟨hkeys ▸ hnodup, hholds⟩, hentries] at hread
  exact hread

end GuardedDivision.Toml
