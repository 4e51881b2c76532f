import GuardedDivision.Proofs.Toml.Expression
import GuardedDivision.Toml.Document
import Mathlib.Data.List.Nodup

namespace GuardedDivision.Toml

open Numeral (ne_of_class)

inductive IsFiller : List Char → Prop
  | blanks {text : List Char} : IsBlank text → IsFiller text
  | comment {before text : List Char} : IsBlank before → (∀ c ∈ text, isPlain c = true) →
    IsFiller (before ++ '#' :: text)

inductive Breaks : List Char → List Char → Prop
  | atEnd : Breaks [] []
  | newline (later : List Char) : Breaks ('\n' :: later) later
  | pair (later : List Char) : Breaks ('\r' :: '\n' :: later) later

theorem IsFiller.lineEnd? {text rest later : List Char} (h : IsFiller text)
    (hbreak : Breaks rest later) : lineEnd? (text ++ rest) = some later := by
  rw [Toml.lineEnd?]
  cases h with
  | blanks h =>
    rw [h.skipSpaces_append]
    cases hbreak <;> rfl
  | @comment before text h htext =>
    have hskip : skipComment ('#' :: (text ++ rest)) = rest.dropWhile isPlain :=
      List.dropWhile_append_of_pos htext
    rw [List.append_assoc, h.skipSpaces_append, List.cons_append, skipSpaces_cons rfl, hskip]
    cases hbreak <;> rfl

section Rows

variable {α : Type}

/-- The text of a row, where the texts of values are given: an assignment, with blanks around its
parts and a filler behind it, or nothing but a filler. -/
inductive IsRow (spells : α → List Char → Prop) : Option (Key × α) → List Char → Prop
  | filler {text : List Char} : IsFiller text → IsRow spells none text
  | assignment {before key between after text filler : List Char} {a : α} :
    IsBlank before → IsBare key → IsBlank between → IsBlank after → spells a text →
    IsFiller filler →
      IsRow spells (some (key, a))
        (before ++ (key ++ (between ++ '=' :: (after ++ (text ++ filler)))))

/-- The text of rows, with a newline between each two, or a carriage return and a newline. -/
inductive IsDocument (spells : α → List Char → Prop) : List (Option (Key × α)) → List Char → Prop
  | last {row : Option (Key × α)} {text : List Char} :
    IsRow spells row text → IsDocument spells [row] text
  | next {row : Option (Key × α)} {rows : List (Option (Key × α))} {text ending later : List Char} :
    IsRow spells row text → ending ∈ [['\n'], ['\r', '\n']] → IsDocument spells rows later →
      IsDocument spells (row :: rows) (text ++ (ending ++ later))

theorem required_eq_ok_iff {α : Type} {option : Option α} {a : α} :
    required option = .ok a ↔ option = some a := by
  cases option <;> simp [required]

theorem eq_malformed_of_required {α : Type} {option : Option α} {defect : Defect}
    (h : required option = .error defect) : defect = .malformed := by
  cases option with
  | none => exact (Except.error.inj h).symm
  | some => contradiction

def Document.put (itemOf : α → Item) (d : Document) (entry : Key × α) : Except Defect Document :=
  (required (d.current.insertNew entry.1 (itemOf entry.2))).map fun current => { d with current }

theorem Entries.assign_single (entries : Entries) (key : Key) (item : Item) :
    entries.assign [key] item = entries.insertNew key item := by
  simp [assign, descend]

theorem IsRow.eq_none {spells : α → List Char → Prop} {row : Option (Key × α)}
    (h : IsRow spells row []) : row = none := by
  generalize htext : ([] : List Char) = text at h
  cases h with
  | filler => rfl
  | assignment => simp at htext

variable {spells : α → List Char → Prop} {itemOf : α → Item}
  (hspells : ∀ (a : α) (text : List Char), spells a text →
    ∃ w : Word, w.Written text ∧ w.item? = some (itemOf a))

include hspells

theorem expressions?_row {row : Option (Key × α)} {text rest later : List Char}
    (h : IsRow spells row text) (hbreak : Breaks rest later) (hne : text ++ rest ≠ []) :
    ∃ e, expressions? (text ++ rest) = (expressions? later).map (e :: ·) ∧
      ∀ d : Document, d.add e = row.elim (.ok d) (d.put itemOf) := by
  cases h with
  | filler h =>
    have hend := h.lineEnd? hbreak
    refine ⟨.blank, ?_, fun d => rfl⟩
    exact expressions?_eq hne (expression?_of_lineEnd? hend) (lineEnd?_skipSpaces hend)
  | @assignment before key between after text filler a hbefore hkey hbetween hafter htext hfiller =>
    obtain ⟨w, hw, hitem⟩ := hspells a text htext
    have hend := hfiller.lineEnd? hbreak
    have hread := expression?_assignment hkey hbetween hafter hw hend
    refine ⟨.assignment [.bare key] (.word w), ?_, fun d => ?_⟩
    · apply expressions?_eq hne _ hend
      simp only [List.append_assoc, List.cons_append]
      rw [hbefore.skipSpaces_append, hkey.skipSpaces_append]
      exact hread
    · rw [Document.add, path_bare hkey, Value.item, hitem]
      change (required (d.current.assign [key] (itemOf a)) >>= fun current =>
        .ok { d with current }) = _
      rw [Entries.assign_single, Option.elim, Document.put]
      cases d.current.insertNew key (itemOf a) <;> rfl

/-- The rows are read as lines that fill a table with what they assign. -/
theorem expressions?_document {rows : List (Option (Key × α))} {text : List Char}
    (h : IsDocument spells rows text) :
    ∃ lines, expressions? text = some lines ∧ ∀ d : Document,
      lines.foldlM Document.add d = (rows.filterMap id).foldlM (Document.put itemOf) d := by
  induction h with
  | @last row text hrow =>
    by_cases hne : text ++ [] = []
    · obtain rfl : text = [] := by rwa [List.append_nil] at hne
      obtain rfl := hrow.eq_none
      exact ⟨[], expressions?_nil, fun d => rfl⟩
    · obtain ⟨e, hread, hadd⟩ := expressions?_row hspells hrow .atEnd hne
      refine ⟨[e], ?_, fun d => ?_⟩
      · rw [List.append_nil, expressions?_nil] at hread
        exact hread
      · rw [List.foldlM_cons, hadd]
        cases row <;> rfl
  | @next row rows text ending later hrow hending _ ih =>
    obtain ⟨lines, hlines, hfold⟩ := ih
    have hbreak : Breaks (ending ++ later) later := by
      simp only [List.mem_cons, List.not_mem_nil, or_false] at hending
      obtain rfl | rfl := hending
      · exact .newline later
      · exact .pair later
    have hne : text ++ (ending ++ later) ≠ [] := by
      intro hnil
      obtain ⟨rfl, -⟩ := List.append_eq_nil_iff.mp (List.append_eq_nil_iff.mp hnil).2
      simp at hending
    obtain ⟨e, hread, hadd⟩ := expressions?_row hspells hrow hbreak hne
    refine ⟨e :: lines, by rw [hread, hlines]; rfl, fun d => ?_⟩
    rw [List.foldlM_cons, hadd]
    cases row with
    | none => exact hfold d
    | some entry =>
      have hassigned : (some entry :: rows).filterMap id = entry :: rows.filterMap id := rfl
      rw [hassigned, List.foldlM_cons]
      exact congrArg _ (funext hfold)

omit hspells

def entries (itemOf : α → Item) (assigned : List (Key × α)) : Entries :=
  assigned.map fun entry => (entry.1, itemOf entry.2)

namespace Document

theorem find?_put {d : Document} {key : Key} {a : α} {other : Key} :
    Entries.find? (d.current ++ [(key, itemOf a)]) other =
      (d.current.find? other).or (if other = key then some (itemOf a) else none) := by
  rw [Entries.find?, List.lookup_append, ← Entries.find?]
  by_cases he : other = key
  · simp [he]
  · simp [List.lookup_cons, beq_false_of_ne he, he]

theorem put_of_new {d : Document} {entry : Key × α} (h : d.current.find? entry.1 = none) :
    d.put itemOf entry = .ok { d with current := d.current ++ [(entry.1, itemOf entry.2)] } := by
  rw [put, Entries.insertNew, h]
  rfl

theorem put_of_old {d : Document} {entry : Key × α} (h : d.current.find? entry.1 ≠ none) :
    d.put itemOf entry = .error .malformed := by
  obtain ⟨item, hitem⟩ := Option.ne_none_iff_exists'.mp h
  rw [put, Entries.insertNew, hitem]
  rfl

theorem foldlM_put_of_nodup {assigned : List (Key × α)} {d : Document}
    (hnew : ∀ entry ∈ assigned, d.current.find? entry.1 = none)
    (hnodup : (assigned.map Prod.fst).Nodup) :
    assigned.foldlM (put itemOf) d =
      .ok { d with current := d.current ++ entries itemOf assigned } := by
  -- the table grows with each entry, and the keys that are still to come are not yet in it
  induction assigned generalizing d with
  | nil =>
    rw [entries, List.map_nil, List.append_nil]
    rfl
  | cons entry assigned ih =>
    obtain ⟨hentry, hnodup⟩ := List.nodup_cons.mp hnodup
    obtain ⟨hfirst, hnew⟩ := List.forall_mem_cons.mp hnew
    rw [List.foldlM_cons, put_of_new hfirst]
    refine (ih (fun other hother => ?_) hnodup).trans ?_
    · have hne : other.1 ≠ entry.1 := fun he => hentry (he ▸ List.mem_map_of_mem hother)
      rw [find?_put, hnew other hother, if_neg hne]
      rfl
    · rw [entries, entries, List.map_cons, List.append_assoc, List.singleton_append]

theorem foldlM_put_of_repeated {assigned : List (Key × α)} {d : Document}
    (h : (∃ entry ∈ assigned, d.current.find? entry.1 ≠ none) ∨
      ¬(assigned.map Prod.fst).Nodup) :
    assigned.foldlM (put itemOf) d = .error .malformed := by
  induction assigned generalizing d with
  | nil => simp at h
  | cons entry assigned ih =>
    rw [List.foldlM_cons]
    by_cases hfirst : d.current.find? entry.1 = none
    · rw [put_of_new hfirst]
      apply ih
      obtain ⟨other, hother, hfound⟩ | hrepeated := h
      · obtain rfl | hother := List.mem_cons.mp hother
        · exact absurd hfirst hfound
        · exact .inl ⟨other, hother, by simp [find?_put, hfound]⟩
      · by_cases hmem : entry.1 ∈ assigned.map Prod.fst
        · obtain ⟨other, hother, he⟩ := List.mem_map.mp hmem
          exact .inl ⟨other, hother, by simp [find?_put, he]⟩
        · exact .inr fun hnodup => hrepeated (List.nodup_cons.mpr ⟨hmem, hnodup⟩)
    · rw [put_of_old hfirst]
      rfl

end Document

theorem entriesHold_entries (assigned : List (Key × α)) :
    entriesHold (entries itemOf assigned) = assigned.all fun entry => (itemOf entry.2).holds := by
  induction assigned with
  | nil => rfl
  | cons entry assigned ih =>
    rw [List.all_cons, ← ih]
    rfl

theorem find?_entries (assigned : List (Key × α)) (key : Key) :
    (entries itemOf assigned).find? key = (assigned.lookup key).map itemOf := by
  induction assigned with
  | nil => rfl
  | cons entry assigned ih =>
    rw [entries, List.map_cons, Entries.find?, List.lookup_cons, List.lookup_cons]
    split
    · rfl
    · exact ih

theorem IsBlank.head?_ne {text rest : List Char} (h : IsBlank text)
    (hrest : rest.head? ≠ some '\ufeff') : (text ++ rest).head? ≠ some '\ufeff' := by
  cases text with
  | nil => exact hrest
  | cons c text =>
    intro heq
    have hc := h c List.mem_cons_self
    rw [Option.some.inj heq] at hc
    contradiction

theorem IsRow.head?_ne {row : Option (Key × α)} {text rest : List Char}
    (h : IsRow spells row text) (hrest : rest.head? ≠ some '\ufeff') :
    (text ++ rest).head? ≠ some '\ufeff' := by
  cases h with
  | filler h =>
    cases h with
    | blanks h => exact h.head?_ne hrest
    | comment h =>
      rw [List.append_assoc]
      exact h.head?_ne fun heq => absurd (Option.some.inj heq) (by decide)
  | assignment hbefore hkey =>
    obtain ⟨c, later, rfl, hc⟩ := hkey.exists_cons
    rw [List.append_assoc]
    exact hbefore.head?_ne fun heq => ne_of_class hc (by decide) (Option.some.inj heq)

theorem IsDocument.head?_ne {rows : List (Option (Key × α))} {text : List Char}
    (h : IsDocument spells rows text) : text.head? ≠ some '\ufeff' := by
  cases h with
  | @last row text hrow =>
    rw [← List.append_nil text]
    exact hrow.head?_ne nofun
  | next hrow hending =>
    apply hrow.head?_ne
    simp only [List.mem_cons, List.not_mem_nil, or_false] at hending
    obtain rfl | rfl := hending
    · exact fun heq => absurd (Option.some.inj heq) (by decide)
    · exact fun heq => absurd (Option.some.inj heq) (by decide)

theorem dropMark_append {mark text : List Char} (hmark : mark ∈ [[], ['\ufeff']])
    (htext : text.head? ≠ some '\ufeff') : dropMark (mark ++ text) = text := by
  simp only [List.mem_cons, List.not_mem_nil, or_false] at hmark
  obtain rfl | rfl := hmark
  · rw [List.nil_append]
    unfold dropMark
    split
    · exact absurd rfl htext
    · rfl
  · rfl

include hspells

/-- What rows assign is what their text holds, if no key is repeated and every item can be held.
Else it holds nothing. -/
theorem Document.ofText_rows {rows : List (Option (Key × α))} {mark text : List Char}
    (h : IsDocument spells rows text) (hmark : mark ∈ [[], ['\ufeff']]) :
    Document.ofText (mark ++ text) =
      if ((rows.filterMap id).map Prod.fst).Nodup ∧
          entriesHold (entries itemOf (rows.filterMap id)) then
        .ok (entries itemOf (rows.filterMap id))
      else .error .malformed := by
  obtain ⟨lines, hlines, hfold⟩ := expressions?_document hspells h
  rw [ofText, dropMark_append hmark h.head?_ne, hlines]
  change (List.foldlM add {} lines >>= fun d => d.close >>= _) = _
  rw [hfold]
  by_cases hnodup : ((rows.filterMap id).map Prod.fst).Nodup
  · rw [foldlM_put_of_nodup (fun _ _ => rfl) hnodup]
    change (if entriesHold ([] ++ _) then _ else _) = _
    rw [List.nil_append]
    simp only [hnodup, true_and]
    cases entriesHold (entries itemOf (rows.filterMap id)) <;> rfl
  · rw [foldlM_put_of_repeated (.inr hnodup), if_neg fun hboth => hnodup hboth.1]
    rfl

end Rows

end GuardedDivision.Toml
