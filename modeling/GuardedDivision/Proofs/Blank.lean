import GuardedDivision.Text.Blank
import Mathlib.Data.List.DropRight

namespace GuardedDivision.Blank

structure IsTrimmed (text inner : List Char) : Prop where
  ends : ∃ before after, text = before ++ inner ++ after ∧
    (∀ c ∈ before, isBlank c = true) ∧ ∀ c ∈ after, isBlank c = true
  first : ∀ c ∈ inner.head?, isBlank c = false
  last : ∀ c ∈ inner.getLast?, isBlank c = false

theorem head_dropWhile {text : List Char} {c : Char} (h : c ∈ (text.dropWhile isBlank).head?) :
    isBlank c = false := by
  have hnot := List.head?_dropWhile_not isBlank text
  rw [h] at hnot
  exact hnot

theorem dropWhile_append {before text : List Char} (hbefore : ∀ c ∈ before, isBlank c = true)
    (hfirst : ∀ c ∈ text.head?, isBlank c = false) :
    (before ++ text).dropWhile isBlank = text := by
  rw [List.dropWhile_append_of_pos hbefore]
  cases text with
  | nil => rfl
  | cons c rest => exact List.dropWhile_cons_of_neg (by simp [hfirst c rfl])

theorem isTrimmed_trim (text : List Char) : IsTrimmed text (trim text) := by
  have hrest : trim text ++ (text.dropWhile isBlank).rtakeWhile isBlank =
      text.dropWhile isBlank := List.rdropWhile_append_rtakeWhile
  constructor
  case ends =>
    refine ⟨text.takeWhile isBlank, (text.dropWhile isBlank).rtakeWhile isBlank, ?_,
      fun c => List.mem_takeWhile_imp, fun c => List.mem_rtakeWhile_imp⟩
    rw [List.append_assoc, hrest, List.takeWhile_append_dropWhile]
  case first =>
    intro c hc
    obtain ⟨later, hlater⟩ := List.head?_eq_some_iff.mp hc
    have hhead : c ∈ (text.dropWhile isBlank).head? := by
      rw [← hrest, hlater]
      rfl
    exact head_dropWhile hhead
  case last =>
    intro c hc
    rw [trim, List.getLast?_reverse] at hc
    exact head_dropWhile hc

theorem IsTrimmed.trim_eq {text inner : List Char} (h : IsTrimmed text inner) :
    trim text = inner := by
  obtain ⟨before, after, rfl, hbefore, hafter⟩ := h.ends
  cases inner with
  | nil =>
    have hall : ∀ c ∈ before ++ after, isBlank c = true :=
      List.forall_mem_append.mpr ⟨hbefore, hafter⟩
    rw [trim, List.append_nil, List.dropWhile_eq_nil_iff.mpr hall]
    rfl
  | cons c rest =>
    have hlast : ∀ d ∈ (c :: rest).reverse.head?, isBlank d = false := by
      rw [List.head?_reverse]
      exact h.last
    have hfirst : ∀ d ∈ (c :: rest ++ after).head?, isBlank d = false := h.first
    rw [trim, List.append_assoc, dropWhile_append hbefore hfirst, List.reverse_append,
      dropWhile_append (fun d hd => hafter d (List.mem_reverse.mp hd)) hlast, List.reverse_reverse]

theorem trim_eq_iff {text inner : List Char} : trim text = inner ↔ IsTrimmed text inner := by
  constructor
  · rintro rfl
    exact isTrimmed_trim text
  · exact IsTrimmed.trim_eq

theorem isTrimmed_self {text : List Char} (h : ∀ c ∈ text, isBlank c = false) :
    IsTrimmed text text where
  ends := ⟨[], [], (List.append_nil text).symm, List.forall_mem_nil _, List.forall_mem_nil _⟩
  first c hc := h c (List.mem_of_mem_head? hc)
  last c hc := h c (List.mem_of_mem_getLast? hc)

theorem isTrimmed_append {before inner after : List Char}
    (hbefore : ∀ c ∈ before, isBlank c = true) (hinner : ∀ c ∈ inner, isBlank c = false)
    (hafter : ∀ c ∈ after, isBlank c = true) : IsTrimmed (before ++ inner ++ after) inner where
  ends := ⟨before, after, rfl, hbefore, hafter⟩
  first c hc := hinner c (List.mem_of_mem_head? hc)
  last c hc := hinner c (List.mem_of_mem_getLast? hc)

/-- Of a text with blanks before a character that is none, only more blanks at its end are
trimmed. -/
theorem exists_trim_append {before text : List Char} (hbefore : ∀ c ∈ before, isBlank c = true)
    {c : Char} (hc : c ∈ text.head?) (hblank : isBlank c = false) :
    ∃ rest after, trim (before ++ text) = c :: rest ∧ text = c :: rest ++ after ∧
      ∀ d ∈ after, isBlank d = true := by
  have hfirst : ∀ d ∈ text.head?, isBlank d = false := by
    intro d hd
    rw [Option.mem_unique hd hc, hblank]
  have htrim : trim (before ++ text) = text.rdropWhile isBlank := by
    rw [trim, dropWhile_append hbefore hfirst]
    rfl
  have hends : text.rdropWhile isBlank ++ text.rtakeWhile isBlank = text :=
    List.rdropWhile_append_rtakeWhile
  have hafter : ∀ d ∈ text.rtakeWhile isBlank, isBlank d = true :=
    fun d => List.mem_rtakeWhile_imp
  cases hinner : text.rdropWhile isBlank with
  | nil =>
    rw [hinner, List.nil_append] at hends
    rw [hends] at hafter
    rw [hafter c (List.mem_of_mem_head? hc)] at hblank
    contradiction
  | cons d rest =>
    rw [hinner] at hends
    have hhead : d ∈ text.head? := by
      rw [← hends]
      rfl
    obtain rfl := Option.mem_unique hhead hc
    exact ⟨rest, _, htrim.trans hinner, hends.symm, hafter⟩

end GuardedDivision.Blank
