import GuardedDivision.Proofs.Log.Filter

namespace GuardedDivision.Log

open Blank (isBlank)

def Unbroken {α : Type} (outcome : Except Unreadable α) : Prop :=
  ∀ cut, outcome ≠ .error (.broken cut)

section Unbroken

variable {α β : Type}

theorem unbroken_ok (a : α) : Unbroken (.ok a) := by
  rintro cut ⟨⟩

theorem unbroken_malformed : Unbroken (.error .malformed : Except Unreadable α) := by
  rintro cut ⟨⟩

theorem unbroken_cut {outcome : Except BrokenCut α} (h : ∃ a, outcome = .ok a) :
    Unbroken (outcome.mapError .broken) := by
  obtain ⟨a, rfl⟩ := h
  exact unbroken_ok a

theorem Unbroken.bind {outcome : Except Unreadable α} {next : α → Except Unreadable β}
    (h : Unbroken outcome) (hnext : ∀ a, Unbroken (next a)) : Unbroken (outcome >>= next) := by
  cases outcome with
  | ok a => exact hnext a
  | error failure =>
    intro cut hbroken
    obtain rfl := Except.error.inj hbroken
    exact h cut rfl

theorem unbroken_mapM {f : α → Except Unreadable β} {xs : List α}
    (h : ∀ x ∈ xs, Unbroken (f x)) : Unbroken (xs.mapM f) := by
  induction xs with
  | nil => exact unbroken_ok []
  | cons x xs ih =>
    obtain ⟨hx, hxs⟩ := List.forall_mem_cons.mp h
    rw [List.mapM_cons]
    exact hx.bind fun y => (ih hxs).bind fun ys => unbroken_ok _

end Unbroken

namespace Directive

/-- What is read next stands at a place of the whole text, perhaps with more after it. -/
def StandsAt (rest whole : List Char) (place : Nat) : Prop :=
  ∃ front after, whole = front ++ (rest ++ after) ∧ place = Cut.size front

section Places

variable {first rest whole : List Char} {place : Nat} {c : Char}

theorem StandsAt.skip (h : StandsAt (first ++ rest) whole place) :
    StandsAt rest whole (place + Cut.size first) := by
  obtain ⟨front, after, rfl, rfl⟩ := h
  exact ⟨front ++ first, after, by simp, by rw [Cut.size_append]⟩

theorem StandsAt.next (h : StandsAt (c :: rest) whole place) (hc : c.utf8Size = 1) :
    StandsAt rest whole (place + 1) := by
  have hskip : StandsAt rest whole (place + Cut.size [c]) := h.skip
  rwa [Cut.size, Cut.size, hc] at hskip

theorem StandsAt.before (h : StandsAt rest whole place) :
    ∃ front, Cut.before whole place = .ok front := by
  obtain ⟨front, after, rfl, rfl⟩ := h
  exact ⟨front, Cut.before_append _ _⟩

theorem StandsAt.after (h : StandsAt rest whole place) :
    ∃ later, Cut.after whole place = .ok later := by
  obtain ⟨front, after, rfl, rfl⟩ := h
  exact ⟨rest ++ after, Cut.after_append _ _⟩

theorem StandsAt.between (h : StandsAt (first ++ rest) whole place) :
    ∃ middle, Cut.between whole place (place + Cut.size first) = .ok middle := by
  obtain ⟨front, after, rfl, rfl⟩ := h
  exact ⟨first, by rw [List.append_assoc, Cut.between_append]⟩

end Places

theorem of_dropWhile_eq_cons {p : Char → Bool} {text later : List Char} {c : Char}
    (h : text.dropWhile p = c :: later) : p c = false ∧ text = text.takeWhile p ++ c :: later := by
  have hnot := List.head?_dropWhile_not p text
  rw [h] at hnot
  exact ⟨hnot, by rw [← h, List.takeWhile_append_dropWhile]⟩

section Parts

variable {rest whole : List Char} {place : Nat}

theorem unbroken_limitAfter (text : List Char) : Unbroken (limitAfter text) := by
  unfold limitAfter
  split
  · exact unbroken_ok _
  · split
    · exact unbroken_ok _
    · exact unbroken_malformed

theorem unbroken_limitAt (h : StandsAt rest whole place) :
    Unbroken (limitAt whole place rest) := by
  unfold limitAt
  split
  · exact unbroken_ok _
  · exact (unbroken_cut (h.next (by decide)).after).bind unbroken_limitAfter
  · exact unbroken_malformed

theorem unbroken_ofBraces (target span : List Char) (h : StandsAt rest whole place) :
    Unbroken (ofBraces whole target span place rest) := by
  unfold ofBraces
  dsimp only
  cases hdrop : rest.dropWhile (· != '\x7d') with
  | nil => exact unbroken_malformed
  | cons c later =>
    obtain ⟨hc, hrest⟩ := of_dropWhile_eq_cons hdrop
    obtain rfl : c = '\x7d' := by simpa using hc
    rw [hrest] at h
    refine (unbroken_cut h.between).bind fun field => ?_
    split
    · split
      · exact unbroken_malformed
      · exact (unbroken_limitAt ((h.skip.next (by decide)).next (by decide))).bind
          fun limit => unbroken_ok _
    · exact unbroken_malformed

theorem unbroken_ofBrackets (target : List Char) (h : StandsAt rest whole place) :
    Unbroken (ofBrackets whole target place rest) := by
  unfold ofBrackets
  dsimp only
  cases hdrop : rest.dropWhile (fun c => c != ']' && c != '\x7b') with
  | nil => exact unbroken_malformed
  | cons c later =>
    obtain ⟨hc, hrest⟩ := of_dropWhile_eq_cons hdrop
    have hmark : c = ']' ∨ c = '\x7b' := by simpa [or_iff_not_imp_left] using hc
    have hone : c.utf8Size = 1 := by
      obtain rfl | rfl := hmark <;> decide
    rw [hrest] at h
    refine (unbroken_cut h.between).bind fun span => ?_
    split
    · exact (unbroken_limitAt (h.skip.next hone)).bind fun limit => unbroken_ok _
    · exact unbroken_ofBraces target span (h.skip.next hone)

theorem unbroken_ofText {text : List Char} (h : ∀ c ∈ text.head?, isBlank c = false) :
    Unbroken (ofText text) := by
  cases text with
  | nil => exact unbroken_malformed
  | cons c text =>
    have hhead : c ∈ (c :: text).head? := rfl
    obtain ⟨rest, after, htrim, htext, -⟩ :=
      Blank.exists_trim_append (List.forall_mem_nil _) hhead (h c hhead)
    rw [List.nil_append] at htrim
    have hstands : StandsAt (c :: rest) (c :: text) 0 := ⟨[], after, htext, rfl⟩
    unfold ofText
    rw [htrim]
    split
    · contradiction
    · next heq =>
      obtain ⟨rfl, rfl⟩ := List.cons.inj heq
      exact unbroken_ofBrackets [] (hstands.next (by decide))
    · next heq =>
      obtain ⟨rfl, rfl⟩ := List.cons.inj heq
      dsimp only
      split
      · exact unbroken_malformed
      · cases hdrop : (c :: rest).dropWhile (fun c => c != '=' && c != '[') with
        | nil => exact unbroken_ok _
        | cons d later =>
          obtain ⟨hd, hrest⟩ := of_dropWhile_eq_cons hdrop
          have hmark : d = '=' ∨ d = '[' := by simpa [or_iff_not_imp_left] using hd
          have hend : StandsAt (d :: later) (c :: text)
              (Cut.size ((c :: rest).takeWhile fun c => c != '=' && c != '[')) := by
            rw [hrest] at hstands
            exact Nat.zero_add (Cut.size _) ▸ hstands.skip
          refine (unbroken_cut hend.before).bind fun target => ?_
          split
          · exact (unbroken_limitAt hend).bind fun limit => unbroken_ok _
          · next hne =>
            obtain rfl : d = '[' := hmark.resolve_left hne
            exact unbroken_ofBrackets target (hend.next (by decide))

end Parts

end Directive

namespace Filter

variable {text : List Char}

theorem unbroken_ofText
    (h : ∀ item ∈ fields ',' text, ∀ c ∈ item.head?, isBlank c = false) :
    Unbroken (ofText text) := by
  unfold ofText
  split
  · exact unbroken_ok _
  · refine Unbroken.bind (unbroken_mapM fun item hitem => ?_) fun _ => unbroken_ok _
    exact Directive.unbroken_ofText (h item (List.mem_filter.mp hitem).1)

/-- Only a filter with blanks before a directive can be cut inside a character. -/
theorem exists_blank_of_broken {cut : BrokenCut} (h : ofText text = .error (.broken cut)) :
    ∃ item ∈ fields ',' text, ∃ c ∈ item.head?, isBlank c = true := by
  apply Decidable.byContradiction
  intro hnone
  refine unbroken_ofText (fun item hitem c hc => ?_) cut h
  exact Bool.eq_false_iff.mpr fun hblank => hnone ⟨item, hitem, c, hc, hblank⟩

end Filter

end GuardedDivision.Log
