import GuardedDivision.Source

namespace GuardedDivision.Console

/-- The lines of the console. Each ends just after its newline, the last one at the end. -/
def lines : Bytes → List Bytes
  | [] => []
  | b :: rest =>
    if b = 0x0A then [b] :: lines rest
    else match lines rest with
      | [] => [[b]]
      | line :: later => (b :: line) :: later

theorem cutLine_cons_of_ne {b : UInt8} (hb : b ≠ 0x0A) (rest : Bytes) :
    cutLine (b :: rest) = (b :: (cutLine rest).1, (cutLine rest).2) := by
  rw [cutLine, if_neg hb]

theorem lines_cons (b : UInt8) (rest : Bytes) :
    lines (b :: rest) = (cutLine (b :: rest)).1 :: lines (cutLine (b :: rest)).2 := by
  induction rest generalizing b with
  | nil => by_cases hb : b = 0x0A <;> simp [lines, cutLine, hb]
  | cons b' rest ih =>
    by_cases hb : b = 0x0A
    · simp [lines, cutLine, hb]
    · rw [lines, if_neg hb, cutLine_cons_of_ne hb, ih b']

theorem head_lines (bytes : Bytes) : (lines bytes)[0]?.getD [] = (cutLine bytes).1 := by
  cases bytes with
  | nil => rfl
  | cons b rest => rw [lines_cons, List.getElem?_cons_zero, Option.getD_some]

theorem tail_lines (bytes : Bytes) : (lines bytes).tail = lines (cutLine bytes).2 := by
  cases bytes with
  | nil => rfl
  | cons b rest => rw [lines_cons, List.tail_cons]

theorem flatten_lines (bytes : Bytes) : (lines bytes).flatten = bytes := by
  induction bytes with
  | nil => rfl
  | cons b rest ih =>
    rw [lines]
    split
    · rw [List.flatten_cons, ih, List.singleton_append]
    · split
      · next h => simpa [h] using ih
      · next line later h => simpa [h] using ih

theorem mem_lines {bytes line : Bytes} (h : line ∈ lines bytes) :
    line ≠ [] ∧ 0x0A ∉ line.dropLast := by
  induction bytes generalizing line with
  | nil => simp [lines] at h
  | cons b rest ih =>
    rw [lines] at h
    split at h
    · obtain rfl | hm := List.mem_cons.mp h
      · simp
      · exact ih hm
    · next hb =>
      split at h
      · obtain rfl : line = [b] := by simpa using h
        simp
      · next first later hl =>
        obtain rfl | hm := List.mem_cons.mp h
        · have hf := ih (show first ∈ lines rest by simp [hl])
          simp [List.dropLast_cons_of_ne_nil hf.1, hf.2, Ne.symm hb]
        · exact ih (by simp [hl, hm])

theorem rest_cutLine (bytes : Bytes) : (cutLine bytes).2 = ((lines bytes).drop 1).flatten := by
  rw [List.drop_one, tail_lines, flatten_lines]

theorem lines_flatten_drop (bytes : Bytes) (k : Nat) :
    lines ((lines bytes).drop k).flatten = (lines bytes).drop k := by
  induction k generalizing bytes with
  | zero => rw [List.drop_zero, flatten_lines]
  | succ k ih =>
    have hk : (lines bytes).drop (k + 1) = (lines (cutLine bytes).2).drop k := by
      rw [← tail_lines, List.drop_tail]
    rw [hk, ih]

theorem cutLine_cutLine (bytes : Bytes) :
    cutLine (cutLine bytes).1 = ((cutLine bytes).1, []) := by
  induction bytes with
  | nil => rfl
  | cons b rest ih =>
    by_cases hb : b = 0x0A
    · simp [cutLine, hb]
    · simp [cutLine_cons_of_ne hb, ih]

theorem cutLine_append {line : Bytes} (h : (0x0A : UInt8) ∉ line) (rest : Bytes) :
    cutLine (line ++ 0x0A :: rest) = (line ++ [0x0A], rest) := by
  induction line with
  | nil => rfl
  | cons b line ih =>
    have hb : b ≠ 0x0A := fun he => h (by simp [he])
    rw [List.cons_append, cutLine_cons_of_ne hb, ih fun hm => h (List.mem_cons_of_mem b hm)]
    rfl

theorem cutLine_of_not_mem {bytes : Bytes} (h : (0x0A : UInt8) ∉ bytes) :
    cutLine bytes = (bytes, []) := by
  induction bytes with
  | nil => rfl
  | cons b bytes ih =>
    have hb : b ≠ 0x0A := fun he => h (by simp [he])
    rw [cutLine_cons_of_ne hb, ih fun hm => h (List.mem_cons_of_mem b hm)]

theorem lines_append {line : Bytes} (h : (0x0A : UInt8) ∉ line) (rest : Bytes) :
    lines (line ++ 0x0A :: rest) = (line ++ [0x0A]) :: lines rest := by
  have hcut := cutLine_append h rest
  cases line with
  | nil => rfl
  | cons b line =>
    rw [List.cons_append] at hcut ⊢
    rw [lines_cons, hcut]

/-- How bytes begin with a line: it ends just after their first newline, or where they end. -/
inductive IsFirstLine : Bytes → Bytes → Bytes → Prop
  | ended {before rest : Bytes} : (0x0A : UInt8) ∉ before →
    IsFirstLine (before ++ 0x0A :: rest) (before ++ [0x0A]) rest
  | unended {line : Bytes} : (0x0A : UInt8) ∉ line → IsFirstLine line line []

theorem cutLine_eq_iff {bytes line rest : Bytes} :
    cutLine bytes = (line, rest) ↔ IsFirstLine bytes line rest := by
  constructor
  · intro h
    by_cases hm : (0x0A : UInt8) ∈ bytes
    · obtain ⟨before, later, rfl, hbefore⟩ := List.eq_append_cons_of_mem hm
      obtain ⟨rfl, rfl⟩ := Prod.mk.inj ((cutLine_append hbefore later).symm.trans h)
      exact .ended hbefore
    · obtain ⟨rfl, rfl⟩ := Prod.mk.inj ((cutLine_of_not_mem hm).symm.trans h)
      exact .unended hm
  · intro h
    cases h with
    | ended hbefore => exact cutLine_append hbefore rest
    | unended hline => exact cutLine_of_not_mem hline

theorem IsFirstLine.eq_nil_iff {bytes line rest : Bytes} (h : IsFirstLine bytes line rest) :
    line = [] ↔ bytes = [] := by
  cases h with
  | ended => simp
  | unended => rfl

theorem isFirstLine_cutLine (bytes : Bytes) :
    IsFirstLine bytes (cutLine bytes).1 (cutLine bytes).2 := cutLine_eq_iff.mp rfl

end GuardedDivision.Console
