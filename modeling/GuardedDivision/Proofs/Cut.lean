import GuardedDivision.Text.Cut

namespace GuardedDivision.Cut

theorem size_append (front rest : List Char) : size (front ++ rest) = size front + size rest := by
  induction front with
  | nil => exact (Nat.zero_add _).symm
  | cons c front ih => rw [List.cons_append, size, size, ih, Nat.add_assoc]

theorem go_append (first : Nat) (front rest : List Char) :
    split.go (first + size front) first (front ++ rest) = .ok (front, rest) := by
  induction front generalizing first with
  | nil => cases rest <;> simp [size, split.go]
  | cons c front ih =>
    have hpos := c.utf8Size_pos
    rw [List.cons_append, size, split.go, if_neg (by omega), if_neg (by omega), ← Nat.add_assoc,
      ih]
    rfl

theorem split_append (front rest : List Char) :
    split (front ++ rest) (size front) = .ok (front, rest) := by
  rw [split, ← Nat.zero_add (size front), go_append]

theorem before_append (front rest : List Char) :
    before (front ++ rest) (size front) = .ok front := by
  rw [before, split_append]

theorem after_append (front rest : List Char) : after (front ++ rest) (size front) = .ok rest := by
  rw [after, split_append]

theorem after_append_cons (front rest : List Char) {c : Char} (hc : c.utf8Size = 1) :
    after (front ++ c :: rest) (size front + 1) = .ok rest := by
  have hcut := after_append (front ++ [c]) rest
  rwa [size_append, size, size, hc, List.append_assoc] at hcut

theorem between_append (front middle rest : List Char) :
    between (front ++ (middle ++ rest)) (size front) (size front + size middle) = .ok middle := by
  have hbefore : before (front ++ (middle ++ rest)) (size front + size middle) =
      .ok (front ++ middle) := by
    rw [← size_append, ← List.append_assoc, before_append]
  rw [between, after_append, hbefore]
  exact after_append front middle

theorem go_eq_ok {place first : Nat} {text front rest : List Char}
    (h : split.go place first text = .ok (front, rest)) :
    text = front ++ rest ∧ (front = [] ∨ first + size front ≤ place) := by
  induction text generalizing first front with
  | nil =>
    rw [split.go] at h
    cases h
    exact ⟨rfl, .inl rfl⟩
  | cons c text ih =>
    rw [split.go] at h
    split at h
    · cases h
      exact ⟨rfl, .inl rfl⟩
    · split at h
      · contradiction
      · next hwhole =>
        cases hgo : split.go place (first + c.utf8Size) text with
        | error broken =>
          rw [hgo] at h
          contradiction
        | ok parts =>
          rw [hgo] at h
          cases h
          obtain ⟨htext, hplace⟩ := ih hgo
          refine ⟨congrArg (c :: ·) htext, .inr ?_⟩
          obtain hnil | hplace := hplace
          · rw [hnil, size, size]
            omega
          · rw [size]
            omega

theorem split_eq_ok {place : Nat} {text front rest : List Char}
    (h : split text place = .ok (front, rest)) : text = front ++ rest ∧ size front ≤ place := by
  obtain ⟨htext, hplace⟩ := go_eq_ok h
  refine ⟨htext, ?_⟩
  obtain rfl | hplace := hplace
  · exact Nat.zero_le _
  · omega

theorem mem_of_after {place : Nat} {front later rest : List Char} {c : Char}
    (h : after (front ++ c :: later) place = .ok rest) (hplace : place ≤ size front) :
    c ∈ rest := by
  rw [after] at h
  cases hsplit : split (front ++ c :: later) place with
  | error broken =>
    rw [hsplit] at h
    contradiction
  | ok parts =>
    rw [hsplit] at h
    cases h
    obtain ⟨htext, hsize⟩ := split_eq_ok hsplit
    obtain ⟨middle, hfront, hrest⟩ | ⟨middle, hfront, hrest⟩ := List.append_eq_append_iff.mp htext
    · cases middle with
      | nil =>
        rw [List.nil_append] at hrest
        simp [← hrest]
      | cons d middle =>
        rw [hfront, size_append, size] at hsize
        have hpos := d.utf8Size_pos
        omega
    · rw [hrest]
      simp

end GuardedDivision.Cut
