import GuardedDivision.Proofs.Toml.Scalar
import Mathlib.Data.List.Induction
import Mathlib.Data.Nat.Digits.Defs

namespace GuardedDivision.Toml.Scalar

open Numeral (Denotes IsDigits)

/-- Digits of a kind with at most one underscore between each two, and the digits alone. -/
inductive Grouped (isDigit : Char → Bool) : List Char → List Char → Prop
  | last {c : Char} : isDigit c = true → Grouped isDigit [c] [c]
  | next {c : Char} {text digits : List Char} :
    isDigit c = true → Grouped isDigit text digits → Grouped isDigit (c :: text) (c :: digits)
  | apart {c : Char} {text digits : List Char} : isDigit c = true → Grouped isDigit text digits →
    Grouped isDigit (c :: '_' :: text) (c :: digits)

inductive IsMark : Char → Nat → (Char → Bool) → Prop
  | hexadecimal : IsMark 'x' 16 isHexDigit
  | octal : IsMark 'o' 8 isOctalDigit
  | binary : IsMark 'b' 2 isBinaryDigit

/-- The texts of an integer. In base ten a row of several digits does not start with a zero. -/
inductive SpellsInteger : List Char → Int → Prop
  | decimal {sign text digits : List Char} {n : Int} : sign ∈ [[], ['+'], ['-']] →
    Grouped Char.isDigit text digits → (digits.head? = some '0' → digits = ['0']) →
    Denotes (sign ++ digits) n → SpellsInteger (sign ++ text) n
  | based {letter : Char} {base : Nat} {isDigit : Char → Bool} {text digits : List Char} :
    IsMark letter base isDigit → Grouped isDigit text digits →
      SpellsInteger ('0' :: letter :: text)
        (Nat.ofDigits base (digits.reverse.map digitValue) : Nat)

theorem isHexDigit_of_isDigit {c : Char} (h : c.isDigit = true) : isHexDigit c = true := by
  simp [isHexDigit, h]

theorem forall_isHexDigit {P : Char → Prop}
    (hall : ∀ n ≤ 'f'.toNat, isHexDigit (Char.ofNat n) = true → P (Char.ofNat n)) {c : Char}
    (h : isHexDigit c = true) : P c := by
  have hle : c ≤ 'f' := by
    simp only [isHexDigit, Bool.or_eq_true, Bool.and_eq_true, decide_eq_true_eq] at h
    obtain (h | h) | h := h
    · exact Char.le_trans (of_decide_eq_true (Bool.and_eq_true_iff.mp h).2) (by decide)
    · exact h.2
    · exact Char.le_trans h.2 (by decide)
  have hc := hall c.toNat hle
  rw [Char.ofNat_toNat] at hc
  exact hc h

theorem IsMark.isHexDigit {letter : Char} {base : Nat} {isDigit : Char → Bool}
    (h : IsMark letter base isDigit) {c : Char} (hc : isDigit c = true) : isHexDigit c = true := by
  cases h with
  | hexadecimal => exact hc
  | octal =>
    have hc := Bool.and_eq_true_iff.mp hc
    have hlow : '0' ≤ c := of_decide_eq_true hc.1
    have hhigh : c ≤ '9' := Char.le_trans (of_decide_eq_true hc.2) (by decide)
    apply isHexDigit_of_isDigit
    rw [Char.isDigit, Bool.and_eq_true_iff]
    exact ⟨decide_eq_true hlow, decide_eq_true hhigh⟩
  | binary =>
    rw [isBinaryDigit, Bool.or_eq_true] at hc
    obtain h | h := hc
    all_goals
      rw [of_decide_eq_true h]
      rfl

namespace Grouped

variable {isDigit : Char → Bool} {text digits : List Char}

theorem exists_cons (h : Grouped isDigit text digits) :
    ∃ c rest later, text = c :: rest ∧ digits = c :: later ∧ isDigit c = true := by
  cases h with
  | last hc | next hc | apart hc => exact ⟨_, _, _, rfl, rfl, hc⟩

theorem isDigit_of_mem (h : Grouped isDigit text digits) : ∀ c ∈ digits, isDigit c = true := by
  induction h with
  | last hc => exact List.forall_mem_singleton.mpr hc
  | next hc _ ih | apart hc _ ih => exact List.forall_mem_cons.mpr ⟨hc, ih⟩

theorem isDigit_or_eq (h : Grouped isDigit text digits) :
    ∀ c ∈ text, isDigit c = true ∨ c = '_' := by
  induction h with
  | last hc => exact List.forall_mem_singleton.mpr (.inl hc)
  | next hc _ ih => exact List.forall_mem_cons.mpr ⟨.inl hc, ih⟩
  | apart hc _ ih =>
    exact List.forall_mem_cons.mpr ⟨.inl hc, List.forall_mem_cons.mpr ⟨.inr rfl, ih⟩⟩

theorem eq_singleton {c : Char} (h : Grouped isDigit text [c]) : text = [c] := by
  cases h with
  | last => rfl
  | next _ h | apart _ h =>
    obtain ⟨_, _, _, -, hnil, -⟩ := h.exists_cons
    contradiction

section

variable (hdigit : ∀ c, isDigit c = true → isHexDigit c = true)

include hdigit

theorem ungroup_eq (h : Grouped isDigit text digits) : ungroup text = digits := by
  have hkeep {c : Char} (hc : isDigit c = true) (rest : List Char) :
      ungroup (c :: rest) = c :: ungroup rest :=
    List.filter_cons_of_pos (bne_iff_ne.mpr (Numeral.ne_of_class (hdigit c hc) (by decide)))
  have hdrop (rest : List Char) : ungroup ('_' :: rest) = ungroup rest :=
    List.filter_cons_of_neg (by decide)
  induction h with
  | last hc => exact hkeep hc []
  | next hc _ ih => rw [hkeep hc, ih]
  | apart hc _ ih => rw [hkeep hc, hdrop, ih]

theorem isGrouped (h : Grouped isDigit text digits) (afterDigit : Bool) :
    isGrouped isHexDigit afterDigit text = true := by
  have hstep {c : Char} (hc : isDigit c = true) (afterDigit : Bool) (rest : List Char) :
      Scalar.isGrouped isHexDigit afterDigit (c :: rest) =
        Scalar.isGrouped isHexDigit true rest := by
    have hne : c ≠ '_' := Numeral.ne_of_class (hdigit c hc) (by decide)
    rw [Scalar.isGrouped, hdigit c hc]
    exact hne
  induction h generalizing afterDigit with
  | last hc => exact hstep hc afterDigit []
  | next hc _ ih => rw [hstep hc, ih]
  | @apart c text _ hc h ih =>
    obtain ⟨d, rest, _, rfl, -, hd⟩ := h.exists_cons
    rw [hstep hc, Scalar.isGrouped, ih, Bool.and_true, Bool.true_and]
    exact hdigit d hd

end

end Grouped

theorem scan_eq_ofDigits (base : Nat) (digitOf : Char → Nat) (digits : List Char) :
    Numeral.scan base digitOf digits = Nat.ofDigits base (digits.reverse.map digitOf) := by
  induction digits using List.reverseRecOn with
  | nil => rfl
  | append_singleton digits c ih =>
    rw [Numeral.scan, List.foldl_append, ← Numeral.scan, ih, List.reverse_append, List.map_append,
      List.reverse_singleton, List.map_singleton, List.singleton_append, Nat.ofDigits_cons,
      Nat.add_comm]
    rfl

theorem based?_eq {letter : Char} {base : Nat} {isDigit : Char → Bool} {text digits : List Char}
    (hmark : IsMark letter base isDigit) (h : Grouped isDigit text digits) :
    based? base isDigit text =
      some (ofInt (Nat.ofDigits base (digits.reverse.map digitValue) : Nat)) := by
  have hungroup := h.ungroup_eq fun _ => hmark.isHexDigit
  have hall : digits.all isDigit = true := List.all_eq_true.mpr h.isDigit_of_mem
  obtain ⟨c, -, later, -, hcons, -⟩ := h.exists_cons
  have hne : digits ≠ [] := hcons ▸ List.cons_ne_nil c later
  rw [based?, hungroup, if_pos ⟨h.isGrouped (fun _ => hmark.isHexDigit) false, hall⟩, if_neg hne,
    Numeral.valueIn_eq_scan, scan_eq_ofDigits]

theorem continuesInteger_dropWhile {text digits : List Char}
    (h : Grouped Char.isDigit text digits) :
    continuesInteger (text.dropWhile Char.isDigit) = true := by
  induction h with
  | last hc =>
    rw [List.dropWhile_cons_of_pos hc]
    rfl
  | next hc _ ih => rw [List.dropWhile_cons_of_pos hc, ih]
  | apart hc h =>
    have hall : ∀ c, c.isDigit = true ∨ c = '_' →
        (c != ' ' && c != '.' && c != 'e' && c != 'E') = true := by
      rintro c (hc | rfl)
      · have hne {d : Char} (hd : d.isDigit = false) : (c != d) = true :=
          bne_iff_ne.mpr (Numeral.ne_of_class hc hd)
        rw [hne rfl, hne rfl, hne rfl, hne rfl]
        rfl
      · decide
    rw [List.dropWhile_cons_of_pos hc, List.dropWhile_cons_of_neg (by decide), continuesInteger,
      List.all_eq_true.mpr fun c hc => hall c (h.isDigit_or_eq c hc)]
    rfl

theorem unsigned_append {sign text : List Char} {c : Char} {rest : List Char}
    (hsign : sign ∈ [[], ['+'], ['-']]) (htext : text = c :: rest) (hc : c.isDigit = true) :
    unsigned (sign ++ text) = text := by
  have hplus : c ≠ '+' := Numeral.ne_of_class hc rfl
  have hminus : c ≠ '-' := Numeral.ne_of_class hc rfl
  simp only [List.mem_cons, List.not_mem_nil, or_false] at hsign
  obtain rfl | rfl | rfl := hsign
  · subst htext
    rw [List.nil_append]
    unfold unsigned
    split
    · next h => exact absurd (List.cons.inj h).1 hplus
    · next h => exact absurd (List.cons.inj h).1 hminus
    · rfl
  · rfl
  · rfl

theorem decimal?_eq {sign text digits : List Char} {n : Int} (hsign : sign ∈ [[], ['+'], ['-']])
    (h : Grouped Char.isDigit text digits) (hzero : digits.head? = some '0' → digits = ['0'])
    (hn : Denotes (sign ++ digits) n) : decimal? (sign ++ text) = some (ofInt n) := by
  obtain ⟨c, rest, later, htext, hdigits, hc⟩ := h.exists_cons
  have hungroup : ungroup (sign ++ text) = sign ++ digits := by
    have hkept : ungroup sign = sign := by
      simp only [List.mem_cons, List.not_mem_nil, or_false] at hsign
      obtain rfl | rfl | rfl := hsign <;> rfl
    rw [ungroup, List.filter_append, ← ungroup, ← ungroup, hkept,
      h.ungroup_eq fun _ => isHexDigit_of_isDigit]
  have hfirst : text.head? = some '0' → text = ['0'] := by
    intro hhead
    rw [htext, List.head?_cons] at hhead
    have hone := hzero (by rw [hdigits, List.head?_cons, hhead])
    rw [hone] at h
    exact h.eq_singleton
  have hne : text ≠ [] := htext ▸ List.cons_ne_nil c rest
  rw [decimal?, unsigned_append hsign htext hc, hungroup, Numeral.int?_eq_some_iff.mpr hn]
  exact if_pos ⟨hne, hfirst, continuesInteger_dropWhile h,
    h.isGrouped (fun _ => isHexDigit_of_isDigit) false⟩

namespace SpellsInteger

variable {text : List Char} {n : Int}

theorem exists_cons (h : SpellsInteger text n) :
    ∃ c rest, text = c :: rest ∧ (c.isDigit = true ∨ c = '+' ∨ c = '-') := by
  cases h with
  | @decimal _ digits _ _ hsign h =>
    obtain ⟨c, rest, -, rfl, -, hc⟩ := h.exists_cons
    simp only [List.mem_cons, List.not_mem_nil, or_false] at hsign
    obtain rfl | rfl | rfl := hsign
    · exact ⟨c, rest, rfl, .inl hc⟩
    · exact ⟨'+', c :: rest, rfl, .inr (.inl rfl)⟩
    · exact ⟨'-', c :: rest, rfl, .inr (.inr rfl)⟩
  | based => exact ⟨'0', _, rfl, .inl rfl⟩

theorem integer?_eq (h : SpellsInteger text n) : integer? text = some (ofInt n) := by
  cases h with
  | based hmark h =>
    have hbased := based?_eq hmark h
    cases hmark with
    | hexadecimal | octal | binary => exact hbased
  | @decimal sign text digits _ hsign h hzero hn =>
    -- no mark of a base stands behind the first digit
    have hmark {letter : Char} (hdigit : letter.isDigit = false) (hne : letter ≠ '_')
        {later : List Char} (heq : sign ++ text = '0' :: letter :: later) : False := by
      have hmem : letter ∈ text := by
        simp only [List.mem_cons, List.not_mem_nil, or_false] at hsign
        obtain rfl | rfl | rfl := hsign
        · rw [List.nil_append] at heq
          rw [heq]
          simp
        · exact absurd (List.cons.inj heq).1 (by decide)
        · exact absurd (List.cons.inj heq).1 (by decide)
      obtain hd | rfl := h.isDigit_or_eq letter hmem
      · rw [hdigit] at hd
        contradiction
      · exact hne rfl
    unfold integer?
    split
    · next heq => exact (hmark rfl (by decide) heq).elim
    · next heq => exact (hmark rfl (by decide) heq).elim
    · next heq => exact (hmark rfl (by decide) heq).elim
    · exact decimal?_eq hsign h hzero hn

theorem item?_eq (h : SpellsInteger text n) : item? text = some (ofInt n) := by
  obtain ⟨c, rest, htext, hc⟩ := h.exists_cons
  have hword {d : Char} {later : List Char} (hd : d.isDigit = false) (hplus : d ≠ '+')
      (hminus : d ≠ '-') : text ≠ d :: later := by
    rintro he
    obtain ⟨rfl, -⟩ := List.cons.inj (htext.symm.trans he)
    obtain hc | rfl | rfl := hc
    · rw [hd] at hc
      contradiction
    · exact hplus rfl
    · exact hminus rfl
  have htrue : text ≠ "true".toList := hword rfl (by decide) (by decide)
  have hfalse : text ≠ "false".toList := hword rfl (by decide) (by decide)
  rw [item?, if_neg htrue, if_neg hfalse, h.integer?_eq]
  rfl

theorem mem_cases (h : SpellsInteger text n) :
    ∀ c ∈ text, isHexDigit c = true ∨ c ∈ ['_', '+', '-', 'x', 'o'] := by
  have hgrouped {isDigit : Char → Bool} {text digits : List Char}
      (hdigit : ∀ c, isDigit c = true → isHexDigit c = true) (h : Grouped isDigit text digits) :
      ∀ c ∈ text, isHexDigit c = true ∨ c ∈ ['_', '+', '-', 'x', 'o'] := by
    intro c hc
    obtain hd | rfl := h.isDigit_or_eq c hc
    · exact .inl (hdigit c hd)
    · exact .inr List.mem_cons_self
  cases h with
  | decimal hsign h =>
    refine List.forall_mem_append.mpr ⟨?_, hgrouped (fun _ => isHexDigit_of_isDigit) h⟩
    simp only [List.mem_cons, List.not_mem_nil, or_false] at hsign
    obtain rfl | rfl | rfl := hsign
    · exact nofun
    · exact List.forall_mem_singleton.mpr (.inr (by decide))
    · exact List.forall_mem_singleton.mpr (.inr (by decide))
  | based hmark h =>
    refine List.forall_mem_cons.mpr ⟨.inl (by decide), List.forall_mem_cons.mpr ⟨?_, ?_⟩⟩
    · cases hmark <;> decide
    · exact hgrouped (fun _ => hmark.isHexDigit) h

end SpellsInteger

end GuardedDivision.Toml.Scalar
