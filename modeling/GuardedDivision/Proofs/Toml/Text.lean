import GuardedDivision.Proofs.Toml.Integer
import GuardedDivision.Toml.Word

namespace GuardedDivision.Toml

open Scalar (isHexDigit digitValue)

namespace Text

def codePoints : List (Char × Nat) := [('x', 2), ('u', 4), ('U', 8)]

/-- How a character is written between double quotes. -/
inductive Writes : List Char → Char → Prop
  | plain {c : Char} : isPlain c = true → c ≠ '"' → c ≠ '\\' → Writes [c] c
  | escaped {letter c : Char} : escaped? letter = some c → Writes ['\\', letter] c
  | codePoint {letter : Char} {digits : List Char} {n : Nat} :
    (letter, digits.length) ∈ codePoints → (∀ d ∈ digits, isHexDigit d = true) →
    n = Nat.ofDigits 16 (digits.reverse.map digitValue) → n.isValidChar →
      Writes ('\\' :: letter :: digits) (Char.ofNat n)

inductive Basic : List Char → List Char → Prop
  | nil : Basic [] []
  | cons {written body content : List Char} {c : Char} :
    Writes written c → Basic body content → Basic (written ++ body) (c :: content)

def Verbatim (body : List Char) : Prop := ∀ c ∈ body, isPlain c = true ∧ c ≠ '\''

theorem hexValue?_eq {c : Char} (h : isHexDigit c = true) : hexValue? c = some (digitValue c) := by
  apply Scalar.forall_isHexDigit (P := fun c => hexValue? c = some (digitValue c)) _ h
  decide

theorem foldlM_hexValue? {digits : List Char} (h : ∀ d ∈ digits, isHexDigit d = true) (n : Nat) :
    digits.foldlM (fun n c => (hexValue? c).map (16 * n + ·)) n =
      some (digits.foldl (fun n c => 16 * n + digitValue c) n) := by
  induction digits generalizing n with
  | nil => rfl
  | cons d digits ih =>
    obtain ⟨hd, hdigits⟩ := List.forall_mem_cons.mp h
    rw [List.foldlM_cons, hexValue?_eq hd]
    exact ih hdigits (16 * n + digitValue d)

theorem codePoint?_eq {digits : List Char} {n : Nat} (h : ∀ d ∈ digits, isHexDigit d = true)
    (hn : n = Nat.ofDigits 16 (digits.reverse.map digitValue)) (hvalid : n.isValidChar) :
    codePoint? digits = some (Char.ofNat n) := by
  rw [codePoint?, foldlM_hexValue? h, ← Numeral.scan, Scalar.scan_eq_ofDigits, ← hn]
  exact if_pos hvalid

theorem basic_plain {c : Char} (hplain : isPlain c = true) (hquote : c ≠ '"') (hslash : c ≠ '\\')
    (rest : List Char) : basic (c :: rest) = push (some c) (basic rest) := by
  rw [basic.eq_def (c :: rest)]
  split
  case h_1 => contradiction
  case h_2 heq => exact absurd (List.cons.inj heq).1 hquote
  case h_7 heq =>
    obtain ⟨rfl, rfl⟩ := List.cons.inj heq
    exact if_pos hplain
  all_goals
    next heq => exact absurd (List.cons.inj heq).1 hslash

theorem basic_escaped {letter c : Char} (h : escaped? letter = some c) (rest : List Char) :
    basic ('\\' :: letter :: rest) = push (some c) (basic rest) := by
  unfold escaped? at h
  split at h
  case h_9 => contradiction
  all_goals
    rw [← h]
    rfl

theorem basic_codePoint {letter : Char} {digits : List Char}
    (h : (letter, digits.length) ∈ codePoints) (rest : List Char) :
    basic ('\\' :: letter :: (digits ++ rest)) = push (codePoint? digits) (basic rest) := by
  simp only [codePoints, List.mem_cons, Prod.mk.injEq, List.not_mem_nil, or_false] at h
  obtain ⟨rfl, hlength⟩ | ⟨rfl, hlength⟩ | ⟨rfl, hlength⟩ := h
  · match digits, hlength with
    | [a, b], _ => rfl
  · match digits, hlength with
    | [a, b, c, d], _ => rfl
  · match digits, hlength with
    | [a, b, c, d, e, f, g, h], _ => rfl

theorem Writes.basic_append {written : List Char} {c : Char} (h : Writes written c)
    (rest : List Char) :
    basic (written ++ rest) = push (some c) (basic rest) := by
  cases h with
  | plain hplain hquote hslash => exact basic_plain hplain hquote hslash rest
  | escaped h => exact basic_escaped h rest
  | codePoint hmark hdigits hn hvalid =>
    rw [List.cons_append, List.cons_append, basic_codePoint hmark, codePoint?_eq hdigits hn hvalid]

theorem Basic.reading {body content : List Char} (h : Basic body content) :
    basic (body ++ ['"']) = some (content, []) := by
  induction h with
  | nil => rfl
  | cons hwrites _ ih =>
    rw [List.append_assoc, hwrites.basic_append, ih]
    rfl

theorem Verbatim.reading {body : List Char} (h : Verbatim body) :
    literal (body ++ ['\'']) = some (body, []) := by
  induction body with
  | nil => rfl
  | cons c body ih =>
    obtain ⟨hc, hbody⟩ := List.forall_mem_cons.mp h
    have hread : literal (c :: (body ++ ['\''])) = push (some c) (literal (body ++ ['\''])) := by
      rw [literal, if_pos hc.1]
      exact hc.2
    rw [List.cons_append, hread, ih hbody]
    rfl

theorem Basic.head_ne {body content : List Char} (h : Basic body content) :
    body.head? ≠ some '"' := by
  cases h with
  | nil => exact nofun
  | cons hwrites h =>
    cases hwrites with
    | plain _ hquote => exact fun he => hquote (Option.some.inj he)
    | escaped | codePoint => exact fun he => absurd (Option.some.inj he) (by decide)

end Text

namespace Word

open Text (Writes Basic Verbatim)

theorem keep_keep (first second : List Char) (r : List Char × List Char) :
    keep first (keep second r) = keep (first ++ second) r := by
  rw [keep, keep, keep, List.append_assoc]

theorem cutBasic_cons {c : Char} (hnewline : c ≠ '\n') (hquote : c ≠ '"') (hslash : c ≠ '\\')
    (rest : List Char) : cutBasic (c :: rest) = keep [c] (cutBasic rest) := by
  rw [cutBasic.eq_def (c :: rest)]
  split
  case h_1 => contradiction
  case h_2 heq => exact absurd (List.cons.inj heq).1 hnewline
  case h_3 heq => exact absurd (List.cons.inj heq).1 hquote
  case h_6 heq =>
    obtain ⟨rfl, rfl⟩ := List.cons.inj heq
    rfl
  all_goals
    next heq => exact absurd (List.cons.inj heq).1 hslash

theorem cutBasic_append {text : List Char} (h : ∀ c ∈ text, c ≠ '\n' ∧ c ≠ '"' ∧ c ≠ '\\')
    (rest : List Char) : cutBasic (text ++ rest) = keep text (cutBasic rest) := by
  induction text with
  | nil => rfl
  | cons c text ih =>
    obtain ⟨⟨hnewline, hquote, hslash⟩, htext⟩ := List.forall_mem_cons.mp h
    rw [List.cons_append, cutBasic_cons hnewline hquote hslash, ih htext, keep_keep]
    rfl

theorem cutBasic_slash {text : List Char} (hne : text ≠ [])
    (h : ∀ c ∈ text, c ≠ '\n' ∧ c ≠ '"' ∧ c ≠ '\\') (rest : List Char) :
    cutBasic ('\\' :: (text ++ rest)) = keep ('\\' :: text) (cutBasic rest) := by
  have hslash : cutBasic ('\\' :: (text ++ rest)) = keep ['\\'] (cutBasic (text ++ rest)) := by
    obtain ⟨c, later, rfl⟩ := List.exists_cons_of_ne_nil hne
    obtain ⟨-, hquote, hslash⟩ := h c List.mem_cons_self
    rw [List.cons_append, cutBasic]
    · exact nofun
    · exact nofun
    · exact fun _ _ heq => hslash (List.cons.inj heq).1
    · exact fun _ _ heq => hquote (List.cons.inj heq).1
  rw [hslash, cutBasic_append h, keep_keep]
  rfl

theorem cutBasic_writes {written : List Char} {c : Char} (h : Writes written c)
    (rest : List Char) : cutBasic (written ++ rest) = keep written (cutBasic rest) := by
  cases h with
  | plain hplain hquote hslash =>
    have hnewline : c ≠ '\n' := Numeral.ne_of_class hplain (by decide)
    exact cutBasic_cons hnewline hquote hslash rest
  | escaped h =>
    unfold Text.escaped? at h
    split at h
    case h_9 => contradiction
    all_goals rfl
  | @codePoint letter digits n hmark hdigits =>
    have hletter : letter ≠ '\n' ∧ letter ≠ '"' ∧ letter ≠ '\\' := by
      have hall : ∀ mark ∈ Text.codePoints, mark.1 ≠ '\n' ∧ mark.1 ≠ '"' ∧ mark.1 ≠ '\\' := by
        decide
      exact hall _ hmark
    have hdigit (d : Char) (hd : d ∈ digits) : d ≠ '\n' ∧ d ≠ '"' ∧ d ≠ '\\' := by
      have hne {e : Char} (he : isHexDigit e = false) : d ≠ e :=
        Numeral.ne_of_class (hdigits d hd) he
      exact ⟨hne (by decide), hne (by decide), hne (by decide)⟩
    exact cutBasic_slash (List.cons_ne_nil letter digits)
      (List.forall_mem_cons.mpr ⟨hletter, hdigit⟩) rest

theorem cutBasic_basic {body content : List Char} (h : Basic body content) (rest : List Char) :
    cutBasic (body ++ '"' :: rest) = (body ++ ['"'], rest) := by
  induction h with
  | nil => rfl
  | cons hwrites _ ih =>
    rw [List.append_assoc, cutBasic_writes hwrites, ih, keep, List.append_assoc]

theorem cutLiteral_verbatim {body : List Char} (h : Verbatim body) (rest : List Char) :
    cutLiteral (body ++ '\'' :: rest) = (body ++ ['\''], rest) := by
  induction body with
  | nil => rfl
  | cons c body ih =>
    obtain ⟨⟨hplain, hquote⟩, hbody⟩ := List.forall_mem_cons.mp h
    have hnewline : c ≠ '\n' := Numeral.ne_of_class hplain (by decide)
    have hcut : cutLiteral (c :: (body ++ '\'' :: rest)) =
        keep [c] (cutLiteral (body ++ '\'' :: rest)) := by
      rw [cutLiteral]
      · exact hnewline
      · exact hquote
    rw [List.cons_append, hcut, ih hbody]
    rfl

theorem read?_doubleQuote {s : List Char} (h : ∀ later, s ≠ '"' :: '"' :: later) :
    read? ('"' :: s) = some (.basic (cutBasic s).1, (cutBasic s).2) := by
  unfold read?
  split
  case h_1 heq => exact absurd (List.cons.inj heq).2 (h _)
  case h_2 heq => rw [(List.cons.inj heq).2]
  case h_3 heq | h_4 heq => exact absurd (List.cons.inj heq).1 (by decide)
  case h_5 => contradiction
  case h_6 hquote _ _ heq => exact absurd (List.cons.inj heq).1.symm hquote

theorem read?_singleQuote {s : List Char} (h : ∀ later, s ≠ '\'' :: '\'' :: later) :
    read? ('\'' :: s) = some (.literal (cutLiteral s).1, (cutLiteral s).2) := by
  unfold read?
  split
  case h_1 heq | h_2 heq => exact absurd (List.cons.inj heq).1 (by decide)
  case h_3 heq => exact absurd (List.cons.inj heq).2 (h _)
  case h_4 heq => rw [(List.cons.inj heq).2]
  case h_5 => contradiction
  case h_6 hquote heq => exact absurd (List.cons.inj heq).1.symm hquote

/-- Two quotes in a row stand only where a text ends. -/
theorem ne_quotes {quote : Char} {body rest : List Char} (hbody : body.head? ≠ some quote)
    (hrest : rest.head? ≠ some quote) (later : List Char) :
    body ++ quote :: rest ≠ quote :: quote :: later := by
  intro heq
  cases body with
  | nil => exact hrest (congrArg List.head? (List.cons.inj heq).2)
  | cons c body => exact hbody (congrArg some (List.cons.inj heq).1)

theorem read?_basic {body content rest : List Char} (h : Basic body content)
    (hrest : rest.head? ≠ some '"') :
    read? ('"' :: (body ++ '"' :: rest)) = some (.basic (body ++ ['"']), rest) := by
  rw [read?_doubleQuote (ne_quotes h.head_ne hrest), cutBasic_basic h]

theorem read?_verbatim {body rest : List Char} (h : Verbatim body)
    (hrest : rest.head? ≠ some '\'') :
    read? ('\'' :: (body ++ '\'' :: rest)) = some (.literal (body ++ ['\'']), rest) := by
  have hbody : body.head? ≠ some '\'' := fun hc => (h _ (List.mem_of_mem_head? hc)).2 rfl
  rw [read?_singleQuote (ne_quotes hbody hrest), cutLiteral_verbatim h]

theorem item?_basic {body content : List Char} (h : Basic body content) :
    item? (.basic (body ++ ['"'])) = some (.text content) := by
  rw [item?, h.reading]
  rfl

theorem item?_verbatim {body : List Char} (h : Verbatim body) :
    item? (.literal (body ++ ['\''])) = some (.text body) := by
  rw [item?, h.reading]
  rfl

end Word

end GuardedDivision.Toml
