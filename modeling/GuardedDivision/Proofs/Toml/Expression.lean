import GuardedDivision.Proofs.Toml.Text
import GuardedDivision.Toml.Meaning
import Mathlib.Data.List.DropRight
import Mathlib.Data.List.TakeWhile

namespace GuardedDivision.Toml

open Numeral (ne_of_class)
open Text (Basic Verbatim)

def IsBlank (text : List Char) : Prop := ∀ c ∈ text, isSpace c = true

theorem IsBlank.skipSpaces_append {text : List Char} (h : IsBlank text) (rest : List Char) :
    skipSpaces (text ++ rest) = skipSpaces rest := List.dropWhile_append_of_pos h

theorem skipSpaces_cons {c : Char} (h : isSpace c = false) (rest : List Char) :
    skipSpaces (c :: rest) = c :: rest :=
  List.dropWhile_cons_of_neg (by rw [h]; exact Bool.false_ne_true)

theorem isSpace_of_isSeparator {c : Char} (h : isSeparator c = false) : isSpace c = false := by
  cases hs : isSpace c with
  | false => rfl
  | true => simp [isSeparator, hs] at h

section LineEnd

variable {s later : List Char} (h : lineEnd? s = some later)

include h

theorem head_skipSpaces_of_lineEnd? :
    ∀ c ∈ (skipSpaces s).head?, c = '#' ∨ c = '\n' ∨ c = '\r' := by
  intro c hc
  obtain ⟨t, ht⟩ := List.head?_eq_some_iff.mp hc
  rw [lineEnd?, ht] at h
  by_cases hmark : c = '#'
  · exact .inl hmark
  · have hskip : skipComment (c :: t) = c :: t := by
      rw [skipComment]
      exact fun _ heq => hmark (List.cons.inj heq).1
    simp only [hskip] at h
    unfold newline? at h
    split at h
    · next heq => exact .inr (.inl (List.cons.inj heq).1)
    · next heq => exact .inr (.inr (List.cons.inj heq).1)
    · contradiction

theorem head_of_lineEnd? : ∀ c ∈ s.head?, isSpace c = true ∨ c = '#' ∨ c = '\n' ∨ c = '\r' := by
  intro c hc
  obtain ⟨t, rfl⟩ := List.head?_eq_some_iff.mp hc
  cases hspace : isSpace c with
  | true => exact .inl rfl
  | false =>
    right
    apply head_skipSpaces_of_lineEnd? h
    rw [skipSpaces_cons hspace]
    rfl

theorem startsBare_of_lineEnd? : startsBare (skipSpaces s) = false := by
  have hhead := head_skipSpaces_of_lineEnd? h
  cases hs : skipSpaces s with
  | nil => rfl
  | cons c t =>
    rw [hs] at hhead
    obtain rfl | rfl | rfl := hhead c rfl <;> rfl

theorem expression?_of_lineEnd? : expression? (skipSpaces s) = some (.blank, skipSpaces s) := by
  have hhead := head_skipSpaces_of_lineEnd? h
  cases hs : skipSpaces s with
  | nil => rfl
  | cons c t =>
    rw [hs] at hhead
    obtain rfl | rfl | rfl := hhead c rfl <;> rfl

theorem lineEnd?_skipSpaces : lineEnd? (skipSpaces s) = some later := by
  have hskip : skipSpaces (skipSpaces s) = skipSpaces s := List.dropWhile_idempotent _ s
  rw [lineEnd?, hskip]
  exact h

theorem cutBare_of_lineEnd? : cutBare .word s = ([], s) := by
  cases s with
  | nil => rfl
  | cons c t =>
    have hhead := head_of_lineEnd? h c rfl
    have hseparator : isSeparator c = true := by
      obtain hspace | rfl | rfl | rfl := hhead
      · simp [isSeparator, hspace]
      · rfl
      · rfl
      · rfl
    have hdot : c ≠ '.' := by
      rintro rfl
      revert hhead
      decide
    have hstop : ¬(isSpace c && (decide (Stretch.word = .blanks) || startsBare (skipSpaces t))) =
        true := by
      intro hgo
      obtain ⟨hspace, hstart⟩ := Bool.and_eq_true_iff.mp hgo
      have hskip : skipSpaces (c :: t) = skipSpaces t := List.dropWhile_cons_of_pos hspace
      rw [← hskip, startsBare_of_lineEnd? h] at hstart
      contradiction
    rw [cutBare, if_neg hdot, hseparator, if_neg hstop]
    rfl

end LineEnd

structure IsUnquoted (text : List Char) : Prop where
  ne_nil : text ≠ []
  unmarked : ∀ c ∈ text, isSeparator c = false ∧ isQuote c = false

theorem IsUnquoted.exists_cons {text : List Char} (h : IsUnquoted text) :
    ∃ c rest, text = c :: rest ∧ isSeparator c = false ∧ isQuote c = false := by
  obtain ⟨c, rest, rfl⟩ := List.exists_cons_of_ne_nil h.ne_nil
  exact ⟨c, rest, rfl, h.unmarked c List.mem_cons_self⟩

/-- How a word of one line is written. -/
inductive Word.Written : Word → List Char → Prop
  | bare {text : List Char} : IsUnquoted text → Written (.bare text) text
  | basic {body content : List Char} : Basic body content →
    Written (.basic (body ++ ['"'])) ('"' :: (body ++ ['"']))
  | verbatim {body : List Char} : Verbatim body →
    Written (.literal (body ++ ['\''])) ('\'' :: (body ++ ['\'']))

theorem Word.Written.exists_cons {w : Word} {text : List Char} (h : w.Written text) :
    ∃ c rest, text = c :: rest ∧ isSeparator c = false := by
  cases h with
  | bare h =>
    obtain ⟨c, rest, htext, hc, -⟩ := h.exists_cons
    exact ⟨c, rest, htext, hc⟩
  | basic | verbatim => exact ⟨_, _, rfl, rfl⟩

section Bare

variable {text rest later : List Char} (hend : lineEnd? rest = some later)

include hend

theorem cutBare_append (h : ∀ c ∈ text, isSeparator c = false ∧ isQuote c = false) :
    cutBare .word (text ++ rest) = (text, rest) := by
  induction text with
  | nil => exact cutBare_of_lineEnd? hend
  | cons c text ih =>
    obtain ⟨⟨hseparator, hquote⟩, htext⟩ := List.forall_mem_cons.mp h
    have hdot : c ≠ '.' := (ne_of_class (p := isSeparator) rfl hseparator).symm
    have hkept : (!isSeparator c && (decide (Stretch.word = .word) || !isQuote c)) = true := by
      rw [hseparator]
      rfl
    rw [List.cons_append, cutBare, if_neg hdot, if_pos hkept, ih htext]
    rfl

theorem cutBare_unquoted (h : IsUnquoted text) :
    cutBare .between (text ++ rest) = (text, rest) := by
  obtain ⟨c, text, rfl, hseparator, hquote⟩ := h.exists_cons
  have hdot : c ≠ '.' := (ne_of_class (p := isSeparator) rfl hseparator).symm
  have hkept : (!isSeparator c && (decide (Stretch.between = .word) || !isQuote c)) = true := by
    rw [hseparator, hquote]
    rfl
  rw [List.cons_append, cutBare, if_neg hdot, if_pos hkept,
    cutBare_append hend fun d hd => h.unmarked d (List.mem_cons_of_mem c hd)]
  rfl

theorem flatValue?_written {w : Word} (h : w.Written text) :
    flatValue? (text ++ rest) = some (.word w, rest) := by
  have hhead (quote : Char) (hquote : isQuote quote = true) : rest.head? ≠ some quote := by
    intro hrest
    have hmark := head_of_lineEnd? hend quote hrest
    rw [isQuote, Bool.or_eq_true, decide_eq_true_eq, decide_eq_true_eq] at hquote
    obtain rfl | rfl := hquote
    all_goals
      revert hmark
      decide
  cases h with
  | bare h =>
    have hquote : ¬(text ++ rest).head?.any isQuote = true := by
      obtain ⟨c, later, rfl, -, hc⟩ := h.exists_cons
      rw [List.cons_append, List.head?_cons, Option.any_some, hc]
      exact Bool.false_ne_true
    rw [flatValue?, if_neg hquote, cutBare_unquoted hend h]
    simp only [if_neg h.ne_nil]
  | @basic body content h =>
    have hread := Word.read?_basic h (hhead '"' rfl)
    rw [List.cons_append, List.append_assoc, List.singleton_append, flatValue?, hread]
    rfl
  | @verbatim body h =>
    have hread := Word.read?_verbatim h (hhead '\'' rfl)
    rw [List.cons_append, List.append_assoc, List.singleton_append, flatValue?, hread]
    rfl

theorem read_value_written {w : Word} (h : w.Written text) (depth : Nat) :
    (value depth).read (text ++ rest) = some (.word w, rest) := by
  have hflat := flatValue?_written hend h
  cases depth with
  | zero => exact hflat
  | succ depth =>
    obtain ⟨c, later, rfl, hc⟩ := h.exists_cons
    rw [← hflat]
    simp only [value, bracketed, List.cons_append]
    split
    · next heq =>
      rw [(List.cons.inj heq).1] at hc
      contradiction
    · next heq =>
      rw [(List.cons.inj heq).1] at hc
      contradiction
    · rfl

theorem lineValue?_written {w : Word} (h : w.Written text) :
    lineValue? (text ++ rest) = some (.word w, rest) := by
  rw [lineValue?, read_value_written hend h]

end Bare

structure IsBare (text : List Char) : Prop where
  ne_nil : text ≠ []
  isBareKey : ∀ c ∈ text, isBareKey c = true

theorem IsBare.of_all {text : List Char} (hne : text ≠ [])
    (hall : text.all Toml.isBareKey = true) : IsBare text :=
  ⟨hne, List.all_eq_true.mp hall⟩

theorem isSeparator_of_isBareKey {c : Char} (h : isBareKey c = true) : isSeparator c = false := by
  cases hs : isSeparator c with
  | false => rfl
  | true =>
    simp only [isSeparator, isSpace, Bool.or_eq_true, decide_eq_true_eq, or_assoc] at hs
    obtain rfl | rfl | rfl | rfl | rfl | rfl | rfl | rfl | rfl | rfl | rfl | rfl := hs <;>
      exact absurd h (by decide)

theorem isQuote_of_isBareKey {c : Char} (h : isBareKey c = true) : isQuote c = false := by
  cases hq : isQuote c with
  | false => rfl
  | true =>
    simp only [isQuote, Bool.or_eq_true, decide_eq_true_eq] at hq
    obtain rfl | rfl := hq <;> exact absurd h (by decide)

namespace IsBare

variable {text : List Char} (h : IsBare text)

include h

theorem isUnquoted : IsUnquoted text where
  ne_nil := h.ne_nil
  unmarked c hc :=
    ⟨isSeparator_of_isBareKey (h.isBareKey c hc), isQuote_of_isBareKey (h.isBareKey c hc)⟩

theorem exists_cons : ∃ c rest, text = c :: rest ∧ Toml.isBareKey c = true := by
  obtain ⟨c, rest, rfl⟩ := List.exists_cons_of_ne_nil h.ne_nil
  exact ⟨c, rest, rfl, h.isBareKey c (by simp)⟩

theorem skipSpaces_append (rest : List Char) : skipSpaces (text ++ rest) = text ++ rest := by
  obtain ⟨c, later, rfl, hc⟩ := h.exists_cons
  exact skipSpaces_cons (isSpace_of_isSeparator (isSeparator_of_isBareKey hc)) (later ++ rest)

theorem read? {d : Char} (hd : isSeparator d = true) (rest : List Char) :
    Word.read? (text ++ d :: rest) = some (.bare text, d :: rest) := by
  obtain ⟨c, later, rfl, hc⟩ := h.exists_cons
  have hquote := isQuote_of_isBareKey hc
  simp only [isQuote, Bool.or_eq_false_iff, decide_eq_false_iff_not] at hquote
  have hall : ∀ e ∈ later, (!isSeparator e) = true := by
    intro e he
    rw [isSeparator_of_isBareKey (h.isBareKey e (by simp [he]))]
    rfl
  rw [List.cons_append]
  unfold Word.read?
  split
  · simp_all
  · simp_all
  · simp_all
  · simp_all
  · simp_all
  · next c' s' _ _ _ _ hcons =>
    obtain ⟨rfl, rfl⟩ := List.cons.inj hcons
    rw [if_neg (by simp [isSeparator_of_isBareKey hc]), List.takeWhile_append_of_pos hall,
      List.dropWhile_append_of_pos hall]
    simp [hd]

theorem key {blanks : List Char} (hblanks : IsBlank blanks) (rest : List Char) :
    key (text ++ (blanks ++ '=' :: rest)) = ([.bare text], '=' :: rest) := by
  have hskip : skipSpaces (blanks ++ '=' :: rest) = '=' :: rest :=
    hblanks.skipSpaces_append ('=' :: rest)
  have hnext : Word.next (text ++ (blanks ++ '=' :: rest)) =
      (.bare text, blanks ++ '=' :: rest) := by
    rw [Word.next]
    cases blanks with
    | nil =>
      rw [List.nil_append, h.read? rfl]
      rfl
    | cons d blanks =>
      have hd : isSeparator d = true := by simp [isSeparator, hblanks d]
      rw [List.cons_append, h.read? hd]
      rfl
  unfold Toml.key
  split
  · next later hlater =>
    rw [hnext, hskip] at hlater
    exact absurd (List.cons.inj hlater).1 (by decide)
  · rw [hnext, hskip]

end IsBare

/-- The line of a key and a value, up to what ends it. -/
theorem expression?_assignment {key between after text rest later : List Char} {w : Word}
    (hkey : IsBare key) (hbetween : IsBlank between) (hafter : IsBlank after)
    (hw : w.Written text) (hend : lineEnd? rest = some later) :
    expression? (key ++ (between ++ '=' :: (after ++ (text ++ rest)))) =
      some (.assignment [.bare key] (.word w), rest) := by
  have hread := hkey.key hbetween (after ++ (text ++ rest))
  have hskip : skipSpaces (after ++ (text ++ rest)) = text ++ rest := by
    obtain ⟨c, later, rfl, hc⟩ := hw.exists_cons
    rw [hafter.skipSpaces_append]
    exact skipSpaces_cons (isSpace_of_isSeparator hc) (later ++ rest)
  obtain ⟨c, key', rfl, hc⟩ := hkey.exists_cons
  have hmark {d : Char} (hd : isBareKey d = false) : c ≠ d := ne_of_class hc hd
  rw [List.cons_append] at hread ⊢
  unfold expression?
  split
  · contradiction
  · next h => exact absurd (List.cons.inj h).1 (hmark (by decide))
  · next h => exact absurd (List.cons.inj h).1 (hmark (by decide))
  · next h =>
    obtain ⟨rfl, rfl⟩ := List.cons.inj h
    have hblank : ¬(c = '#' ∨ c = '\n' ∨ c = '\r') :=
      not_or.mpr ⟨hmark (by decide), not_or.mpr ⟨hmark (by decide), hmark (by decide)⟩⟩
    rw [if_neg hblank, hread]
    simp only [hskip, lineValue?_written hend hw, Option.map_some]

theorem expressions?_nil : expressions? [] = some [] := by rw [expressions?, dif_pos rfl]

theorem expressions?_eq {s later rest : List Char} {e : Expression} (hs : s ≠ [])
    (he : expression? (skipSpaces s) = some (e, later)) (hend : lineEnd? later = some rest) :
    expressions? s = (expressions? rest).map (e :: ·) := by
  rw [expressions?, dif_neg hs]
  split
  · next h =>
    rw [he] at h
    contradiction
  · next e' later' h =>
    rw [he] at h
    obtain ⟨rfl, rfl⟩ := Prod.mk.inj (Option.some.inj h)
    split
    · next h =>
      rw [hend] at h
      contradiction
    · next rest' h =>
      rw [hend] at h
      rw [Option.some.inj h]

theorem path_bare {text : List Char} (h : IsBare text) : path [.bare text] = .ok [text] := by
  have hall : text.all isBareKey = true := List.all_eq_true.mpr h.isBareKey
  have hkey : (Word.bare text).key? = some text := if_pos ⟨h.ne_nil, hall⟩
  simp only [path, List.mapM_cons, List.mapM_nil, hkey, required]
  rfl

end GuardedDivision.Toml
