import GuardedDivision.Text.Numeral
import GuardedDivision.Text.Quoted
import Mathlib.Tactic.SplitIfs

namespace GuardedDivision

namespace CharRanges

theorem contains_eq_false {ranges : CharRanges} {low high : Nat} {c : Char}
    (hranges : ranges.all (fun range => range.2 < low || high < range.1) = true)
    (hlow : low ≤ c.toNat) (hhigh : c.toNat ≤ high) : ranges.contains c = false := by
  rw [contains, List.any_eq_false]
  rintro ⟨first, last⟩ hrange
  have hout := List.all_eq_true.mp hranges _ hrange
  simp only [Bool.or_eq_true, decide_eq_true_eq] at hout
  simp only [Bool.and_eq_true, decide_eq_true_eq]
  omega

end CharRanges

namespace Category

structure Shows (c : Char) : Prop where
  control : Category.control.contains c = false
  format : Category.format.contains c = false
  privateUse : Category.privateUse.contains c = false
  unassigned : Category.unassigned.contains c = false
  lineSeparator : Category.lineSeparator.contains c = false
  paragraphSeparator : Category.paragraphSeparator.contains c = false
  spaceSeparator : Category.spaceSeparator.contains c = true → c = ' '

theorem shows_of_ascii {c : Char} (h : ' ' ≤ c ∧ c ≤ '~') : Shows c := by
  have hlow : 0x20 ≤ c.toNat := h.1
  have hhigh : c.toNat ≤ 0x7E := h.2
  constructor
  case spaceSeparator =>
    intro hspace
    apply Decidable.byContradiction
    intro hne
    have hn : c.toNat ≠ 0x20 := by
      intro hn
      rw [← Char.ofNat_toNat c, hn] at hne
      exact hne rfl
    have hnone : spaceSeparator.contains c = false :=
      CharRanges.contains_eq_false (by decide) (Nat.lt_of_le_of_ne hlow hn.symm) hhigh
    rw [hnone] at hspace
    contradiction
  all_goals exact CharRanges.contains_eq_false (by decide +kernel) hlow hhigh

theorem shows_of_all {text : List Char} (hall : (text.all fun c => ' ' ≤ c && c ≤ '~') = true)
    {c : Char} (hc : c ∈ text) : Shows c := by
  have h := List.all_eq_true.mp hall c hc
  rw [Bool.and_eq_true, decide_eq_true_eq, decide_eq_true_eq] at h
  exact shows_of_ascii h

end Category

namespace Quoted

open Category (Shows shows_of_all shows_of_ascii)

def digitValue (c : Char) : Nat :=
  if c.isDigit then c.toNat - '0'.toNat else c.toNat - 'a'.toNat + 10

/-- The character at the start of a quoted text, or before its end, and what follows it. -/
def unescape? : List Char → Option (Char × List Char)
  | '\\' :: '0' :: rest => some ('\x00', rest)
  | '\\' :: 't' :: rest => some ('\t', rest)
  | '\\' :: 'r' :: rest => some ('\r', rest)
  | '\\' :: 'n' :: rest => some ('\n', rest)
  | '\\' :: '\\' :: rest => some ('\\', rest)
  | '\\' :: '"' :: rest => some ('"', rest)
  | '\\' :: 'u' :: '\x7b' :: rest =>
    match rest.dropWhile (· != '\x7d') with
    | [] => none
    | _ :: later =>
      some (Char.ofNat (Numeral.scan 16 digitValue (rest.takeWhile (· != '\x7d'))), later)
  | c :: rest => if c = '\\' ∨ c = '"' then none else some (c, rest)
  | [] => none

theorem length_of_unescape? {text rest : List Char} {c : Char}
    (h : unescape? text = some (c, rest)) : rest.length < text.length := by
  unfold unescape? at h
  split at h
  case h_7 digits =>
    split at h
    · contradiction
    · next later hlater =>
      have hlength := (List.dropWhile_suffix (l := digits) (· != '\x7d')).length_le
      rw [hlater] at hlength
      obtain ⟨-, rfl⟩ := Prod.mk.inj (Option.some.inj h)
      simp only [List.length_cons] at hlength ⊢
      omega
  case h_8 =>
    split at h
    · contradiction
    · obtain ⟨-, rfl⟩ := Prod.mk.inj (Option.some.inj h)
      exact Nat.lt_succ_self _
  case h_9 => contradiction
  all_goals
    obtain ⟨-, rfl⟩ := Prod.mk.inj (Option.some.inj h)
    simp only [List.length_cons]
    omega

def decodeBody (text : List Char) : Option (List Char) :=
  if text = ['"'] then some []
  else match _h : unescape? text with
    | none => none
    | some (c, rest) => (decodeBody rest).map (c :: ·)
termination_by text.length
decreasing_by exact length_of_unescape? _h

def decode : List Char → Option (List Char)
  | '"' :: body => decodeBody body
  | _ => none

theorem digitValue_digitChar : ∀ d < 16, digitValue (Nat.digitChar d) = d := by decide

theorem exists_digit {n : Nat} {c : Char} (h : c ∈ Nat.toDigits 16 n) :
    ∃ d < 16, c = Nat.digitChar d := by
  induction n using Nat.strongRecOn with
  | ind n ih =>
    by_cases hn : n < 16
    · rw [Nat.toDigits_of_lt_base hn, List.mem_singleton] at h
      exact ⟨n, hn, h⟩
    · rw [Nat.toDigits_of_base_le (by decide) (by omega), List.mem_append,
        List.mem_singleton] at h
      obtain h | h := h
      · exact ih (n / 16) (by omega) h
      · exact ⟨n % 16, Nat.mod_lt _ (by decide), h⟩

theorem scan_toDigits (n : Nat) : Numeral.scan 16 digitValue (Nat.toDigits 16 n) = n := by
  induction n using Nat.strongRecOn with
  | ind n ih =>
    by_cases hn : n < 16
    · rw [Nat.toDigits_of_lt_base hn]
      exact (Nat.zero_add _).trans (digitValue_digitChar n hn)
    · have hlast : Numeral.scan 16 digitValue [Nat.digitChar (n % 16)] = n % 16 :=
        (Nat.zero_add _).trans (digitValue_digitChar _ (Nat.mod_lt _ (by decide)))
      rw [Nat.toDigits_of_base_le (by decide) (by omega), Numeral.scan_append,
        ih (n / 16) (by omega), hlast]
      exact Nat.div_add_mod' n 16

theorem unescape?_codePoint (c : Char) (rest : List Char) :
    unescape? (codePoint c ++ rest) = some (c, rest) := by
  have hdigits : ∀ d ∈ Nat.toDigits 16 c.toNat, (d != '\x7d') = true := by
    intro d hd
    obtain ⟨v, hv, rfl⟩ := exists_digit hd
    have hall : ∀ v < 16, (Nat.digitChar v != '\x7d') = true := by decide
    exact hall v hv
  have htext : codePoint c ++ rest =
      '\\' :: 'u' :: '\x7b' :: (Nat.toDigits 16 c.toNat ++ '\x7d' :: rest) := by
    simp [codePoint]
  have hdrop : ('\x7d' :: rest).dropWhile (· != '\x7d') = '\x7d' :: rest := rfl
  have htake : ('\x7d' :: rest).takeWhile (· != '\x7d') = [] := rfl
  rw [htext, unescape?, List.dropWhile_append_of_pos hdigits, hdrop,
    List.takeWhile_append_of_pos hdigits, htake, List.append_nil, scan_toDigits, Char.ofNat_toNat]

theorem unescape?_cons {c : Char} (hslash : c ≠ '\\') (hquote : c ≠ '"') (rest : List Char) :
    unescape? (c :: rest) = some (c, rest) := by
  unfold unescape?
  split
  case h_8 heq =>
    obtain ⟨rfl, rfl⟩ := List.cons.inj heq
    rw [if_neg (not_or.mpr ⟨hslash, hquote⟩)]
  case h_9 => contradiction
  all_goals
    next heq => exact absurd (List.cons.inj heq).1 hslash

theorem isHidden_eq_false {c : Char} (h : isHidden c = false) : Shows c := by
  simp only [isHidden, Bool.or_eq_false_iff, Bool.and_eq_false_iff] at h
  obtain ⟨⟨⟨⟨⟨⟨⟨⟨-, -⟩, hcontrol⟩, hformat⟩, hprivate⟩, hunassigned⟩, hline⟩, hparagraph⟩,
    hspace⟩ := h
  refine ⟨hcontrol, hformat, hprivate, hunassigned, hline, hparagraph, fun hblank => ?_⟩
  obtain hnone | hblank := hspace
  · rw [hnone] at hblank
    contradiction
  · simpa using hblank

def letters : List (Char × Char) :=
  [('\x00', '0'), ('\t', 't'), ('\r', 'r'), ('\n', 'n'), ('\\', '\\'), ('"', '"')]

/-- The three ways in which a character is written. -/
theorem escape_cases (c : Char) :
    (∃ letter, (c, letter) ∈ letters ∧ escape c = ['\\', letter]) ∨ escape c = codePoint c ∨
      escape c = [c] ∧ c ≠ '\\' ∧ c ≠ '"' ∧ Shows c := by
  unfold escape
  split_ifs with hnull htab hreturn hnewline hslash hquote hascii hhidden
  · exact .inl ⟨'0', by rw [hnull]; decide, rfl⟩
  · exact .inl ⟨'t', by rw [htab]; decide, rfl⟩
  · exact .inl ⟨'r', by rw [hreturn]; decide, rfl⟩
  · exact .inl ⟨'n', by rw [hnewline]; decide, rfl⟩
  · exact .inl ⟨'\\', by rw [hslash]; decide, rfl⟩
  · exact .inl ⟨'"', by rw [hquote]; decide, rfl⟩
  · exact .inr (.inr ⟨rfl, hslash, hquote, shows_of_ascii hascii⟩)
  · exact .inr (.inl rfl)
  · exact .inr (.inr ⟨rfl, hslash, hquote, isHidden_eq_false (Bool.not_eq_true _ ▸ hhidden)⟩)

theorem unescape?_escape (c : Char) (rest : List Char) :
    unescape? (escape c ++ rest) = some (c, rest) := by
  obtain ⟨letter, hletter, he⟩ | he | ⟨he, hslash, hquote, -⟩ := escape_cases c
  · rw [he]
    simp only [letters, List.mem_cons, Prod.mk.injEq, List.not_mem_nil, or_false] at hletter
    obtain ⟨rfl, rfl⟩ | ⟨rfl, rfl⟩ | ⟨rfl, rfl⟩ | ⟨rfl, rfl⟩ | ⟨rfl, rfl⟩ | ⟨rfl, rfl⟩ := hletter
    all_goals rfl
  · rw [he, unescape?_codePoint]
  · rw [he, List.singleton_append, unescape?_cons hslash hquote]

theorem decodeBody_escape (text : List Char) :
    decodeBody (text.flatMap escape ++ ['"']) = some text := by
  induction text with
  | nil => rw [List.flatMap_nil, List.nil_append, decodeBody, if_pos rfl]
  | cons c text ih =>
    have hread := unescape?_escape c (text.flatMap escape ++ ['"'])
    have hopen : escape c ++ (text.flatMap escape ++ ['"']) ≠ ['"'] := by
      intro h
      rw [h] at hread
      contradiction
    rw [List.flatMap_cons, List.append_assoc, decodeBody, if_neg hopen]
    split
    · next hnone =>
      rw [hread] at hnone
      contradiction
    · next hsome =>
      rw [hread] at hsome
      obtain ⟨rfl, rfl⟩ := Prod.mk.inj (Option.some.inj hsome)
      rw [ih]
      rfl

theorem decode_encode (text : List Char) : decode (encode text) = some text :=
  decodeBody_escape text

theorem encode_inj {text other : List Char} (h : encode text = encode other) : text = other := by
  have hdecode := decode_encode text
  rw [h, decode_encode] at hdecode
  exact (Option.some.inj hdecode).symm

theorem shows_of_mem_codePoint {c d : Char} (h : d ∈ codePoint c) : Shows d := by
  rw [codePoint, List.mem_append, List.mem_append] at h
  obtain (hopen | hdigit) | hclose := h
  · exact shows_of_all (by decide) hopen
  · obtain ⟨v, hv, rfl⟩ := exists_digit hdigit
    have hall : ∀ v < 16, ' ' ≤ Nat.digitChar v ∧ Nat.digitChar v ≤ '~' := by decide
    exact shows_of_ascii (hall v hv)
  · exact shows_of_all (by decide) hclose

theorem shows_of_mem_escape {c d : Char} (h : d ∈ escape c) : Shows d := by
  obtain ⟨letter, hletter, he⟩ | he | ⟨he, -, -, hc⟩ := escape_cases c
  · have hall : (letters.all fun entry =>
        ['\\', entry.2].all fun d => ' ' ≤ d && d ≤ '~') = true := by decide
    exact shows_of_all (List.all_eq_true.mp hall _ hletter) (he ▸ h)
  · exact shows_of_mem_codePoint (he ▸ h)
  · rw [he, List.mem_singleton] at h
    exact h ▸ hc

theorem shows_of_mem_encode {text : List Char} {d : Char} (h : d ∈ encode text) : Shows d := by
  have hquotes : Shows '"' := shows_of_ascii (by decide)
  rw [encode, List.cons_append, List.mem_cons, List.mem_append, List.mem_flatMap,
    List.mem_singleton] at h
  obtain rfl | ⟨c, -, hc⟩ | rfl := h
  · exact hquotes
  · exact shows_of_mem_escape hc
  · exact hquotes

end Quoted

end GuardedDivision
