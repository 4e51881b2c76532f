import GuardedDivision.Toml.Word

namespace GuardedDivision.Toml

inductive Value where
  | word (word : Word)
  | array (items : List Value)
  | inlineTable (entries : List (List Word × Value))
deriving Inhabited, Repr

inductive Expression where
  | blank
  | assignment (key : List Word) (value : Value)
  | header (key : List Word)
  | arrayHeader (key : List Word)
deriving Inhabited, Repr

/-- A reader gives what it has read and the rest of the text, which is not longer than the text. -/
structure Reader (α : Type) where
  read : List Char → Option (α × List Char)
  length_le {s rest : List Char} {a : α} (h : read s = some (a, rest)) : rest.length ≤ s.length

def key (s : List Char) : List Word × List Char :=
  match _h : skipSpaces (Word.next s).2 with
  | '.' :: rest =>
    let (words, later) := key (skipSpaces rest)
    ((Word.next s).1 :: words, later)
  | rest => ([(Word.next s).1], rest)
termination_by s.length
decreasing_by
  have := Word.length_next_le s
  have := length_skipSpaces_le (Word.next s).2
  have := length_skipSpaces_le rest
  simp_all only [List.length_cons]
  omega

theorem length_key_le (s : List Char) : (key s).2.length ≤ s.length := by
  fun_induction key s with
  | case1 s rest h words later hk ih =>
    have := Word.length_next_le s
    have := length_skipSpaces_le (Word.next s).2
    have := length_skipSpaces_le rest
    simp_all only [List.length_cons]
    omega
  | case2 s =>
    have := Word.length_next_le s
    have := length_skipSpaces_le (Word.next s).2
    simp_all only
    omega

variable {α : Type}

/-- The parts between brackets, separated by commas. The last may be followed by a comma, and
blanks, newlines and comments may stand around each. -/
def separated? (part : Reader α) (close : Char) (s : List Char) : Option (List α × List Char) :=
  match _h₁ : skipFiller false s with
  | none | some [] => none
  | some (c :: s') =>
    if c = close then some ([], s')
    else match _h₂ : part.read (c :: s') with
      | none => none
      | some (a, s'') => match _h₃ : skipFiller false s'' with
        | none | some [] => none
        | some (d :: rest) =>
          if d = close then some ([a], rest)
          else if d = ',' then
            (separated? part close rest).map fun (as, rest) => (a :: as, rest)
          else none
termination_by s.length
decreasing_by
  have := length_of_skipFiller _h₁
  have := part.length_le _h₂
  have := length_of_skipFiller _h₃
  simp_all only [List.length_cons]
  omega

theorem length_of_separated? {part : Reader α} {close : Char} {s rest : List Char} {as : List α}
    (h : separated? part close s = some (as, rest)) : rest.length ≤ s.length := by
  fun_induction separated? part close s generalizing as rest with
  | case1 | case2 | case4 | case5 | case6 | case9 => simp at h
  | case3 s s' h₁ =>
    have := length_of_skipFiller h₁
    simp only [Option.some.injEq, Prod.mk.injEq] at h
    simp_all only [List.length_cons]
    omega
  | case7 s c s' h₁ _ a s'' h₂ rest' h₃ =>
    have := length_of_skipFiller h₁
    have := part.length_le h₂
    have := length_of_skipFiller h₃
    simp only [Option.some.injEq, Prod.mk.injEq] at h
    simp_all only [List.length_cons]
    omega
  | case8 s c s' h₁ _ a s'' h₂ rest' h₃ _ ih =>
    have := length_of_skipFiller h₁
    have := part.length_le h₂
    have := length_of_skipFiller h₃
    obtain ⟨r, hr, he⟩ := Option.map_eq_some_iff.1 h
    have := ih hr
    simp only [Prod.mk.injEq] at he
    simp_all only [List.length_cons]
    omega

def separated (part : Reader α) (close : Char) : Reader (List α) where
  read := separated? part close
  length_le := length_of_separated?

def closesBrace (s : List Char) : Bool := s.head? = some '\x7d'

/-- A value between braces, which is missing if the brace closes in its place. -/
def orMissing (value : Reader Value) : Reader Value where
  read s := if closesBrace s then some (.word .missing, s) else value.read s
  length_le := by
    intro s rest v h
    split at h
    · simp_all
    · exact value.length_le h

/-- A key, an equals sign and a value between braces. Newlines and comments may stand around the
equals sign, and the value may be missing, with the equals sign or without. -/
def assignment (value : Reader Value) : Reader (List Word × Value) where
  read s := match skipFiller false (key s).2 with
    | some ('=' :: rest) =>
      ((skipFiller false rest).bind (orMissing value).read).map fun (v, rest) =>
        (((key s).1, v), rest)
    | some rest =>
      if closesBrace rest then some (((key s).1, .word .missing), rest) else none
    | none => none
  length_le := by
    intro s rest a h
    have := length_key_le s
    split at h
    · next rest' hs =>
      obtain ⟨r, hr, he⟩ := Option.map_eq_some_iff.1 h
      obtain ⟨s', hs', hv⟩ := Option.bind_eq_some_iff.1 hr
      have := length_of_skipFiller hs
      have := length_of_skipFiller hs'
      have := (orMissing value).length_le hv
      simp only [Prod.mk.injEq] at he
      simp_all only [List.length_cons]
      omega
    · next rest' _ hs =>
      have := length_of_skipFiller hs
      simp only [Option.ite_none_right_eq_some, Option.some.injEq, Prod.mk.injEq] at h
      obtain ⟨_, _, rfl⟩ := h
      omega
    · simp at h

def startsBare : List Char → Bool
  | [] => false
  | c :: _ => !isSeparator c && !isQuote c

/-- Where a value without quotes has come to: inside a word, in the blanks before the next one, or
to a place where a word may start. -/
inductive Stretch where
  | word
  | blanks
  | between
deriving DecidableEq, Repr

def cutBare (stretch : Stretch) : List Char → List Char × List Char
  | [] => ([], [])
  | c :: s =>
    if c = '.' then Word.keep [c] (cutBare .between s)
    else if !isSeparator c && (stretch = .word || !isQuote c) then Word.keep [c] (cutBare .word s)
    else if isSpace c && (stretch = .blanks || startsBare (skipSpaces s)) then
      Word.keep [c] (cutBare .blanks s)
    else ([], c :: s)

theorem length_cutBare_le (stretch : Stretch) (s : List Char) :
    (cutBare stretch s).2.length ≤ s.length := by
  fun_induction cutBare stretch s <;>
    simp_all only [Word.keep, List.length_cons, List.length_nil] <;> omega

def flatValue? (s : List Char) : Option (Value × List Char) :=
  if s.head?.any isQuote then (Word.read? s).map fun (w, rest) => (.word w, rest)
  else
    let (text, rest) := cutBare .between s
    if text = [] then none else some (.word (.bare text), rest)

theorem length_of_flatValue? {s rest : List Char} {v : Value}
    (h : flatValue? s = some (v, rest)) : rest.length ≤ s.length := by
  unfold flatValue? at h
  split at h
  · obtain ⟨r, hr, he⟩ := Option.map_eq_some_iff.1 h
    have := Word.length_of_read? hr
    simp only [Prod.mk.injEq] at he
    simp only [← he.2]
    omega
  · have := length_cutBare_le .between s
    simp only [Option.ite_none_left_eq_some, Option.some.injEq, Prod.mk.injEq] at h
    simp_all only

def bracketed (items : Reader (List Value)) (entries : Reader (List (List Word × Value))) :
    Reader Value where
  read
    | '[' :: s => (items.read s).map fun (values, rest) => (.array values, rest)
    | '\x7b' :: s => (entries.read s).map fun (pairs, rest) => (.inlineTable pairs, rest)
    | s => flatValue? s
  length_le := by
    intro s rest a h
    split at h
    · obtain ⟨r, hr, he⟩ := Option.map_eq_some_iff.1 h
      have := items.length_le hr
      simp only [Prod.mk.injEq] at he
      simp only [← he.2, List.length_cons]
      omega
    · obtain ⟨r, hr, he⟩ := Option.map_eq_some_iff.1 h
      have := entries.length_le hr
      simp only [Prod.mk.injEq] at he
      simp only [← he.2, List.length_cons]
      omega
    · exact length_of_flatValue? h

def value : Nat → Reader Value
  | 0 => { read := flatValue?, length_le := length_of_flatValue? }
  | depth + 1 =>
    bracketed (separated (value depth) ']') (separated (assignment (value depth)) '\x7d')

abbrev depthLimit : Nat := 80

def lineValue? (s : List Char) : Option (Value × List Char) :=
  match (value depthLimit).read s with
  | some r => some r
  | none => (lineEnd? s).map fun _ => (.word .missing, s)

theorem length_of_lineValue? {s rest : List Char} {v : Value}
    (h : lineValue? s = some (v, rest)) : rest.length ≤ s.length := by
  unfold lineValue? at h
  split at h
  · next r hr =>
    simp only [Option.some.injEq] at h
    subst h
    exact (value depthLimit).length_le hr
  · obtain ⟨_, _, he⟩ := Option.map_eq_some_iff.1 h
    simp only [Prod.mk.injEq] at he
    simp [← he.2]

def skipLine : List Char → List Char
  | [] => []
  | c :: s =>
    if c = '\n' ∨ c = '\r' ∨ c = '#' then c :: s
    else match _h : Word.read? (c :: s) with
      | none => skipLine s
      | some (_, rest) => skipLine rest
termination_by s => s.length
decreasing_by
  · simp
  · have := Word.length_of_read? _h
    simp_all only [List.length_cons]

theorem length_skipLine_le (s : List Char) : (skipLine s).length ≤ s.length := by
  fun_induction skipLine s with
  | case1 | case2 => simp
  | case3 c s _ _ ih =>
    simp only [List.length_cons]
    omega
  | case4 c s _ w rest h ih =>
    have := Word.length_of_read? h
    omega

/-- What follows the key of a header. Without its last word a header need not be closed, and the
rest of its line does not count. -/
def headerEnd? (close : List Char) (words : List Word) (s : List Char) : Option (List Char) :=
  if close.isPrefixOf s then some (s.drop close.length)
  else if words.getLast? = some .missing ∧ s.head? ≠ some ']' then some (skipLine s)
  else none

theorem length_of_headerEnd? {close s rest : List Char} {words : List Word}
    (h : headerEnd? close words s = some rest) : rest.length ≤ s.length := by
  unfold headerEnd? at h
  split at h
  · simp only [Option.some.injEq] at h
    simp [← h]
  · have := length_skipLine_le s
    simp only [Option.ite_none_right_eq_some, Option.some.injEq] at h
    simp only [← h.2]
    omega

def expression? : List Char → Option (Expression × List Char)
  | [] => some (.blank, [])
  | '[' :: '[' :: s =>
    let (words, s) := key (skipSpaces s)
    (headerEnd? [']', ']'] words s).map fun s => (.arrayHeader words, s)
  | '[' :: s =>
    let (words, s) := key (skipSpaces s)
    (headerEnd? [']'] words s).map fun s => (.header words, s)
  | c :: s =>
    if c = '#' ∨ c = '\n' ∨ c = '\r' then some (.blank, c :: s)
    else match key (c :: s) with
      | (words, '=' :: s) =>
        (lineValue? (skipSpaces s)).map fun (v, s) => (.assignment words v, s)
      | _ => none

theorem length_of_expression? {s rest : List Char} {e : Expression}
    (h : expression? s = some (e, rest)) : rest.length ≤ s.length := by
  unfold expression? at h
  split at h
  · simp_all
  · next s =>
    obtain ⟨r, hr, he⟩ := Option.map_eq_some_iff.1 h
    have := length_of_headerEnd? hr
    have := length_key_le (skipSpaces s)
    have := length_skipSpaces_le s
    simp only [Prod.mk.injEq] at he
    simp only [← he.2, List.length_cons]
    omega
  · next s _ =>
    obtain ⟨r, hr, he⟩ := Option.map_eq_some_iff.1 h
    have := length_of_headerEnd? hr
    have := length_key_le (skipSpaces s)
    have := length_skipSpaces_le s
    simp only [Prod.mk.injEq] at he
    simp only [← he.2, List.length_cons]
    omega
  · next c s _ _ =>
    split at h
    · simp only [Option.some.injEq, Prod.mk.injEq] at h
      simp [← h.2]
    · split at h
      · next words s' hk =>
        obtain ⟨r, hr, he⟩ := Option.map_eq_some_iff.1 h
        have := length_of_lineValue? hr
        have := length_skipSpaces_le s'
        have := length_key_le (c :: s)
        simp only [Prod.mk.injEq] at he
        simp_all only [List.length_cons]
        omega
      · simp at h

def expressions? (s : List Char) : Option (List Expression) :=
  if _h : s = [] then some []
  else match _h₁ : expression? (skipSpaces s) with
    | none => none
    | some (e, s') => match _h₂ : lineEnd? s' with
      | none => none
      | some rest => (expressions? rest).map (e :: ·)
termination_by s.length
decreasing_by
  have := length_of_expression? _h₁
  have := length_skipSpaces_le s
  have := length_of_lineEnd? _h₂
  have := List.length_pos_iff.2 _h
  omega

def dropMark : List Char → List Char
  | '\ufeff' :: s => s
  | s => s

end GuardedDivision.Toml
