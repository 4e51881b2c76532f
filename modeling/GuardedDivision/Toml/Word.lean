import GuardedDivision.Toml.Item
import GuardedDivision.Toml.Scalar
import GuardedDivision.Toml.Text

namespace GuardedDivision.Toml

/-- A word as it is written. The body of a quoted one starts after its opening quotes and ends with
its closing ones, which may be missing. -/
inductive Word where
  | bare (text : List Char)
  | basic (body : List Char)
  | literal (body : List Char)
  | basicLines (body : List Char)
  | literalLines (body : List Char)
deriving DecidableEq, Inhabited, Repr

namespace Word

/-- Stands where a word is missing, and is refused with the meaning of its line. -/
def missing : Word := .bare []

def keep (front : List Char) (r : List Char × List Char) : List Char × List Char :=
  (front ++ r.1, r.2)

def cutBasic : List Char → List Char × List Char
  | [] => ([], [])
  | '\n' :: s => ([], '\n' :: s)
  | '"' :: s => (['"'], s)
  | '\\' :: '\\' :: s => keep ['\\', '\\'] (cutBasic s)
  | '\\' :: '"' :: s => keep ['\\', '"'] (cutBasic s)
  | c :: s => keep [c] (cutBasic s)

def cutLiteral : List Char → List Char × List Char
  | [] => ([], [])
  | '\n' :: s => ([], '\n' :: s)
  | '\'' :: s => (['\''], s)
  | c :: s => keep [c] (cutLiteral s)

/-- Three closing quotes, and one or two more if they follow, and the rest. -/
def closing? (quote : Char) (s : List Char) : Option (List Char × List Char) :=
  let count := (s.takeWhile (· = quote)).length
  if 3 ≤ count then some (s.splitAt (min count 5)) else none

def cutBasicLines : List Char → List Char × List Char
  | [] => ([], [])
  | '\\' :: '\\' :: s => keep ['\\', '\\'] (cutBasicLines s)
  | '\\' :: '"' :: s => keep ['\\', '"'] (cutBasicLines s)
  | c :: s => (closing? '"' (c :: s)).getD (keep [c] (cutBasicLines s))

def cutLiteralLines : List Char → List Char × List Char
  | [] => ([], [])
  | c :: s => (closing? '\'' (c :: s)).getD (keep [c] (cutLiteralLines s))

/-- The word at the start of a text, and the rest. Quotes count as quotes only at the start of a
word. -/
def read? : List Char → Option (Word × List Char)
  | '"' :: '"' :: '"' :: s => some (.basicLines (cutBasicLines s).1, (cutBasicLines s).2)
  | '"' :: s => some (.basic (cutBasic s).1, (cutBasic s).2)
  | '\'' :: '\'' :: '\'' :: s => some (.literalLines (cutLiteralLines s).1, (cutLiteralLines s).2)
  | '\'' :: s => some (.literal (cutLiteral s).1, (cutLiteral s).2)
  | [] => none
  | c :: s =>
    if isSeparator c then none
    else some (.bare (c :: s.takeWhile (!isSeparator ·)), s.dropWhile (!isSeparator ·))

def next (s : List Char) : Word × List Char := (read? s).getD (missing, s)

theorem cutBasic_length_le (s : List Char) : (cutBasic s).2.length ≤ s.length := by
  fun_induction cutBasic s <;> simp_all only [keep, List.length_cons, List.length_nil] <;> omega

theorem cutLiteral_length_le (s : List Char) : (cutLiteral s).2.length ≤ s.length := by
  fun_induction cutLiteral s <;> simp_all only [keep, List.length_cons, List.length_nil] <;> omega

theorem getD_closing?_length_le (quote : Char) (s : List Char) (r : List Char × List Char)
    (h : r.2.length ≤ s.length) : ((closing? quote s).getD r).2.length ≤ s.length := by
  by_cases hq : 3 ≤ (s.takeWhile (· = quote)).length
  · simp [closing?, hq]
  · simpa [closing?, hq] using h

theorem cutBasicLines_length_le (s : List Char) : (cutBasicLines s).2.length ≤ s.length := by
  fun_induction cutBasicLines s with
  | case1 => simp
  | case2 s ih | case3 s ih =>
    simp only [keep, List.length_cons]
    omega
  | case4 c s _ _ ih =>
    refine getD_closing?_length_le '"' (c :: s) _ ?_
    simp only [keep, List.length_cons]
    omega

theorem cutLiteralLines_length_le (s : List Char) :
    (cutLiteralLines s).2.length ≤ s.length := by
  fun_induction cutLiteralLines s with
  | case1 => simp
  | case2 c s ih =>
    refine getD_closing?_length_le '\'' (c :: s) _ ?_
    simp only [keep, List.length_cons]
    omega

theorem length_of_read? {s rest : List Char} {w : Word} (h : read? s = some (w, rest)) :
    rest.length < s.length := by
  unfold read? at h
  split at h
  · next s =>
    have := cutBasicLines_length_le s
    simp only [Option.some.injEq, Prod.mk.injEq] at h
    simp only [← h.2, List.length_cons]
    omega
  · next s _ =>
    have := cutBasic_length_le s
    simp only [Option.some.injEq, Prod.mk.injEq] at h
    simp only [← h.2, List.length_cons]
    omega
  · next s =>
    have := cutLiteralLines_length_le s
    simp only [Option.some.injEq, Prod.mk.injEq] at h
    simp only [← h.2, List.length_cons]
    omega
  · next s _ =>
    have := cutLiteral_length_le s
    simp only [Option.some.injEq, Prod.mk.injEq] at h
    simp only [← h.2, List.length_cons]
    omega
  · simp at h
  · next c s _ _ _ _ =>
    split at h
    · simp at h
    · have := (List.dropWhile_suffix (l := s) (!isSeparator ·)).length_le
      simp only [Option.some.injEq, Prod.mk.injEq] at h
      simp only [← h.2, List.length_cons]
      omega

theorem length_next_le (s : List Char) : (next s).2.length ≤ s.length := by
  unfold next
  cases h : read? s with
  | none => simp
  | some r => exact Nat.le_of_lt (length_of_read? h)

def complete? (r : Text.Reading) : Option (List Char) :=
  match r with
  | some (text, []) => some text
  | _ => none

def key? : Word → Option Key
  | .bare text => if text ≠ [] ∧ text.all isBareKey then some text else none
  | .basic body => complete? (Text.basic body)
  | .literal body => complete? (Text.literal body)
  | .basicLines _ | .literalLines _ => none

def item? : Word → Option Item
  | .bare text => Scalar.item? text
  | .basic body => (complete? (Text.basic body)).map .text
  | .literal body => (complete? (Text.literal body)).map .text
  | .basicLines body =>
    (complete? (Text.basicLines false (Text.dropFirstNewline body))).map .text
  | .literalLines body => (complete? (Text.literalLines (Text.dropFirstNewline body))).map .text

end Word

end GuardedDivision.Toml
