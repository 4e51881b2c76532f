namespace GuardedDivision.Toml

def isSpace (c : Char) : Bool := c = ' ' || c = '\t'

/-- A character that may stand in a comment: no control character but the tab. -/
def isPlain (c : Char) : Bool := c = '\t' || (' ' ≤ c && c != '\x7f')

def isBareKey (c : Char) : Bool := c.isAlphanum || c = '_' || c = '-'

def isSeparator (c : Char) : Bool :=
  isSpace c || c = '\n' || c = '\r' || c = '#' || c = '.' || c = '=' || c = ',' ||
    c = '[' || c = ']' || c = '\x7b' || c = '\x7d'

def isQuote (c : Char) : Bool := c = '"' || c = '\''

def skipSpaces (s : List Char) : List Char := s.dropWhile isSpace

theorem length_skipSpaces_le (s : List Char) : (skipSpaces s).length ≤ s.length :=
  (List.dropWhile_suffix isSpace).length_le

def newline? : List Char → Option (List Char)
  | '\n' :: s => some s
  | '\r' :: '\n' :: s => some s
  | _ => none

def skipComment : List Char → List Char
  | '#' :: comment => comment.dropWhile isPlain
  | s => s

def lineEnd? (s : List Char) : Option (List Char) :=
  match skipComment (skipSpaces s) with
  | [] => some []
  | s => newline? s

theorem length_of_newline? {s rest : List Char} (h : newline? s = some rest) :
    rest.length < s.length := by
  unfold newline? at h
  split at h <;> cases h <;> simp only [List.length_cons] <;> omega

theorem length_skipComment_le (s : List Char) : (skipComment s).length ≤ s.length := by
  unfold skipComment
  split
  · next comment =>
    have := (List.dropWhile_suffix (l := comment) isPlain).length_le
    simp only [List.length_cons]
    omega
  · simp

theorem length_of_lineEnd? {s rest : List Char} (h : lineEnd? s = some rest) :
    rest.length = 0 ∨ rest.length < s.length := by
  have := length_skipSpaces_le s
  have := length_skipComment_le (skipSpaces s)
  unfold lineEnd? at h
  split at h
  · simp_all
  · have := length_of_newline? h
    omega

def skipFiller (inComment : Bool) : List Char → Option (List Char)
  | [] => some []
  | '\r' :: '\n' :: s => skipFiller false s
  | c :: s =>
    if c = '\n' then skipFiller false s
    else if inComment then (if isPlain c then skipFiller true s else none)
    else if c = '#' then skipFiller true s
    else if isSpace c then skipFiller false s
    else some (c :: s)

theorem length_of_skipFiller {inComment : Bool} {s rest : List Char}
    (h : skipFiller inComment s = some rest) : rest.length ≤ s.length := by
  fun_induction skipFiller inComment s with
  | case1 | case5 | case8 => simp_all
  | case2 _ s ih | case3 _ s _ ih | case4 c s _ _ _ ih | case6 _ s _ _ _ ih
    | case7 _ c s _ _ _ _ _ ih =>
    have := ih h
    simp only [List.length_cons]
    omega

end GuardedDivision.Toml
