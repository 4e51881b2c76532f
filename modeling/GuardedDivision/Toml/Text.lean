import GuardedDivision.Toml.Characters

namespace GuardedDivision.Toml.Text

abbrev Reading := Option (List Char × List Char)

def push (c : Option Char) (r : Reading) : Reading :=
  match c, r with
  | some c, some (text, rest) => some (c :: text, rest)
  | _, _ => none

def hexValue? (c : Char) : Option Nat :=
  if c.isDigit then some (c.toNat - '0'.toNat)
  else if 'a' ≤ c ∧ c ≤ 'f' then some (c.toNat - 'a'.toNat + 10)
  else if 'A' ≤ c ∧ c ≤ 'F' then some (c.toNat - 'A'.toNat + 10)
  else none

def codePoint? (digits : List Char) : Option Char :=
  (digits.foldlM (fun n c => (hexValue? c).map (16 * n + ·)) 0).bind fun n =>
    if n.isValidChar then some (Char.ofNat n) else none

def escaped? : Char → Option Char
  | 'b' => some '\x08'
  | 't' => some '\t'
  | 'n' => some '\n'
  | 'f' => some '\x0c'
  | 'r' => some '\r'
  | 'e' => some '\x1b'
  | '"' => some '"'
  | '\\' => some '\\'
  | _ => none

def basic : List Char → Reading
  | [] => none
  | '"' :: s => some ([], s)
  | '\\' :: 'x' :: a :: b :: s => push (codePoint? [a, b]) (basic s)
  | '\\' :: 'u' :: a :: b :: c :: d :: s => push (codePoint? [a, b, c, d]) (basic s)
  | '\\' :: 'U' :: a :: b :: c :: d :: e :: f :: g :: h :: s =>
    push (codePoint? [a, b, c, d, e, f, g, h]) (basic s)
  | '\\' :: c :: s => push (escaped? c) (basic s)
  | c :: s => if isPlain c then push (some c) (basic s) else none

def literal : List Char → Reading
  | [] => none
  | '\'' :: s => some ([], s)
  | c :: s => if isPlain c then push (some c) (literal s) else none

def endsLine (s : List Char) : Bool := (newline? (skipSpaces s)).isSome

/-- A text of several lines in three double quotes. Up to two quotes may stand before the closing
ones. A backslash at the end of a line skips all blanks and newlines after it. -/
def basicLines (skipping : Bool) : List Char → Reading
  | [] => none
  | '"' :: '"' :: '"' :: '"' :: '"' :: s => some (['"', '"'], s)
  | '"' :: '"' :: '"' :: '"' :: s => some (['"'], s)
  | '"' :: '"' :: '"' :: s => some ([], s)
  | '\r' :: '\n' :: s =>
    if skipping then basicLines true s else push (some '\n') (basicLines false s)
  | '\\' :: 'x' :: a :: b :: s => push (codePoint? [a, b]) (basicLines false s)
  | '\\' :: 'u' :: a :: b :: c :: d :: s =>
    push (codePoint? [a, b, c, d]) (basicLines false s)
  | '\\' :: 'U' :: a :: b :: c :: d :: e :: f :: g :: h :: s =>
    push (codePoint? [a, b, c, d, e, f, g, h]) (basicLines false s)
  | '\\' :: c :: s =>
    if endsLine (c :: s) then
      (if isSpace c || c = '\n' then basicLines true s
      else match s with
        | '\n' :: s => basicLines true s
        | _ => none)
    else push (escaped? c) (basicLines false s)
  | c :: s =>
    if skipping && (isSpace c || c = '\n') then basicLines true s
    else if c = '\n' || isPlain c then push (some c) (basicLines false s)
    else none

def literalLines : List Char → Reading
  | [] => none
  | '\'' :: '\'' :: '\'' :: '\'' :: '\'' :: s => some (['\'', '\''], s)
  | '\'' :: '\'' :: '\'' :: '\'' :: s => some (['\''], s)
  | '\'' :: '\'' :: '\'' :: s => some ([], s)
  | '\r' :: '\n' :: s => push (some '\n') (literalLines s)
  | c :: s => if c = '\n' || isPlain c then push (some c) (literalLines s) else none

def dropFirstNewline (s : List Char) : List Char := (newline? s).getD s

end GuardedDivision.Toml.Text
