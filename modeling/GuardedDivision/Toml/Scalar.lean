import GuardedDivision.Decimal.Literal
import GuardedDivision.Toml.Item

namespace GuardedDivision.Toml.Scalar

def isBinaryDigit (c : Char) : Bool := c = '0' || c = '1'

def isOctalDigit (c : Char) : Bool := '0' ≤ c && c ≤ '7'

def isHexDigit (c : Char) : Bool := c.isDigit || ('a' ≤ c && c ≤ 'f') || ('A' ≤ c && c ≤ 'F')

def digitValue (c : Char) : Nat :=
  if c.isDigit then c.toNat - '0'.toNat else c.toLower.toNat - 'a'.toNat + 10

def unsigned : List Char → List Char
  | '+' :: s | '-' :: s => s
  | s => s

def isGrouped (isDigit : Char → Bool) (afterDigit : Bool) : List Char → Bool
  | [] => true
  | '_' :: s => afterDigit && s.head?.any isDigit && isGrouped isDigit false s
  | c :: s => isGrouped isDigit (isDigit c) s

def ungroup (s : List Char) : List Char := s.filter (· != '_')

/-- An integer that can be held: it has 128 bits, with a sign or without. -/
def ofInt (n : Int) : Item :=
  if -0x80000000000000000000000000000000 ≤ n ∧ n < 0x100000000000000000000000000000000
  then .integer n else .unheld

def based? (base : Nat) (isDigit : Char → Bool) (s : List Char) : Option Item :=
  if isGrouped isHexDigit false s ∧ (ungroup s).all isDigit then
    some (if ungroup s = [] then .unheld else ofInt (Numeral.valueIn base digitValue (ungroup s)))
  else none

/-- What may follow the first digits of a decimal integer: nothing, or an underscore and then any
characters that do not make it another kind of value. -/
def continuesInteger : List Char → Bool
  | [] => true
  | c :: s => c = '_' && s.all fun c => c != ' ' && c != '.' && c != 'e' && c != 'E'

/-- A decimal integer after at most one sign. An underscore may stand between any two hexadecimal
digits, but an integer with letters is not held. -/
def decimal? (s : List Char) : Option Item :=
  let digits := unsigned s
  if digits ≠ [] ∧ (digits.head? = some '0' → digits = ['0']) ∧
      continuesInteger (digits.dropWhile Char.isDigit) ∧ isGrouped isHexDigit false digits then
    some (((Numeral.int? (ungroup s)).map ofInt).getD .unheld)
  else none

def integer? : List Char → Option Item
  | '0' :: 'x' :: s => based? 16 isHexDigit s
  | '0' :: 'o' :: s => based? 8 isOctalDigit s
  | '0' :: 'b' :: s => based? 2 isBinaryDigit s
  | s => decimal? s

def areDigits (s : List Char) : Bool := s != [] && s.all Char.isDigit

def isTail (s : List Char) : Bool :=
  let isMark (c : Char) : Bool := c = 'e' || c = 'E'
  match s with
  | '.' :: s =>
    areDigits (s.takeWhile fun c => !isMark c) &&
      match s.dropWhile fun c => !isMark c with
      | [] => true
      | _ :: exponent => areDigits (unsigned exponent)
  | c :: s => isMark c && areDigits (unsigned s)
  | [] => false

def isDecimalReal (s : List Char) : Bool :=
  let digits := ungroup (unsigned s)
  isGrouped Char.isDigit false (unsigned s) && isTail (digits.dropWhile Char.isDigit) &&
    match digits.takeWhile Char.isDigit with
    | [] => false
    | '0' :: _ :: _ => false
    | _ => true

/-- A number that is read with digits has to be finite. -/
def ofDecimalReal (s : List Char) : Item :=
  match Binary64.ofText? (ungroup s) with
  | some (.finite _ _) => .real
  | _ => .unheld

def real? (s : List Char) : Option Item :=
  if unsigned s = "inf".toList ∨ unsigned s = "nan".toList then some .real
  else if isDecimalReal s then some (ofDecimalReal s)
  else none

def pair? (a b : Char) : Option Nat :=
  if a.isDigit && b.isDigit then some (10 * digitValue a + digitValue b) else none

def isLeapYear (year : Nat) : Bool := year % 4 = 0 && (year % 100 != 0 || year % 400 = 0)

def monthLength (year month : Nat) : Nat :=
  if month = 2 then (if isLeapYear year then 29 else 28)
  else if month = 4 || month = 6 || month = 9 || month = 11 then 30
  else 31

def afterDate? : List Char → Option (List Char)
  | a :: b :: c :: d :: '-' :: e :: f :: '-' :: g :: h :: s => do
    let century ← pair? a b
    let year ← pair? c d
    let month ← pair? e f
    let day ← pair? g h
    if 1 ≤ month ∧ month ≤ 12 ∧ 1 ≤ day ∧ day ≤ monthLength (100 * century + year) month
    then some s else none
  | _ => none

def afterMinutes? : List Char → Option (List Char)
  | a :: b :: ':' :: c :: d :: s => do
    let hour ← pair? a b
    let minute ← pair? c d
    if hour ≤ 23 ∧ minute ≤ 59 then some s else none
  | _ => none

/-- The text after a time of the day. Seconds may be left out, and may have a fraction. -/
def afterTime? (s : List Char) : Option (List Char) := do
  match ← afterMinutes? s with
  | ':' :: a :: b :: s =>
    let second ← pair? a b
    if 60 < second then none
    else match s with
      | '.' :: fraction =>
        if fraction.takeWhile Char.isDigit = [] then none
        else some (fraction.dropWhile Char.isDigit)
      | _ => some s
  | ':' :: _ => none
  | s => some s

def isOffset : List Char → Bool
  | [] => true
  | ['Z'] | ['z'] => true
  | '+' :: s | '-' :: s => afterMinutes? s = some []
  | _ => false

def isMoment (s : List Char) : Bool :=
  match afterDate? s with
  | some [] => true
  | some (c :: time) =>
    (c = 'T' || c = 't' || c = ' ') &&
      match afterTime? time with
      | some offset => isOffset offset
      | none => false
  | none => afterTime? s = some []

def item? (s : List Char) : Option Item :=
  if s = "true".toList then some (.boolean true)
  else if s = "false".toList then some (.boolean false)
  else ((integer? s).or (real? s)).or (if isMoment s then some .moment else none)

end GuardedDivision.Toml.Scalar
