import GuardedDivision.Binary64.Rounding
import GuardedDivision.Text.Numeral

namespace GuardedDivision

/-- The decimal number ± digits × 10 ^ exponent. -/
structure Decimal where
  negative : Bool
  digits : Nat
  exponent : Int
deriving DecidableEq, Repr

namespace Decimal

/-- The nearest floating-point number. Exponents that lead beyond every finite number, or below half
of the least one, are recognised by their size alone. -/
def toBinary64 (d : Decimal) : Binary64 :=
  match d.exponent with
  | .ofNat e =>
    if d.digits = 0 then Binary64.zero d.negative
    else if 1024 ≤ e then .infinity d.negative
    else Binary64.nearest d.negative (d.digits * Nat.pow 10 e) 1
  | .negSucc e =>
    if d.digits.log2 + 1076 ≤ e + 1 then Binary64.zero d.negative
    else Binary64.nearest d.negative d.digits (Nat.pow 10 (e + 1))

end Decimal

inductive Literal where
  | nan
  | infinity (negative : Bool)
  | decimal (value : Decimal)
deriving DecidableEq, Repr

namespace Literal

/-- The size of an exponent. Once it has reached 65536, further digits no longer count. -/
def exponentSize (digits : List Char) : Nat :=
  digits.foldl (fun n c => if n < 65536 then 10 * n + Numeral.digitValue c else n) 0

def exponentSize? (digits : List Char) : Option Nat :=
  if digits ≠ [] ∧ digits.all Char.isDigit then some (exponentSize digits) else none

def exponent? : List Char → Option Int
  | [] => some 0
  | c :: text =>
    if c = 'e' ∨ c = 'E' then
      match text with
      | '+' :: digits => (exponentSize? digits).map Int.ofNat
      | '-' :: digits => (exponentSize? digits).map fun (n : Nat) => -(n : Int)
      | digits => (exponentSize? digits).map Int.ofNat
    else none

def decimal? (negative : Bool) (text : List Char) : Option Decimal :=
  let whole := text.takeWhile Char.isDigit
  let rest := text.dropWhile Char.isDigit
  let (fraction, rest) := match rest with
    | '.' :: rest => (rest.takeWhile Char.isDigit, rest.dropWhile Char.isDigit)
    | _ => ([], rest)
  if whole ++ fraction = [] then none
  else (exponent? rest).map fun e =>
    { negative, digits := Numeral.value (whole ++ fraction), exponent := e - fraction.length }

def unsigned? (negative : Bool) (text : List Char) : Option Literal :=
  let word := text.map Char.toLower
  if word = "inf".toList ∨ word = "infinity".toList then some (.infinity negative)
  else if word = "nan".toList then some .nan
  else (decimal? negative text).map .decimal

def ofText? : List Char → Option Literal
  | '+' :: text => unsigned? false text
  | '-' :: text => unsigned? true text
  | text => unsigned? false text

def toBinary64 : Literal → Binary64
  | .nan => .nan
  | .infinity negative => .infinity negative
  | .decimal d => d.toBinary64

end Literal

def Binary64.ofText? (text : List Char) : Option Binary64 :=
  (Literal.ofText? text).map Literal.toBinary64

end GuardedDivision
