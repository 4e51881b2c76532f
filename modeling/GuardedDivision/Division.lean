import GuardedDivision.Binary64.Arithmetic
import GuardedDivision.Text.Numeral

namespace GuardedDivision

inductive Refusal where
  | zeroDivisor
  | overflow (numerator : Int32) (operator : Char) (denominator : Int32)
deriving DecidableEq, Repr

inductive Fault where
  | divisionByZero
  | divisionOverflow
  | remainderByZero
  | remainderOverflow
deriving DecidableEq, Repr

namespace Refusal

def message : Refusal → List Char
  | .zeroDivisor => "This would result in a divide by zero".toList
  | .overflow n operator d =>
    Numeral.ofInt n.toInt ++ operator :: Numeral.ofInt d.toInt ++ " would overflow".toList

end Refusal

namespace Fault

def message : Fault → List Char
  | .divisionByZero => "attempt to divide by zero".toList
  | .divisionOverflow => "attempt to divide with overflow".toList
  | .remainderByZero => "attempt to calculate the remainder with a divisor of zero".toList
  | .remainderOverflow => "attempt to calculate the remainder with overflow".toList

end Fault

/-- The one quotient of nonzero denominator that leaves the 32-bit range. -/
def Overflows (n d : Int32) : Prop := n = Int32.minValue ∧ d = -1

instance (n d : Int32) : Decidable (Overflows n d) := inferInstanceAs (Decidable (_ ∧ _))

/-- The magnitude up to which a floating-point denominator counts as zero: one millionth. -/
def epsilon : Binary64 := .nearest false 1 1000000

namespace Guarded

def quotient (n d : Int32) : Except Refusal Int32 :=
  if d = 0 then .error .zeroDivisor
  else if Overflows n d then .error (.overflow n '/' d)
  else .ok (n / d)

def remainder (n d : Int32) : Except Refusal Int32 :=
  if d = 0 then .error .zeroDivisor
  else if Overflows n d then .error (.overflow n '%' d)
  else .ok (n % d)

/-- Refuses denominators near zero and NaN. A quotient out of range is clamped, not refused. -/
def floatQuotient (n d : Binary64) : Except Refusal Int32 :=
  if d.exceeds epsilon then .ok (n.div d).toInt32 else .error .zeroDivisor

end Guarded

namespace Unguarded

def quotient (n d : Int32) : Except Fault Int32 :=
  if d = 0 then .error .divisionByZero
  else if Overflows n d then .error .divisionOverflow
  else .ok (n / d)

def remainder (n d : Int32) : Except Fault Int32 :=
  if d = 0 then .error .remainderByZero
  else if Overflows n d then .error .remainderOverflow
  else .ok (n % d)

/-- Floating-point division has no fault: an infinite quotient is clamped, and NaN becomes zero. -/
def floatQuotient (n d : Binary64) : Int32 := (n.div d).toInt32

end Unguarded

end GuardedDivision
