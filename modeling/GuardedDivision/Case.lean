import GuardedDivision.Division
import GuardedDivision.Source

namespace GuardedDivision

inductive Operation where
  | divide
  | modulo
  | float
deriving DecidableEq, Repr

inductive Route where
  | guarded
  | unguarded
deriving DecidableEq, Repr

structure Case where
  numerator : Int32
  source : Source
  operation : Operation
  route : Route
deriving DecidableEq, Repr

inductive Outcome where
  | value (value : Int32)
  | refused (refusal : Refusal)
  | faulted (message : List Char)
deriving DecidableEq, Repr

structure Report where
  subject : Case
  denominator : Denominator
  outcome : Outcome
deriving DecidableEq, Repr

namespace Operation

def symbol : Operation → Char
  | .divide | .float => '/'
  | .modulo => '%'

end Operation

namespace Route

def text : Route → List Char
  | .guarded => "Guarded".toList
  | .unguarded => "Unguarded".toList

end Route

namespace Report

def isFault (r : Report) : Bool :=
  match r.outcome with
  | .faulted _ => true
  | _ => false

def division (r : Report) : List Char :=
  Numeral.ofInt r.subject.numerator.toInt ++ r.subject.operation.symbol :: r.denominator.text

def line (r : Report) : List Char :=
  match r.outcome with
  | .value v => r.division ++ " = ".toList ++ Numeral.ofInt v.toInt
  | .refused refusal => refusal.message
  | .faulted message => r.division ++ " faulted: ".toList ++ message

end Report

namespace Case

variable {γ : Type} [WordSource γ]

def readDenominator (c : Case) (input : Input γ) : Except ReadFailure Denominator × Input γ :=
  match c.operation with
  | .divide | .modulo =>
    let (value, rest) := c.source.readInt input
    (value.map .int, rest)
  | .float =>
    let (value, rest) := c.source.readFloat input
    (value.map .float, rest)

def guardedResult (c : Case) : Denominator → Except Refusal Int32
  | .int d => match c.operation with
    | .modulo => Guarded.remainder c.numerator d
    | _ => Guarded.quotient c.numerator d
  | .float d => Guarded.floatQuotient (.ofInt32 c.numerator) d

def unguardedResult (c : Case) : Denominator → Except Fault Int32
  | .int d => match c.operation with
    | .modulo => Unguarded.remainder c.numerator d
    | _ => Unguarded.quotient c.numerator d
  | .float d => .ok (Unguarded.floatQuotient (.ofInt32 c.numerator) d)

def acknowledgement : Int32 := 1

def demonstration (numerator : Int32) : List Case :=
  [{ numerator, source := .zero, operation := .divide, route := .guarded },
    { numerator, source := .zero, operation := .divide, route := .unguarded }]

end Case

end GuardedDivision
