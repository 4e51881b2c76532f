import GuardedDivision.Case
import GuardedDivision.Settings.Basic

namespace GuardedDivision.Log

inductive Level where
  | error
  | warn
  | info
  | debug
  | trace
deriving DecidableEq, Repr

namespace Level

def rank : Level → Nat
  | .error => 1
  | .warn => 2
  | .info => 3
  | .debug => 4
  | .trace => 5

def name : Level → String
  | .error => "ERROR"
  | .warn => "WARN"
  | .info => "INFO"
  | .debug => "DEBUG"
  | .trace => "TRACE"

end Level

inductive Event where
  | loading (path : String)
  | loaded (path : String)
  | usingDefaults (failure : LoadFailure)
  | runningDemonstration
  | runningCase (subject : Case) (denominator : Denominator)
  | faulted (message : List Char) (numerator : Int32) (denominator : Denominator)
deriving DecidableEq, Repr

namespace Event

def level : Event → Level
  | .loading _ => .info
  | .loaded _ => .debug
  | .usingDefaults _ => .warn
  | .runningDemonstration => .debug
  | .runningCase _ _ => .debug
  | .faulted _ _ _ => .warn

def target : Event → String
  | .loading _ | .usingDefaults _ => "divguard"
  | .loaded _ => "divguard::config"
  | .runningDemonstration => "divguard::runner"
  | .runningCase _ _ | .faulted _ _ _ => "divguard_core::case"

def fields : Event → List String
  | .loading _ | .usingDefaults _ => ["message"]
  | .loaded _ => ["message", "path"]
  | .runningDemonstration => ["message", "ack"]
  | .runningCase _ _ => ["message", "source", "denominator", "path"]
  | .faulted _ _ _ => ["message", "numerator", "denominator"]

/-- A character of a message. Those that can steer a terminal are written as their code points. -/
def shown (c : Char) : List Char :=
  if c = '\x07' ∨ c = '\x08' ∨ c = '\x0c' ∨ c = '\x1b' ∨ c = '\x7f' then
    ['\\', 'x', Nat.digitChar (c.toNat / 16), Nat.digitChar (c.toNat % 16)]
  else if 0x80 ≤ c.toNat ∧ c.toNat ≤ 0x9F then
    ['\\', 'u', '\x7b'] ++ Nat.toDigits 16 c.toNat ++ ['\x7d']
  else [c]

/-- The message of an event, with its fields after it. Only the path that is a part of a message
itself can hold characters that are not shown. -/
def message : Event → List Char
  | .loading path => "Loading config from: ".toList ++ path.toList.flatMap shown
  | .loaded path => "loaded configuration path=".toList ++ path.toList
  | .usingDefaults failure => "Using default configuration: ".toList ++ failure.message
  | .runningDemonstration =>
    "running demo ack=".toList ++ Numeral.ofInt Case.acknowledgement.toInt
  | .runningCase c denominator =>
    "running case source=".toList ++ c.source.text ++ " denominator=".toList ++
      denominator.text ++ " path=".toList ++ c.route.text
  | .faulted message numerator denominator =>
    "unguarded sink faulted: ".toList ++ message ++ " numerator=".toList ++
      Numeral.ofInt numerator.toInt ++ " denominator=".toList ++ denominator.text

def text (e : Event) : List Char :=
  e.level.name.toList ++ ' ' :: e.target.toList ++ ": ".toList ++ e.message

end Event

end GuardedDivision.Log
