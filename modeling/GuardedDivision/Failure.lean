import GuardedDivision.Settings.Basic
import GuardedDivision.Source

namespace GuardedDivision

inductive Failure where
  | unread (cause : ReadFailure)
  | settings (cause : LoadFailure)
  | outputFull
deriving DecidableEq, Repr

namespace ReadFailure

def detail : ReadFailure → List Char
  | .endOfInput => "EndOfInput".toList
  | .notNumber input =>
    "InvalidNumber \x7b input: ".toList ++ Quoted.encode input ++ " \x7d".toList
  | .notUtf8 =>
    "Io(Error \x7b kind: InvalidData, message: ".toList ++
      Quoted.encode "stream did not contain valid UTF-8".toList ++ " \x7d)".toList

end ReadFailure

namespace LoadFailure

/-- The cause with its parts. A text that is malformed is left open, without closing marks. -/
def detail : LoadFailure → List Char
  | .unreadable cause => "IoError(".toList ++ Quoted.encode cause.message ++ [')']
  | .unusable .malformed => "ParseError(\"".toList
  | .unusable defect =>
    "ParseError(".toList ++ Quoted.encode (defect.message ++ ['\n']) ++ [')']

end LoadFailure

namespace Failure

def message : Failure → List Char
  | .unread cause => "Failed to read denominator: ".toList ++ cause.message
  | .settings cause => "Configuration error: ".toList ++ cause.message
  | .outputFull => "IO error: failed to write whole buffer".toList

def detail : Failure → List Char
  | .unread cause => "SourceError(".toList ++ cause.detail ++ [')']
  | .settings (.unusable .malformed) =>
    "ConfigError(".toList ++ LoadFailure.detail (.unusable .malformed)
  | .settings cause => "ConfigError(".toList ++ cause.detail ++ [')']
  | .outputFull =>
    "IoError(Error \x7b kind: WriteZero, message: ".toList ++
      Quoted.encode "failed to write whole buffer".toList ++ " \x7d)".toList

end Failure

end GuardedDivision
