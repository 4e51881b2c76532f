import GuardedDivision.FileTree
import GuardedDivision.Toml.Defect

namespace GuardedDivision

/-- Without a seed each start of the program draws its own. -/
structure Settings where
  numerator : Int32 := 100
  fixedDenominator : Int32 := 2
  catchFaults : Bool := true
  seed : Option UInt64 := none
deriving DecidableEq, Inhabited, Repr

inductive LoadFailure where
  | unreadable (cause : FileFailure)
  | unusable (defect : Toml.Defect)
deriving DecidableEq, Repr

namespace Toml.Defect

/-- What is said about a defect, a line. Where a text is malformed is not said. -/
def message : Defect → List Char
  | .malformed => []
  | .keyTooLong => "recursion limit".toList

end Toml.Defect

namespace LoadFailure

def message : LoadFailure → List Char
  | .unreadable cause => "IO error: ".toList ++ cause.message
  | .unusable .malformed => "Failed to parse configuration:".toList
  | .unusable defect => "Failed to parse configuration: ".toList ++ defect.message

end LoadFailure

end GuardedDivision
