import GuardedDivision.CommandLine.Reader
import GuardedDivision.Settings.Basic

namespace GuardedDivision.CommandLine

/-- The file of the settings. The one after the subcommand goes before the other. -/
def config? (line : CommandLine) : Option String :=
  let path? : Setting → Option String
    | .config path => some path
    | _ => none
  (line.own.findSome? path?).or (line.top.findSome? path?)

def printing? (line : CommandLine) : Option Printing :=
  line.top.findSome? fun
    | .printConfig printing => some printing
    | _ => none

def has (line : CommandLine) (flag : Flag) : Bool :=
  line.top.contains (.flag flag) || line.own.contains (.flag flag)

def value? (line : CommandLine) : Option Int32 :=
  line.own.findSome? fun
    | .value value => some value
    | _ => none

def numerator? (line : CommandLine) : Option Int32 :=
  line.own.findSome? fun
    | .numerator value => some value
    | _ => none

def sourceKind (line : CommandLine) : SourceKind :=
  (line.own.findSome? fun
    | .source kind => some kind
    | _ => none).getD .zero

def operation (line : CommandLine) : Operation :=
  (line.own.findSome? fun
    | .operation operation => some operation
    | _ => none).getD .divide

def route (line : CommandLine) : Route :=
  (line.own.findSome? fun
    | .path route => some route
    | _ => none).getD .guarded

def subject (line : CommandLine) (s : Settings) : Case where
  numerator := line.numerator?.getD s.numerator
  source := match line.sourceKind with
    | .zero => .zero
    | .fixed => .fixed (line.value?.getD s.fixedDenominator)
    | .random => .random
    | .console => .console
  operation := line.operation
  route := line.route

end GuardedDivision.CommandLine
