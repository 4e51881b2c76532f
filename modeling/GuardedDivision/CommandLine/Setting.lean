import GuardedDivision.Case

namespace GuardedDivision.CommandLine

inductive Level where
  | top
  | demonstration
  | single
deriving DecidableEq, Repr

inductive Flag where
  | verbose
  | quiet
  | version
deriving DecidableEq, Repr

inductive Name where
  | config
  | printConfig
  | source
  | value
  | operation
  | path
  | numerator
deriving DecidableEq, Repr

inductive Printing where
  | default
  | current
deriving DecidableEq, Repr

inductive SourceKind where
  | zero
  | fixed
  | random
  | console
deriving DecidableEq, Repr

inductive Setting where
  | flag (flag : Flag)
  | config (path : String)
  | printConfig (printing : Printing)
  | source (kind : SourceKind)
  | value (value : Int32)
  | operation (operation : Operation)
  | path (route : Route)
  | numerator (value : Int32)
deriving DecidableEq, Repr

inductive Kind where
  | flag (flag : Flag)
  | option (name : Name)
deriving DecidableEq, Repr

namespace Level

def ofCommand? (word : List Char) : Option Level :=
  if word = "demo".toList then some demonstration
  else if word = "run".toList then some single
  else none

end Level

namespace Flag

def all : List Flag := [verbose, quiet, version]

def word : Flag → List Char
  | verbose => "verbose".toList
  | quiet => "quiet".toList
  | version => "version".toList

def letter : Flag → Char
  | verbose => 'v'
  | quiet => 'q'
  | version => 'V'

def isAt : Flag → Level → Bool
  | version, level => level = .top
  | _, _ => true

def ofWord? (level : Level) (word : List Char) : Option Flag :=
  all.find? fun flag => flag.isAt level && flag.word = word

def ofLetter? (level : Level) (letter : Char) : Option Flag :=
  all.find? fun flag => flag.isAt level && flag.letter = letter

end Flag

namespace Printing

def ofText? (text : List Char) : Option Printing :=
  if text = "default".toList then some default
  else if text = "current".toList then some current
  else none

end Printing

namespace SourceKind

def ofText? (text : List Char) : Option SourceKind :=
  if text = "zero".toList then some zero
  else if text = "fixed".toList then some fixed
  else if text = "random".toList then some random
  else if text = "console".toList then some console
  else none

end SourceKind

def operation? (text : List Char) : Option Operation :=
  if text = "divide".toList then some .divide
  else if text = "modulo".toList then some .modulo
  else if text = "float".toList then some .float
  else none

def route? (text : List Char) : Option Route :=
  if text = "guarded".toList then some .guarded
  else if text = "unguarded".toList then some .unguarded
  else none

namespace Name

def all : List Name := [config, printConfig, source, value, operation, path, numerator]

def word : Name → List Char
  | config => "config".toList
  | printConfig => "print-config".toList
  | source => "source".toList
  | value => "value".toList
  | operation => "operation".toList
  | path => "path".toList
  | numerator => "numerator".toList

def isAt : Name → Level → Bool
  | config, _ => true
  | printConfig, level => level = .top
  | _, level => level = .single

def ofWord? (level : Level) (word : List Char) : Option Name :=
  all.find? fun name => name.isAt level && name.word = word

/-- Whether the next argument may be the value of an option. Only numbers may start with a hyphen,
which alone is a value too. -/
def takes : Name → List Char → Bool
  | value, _ | numerator, _ => true
  | _, '-' :: _ :: _ => false
  | _, _ => true

def setting? (name : Name) (text : List Char) : Option Setting :=
  match name with
  | config => if text = [] then none else some (.config (String.ofList text))
  | printConfig => (Printing.ofText? text).map .printConfig
  | source => (SourceKind.ofText? text).map .source
  | value => (Numeral.int32? text).map .value
  | operation => (operation? text).map .operation
  | path => (route? text).map .path
  | numerator => (Numeral.int32? text).map .numerator

end Name

namespace Setting

def kind : Setting → Kind
  | .flag f => .flag f
  | .config _ => .option .config
  | .printConfig _ => .option .printConfig
  | .source _ => .option .source
  | .value _ => .option .value
  | .operation _ => .option .operation
  | .path _ => .option .path
  | .numerator _ => .option .numerator

def give (given : List Setting) (s : Setting) : Option (List Setting) :=
  if s.kind ∈ given.map kind then none else some (given ++ [s])

end Setting

end GuardedDivision.CommandLine
