import GuardedDivision.CommandLine.Setting

namespace GuardedDivision.CommandLine

inductive Word where
  | flags (flags : List Flag)
  | option (name : Name) (value : List Char)
  | awaiting (name : Name)
  | command (level : Level)
deriving DecidableEq, Repr

namespace Word

/-- The flags of a row of letters, as far as the version. -/
def cluster? (level : Level) : List Char → Option (List Flag)
  | [] => some []
  | c :: letters =>
    match Flag.ofLetter? level c with
    | none => none
    | some .version => some [.version]
    | some flag => (cluster? level letters).map (flag :: ·)

/-- Two hyphens start a flag or an option, which may have its value after an equals sign. One hyphen
starts letters of flags. Any other word is a subcommand. -/
def ofArgument? (level : Level) : List Char → Option Word
  | '-' :: '-' :: long =>
    let word := long.takeWhile (· != '=')
    match long.dropWhile (· != '=') with
    | _ :: value => (Name.ofWord? level word).map (.option · value)
    | [] => match Name.ofWord? level word with
      | some name => some (.awaiting name)
      | none => (Flag.ofWord? level word).map fun flag => .flags [flag]
  | '-' :: c :: letters => (cluster? level (c :: letters)).map .flags
  | word => if level = .top then (Level.ofCommand? word).map .command else none

end Word

inductive Stop where
  | version
  | finished (given : List Setting)
  | command (given : List Setting) (level : Level) (rest : List String)
deriving DecidableEq, Repr

/-- Reads the arguments of a level after those that have given some settings already. Two hyphens
alone may stand at the end. -/
def readLevel (level : Level) (given : List Setting) : List String → Option Stop
  | [] => some (.finished given)
  | argument :: rest =>
    if argument = "--" ∧ rest = [] then some (.finished given)
    else match Word.ofArgument? level argument.toList with
      | none => none
      | some (.flags flags) => match (flags.map .flag).foldlM Setting.give given with
        | none => none
        | some given =>
          if .flag .version ∈ given then some .version else readLevel level given rest
      | some (.option name value) => match (name.setting? value).bind (Setting.give given) with
        | none => none
        | some given => readLevel level given rest
      | some (.awaiting name) => match rest with
        | [] => none
        | value :: rest =>
          if name.takes value.toList then
            match (name.setting? value.toList).bind (Setting.give given) with
            | none => none
            | some given => readLevel level given rest
          else none
      | some (.command level) => some (.command given level rest)

end CommandLine

/-- The settings before the subcommand, the subcommand, which is the demonstration if there is none,
and the settings after it. -/
structure CommandLine where
  top : List CommandLine.Setting
  level : CommandLine.Level
  own : List CommandLine.Setting
deriving DecidableEq, Repr

namespace CommandLine

inductive Request where
  | version
  | command (line : CommandLine)
deriving DecidableEq, Repr

def read? (arguments : List String) : Option Request :=
  match readLevel .top [] arguments with
  | none => none
  | some .version => some .version
  | some (.finished top) => some (.command { top, level := .demonstration, own := [] })
  | some (.command top level rest) => match readLevel level [] rest with
    | some (.finished own) => some (.command { top, level, own })
    | _ => none

end GuardedDivision.CommandLine
