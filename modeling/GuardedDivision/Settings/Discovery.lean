import GuardedDivision.Settings.Reader

namespace GuardedDivision

namespace Location

def upward (here : Location) : List Location :=
  (List.range (here.length + 1)).reverse.map here.take

end Location

namespace Settings

def fileNames : List String := ["divguard.toml", ".divguard.toml"]

def homeFile : String := ".config/divguard/divguard.toml"

def candidates (working : Location) (home : String) : List String :=
  working.upward.flatMap (fun directory => fileNames.map (Path.join directory.text)) ++
    [Path.join home homeFile]

def discovered? (tree : FileTree) (working : Location) (home : String) : Option String :=
  (candidates working home).find? (tree.holds working)

/-- The settings of the first candidate that exists, or the defaults if there is none. -/
def discover (tree : FileTree) (working : Location) (home : String) :
    Except LoadFailure Settings :=
  match discovered? tree working home with
  | none => .ok {}
  | some path => ofPath tree working path

end Settings

end GuardedDivision
