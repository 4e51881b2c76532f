import GuardedDivision.Text.Fields
import GuardedDivision.Text.Utf8

namespace GuardedDivision

abbrev Location := List String

namespace Path

def names (path : String) : List String := (fields '/' path.toList).map String.ofList

def join (directory path : String) : String :=
  if directory.toList.getLast? = some '/' then directory ++ path else directory ++ "/" ++ path

def start (working : Location) (path : String) : Location :=
  if path.toList.head? = some '/' then [] else working

end Path

namespace Location

/-- One step along a path: an empty name and a dot stay, two dots go up, but not above the root. -/
def step (here : Location) (name : String) : Location :=
  if name = "" ∨ name = "." then here
  else if name = ".." then here.dropLast
  else here ++ [name]

def waypoints (here : Location) : List String → List Location
  | [] => [here]
  | name :: rest => here :: waypoints (here.step name) rest

def ofPath (path : String) : Location := (Path.names path).foldl step []

def text (location : Location) : String :=
  location.foldl (fun path name => path ++ "/" ++ name) ""

end Location

inductive Entry where
  | file (content : Bytes)
  | directory (entries : List (String × Entry))
deriving Inhabited, Repr

abbrev FileTree := List (String × Entry)

inductive FileFailure where
  | notFound
  | notDirectory
  | isDirectory
  | notUtf8
deriving DecidableEq, Repr

namespace FileFailure

def message : FileFailure → List Char
  | .notFound => "No such file or directory (os error 2)".toList
  | .notDirectory => "Not a directory (os error 20)".toList
  | .isDirectory => "Is a directory (os error 21)".toList
  | .notUtf8 => "stream did not contain valid UTF-8".toList

end FileFailure

namespace FileTree

def set (name : String) (entry : Entry) : FileTree → FileTree
  | [] => [(name, entry)]
  | (other, old) :: tree =>
    if other = name then (name, entry) :: tree else (other, old) :: set name entry tree

def held : Option Entry → FileTree
  | some (.directory entries) => entries
  | _ => []

def change (new : Option Entry → Entry) : Location → FileTree → FileTree
  | [], tree => tree
  | [name], tree => tree.set name (new (tree.lookup name))
  | name :: rest, tree => tree.set name (.directory (change new rest (held (tree.lookup name))))

def makeDirectory (location : Location) : FileTree → FileTree :=
  change (fun old => .directory (held old)) location

def putFile (location : Location) (content : Bytes) : FileTree → FileTree :=
  change (fun _ => .file content) location

/-- Follows names from an entry, with the directories above it from the nearest on. A name is looked
up in a directory only: an empty one and a dot stay, two dots go up, but not above the root. -/
def follow (above : List Entry) (here : Entry) : List String → Except FileFailure Entry
  | [] => .ok here
  | name :: rest => match here with
    | .file _ => .error .notDirectory
    | .directory entries =>
      if name = "" ∨ name = "." then follow above here rest
      else if name = ".." then match above with
        | [] => follow [] here rest
        | parent :: above => follow above parent rest
      else match entries.lookup name with
        | none => .error .notFound
        | some entry => follow (here :: above) entry rest

def find (tree : FileTree) (working : Location) (path : String) : Except FileFailure Entry :=
  if path = "" then .error .notFound
  else follow [] (.directory tree) (Path.start working path ++ Path.names path)

def holds (tree : FileTree) (working : Location) (path : String) : Bool :=
  match tree.find working path with
  | .ok _ => true
  | .error _ => false

end FileTree

namespace Entry

def text : Entry → Except FileFailure (List Char)
  | .directory _ => .error .isDirectory
  | .file content => match Utf8.decode? content with
    | none => .error .notUtf8
    | some text => .ok text

end Entry

end GuardedDivision
