import GuardedDivision.Text.Numeral
import GuardedDivision.Text.Quoted

namespace GuardedDivision

/-- A place in the bytes of a text that lies inside one of its characters. -/
structure BrokenCut where
  starts : Bool
  place : Nat
  character : Char
  first : Nat
deriving DecidableEq, Repr

namespace BrokenCut

def message (b : BrokenCut) : List Char :=
  (if b.starts then "start".toList else "end".toList) ++ " byte index ".toList ++
    Numeral.ofNat b.place ++ " is not a char boundary; it is inside '".toList ++
    Quoted.escape b.character ++ "' (bytes ".toList ++ Numeral.ofNat b.first ++ "..".toList ++
    Numeral.ofNat (b.first + b.character.utf8Size) ++ " of string)".toList

end BrokenCut

namespace Cut

def size : List Char → Nat
  | [] => 0
  | c :: text => c.utf8Size + size text

/-- Cuts a text in two at a number of bytes after its start. If that is inside a character, the
character is given with its own place. -/
def split (text : List Char) (place : Nat) : Except (Char × Nat) (List Char × List Char) :=
  go 0 text
where
  go (first : Nat) : List Char → Except (Char × Nat) (List Char × List Char)
    | [] => .ok ([], [])
    | c :: text =>
      if place ≤ first then .ok ([], c :: text)
      else if place < first + c.utf8Size then .error (c, first)
      else (go (first + c.utf8Size) text).map fun (before, after) => (c :: before, after)

def before (text : List Char) (place : Nat) : Except BrokenCut (List Char) :=
  match split text place with
  | .ok parts => .ok parts.1
  | .error (character, first) => .error { starts := false, place, character, first }

def after (text : List Char) (place : Nat) : Except BrokenCut (List Char) :=
  match split text place with
  | .ok parts => .ok parts.2
  | .error (character, first) => .error { starts := true, place, character, first }

def between (text : List Char) (start stop : Nat) : Except BrokenCut (List Char) := do
  let _ ← after text start
  after (← before text stop) start

end Cut

end GuardedDivision
