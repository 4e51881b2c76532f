import GuardedDivision.Log.Directive
import GuardedDivision.Text.Fields

namespace GuardedDivision.Log

abbrev Filter := List Directive

namespace Filter

def upTo (level : Level) : Filter := [{ target := [], limit := some level }]

/-- Reads directives between commas up to the first that is none. Empty ones are skipped, and if no
other is left, only errors pass. -/
def ofText (text : List Char) : Except Unreadable Filter :=
  match (fields ',' text).filter (· ≠ []) with
  | [] => .ok (upTo .error)
  | items => do return (← items.mapM Directive.ofText).filterMap id

/-- The directive that decides about a target and the names of fields: one that gives way to no
other that is for them, and of equal ones the last. -/
def deciding? (target : List Char) (names : List (List Char)) : Filter → Option Directive
  | [] => none
  | d :: later =>
    match deciding? target names later with
    | none => if d.isFor target names then some d else none
    | some e => if e.yieldsTo d && d.isFor target names then some d else some e

def admits (filter : Filter) (level : Level) (target : List Char) (names : List (List Char)) :
    Bool :=
  match filter.deciding? target names with
  | none => false
  | some d => d.limit.admits level

def enables (filter : Filter) (e : Event) : Bool :=
  filter.admits e.level e.target.toList (e.fields.map String.toList)

/-- The filter of the flags alone. To be quiet goes before being verbose. -/
def ofFlags (verbose quiet : Bool) : Filter :=
  if quiet then upTo .error
  else if verbose then
    [{ target := "divguard".toList, limit := some .debug },
      { target := "divguard_core".toList, limit := some .debug }]
  else upTo .warn

/-- The filter in force: the given text if it is one, and else that of the flags. There is none if
the text is cut inside a character. -/
def inForce (text : Option (List Char)) (verbose quiet : Bool) : Except BrokenCut Filter :=
  match text.map ofText with
  | some (.ok filter) => .ok filter
  | some (.error (.broken cut)) => .error cut
  | some (.error .malformed) | none => .ok (ofFlags verbose quiet)

end Filter

end GuardedDivision.Log
