import GuardedDivision.Toml.Meaning

namespace GuardedDivision.Toml

inductive Place where
  | root
  | table (keys : List Key)
  | element (keys : List Key)
deriving Inhabited, Repr

/-- The table under the last header is filled apart from the others, and put in its place when the
next header or the end of the text has come. -/
structure Document where
  root : Entries := []
  place : Place := .root
  current : Entries := []
deriving Inhabited, Repr

namespace Document

def close (d : Document) : Except Defect Entries :=
  match d.place with
  | .root => .ok d.current
  | .table keys => required (d.root.putTable keys d.current)
  | .element keys => required (d.root.putElement keys d.current)

def add (d : Document) : Expression → Except Defect Document
  | .blank => .ok d
  | .assignment words v => do
    let keys ← path words
    let item ← v.item
    let current ← required (d.current.assign keys item)
    return { d with current }
  | .header words => do
    let root ← d.close
    let keys ← path words
    let current ← required (root.beforeHeader? keys)
    return { root, place := .table keys, current }
  | .arrayHeader words => do
    let root ← d.close
    let keys ← path words
    return { root, place := .element keys, current := [] }

/-- The entries of a text, which may start with a byte order mark. Every number has to be one that
can be held, whether or not its key is of interest. -/
def ofText (s : List Char) : Except Defect Entries := do
  let lines ← required (expressions? (dropMark s))
  let entries ← (← lines.foldlM add {}).close
  if entriesHold entries then return entries else throw .malformed

end Document

end GuardedDivision.Toml
