import GuardedDivision.Toml.Defect
import GuardedDivision.Toml.Expression
import GuardedDivision.Toml.Table

namespace GuardedDivision.Toml

abbrev keyLimit : Nat := 80

/-- The parts of a key. Each has to be understood before they are counted. -/
def path (words : List Word) : Except Defect (List Key) := do
  let keys ← words.mapM fun w => required w.key?
  if keyLimit < keys.length then throw .keyTooLong else return keys

mutual

def Value.item : Value → Except Defect Item
  | .word w => required w.item?
  | .array values => (items values).map .array
  | .inlineTable assignments => (fill [] assignments).map .inlineTable

def items : List Value → Except Defect (List Item)
  | [] => .ok []
  | v :: values => do
    let item ← v.item
    return item :: (← items values)

def fill (entries : Entries) : List (List Word × Value) → Except Defect Entries
  | [] => .ok entries
  | (words, v) :: later => do
    let keys ← path words
    let item ← v.item
    fill (← required (entries.assign keys item)) later

end

end GuardedDivision.Toml
