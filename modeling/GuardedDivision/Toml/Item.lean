namespace GuardedDivision.Toml

/-- How a table came about, which decides what later lines may add to it. -/
inductive Origin where
  | header
  | implied
  | dotted
deriving DecidableEq, Repr

inductive Item where
  | text (value : List Char)
  | integer (value : Int)
  | real
  /-- What is written like a number that cannot be held: it is too large, or it has no digits, or
  letters among them. -/
  | unheld
  | boolean (value : Bool)
  | moment
  | array (items : List Item)
  | inlineTable (entries : List (List Char × Item))
  | table (origin : Origin) (entries : List (List Char × Item))
  | tables (elements : List (List (List Char × Item)))
deriving Inhabited, Repr

abbrev Key := List Char

abbrev Entries := List (Key × Item)

mutual

def Item.holds : Item → Bool
  | .unheld => false
  | .array items => itemsHold items
  | .inlineTable entries => entriesHold entries
  | .table _ entries => entriesHold entries
  | .tables elements => elementsHold elements
  | .text _ | .integer _ | .real | .boolean _ | .moment => true

def itemsHold : List Item → Bool
  | [] => true
  | item :: items => item.holds && itemsHold items

def entriesHold : List (List Char × Item) → Bool
  | [] => true
  | (_, item) :: entries => item.holds && entriesHold entries

def elementsHold : List (List (List Char × Item)) → Bool
  | [] => true
  | entries :: elements => entriesHold entries && elementsHold elements

end

end GuardedDivision.Toml
