import GuardedDivision.Text.Category

namespace GuardedDivision.Quoted

/-- A character that is written as its code point. The blank is the only space that shows. -/
def isHidden (c : Char) : Bool :=
  Category.graphemeExtend.contains c || Category.filler.contains c ||
    Category.control.contains c || Category.format.contains c ||
    Category.privateUse.contains c || Category.unassigned.contains c ||
    Category.lineSeparator.contains c || Category.paragraphSeparator.contains c ||
    (Category.spaceSeparator.contains c && c != ' ')

def codePoint (c : Char) : List Char :=
  ['\\', 'u', '\x7b'] ++ Nat.toDigits 16 c.toNat ++ ['\x7d']

def escape (c : Char) : List Char :=
  if c = '\x00' then ['\\', '0']
  else if c = '\t' then ['\\', 't']
  else if c = '\r' then ['\\', 'r']
  else if c = '\n' then ['\\', 'n']
  else if c = '\\' then ['\\', '\\']
  else if c = '"' then ['\\', '"']
  else if ' ' ≤ c ∧ c ≤ '~' then [c]
  else if isHidden c then codePoint c
  else [c]

def encode (text : List Char) : List Char := '"' :: text.flatMap escape ++ ['"']

end GuardedDivision.Quoted
