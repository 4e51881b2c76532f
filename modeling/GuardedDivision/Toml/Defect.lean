namespace GuardedDivision.Toml

inductive Defect where
  | malformed
  | keyTooLong
deriving DecidableEq, Repr

def required {α : Type} : Option α → Except Defect α
  | some a => .ok a
  | none => .error .malformed

end GuardedDivision.Toml
