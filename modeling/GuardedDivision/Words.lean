namespace GuardedDivision

class WordSource (γ : Type) where
  next : γ → UInt32 × γ

namespace WordSource

variable {γ : Type} [WordSource γ]

def skip (source : γ) : Nat → γ
  | 0 => source
  | k + 1 => skip (next source).2 k

def word (source : γ) (k : Nat) : UInt32 := (next (skip source k)).1

end WordSource

/-- A list of words that is given out again and again. The empty list gives zeros. -/
structure WordCycle where
  words : List UInt32
  ahead : List UInt32 := words
deriving DecidableEq, Repr

namespace WordCycle

def next (c : WordCycle) : UInt32 × WordCycle :=
  match c.ahead with
  | w :: ahead => (w, { c with ahead })
  | [] => match c.words with
    | w :: ahead => (w, { c with ahead })
    | [] => (0, c)

instance : WordSource WordCycle := ⟨next⟩

end WordCycle

end GuardedDivision
