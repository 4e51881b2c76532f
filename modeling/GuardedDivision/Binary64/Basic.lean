namespace GuardedDivision

namespace Binary64

abbrev rowSize : Nat := 0x10000000000000

abbrev rankCount : Nat := 2047 * rowSize

abbrev Rank := Fin rankCount

/-- A quantum is 2 ^ (-1074), and every finite magnitude is a whole number of quanta. -/
abbrev quantumPlaces : Nat := 1074

end Binary64

/-- A finite number is a sign and a rank: the place of its magnitude in the increasing row of all
finite magnitudes, zero first. These are the low 63 bits of its stored word. -/
inductive Binary64 where
  | nan
  | infinity (negative : Bool)
  | finite (negative : Bool) (rank : Binary64.Rank)
deriving DecidableEq, Repr

namespace Binary64

/-- The magnitude of a rank in quanta. The first row of ranks holds the whole numbers below 2 ^ 52;
each further row doubles the step, the first of these excepted. -/
def quanta (rank : Nat) : Nat :=
  if rank < rowSize then rank else (rowSize + rank % rowSize) <<< (rank / rowSize - 1)

/-- The number that a stored word stands for. All words of a NaN stand for the same one. -/
def ofBits (bits : UInt64) : Binary64 :=
  let negative := decide (0x8000000000000000 ≤ bits.toNat)
  let rank := bits.toNat % 0x8000000000000000
  if h : rank < rankCount then .finite negative ⟨rank, h⟩
  else if rank = rankCount then .infinity negative
  else .nan

/-- The stored word of a number; a NaN is stored quiet, positive and without payload. -/
def toBits : Binary64 → UInt64
  | .nan => 0x7FF8000000000000
  | .infinity negative => (if negative then 0xFFF0000000000000 else 0x7FF0000000000000)
  | .finite negative rank =>
    (if negative then 0x8000000000000000 else 0) + UInt64.ofNat rank.val

def zero (negative : Bool) : Binary64 := .finite negative ⟨0, by decide⟩

def exceeds : Binary64 → Binary64 → Bool
  | .infinity _, .finite _ _ => true
  | .finite _ r, .finite _ s => s < r
  | _, _ => false

end Binary64

end GuardedDivision
