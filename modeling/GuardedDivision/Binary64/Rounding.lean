import GuardedDivision.Binary64.Basic

namespace GuardedDivision.Binary64

def floorRank (n : Nat) : Nat :=
  let shift := n.log2 - 52
  shift * rowSize + (n >>> shift)

def middle (rank : Nat) : Nat := quanta rank + quanta (rank + 1)

/-- The rank nearest to the fraction p / q of a quantum; of two equally near ones the even one. -/
def roundQuanta (p q : Nat) : Nat :=
  let low := floorRank (p / q)
  if 2 * p < middle low * q ∨ 2 * p = middle low * q ∧ low % 2 = 0 then low else low + 1

def nearestRank (p q : Nat) : Nat := roundQuanta (p <<< quantumPlaces) q

def ofRank (negative : Bool) (rank : Nat) : Binary64 :=
  if h : rank < rankCount then .finite negative ⟨rank, h⟩ else .infinity negative

def nearest (negative : Bool) (p q : Nat) : Binary64 := ofRank negative (nearestRank p q)

end GuardedDivision.Binary64
