import GuardedDivision.Binary64.Rounding
import GuardedDivision.Text.Numeral

namespace GuardedDivision.Shortest

/-- The multiple count * 10 ^ (place - 1074) on the grid of a place. -/
structure GridPoint where
  count : Nat
  place : Nat
deriving DecidableEq, Repr

namespace GridPoint

def rank (g : GridPoint) : Nat :=
  Binary64.nearestRank (g.count * Nat.pow 10 g.place) (Nat.pow 10 Binary64.quantumPlaces)

def below (place rank : Nat) : GridPoint :=
  { count := Binary64.quanta rank * Nat.pow 10 Binary64.quantumPlaces /
      (Nat.pow 10 place <<< Binary64.quantumPlaces), place }

def succ (g : GridPoint) : GridPoint := { g with count := g.count + 1 }

def roundsUp (g : GridPoint) (rank : Nat) : Bool :=
  ((2 * g.count + 1) * Nat.pow 10 g.place) <<< Binary64.quantumPlaces ≤
    2 * Binary64.quanta rank * Nat.pow 10 Binary64.quantumPlaces

/-- The neighbour of a rank on a grid that reads back as it. Of two such neighbours the nearer is
taken, and of two equally near ones the upper. -/
def onGrid? (place rank : Nat) : Option GridPoint :=
  let low := below place rank
  let high := low.succ
  if low.rank = rank then
    if high.rank = rank ∧ low.roundsUp rank then some high else some low
  else if high.rank = rank then some high
  else none

end GridPoint

def search (rank : Nat) : Nat → GridPoint
  | 0 => .below 0 rank
  | place + 1 => (GridPoint.onGrid? (place + 1) rank).getD (search rank place)

/-- The place of the coarsest grid that has to be tried, whose step is more than twice the
magnitude: a quantum is less than 10 ^ 751 steps of the finest grid, and 0.30103 is more than the
decimal logarithm of 2. -/
def topPlace (rank : Nat) : Nat := 752 + ((Binary64.quanta rank).log2 + 2) * 30103 / 100000

def point (rank : Nat) : GridPoint := search rank (topPlace rank)

def GridPoint.text (g : GridPoint) : List Char :=
  let digits := Numeral.ofNat g.count
  if Binary64.quantumPlaces ≤ g.place then
    digits ++ List.replicate (g.place - Binary64.quantumPlaces) '0'
  else
    let places := Binary64.quantumPlaces - g.place
    let padded := List.replicate (places + 1 - digits.length) '0' ++ digits
    padded.take (padded.length - places) ++ '.' :: padded.drop (padded.length - places)

def magnitude (rank : Nat) : List Char := if rank = 0 then ['0'] else (point rank).text

end GuardedDivision.Shortest

namespace GuardedDivision

/-- The shortest text that reads back as the number: no exponent, no fraction on whole numbers. -/
def Binary64.text : Binary64 → List Char
  | .nan => "NaN".toList
  | .infinity negative => if negative then "-inf".toList else "inf".toList
  | .finite negative rank =>
    if negative then '-' :: Shortest.magnitude rank else Shortest.magnitude rank

end GuardedDivision
