import GuardedDivision.Binary64.Rounding

namespace GuardedDivision.Binary64

def ofInt (n : Int) : Binary64 := nearest (n < 0) n.natAbs 1

def ofInt32 (n : Int32) : Binary64 := ofInt n.toInt

def div : Binary64 → Binary64 → Binary64
  | .nan, _ | _, .nan => .nan
  | .infinity _, .infinity _ => .nan
  | .infinity a, .finite b _ => .infinity (a != b)
  | .finite a _, .infinity b => zero (a != b)
  | .finite a r, .finite b s =>
    if s.val = 0 then (if r.val = 0 then .nan else .infinity (a != b))
    else nearest (a != b) (quanta r) (quanta s)

/-- Drops the fraction, and stops at the ends of the 32-bit range. A NaN becomes zero. -/
def toInt32 : Binary64 → Int32
  | .nan => 0
  | .infinity negative => if negative then Int32.minValue else Int32.maxValue
  | .finite negative rank =>
    let whole : Nat := quanta rank >>> quantumPlaces
    Int32.ofIntClamp (if negative then -(whole : Int) else whole)

end GuardedDivision.Binary64
