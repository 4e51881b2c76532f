import GuardedDivision.Settings.Basic
import GuardedDivision.Text.Numeral

namespace GuardedDivision.Settings

def line (key : String) (value : List Char) : List Char :=
  key.toList ++ " = ".toList ++ value ++ ['\n']

def ofBool (b : Bool) : List Char := if b then "true".toList else "false".toList

def toText (s : Settings) : List Char :=
  line "numerator" (Numeral.ofInt s.numerator.toInt) ++
    line "fixed_denominator" (Numeral.ofInt s.fixedDenominator.toInt) ++
    line "catch_faults" (ofBool s.catchFaults) ++
    match s.seed with
    | none => []
    | some seed => line "seed" (Numeral.ofNat seed.toNat)

end GuardedDivision.Settings
