namespace GuardedDivision.Numeral

def ofNat (n : Nat) : List Char := Nat.toDigits 10 n

def ofInt : Int → List Char
  | .ofNat n => ofNat n
  | .negSucc n => '-' :: ofNat (n + 1)

def digitValue (c : Char) : Nat := c.toNat - '0'.toNat

def scan (base : Nat) (digitOf : Char → Nat) (digits : List Char) : Nat :=
  digits.foldl (fun n c => base * n + digitOf c) 0

theorem foldl_eq_add_scan (base : Nat) (digitOf : Char → Nat) (n : Nat) (digits : List Char) :
    digits.foldl (fun n c => base * n + digitOf c) n =
      n * Nat.pow base digits.length + scan base digitOf digits := by
  induction digits generalizing n with
  | nil => simp [scan]
  | cons c digits ih =>
    have hp : Nat.pow base (c :: digits).length = Nat.pow base digits.length * base := rfl
    simp only [scan, List.foldl_cons] at ih ⊢
    rw [ih (base * n + digitOf c), ih (base * 0 + digitOf c), hp]
    simp only [Nat.mul_zero, Nat.zero_add, Nat.add_mul, Nat.add_assoc]
    rw [Nat.mul_comm base n, Nat.mul_assoc, Nat.mul_comm base]

theorem scan_append (base : Nat) (digitOf : Char → Nat) (high low : List Char) :
    scan base digitOf (high ++ low) =
      scan base digitOf high * Nat.pow base low.length + scan base digitOf low := by
  rw [scan, List.foldl_append, foldl_eq_add_scan]
  rfl

/-- The number that a row of digits denotes in a base. A long row is halved again and again, which
takes far fewer steps on large numbers than to go through its digits; its length is fuel enough. -/
def valueIn (base : Nat) (digitOf : Char → Nat) (digits : List Char) : Nat :=
  go digits.length digits
where
  go : Nat → List Char → Nat
    | 0, digits => scan base digitOf digits
    | fuel + 1, digits =>
      if digits.length ≤ 256 then scan base digitOf digits
      else
        let high := digits.take (digits.length / 2)
        let low := digits.drop (digits.length / 2)
        go fuel high * Nat.pow base low.length + go fuel low

theorem valueIn_eq_scan (base : Nat) (digitOf : Char → Nat) (digits : List Char) :
    valueIn base digitOf digits = scan base digitOf digits := by
  unfold valueIn
  generalize digits.length = fuel
  induction fuel generalizing digits with
  | zero => rfl
  | succ fuel ih =>
    unfold valueIn.go
    split
    · rfl
    · simp only [ih]
      rw [← scan_append, List.take_append_drop]

def value (digits : List Char) : Nat := valueIn 10 digitValue digits

def nat? (text : List Char) : Option Nat :=
  if text ≠ [] ∧ text.all Char.isDigit then some (value text) else none

def int? : List Char → Option Int
  | '+' :: text => (nat? text).map Int.ofNat
  | '-' :: text => (nat? text).map fun (n : Nat) => -(n : Int)
  | text => (nat? text).map Int.ofNat

def int32? (text : List Char) : Option Int32 :=
  (int? text).bind fun n =>
    if Int32.minValue.toInt ≤ n ∧ n ≤ Int32.maxValue.toInt then some (Int32.ofInt n) else none

end GuardedDivision.Numeral
