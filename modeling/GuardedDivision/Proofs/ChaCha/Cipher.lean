import GuardedDivision.ChaCha
import Mathlib.Data.Fin.VecNotation

namespace GuardedDivision.ChaCha

abbrev Square := Fin 4 → Fin 4 → BitVec 32

namespace Square

def mix (places : Nat) (a b d : BitVec 32) : BitVec 32 × BitVec 32 :=
  (a + b, (d ^^^ (a + b)).rotateLeft places)

def quarter (v : Fin 4 → BitVec 32) : Fin 4 → BitVec 32 :=
  let (a, d) := mix 16 (v 0) (v 1) (v 3)
  let (c, b) := mix 12 (v 2) d (v 1)
  let (a, d) := mix 8 a b d
  let (c, b) := mix 7 c d b
  ![a, b, c, d]

def columnRound (s : Square) : Square := fun row column => quarter (fun r => s r column) row

/-- Turns each row to the left by its number, so that diagonals become columns. -/
def turned (s : Square) : Square := fun row column => s row (column + row)

def turnedBack (s : Square) : Square := fun row column => s row (column - row)

def diagonalRound (s : Square) : Square := turnedBack (columnRound (turned s))

def rounds : Nat → Square → Square
  | 0, s => s
  | n + 1, s => if n % 2 = 0 then columnRound (rounds n s) else diagonalRound (rounds n s)

def textWord (text : List Char) (place : Nat) : BitVec 32 :=
  BitVec.ofNat 32 (((text.drop place).take 4).foldr (fun c n => c.toNat + 256 * n) 0)

/-- What the rounds start from: a text, eight words of key, and the number of the block with its low
half first. -/
def start (key : Nat → BitVec 32) (number : Nat) : Square :=
  ![fun column => textWord "expand 32-byte k".toList (4 * column),
    fun column => key column,
    fun column => key (4 + column),
    ![BitVec.ofNat 32 number, BitVec.ofNat 32 (number >>> 32), 0, 0]]

/-- The block of a number: twelve rounds on the start, which is added to them word by word. -/
def ofNumber (key : Nat → BitVec 32) (number : Nat) : Square := fun row column =>
  rounds 12 (start key number) row column + start key number row column

def word (s : Square) (i : Nat) : BitVec 32 := s (Fin.ofNat 4 (i / 4)) (Fin.ofNat 4 i)

theorem ofNumber_toNat (key : Nat → BitVec 32) (n : Nat) :
    ofNumber key (UInt64.ofNat n).toNat = ofNumber key n := by
  have hlow : BitVec.ofNat 32 (UInt64.ofNat n).toNat = BitVec.ofNat 32 n := by
    apply BitVec.eq_of_toNat_eq
    simp only [UInt64.toNat_ofNat', BitVec.toNat_ofNat]
    omega
  have hhigh : BitVec.ofNat 32 ((UInt64.ofNat n).toNat >>> 32) = BitVec.ofNat 32 (n >>> 32) := by
    apply BitVec.eq_of_toNat_eq
    simp only [UInt64.toNat_ofNat', BitVec.toNat_ofNat, Nat.shiftRight_eq_div_pow]
    omega
  have hstart : start key (UInt64.ofNat n).toNat = start key n := by
    rw [start, hlow, hhigh, start]
  funext row column
  rw [ofNumber, hstart, ofNumber]

end Square

open Square

def place (row column : Fin 4) : Fin 16 := ⟨4 * row.val + column.val, by omega⟩

def Block.square (b : Block) : Square := fun row column => (b[place row column]).toBitVec

theorem toBitVec_getElem (b : Block) {i : Nat} (hi : i < 16) : b[i].toBitVec = b.square.word i := by
  have hplace : (place (Fin.ofNat 4 (i / 4)) (Fin.ofNat 4 i)).val = i := by
    simp only [place, Fin.val_ofNat]
    omega
  simp only [word, Block.square, Fin.getElem_fin, hplace]

theorem toNat_sub_mod {n : UInt32} (hpos : 0 < n.toNat) (hlt : n.toNat < 32) :
    (32 - n).toNat % 32 = 32 - n.toNat % 32 := by
  have hle : n ≤ 32 := UInt32.le_iff_toNat_le.mpr (Nat.le_of_lt hlt)
  have h32 : (32 : UInt32).toNat = 32 := rfl
  rw [UInt32.toNat_sub_of_le _ _ hle, h32]
  omega

theorem toBitVec_rotateLeft (x : UInt32) {n : UInt32} (hpos : 0 < n.toNat) (hlt : n.toNat < 32) :
    (rotateLeft x n).toBitVec = x.toBitVec.rotateLeft n.toNat := by
  rw [BitVec.rotateLeft_def, ← toNat_sub_mod hpos hlt]
  simp [rotateLeft, UInt32.toNat_sub]

theorem toBitVec_rotateRight (x : UInt32) {n : UInt32} (hlt : n.toNat < 32) :
    (rotateRight x n).toBitVec = x.toBitVec.rotateRight n.toNat := by
  obtain hzero | hpos := Nat.eq_zero_or_pos n.toNat
  · obtain rfl : n = 0 := UInt32.toNat_inj.mp hzero
    simp [rotateRight, BitVec.rotateRight_def]
  · rw [BitVec.rotateRight_def, ← toNat_sub_mod hpos hlt]
    simp [rotateRight, UInt32.toNat_sub]

section QuarterRound

variable {v : Fin 4 → Fin 16}

/-- On places that are all different the quarter round is that on a column. -/
theorem toBitVec_quarterRound (hv : ∀ r t, v r = v t → r = t) (s : Block) (row : Fin 4) :
    ((quarterRound s (v 0) (v 1) (v 2) (v 3))[v row]).toBitVec =
      quarter (fun r => (s[v r]).toBitVec) row := by
  have hne {r t : Fin 4} (h : r ≠ t) : (v r).val ≠ (v t).val := fun he => h (hv r t (Fin.ext he))
  have hrow : row = 0 ∨ row = 1 ∨ row = 2 ∨ row = 3 := by omega
  rcases hrow with rfl | rfl | rfl | rfl <;>
    simp [quarterRound, quarter, mix, toBitVec_rotateLeft, hne]

theorem getElem_quarterRound_of_ne {i : Nat} (hi : i < 16) (hne : ∀ r, (v r).val ≠ i)
    (s : Block) : (quarterRound s (v 0) (v 1) (v 2) (v 3))[i] = s[i] := by
  simp [quarterRound, hne]

end QuarterRound

def quarterRounds (places : Fin 4 → Fin 4 → Fin 16) (chosen : List (Fin 4)) (s : Block) : Block :=
  chosen.foldl (fun s i => quarterRound s (places i 0) (places i 1) (places i 2) (places i 3)) s

theorem doubleRound_eq (s : Block) :
    doubleRound s = quarterRounds (fun i r => place r (i + r)) [0, 1, 2, 3]
      (quarterRounds (fun i r => place r i) [0, 1, 2, 3] s) := by
  simp only [quarterRounds, List.foldl_cons, List.foldl_nil]
  rfl

/-- Where no two of them share a place, the quarter rounds do not disturb each other. -/
theorem toBitVec_quarterRounds {places : Fin 4 → Fin 4 → Fin 16}
    (hplaces : ∀ i r j t, places i r = places j t → i = j ∧ r = t) {chosen : List (Fin 4)}
    (hchosen : chosen.Nodup) (s : Block) (i row : Fin 4) :
    ((quarterRounds places chosen s)[places i row]).toBitVec =
      if i ∈ chosen then quarter (fun r => (s[places i r]).toBitVec) row
      else (s[places i row]).toBitVec := by
  induction chosen generalizing s with
  | nil => rfl
  | cons j chosen ih =>
    obtain ⟨hj, hchosen⟩ := List.nodup_cons.mp hchosen
    rw [quarterRounds, List.foldl_cons, ← quarterRounds, ih hchosen]
    by_cases hij : i = j
    · subst hij
      rw [if_neg hj, if_pos List.mem_cons_self]
      exact toBitVec_quarterRound (fun r t h => (hplaces i r i t h).2) s row
    · have hother (r : Fin 4) :
          (quarterRound s (places j 0) (places j 1) (places j 2) (places j 3))[places i r] =
            s[places i r] :=
        getElem_quarterRound_of_ne (places i r).isLt
          (fun t h => hij (hplaces j t i r (Fin.ext h)).1.symm) s
      simp only [hother, List.mem_cons, hij, false_or]

theorem toBitVec_quarterRounds_all {places : Fin 4 → Fin 4 → Fin 16}
    (hplaces : ∀ i r j t, places i r = places j t → i = j ∧ r = t) (s : Block) (i row : Fin 4) :
    ((quarterRounds places [0, 1, 2, 3] s)[places i row]).toBitVec =
      quarter (fun r => (s[places i r]).toBitVec) row := by
  have hmem : i ∈ [0, 1, 2, 3] := by decide +revert
  rw [toBitVec_quarterRounds hplaces (by decide) s i row, if_pos hmem]

theorem square_columns (s : Block) :
    (quarterRounds (fun i r => place r i) [0, 1, 2, 3] s).square = columnRound s.square := by
  have hplaces : ∀ i r j t, place r i = place t j → i = j ∧ r = t := by decide
  funext row column
  exact toBitVec_quarterRounds_all hplaces s column row

theorem square_diagonals (s : Block) :
    (quarterRounds (fun i r => place r (i + r)) [0, 1, 2, 3] s).square =
      diagonalRound s.square := by
  have hplaces : ∀ i r j t, place r (i + r) = place t (j + t) → i = j ∧ r = t := by decide
  funext row column
  have hcolumn : column - row + row = column := by decide +revert
  have h := toBitVec_quarterRounds_all hplaces s (column - row) row
  simp only [hcolumn] at h
  exact h

theorem square_doubleRound (s : Block) :
    (doubleRound s).square = diagonalRound (columnRound s.square) := by
  rw [doubleRound_eq, square_diagonals, square_columns]

theorem square_repeat (n : Nat) (s : Block) :
    (Nat.repeat doubleRound n s).square = rounds (2 * n) s.square := by
  induction n with
  | zero => rfl
  | succ n ih =>
    have heven : 2 * n % 2 = 0 := by omega
    have hodd : (2 * n + 1) % 2 ≠ 0 := by omega
    rw [Nat.repeat, square_doubleRound, ih, Nat.mul_succ, rounds, if_neg hodd, rounds,
      if_pos heven]

theorem toBitVec_toUInt32 (x : UInt64) : x.toUInt32.toBitVec = BitVec.ofNat 32 x.toNat := by
  apply BitVec.eq_of_toNat_eq
  rw [UInt32.toNat_toBitVec, UInt64.toNat_toUInt32, BitVec.toNat_ofNat]

section Block

variable {key : Key} {words : Nat → BitVec 32}

theorem square_initial (hkey : ∀ i : Fin 8, key[i].toBitVec = words i) (counter : UInt64) :
    (initial key counter).square = start words counter.toNat := by
  have hlow : counter.toUInt32.toBitVec = BitVec.ofNat 32 counter.toNat :=
    toBitVec_toUInt32 counter
  have hhigh : (counter >>> 32).toUInt32.toBitVec = BitVec.ofNat 32 (counter.toNat >>> 32) :=
    toBitVec_toUInt32 (counter >>> 32)
  funext row column
  have hrow : row = 0 ∨ row = 1 ∨ row = 2 ∨ row = 3 := by omega
  have hcolumn : column = 0 ∨ column = 1 ∨ column = 2 ∨ column = 3 := by omega
  rcases hrow with rfl | rfl | rfl | rfl
  · rcases hcolumn with rfl | rfl | rfl | rfl <;> rfl
  · rcases hcolumn with rfl | rfl | rfl | rfl
    exacts [hkey 0, hkey 1, hkey 2, hkey 3]
  · rcases hcolumn with rfl | rfl | rfl | rfl
    exacts [hkey 4, hkey 5, hkey 6, hkey 7]
  · rcases hcolumn with rfl | rfl | rfl | rfl
    exacts [hlow, hhigh, rfl, rfl]

theorem square_block (hkey : ∀ i : Fin 8, key[i].toBitVec = words i) (counter : UInt64) :
    (block key counter).square = ofNumber words counter.toNat := by
  have hrounds : (Nat.repeat doubleRound 6 (initial key counter)).square =
      rounds 12 (start words counter.toNat) := by
    rw [square_repeat, square_initial hkey]
  have hadd (s t : Block) (row column : Fin 4) :
      Block.square (s.zipWith (· + ·) t) row column =
        s.square row column + t.square row column := by
    simp only [Block.square, Fin.getElem_fin, Vector.getElem_zipWith, UInt32.toBitVec_add]
  funext row column
  rw [block, hadd, hrounds, square_initial hkey, ofNumber]

end Block

end GuardedDivision.ChaCha
