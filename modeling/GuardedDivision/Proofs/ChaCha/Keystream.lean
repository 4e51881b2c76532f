import GuardedDivision.Proofs.ChaCha.Cipher

namespace GuardedDivision.ChaCha

def seedNumber (seed : Nat) : Nat → Nat
  | 0 => seed
  | i + 1 =>
    (seedNumber seed i * 6364136223846793005 + 11634580027462260723) % 0x10000000000000000

def keyWord (seed i : Nat) : BitVec 32 :=
  let n := seedNumber seed (i + 1)
  (BitVec.ofNat 32 ((n >>> 18 ^^^ n) >>> 27)).rotateRight (n >>> 59)

/-- The words of the blocks under the key of a seed, in order. -/
def keystream (seed k : Nat) : BitVec 32 :=
  (Square.ofNumber (keyWord seed) (k / 16)).word (k % 16)

theorem toNat_repeat_seedStep (seed : UInt64) (n : Nat) :
    (Nat.repeat seedStep n seed).toNat = seedNumber seed.toNat n := by
  induction n with
  | zero => rfl
  | succ n ih =>
    rw [Nat.repeat, seedStep, UInt64.toNat_add, UInt64.toNat_mul, ih, seedNumber]
    exact Nat.mod_add_mod _ _ _

theorem toBitVec_seedWord (state : UInt64) :
    (seedWord state).toBitVec =
      (BitVec.ofNat 32 ((state.toNat >>> 18 ^^^ state.toNat) >>> 27)).rotateRight
        (state.toNat >>> 59) := by
  have htop : state.toNat >>> 59 < 32 := by
    have hstate := state.toNat_lt
    rw [Nat.shiftRight_eq_div_pow]
    omega
  have hplaces : (state >>> 59).toUInt32.toNat = state.toNat >>> 59 := by
    rw [UInt64.toNat_toUInt32, UInt64.toNat_shiftRight]
    exact Nat.mod_eq_of_lt (Nat.lt_trans htop (by decide))
  rw [seedWord, toBitVec_rotateRight _ (hplaces ▸ htop), hplaces, toBitVec_toUInt32,
    UInt64.toNat_shiftRight, UInt64.toNat_xor, UInt64.toNat_shiftRight]
  rfl

theorem toBitVec_keyOfSeed (seed : UInt64) {i : Nat} (hi : i < 8) :
    (keyOfSeed seed)[i].toBitVec = keyWord seed.toNat i := by
  rw [keyOfSeed, Vector.getElem_ofFn, toBitVec_seedWord, toNat_repeat_seedStep, keyWord]

/-- A stream of which a number of words have been given. -/
def after (key : Key) : Nat → ChaCha
  | 0 => { key, counter := 0, ahead := [] }
  | k + 1 =>
    { key
      counter := UInt64.ofNat (k / 16 + 1)
      ahead := (block key (UInt64.ofNat (k / 16))).toList.drop (k % 16 + 1) }

section After

variable (key : Key) {k : Nat}

theorem after_of_mod_eq_zero (hk : k % 16 = 0) :
    after key k = { key, counter := UInt64.ofNat (k / 16), ahead := [] } := by
  cases k with
  | zero => rfl
  | succ k =>
    have hblock : k / 16 + 1 = (k + 1) / 16 := by omega
    have hwords : (block key (UInt64.ofNat (k / 16))).toList.length ≤ k % 16 + 1 := by
      rw [Vector.length_toList]
      omega
    rw [after, List.drop_eq_nil_of_le hwords, hblock]

theorem after_of_mod_ne_zero (hk : k % 16 ≠ 0) :
    after key k =
      { key
        counter := UInt64.ofNat (k / 16 + 1)
        ahead := (block key (UInt64.ofNat (k / 16))).toList.drop (k % 16) } := by
  cases k with
  | zero => contradiction
  | succ k =>
    have hblock : k / 16 = (k + 1) / 16 := by omega
    have hplace : k % 16 + 1 = (k + 1) % 16 := by omega
    rw [after, hblock, hplace]

variable (k)

theorem next_after : WordSource.next (after key k) =
    ((block key (UInt64.ofNat (k / 16)))[k % 16], after key (k + 1)) := by
  change next (after key k) = _
  by_cases hk : k % 16 = 0
  · rw [after_of_mod_eq_zero key hk, after]
    simp [next, hk]
  · have hplace : k % 16 < (block key (UInt64.ofNat (k / 16))).toList.length := by
      rw [Vector.length_toList]
      exact Nat.mod_lt k (by decide)
    rw [after_of_mod_ne_zero key hk, List.drop_eq_getElem_cons hplace, after, next]
    simp

theorem skip_after (j : Nat) : WordSource.skip (after key j) k = after key (j + k) := by
  induction k generalizing j with
  | zero => rfl
  | succ k ih => rw [WordSource.skip, next_after, ih, Nat.add_right_comm, Nat.add_assoc]

end After

/-- The words of a seed are its keystream. -/
theorem toBitVec_word (seed : UInt64) (k : Nat) :
    (WordSource.word (ofSeed seed) k).toBitVec = keystream seed.toNat k := by
  have hstart : ofSeed seed = after (keyOfSeed seed) 0 := rfl
  rw [WordSource.word, hstart, skip_after, Nat.zero_add, next_after, toBitVec_getElem,
    square_block (fun i => toBitVec_keyOfSeed seed i.isLt), Square.ofNumber_toNat, keystream]

end GuardedDivision.ChaCha
