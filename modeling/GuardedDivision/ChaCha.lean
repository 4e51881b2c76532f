import GuardedDivision.Words

namespace GuardedDivision

namespace ChaCha

abbrev Block := Vector UInt32 16

abbrev Key := Vector UInt32 8

def rotateLeft (x : UInt32) (n : UInt32) : UInt32 := (x <<< n) ||| (x >>> (32 - n))

def rotateRight (x : UInt32) (n : UInt32) : UInt32 := (x >>> n) ||| (x <<< (32 - n))

def quarterRound (s : Block) (i j k l : Fin 16) : Block :=
  let a := s[i]; let b := s[j]; let c := s[k]; let d := s[l]
  let a := a + b; let d := rotateLeft (d ^^^ a) 16
  let c := c + d; let b := rotateLeft (b ^^^ c) 12
  let a := a + b; let d := rotateLeft (d ^^^ a) 8
  let c := c + d; let b := rotateLeft (b ^^^ c) 7
  (((s.set i a).set j b).set k c).set l d

def doubleRound (s : Block) : Block :=
  let s := quarterRound s 0 4 8 12
  let s := quarterRound s 1 5 9 13
  let s := quarterRound s 2 6 10 14
  let s := quarterRound s 3 7 11 15
  let s := quarterRound s 0 5 10 15
  let s := quarterRound s 1 6 11 12
  let s := quarterRound s 2 7 8 13
  quarterRound s 3 4 9 14

/-- The text "expand 32-byte k" as words, the key, the counter from its low half on, and zeros. -/
def initial (key : Key) (counter : UInt64) : Block :=
  #v[0x61707865, 0x3320646e, 0x79622d32, 0x6b206574,
    key[0], key[1], key[2], key[3], key[4], key[5], key[6], key[7],
    counter.toUInt32, (counter >>> 32).toUInt32, 0, 0]

/-- The block of a counter: twelve rounds on the initial state, which is then added once more. -/
def block (key : Key) (counter : UInt64) : Block :=
  let start := initial key counter
  (Nat.repeat doubleRound 6 start).zipWith (· + ·) start

def seedStep (state : UInt64) : UInt64 := state * 6364136223846793005 + 11634580027462260723

/-- A word of the key, from a state of the seed: some of its middle bits, rotated by its top five.
-/
def seedWord (state : UInt64) : UInt32 :=
  rotateRight (((state >>> 18) ^^^ state) >>> 27).toUInt32 (state >>> 59).toUInt32

def keyOfSeed (seed : UInt64) : Key :=
  Vector.ofFn fun i => seedWord (Nat.repeat seedStep (i.val + 1) seed)

end ChaCha

/-- A stream in use: the words left of the current block, and the counter of the next one. -/
structure ChaCha where
  key : ChaCha.Key
  counter : UInt64
  ahead : List UInt32
deriving DecidableEq, Repr

namespace ChaCha

def ofSeed (seed : UInt64) : ChaCha := { key := keyOfSeed seed, counter := 0, ahead := [] }

def next (c : ChaCha) : UInt32 × ChaCha :=
  match c.ahead with
  | [] =>
    let words := block c.key c.counter
    (words[0], { c with counter := c.counter + 1, ahead := words.toList.tail })
  | w :: ahead => (w, { c with ahead })

instance : WordSource ChaCha := ⟨next⟩

end ChaCha

end GuardedDivision
