/-
# ProgramSearch.Random.KeyStream -- a stream of random words from a seed

The ChaCha stream cipher with eight rounds, used as a generator: a seed of 64 bits is stretched into
a key of eight words, and the n-th word of the stream is a word of one of the cipher's blocks. The
stream is a function of the key and the place in it, so a reader of the stream keeps no more than
the place it has come to.
-/

namespace ProgramSearch.Random

/-! ## The block function -/

/-- The sixteen words that the cipher works on. -/
abbrev Block := Vector UInt32 16

/-- A word with its bits moved up by `n` places, those that leave at the top coming in below. -/
def rotateLeft (x : UInt32) (n : UInt32) : UInt32 := (x <<< n) ||| (x >>> (32 - n))

/-- Mixes four words of the block. -/
def quarterRound (s : Block) (a b c d : Fin 16) : Block :=
  let s := s.set a (s[a] + s[b])
  let s := s.set d (rotateLeft (s[d] ^^^ s[a]) 16)
  let s := s.set c (s[c] + s[d])
  let s := s.set b (rotateLeft (s[b] ^^^ s[c]) 12)
  let s := s.set a (s[a] + s[b])
  let s := s.set d (rotateLeft (s[d] ^^^ s[a]) 8)
  let s := s.set c (s[c] + s[d])
  s.set b (rotateLeft (s[b] ^^^ s[c]) 7)

/-- Mixes the four columns of the block and then its four diagonals. -/
def doubleRound (s : Block) : Block :=
  let s := quarterRound s 0 4 8 12
  let s := quarterRound s 1 5 9 13
  let s := quarterRound s 2 6 10 14
  let s := quarterRound s 3 7 11 15
  let s := quarterRound s 0 5 10 15
  let s := quarterRound s 1 6 11 12
  let s := quarterRound s 2 7 8 13
  quarterRound s 3 4 9 14

/-- The key of the generator. -/
abbrev Key := Vector UInt32 8

/-- The block that is mixed into the block number `n` of the stream: four constants, the key, and
the number as two words before two zeros. -/
def startBlock (key : Key) (n : UInt64) : Block :=
  #v[0x61707865, 0x3320646e, 0x79622d32, 0x6b206574,
     key[0], key[1], key[2], key[3], key[4], key[5], key[6], key[7],
     n.toUInt32, (n >>> 32).toUInt32, 0, 0]

/-- Block number `n` of the stream: four double rounds, and the words they started from added. -/
def block (key : Key) (n : UInt64) : Block :=
  let start := startBlock key n
  let mixed := doubleRound (doubleRound (doubleRound (doubleRound start)))
  mixed.zipWith (· + ·) start

/-- The n-th word of the stream. -/
def word (key : Key) (n : Nat) : UInt32 :=
  (block key (UInt64.ofNat (n / 16))).get ⟨n % 16, Nat.mod_lt n (by decide)⟩

/-! ## The key of a seed -/

/-- The next state of the congruential generator that stretches a seed. -/
def nextState (state : UInt64) : UInt64 := state * 6364136223846793005 + 11634580027462260723

/-- The word that a state of that generator gives: the upper bits folded together and then rotated
by the topmost ones. -/
def stateWord (state : UInt64) : UInt32 :=
  let folded := (((state >>> 18) ^^^ state) >>> 27).toUInt32
  let turn := (state >>> 59).toUInt32
  (folded >>> turn) ||| (folded <<< ((32 - turn) &&& 31))

/-- The state after `n` steps. -/
def stateAfter (seed : UInt64) : Nat → UInt64
  | 0 => seed
  | n + 1 => nextState (stateAfter seed n)

/-- The key that a seed is stretched into. -/
def keyOfSeed (seed : UInt64) : Key := Vector.ofFn fun i => stateWord (stateAfter seed (i + 1))

end ProgramSearch.Random
