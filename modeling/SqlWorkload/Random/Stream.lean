/-!
# The random stream

A stream of 32-bit words: the key stream of the ChaCha cipher with eight rounds, under a key that a
congruential generator spreads out from a 64-bit seed. A stream is the words left of the current
block and the number of the next one, so that drawing a word is a function of the stream.
-/

namespace SqlWorkload.Random

abbrev Block := Vector UInt32 16

abbrev Key := Vector UInt32 8

/-! ## Blocks -/

def rotateLeft (x : UInt32) (n : UInt32) : UInt32 := (x <<< n) ||| (x >>> (32 - n))

/-- Adds word `b` to word `a`, and mixes the sum into word `d` by a rotation of `n` bits. -/
def mix (v : Block) (a b d : Fin 16) (n : UInt32) : Block :=
  let v := v.set a (v[a] + v[b])
  v.set d (rotateLeft (v[d] ^^^ v[a]) n)

def quarterRound (v : Block) (a b c d : Fin 16) : Block :=
  mix (mix (mix (mix v a b d 16) c d b 12) a b d 8) c d b 7

/-- One round over the columns of the block and one over its diagonals. -/
def doubleRound (v : Block) : Block :=
  let v := quarterRound v 0 4 8 12
  let v := quarterRound v 1 5 9 13
  let v := quarterRound v 2 6 10 14
  let v := quarterRound v 3 7 11 15
  let v := quarterRound v 0 5 10 15
  let v := quarterRound v 1 6 11 12
  let v := quarterRound v 2 7 8 13
  quarterRound v 3 4 9 14

/-- The constant words, the key, the number of the block with its low word first, and two words of
zero. -/
def initialBlock (key : Key) (number : UInt64) : Block :=
  #v[0x61707865, 0x3320646E, 0x79622D32, 0x6B206574,
    key[0], key[1], key[2], key[3], key[4], key[5], key[6], key[7],
    number.toUInt32, (number >>> 32).toUInt32, 0, 0]

def block (key : Key) (number : UInt64) : Block :=
  let v := initialBlock key number
  (doubleRound (doubleRound (doubleRound (doubleRound v)))).zipWith (· + ·) v

/-! ## Seeding -/

/-- One step of the congruential generator. -/
def advance (state : UInt64) : UInt64 := state * 6364136223846793005 + 11634580027462260723

/-- The word that a state puts out: some of its middle bits, rotated right by its highest five. -/
def permuted (state : UInt64) : UInt32 :=
  let x := (((state >>> 18) ^^^ state) >>> 27).toUInt32
  let n := (state >>> 59).toUInt32
  (x >>> n) ||| (x <<< ((32 - n) &&& 31))

/-- The words put out by the next `n` states. -/
def seedWords : (n : Nat) → UInt64 → Vector UInt32 n
  | 0, _ => #v[]
  | n + 1, state => ((seedWords n (advance state)).insertIdx 0 (permuted (advance state)))

def keyOfSeed (seed : UInt64) : Key := seedWords 8 seed

/-! ## Streams -/

structure Stream where
  key : Key
  /-- The words of the current block that are left. -/
  pending : List UInt32
  /-- The number of the next block. -/
  nextBlock : UInt64
deriving DecidableEq

namespace Stream

def ofSeed (seed : UInt64) : Stream := ⟨keyOfSeed seed, [], 0⟩

def next (s : Stream) : UInt32 × Stream :=
  match s.pending with
  | w :: rest => (w, { s with pending := rest })
  | [] =>
    let words := block s.key s.nextBlock
    (words[0], { s with pending := words.toList.tail, nextBlock := s.nextBlock + 1 })

end Stream

end SqlWorkload.Random
