import LedgerClient.Random.Draw
import LedgerClient.Square

/-!
# The word source of a seed

The words of a seeded source are the keystream of the ChaCha stream cipher with twelve rounds.
The key is eight words made from the 64-bit seed by a permuted congruential generator; the block
counter has 64 bits and starts at zero, and the nonce is zero. The stream has a period of
`2 ^ 64` blocks of sixteen words.
-/

namespace LedgerClient

namespace ChaCha

/-- A word rotated to the left. -/
def rotateLeft (w : UInt32) (k : UInt32) : UInt32 := (w <<< k) ||| (w >>> (32 - k))

/-- The quarter round on the words of a line. -/
def quarterRound (s : Square UInt32) (l : Square.Line) : Square UInt32 :=
  let s := s.put l.a (s.get l.a + s.get l.b)
  let s := s.put l.d (rotateLeft (s.get l.d ^^^ s.get l.a) 16)
  let s := s.put l.c (s.get l.c + s.get l.d)
  let s := s.put l.b (rotateLeft (s.get l.b ^^^ s.get l.c) 12)
  let s := s.put l.a (s.get l.a + s.get l.b)
  let s := s.put l.d (rotateLeft (s.get l.d ^^^ s.get l.a) 8)
  let s := s.put l.c (s.get l.c + s.get l.d)
  s.put l.b (rotateLeft (s.get l.b ^^^ s.get l.c) 7)

/-- A round on the columns, then one on the diagonals. -/
def doubleRound (s : Square UInt32) : Square UInt32 := Square.lines.foldl quarterRound s

/-- A number of double rounds. -/
def rounds : Nat → Square UInt32 → Square UInt32
  | 0, s => s
  | n + 1, s => rounds n (doubleRound s)

/-- The words of the constant that starts every block. -/
def constants : Vector UInt32 4 := #v[0x61707865, 0x3320646e, 0x79622d32, 0x6b206574]

/-- The square before the rounds: constants, key, counter and a zero nonce. -/
def initial (key : Vector UInt32 8) (counter : UInt64) : Square UInt32 :=
  constants ++ key ++ #v[counter.toUInt32, (counter >>> 32).toUInt32, 0, 0]

/-- A block of the keystream. -/
def block (key : Vector UInt32 8) (counter : UInt64) : Square UInt32 :=
  let start := initial key counter
  Vector.zipWith (· + ·) start (rounds 6 start)

/-- The word of the keystream at a position. -/
def keystream (key : Vector UInt32 8) (position : Nat) : UInt32 :=
  (block key (UInt64.ofNat (position / 16)))[position % 16]

/-- How many words the keystream has before it repeats. -/
def period : Nat := UInt64.size * 16

end ChaCha

/-! ### Seeds -/

namespace Seed

/-- The state of the congruential generator after one step. -/
def advance (state : UInt64) : UInt64 := state * 6364136223846793005 + 11634580027462260723

/-- The word that a state of the generator gives. -/
def output (state : UInt64) : UInt32 :=
  let mixed := (((state >>> 18) ^^^ state) >>> 27).toUInt32
  let turn := (state >>> 59).toUInt32
  (mixed >>> turn) ||| (mixed <<< ((32 - turn) % 32))

/-- The state of the generator after some steps. -/
def state (seed : UInt64) : Nat → UInt64
  | 0 => seed
  | n + 1 => advance (state seed n)

/-- The key that a seed is expanded to. -/
def key (seed : UInt64) : Vector UInt32 8 := Vector.ofFn fun i => output (state seed (i.val + 1))

end Seed

/-- The source of words that a seed determines. -/
def WordSource.ofSeed (seed : UInt64) : WordSource :=
  let key := Seed.key seed
  { word := ChaCha.keystream key
    reach := ChaCha.period
    reach_pos := by decide
    position := 0 }

end LedgerClient
