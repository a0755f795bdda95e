/-!
# Uniform draws

Choosing one of `n` candidates with equal chances from a source of 32-bit words. A word `w` is
multiplied by `n`; the high half of the product is the index, and the low half decides whether
the word is taken at all. A refused word is followed by the next one.

## The model

A source of words is a function from positions to words, with the position of the next word. A
draw looks at one word at least and at no more than `reach` words. The `reach` of a source is chosen
so that an acceptable word that lies anywhere ahead lies within it: the length of a finite list that
is followed by zeros, the period of a periodic stream. A draw that finds no acceptable word there
would never end; it takes the first candidate.
-/

namespace LedgerClient

/-- A source of random words. -/
structure WordSource where
  /-- The word at each position. -/
  word : Nat → UInt32
  /-- How many words ahead one draw looks. -/
  reach : Nat
  /-- A draw looks at one word at least. -/
  reach_pos : 0 < reach
  /-- The position of the next word. -/
  position : Nat

namespace WordSource

/-- The number of zero bits above a number's highest bit, in 32 bits. -/
def leadingZeros32 (n : Nat) : Nat := 31 - Nat.log2 n

/-- The highest low half with which a word is taken. -/
def zone (n : Nat) : Nat := (n <<< leadingZeros32 n) - 1

/-- Whether a word is taken in a choice among `n` candidates. -/
def accepts (n : Nat) (w : UInt32) : Bool := w.toNat * n % UInt32.size ≤ zone n

/-- The index of the candidate that a word stands for in a choice among `n`. -/
def index (n : Nat) (w : UInt32) : Nat := w.toNat * n / UInt32.size

/-- The words of a list, then zeros for ever. -/
def ofList (words : List UInt32) : WordSource where
  word i := words.getD i 0
  reach := words.length + 1
  reach_pos := Nat.succ_pos _
  position := 0

/-- The index drawn among `n` candidates within `fuel` words, and the source after it. -/
def drawWithin (n : Nat) : Nat → WordSource → Nat × WordSource
  | 0, source => (0, source)
  | fuel + 1, source =>
    let w := source.word source.position
    let rest := { source with position := source.position + 1 }
    if accepts n w then (index n w, rest) else drawWithin n fuel rest

/-- The index drawn among `n` candidates, and the source after it. -/
def draw (n : Nat) (source : WordSource) : Nat × WordSource := drawWithin n source.reach source

/-- One of the items, with equal chances; no word is taken when there is none. -/
def pick {α : Type} (items : List α) (source : WordSource) : Option α × WordSource :=
  if items.isEmpty then (none, source)
  else
    let (i, rest) := source.draw items.length
    (items[i]?, rest)

end WordSource

end LedgerClient
