import LedgerClient.Bytes
import LedgerClient.Square

/-!
# BLAKE2b

The hash function BLAKE2b without a key, for a digest of up to 64 bytes. A message is cut into
blocks of 128 bytes, the last one filled up with zeros; each block is mixed into eight words of
chain state by twelve rounds.
-/

namespace LedgerClient.Blake2b

/-- The initial words. -/
def initial : Vector UInt64 8 :=
  #v[0x6a09e667f3bcc908, 0xbb67ae8584caa73b, 0x3c6ef372fe94f82b, 0xa54ff53a5f1d36f1,
     0x510e527fade682d1, 0x9b05688c2b3e6c1f, 0x1f83d9abfb41bd6b, 0x5be0cd19137e2179]

/-- The positions of the words of a block that the rounds take: two for each line of the square. -/
def schedule : List (List (Nat × Nat)) :=
  [[(0, 1), (2, 3), (4, 5), (6, 7), (8, 9), (10, 11), (12, 13), (14, 15)],
   [(14, 10), (4, 8), (9, 15), (13, 6), (1, 12), (0, 2), (11, 7), (5, 3)],
   [(11, 8), (12, 0), (5, 2), (15, 13), (10, 14), (3, 6), (7, 1), (9, 4)],
   [(7, 9), (3, 1), (13, 12), (11, 14), (2, 6), (5, 10), (4, 0), (15, 8)],
   [(9, 0), (5, 7), (2, 4), (10, 15), (14, 1), (11, 12), (6, 8), (3, 13)],
   [(2, 12), (6, 10), (0, 11), (8, 3), (4, 13), (7, 5), (15, 14), (1, 9)],
   [(12, 5), (1, 15), (14, 13), (4, 10), (0, 7), (6, 3), (9, 2), (8, 11)],
   [(13, 11), (7, 14), (12, 1), (3, 9), (5, 0), (15, 4), (8, 6), (2, 10)],
   [(6, 15), (14, 9), (11, 3), (0, 8), (12, 2), (13, 7), (1, 4), (10, 5)],
   [(10, 2), (8, 4), (7, 6), (1, 5), (15, 11), (9, 14), (3, 12), (13, 0)]]

/-- A word rotated to the right. -/
def rotateRight (w : UInt64) (k : UInt64) : UInt64 := (w >>> k) ||| (w <<< (64 - k))

/-- The mixing of two words of a block into the words of a line. -/
def mix (v : Square UInt64) (l : Square.Line) (x y : UInt64) : Square UInt64 :=
  let v := v.put l.a (v.get l.a + v.get l.b + x)
  let v := v.put l.d (rotateRight (v.get l.d ^^^ v.get l.a) 32)
  let v := v.put l.c (v.get l.c + v.get l.d)
  let v := v.put l.b (rotateRight (v.get l.b ^^^ v.get l.c) 24)
  let v := v.put l.a (v.get l.a + v.get l.b + y)
  let v := v.put l.d (rotateRight (v.get l.d ^^^ v.get l.a) 16)
  let v := v.put l.c (v.get l.c + v.get l.d)
  v.put l.b (rotateRight (v.get l.b ^^^ v.get l.c) 63)

/-- One round: the columns, then the diagonals. -/
def round (m : Square UInt64) (v : Square UInt64) (order : List (Nat × Nat)) : Square UInt64 :=
  (Square.lines.zip order).foldl (fun v (line, i, j) => mix v line (m.getD i 0) (m.getD j 0)) v

/-- The orders of the twelve rounds: the first two come again at the end. -/
def rounds : List (List (Nat × Nat)) := schedule ++ schedule.take 2

/-- The sixteen words of a block, each from eight bytes with the lowest one first. -/
def words (block : Bytes) : Square UInt64 :=
  Vector.ofFn fun i => UInt64.ofNat (Bytes.ofLittleEndian ((block.drop (8 * i.val)).take 8))

/-- The chain state after a block, given the number of bytes up to its end and whether it is the
last one. -/
def compress (h : Vector UInt64 8) (block : Bytes) (count : Nat) (last : Bool) :
    Vector UInt64 8 :=
  let m := words block
  let start : Square UInt64 := h ++ initial
  let start := start.set 12 (start[12] ^^^ UInt64.ofNat count)
  let start := start.set 13 (start[13] ^^^ UInt64.ofNat (count / UInt64.size))
  let start := if last then start.set 14 (start[14] ^^^ 0xffffffffffffffff) else start
  let v := rounds.foldl (round m) start
  Vector.ofFn fun i => h[i] ^^^ v[i.val] ^^^ v[i.val + 8]

/-- The chain state after the rest of a message, `done` bytes of which were taken before. -/
def absorb (h : Vector UInt64 8) (done : Nat) (rest : Bytes) : Vector UInt64 8 :=
  if rest.length ≤ 128 then
    compress h (rest ++ List.replicate (128 - rest.length) 0) (done + rest.length) true
  else absorb (compress h (rest.take 128) (done + 128) false) (done + 128) (rest.drop 128)
termination_by rest.length
decreasing_by simp only [List.length_drop]; omega

/-- The chain state as bytes, each word with its lowest byte first. -/
def chainBytes (h : Vector UInt64 8) : Bytes :=
  h.toList.flatMap fun w => Bytes.toLittleEndian 8 w.toNat

/-- The chain state has 64 bytes. -/
theorem length_chainBytes (h : Vector UInt64 8) : (chainBytes h).length = 64 := by
  simp [chainBytes, List.length_flatMap, Bytes.length_toLittleEndian, List.map_const']

/-- The digest of a message, of `size` bytes. -/
def digest (size : Nat) (message : Bytes) : Bytes :=
  let start := initial.set 0 (initial[0] ^^^ (0x01010000 ^^^ UInt64.ofNat size))
  (chainBytes (absorb start 0 message)).take size

/-- A digest of up to 64 bytes has its full size. -/
theorem length_digest (size : Nat) (message : Bytes) (h : size ≤ 64) :
    (digest size message).length = size := by
  simp [digest, length_chainBytes, h]

/-- The digest of 32 bytes. -/
def digest256 (message : Bytes) : Hash := ⟨digest 32 message, length_digest 32 message (by decide)⟩

end LedgerClient.Blake2b
