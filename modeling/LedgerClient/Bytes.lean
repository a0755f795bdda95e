/-!
# Byte strings

Byte strings, byte strings of a fixed length, their hexadecimal text, and the numbers they
denote when read with the highest or the lowest byte first.

## The model

A byte string is a list of bytes. `Octets n` is a byte string of exactly `n` bytes, so that
an account, a hash or an address has its length in its type. `toBigEndian k n` keeps the `k`
lowest bytes of `n`; on numbers below `256 ^ k` it is the inverse of `ofBigEndian`.
-/

namespace LedgerClient

/-- A string of bytes. -/
abbrev Bytes := List UInt8

/-- An unsigned integer of 128 bits. -/
abbrev UInt128 := BitVec 128

/-- Exactly `n` bytes. -/
structure Octets (n : Nat) where
  /-- The bytes, first to last. -/
  toList : Bytes
  /-- There are `n` of them. -/
  length_eq : toList.length = n
  deriving DecidableEq

/-- A block or extrinsic hash. -/
abbrev Hash := Octets 32

namespace Octets

/-- The byte string as one of `n` bytes, if that is its length. -/
def ofList? (n : Nat) (bytes : Bytes) : Option (Octets n) :=
  if h : bytes.length = n then some ⟨bytes, h⟩ else none

/-- The byte `b`, `n` times. -/
def replicate (n : Nat) (b : UInt8) : Octets n := ⟨List.replicate n b, List.length_replicate⟩

/-- Byte strings of one length are equal when their bytes are. -/
theorem ext {n : Nat} {a b : Octets n} (h : a.toList = b.toList) : a = b := by
  cases a
  cases b
  simp_all

end Octets

namespace Bytes

/-! ### Numbers -/

/-- The number the bytes denote when the first one is the highest. -/
def ofBigEndian (bytes : Bytes) : Nat := bytes.foldl (fun n b => 256 * n + b.toNat) 0

/-- The `k` lowest bytes of a number, the highest first. -/
def toBigEndian : Nat → Nat → Bytes
  | 0, _ => []
  | k + 1, n => toBigEndian k (n / 256) ++ [UInt8.ofNat n]

/-- The number the bytes denote when the first one is the lowest. -/
def ofLittleEndian (bytes : Bytes) : Nat := bytes.foldr (fun b n => b.toNat + 256 * n) 0

/-- The `k` lowest bytes of a number, the lowest first. -/
def toLittleEndian : Nat → Nat → Bytes
  | 0, _ => []
  | k + 1, n => UInt8.ofNat n :: toLittleEndian k (n / 256)

/-- `k` bytes are written. -/
theorem length_toBigEndian (k n : Nat) : (toBigEndian k n).length = k := by
  induction k generalizing n with
  | zero => rfl
  | succ k ih => simp [toBigEndian, ih]

/-- `k` bytes are written. -/
theorem length_toLittleEndian (k n : Nat) : (toLittleEndian k n).length = k := by
  induction k generalizing n with
  | zero => rfl
  | succ k ih => simp [toLittleEndian, ih]

/-! ### Hexadecimal text -/

/-- The lower-case hexadecimal digit of a number below 16. -/
def hexDigit (n : Nat) : Char := if n < 10 then Char.ofNat (48 + n) else Char.ofNat (87 + n)

/-- The value of a hexadecimal digit of either case. -/
def hexValue? (c : Char) : Option Nat :=
  if '0' ≤ c ∧ c ≤ '9' then some (c.toNat - 48)
  else if 'a' ≤ c ∧ c ≤ 'f' then some (c.toNat - 87)
  else if 'A' ≤ c ∧ c ≤ 'F' then some (c.toNat - 55)
  else none

/-- The bytes as lower-case hexadecimal digits, two for each. -/
def hex (bytes : Bytes) : String :=
  String.ofList (bytes.flatMap fun b => [hexDigit (b.toNat / 16), hexDigit (b.toNat % 16)])

/-- The bytes that pairs of hexadecimal digits denote. -/
def ofHexDigits? : List Char → Option Bytes
  | [] => some []
  | a :: b :: rest => do
    let high ← hexValue? a
    let low ← hexValue? b
    let bytes ← ofHexDigits? rest
    return UInt8.ofNat (16 * high + low) :: bytes
  | [_] => none

/-- The bytes that a hexadecimal text denotes. -/
def ofHex? (text : String) : Option Bytes := ofHexDigits? text.toList

/-- The bytes of a text in UTF-8. -/
def ofText (text : String) : Bytes := text.toUTF8.data.toList

end Bytes

/-- The hexadecimal text of the bytes, behind the mark of that notation. -/
def Octets.text {n : Nat} (o : Octets n) : String := "0x" ++ Bytes.hex o.toList

end LedgerClient
