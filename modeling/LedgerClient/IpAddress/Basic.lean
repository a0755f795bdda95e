import LedgerClient.Bytes

/-!
# Internet addresses on the ledger

An address of either family, and the pair of an integer and a family tag in which the ledger
stores it. The integer is the address read with its first octet highest.
-/

namespace LedgerClient

/-- An Internet address. -/
inductive IpAddress where
  /-- A version 4 address, of four octets. -/
  | v4 (octets : Octets 4)
  /-- A version 6 address, of sixteen octets. -/
  | v6 (octets : Octets 16)
  deriving DecidableEq

namespace IpAddress

/-- The family tag of version 4 addresses. -/
def tagV4 : UInt8 := 4

/-- The family tag of version 6 addresses. -/
def tagV6 : UInt8 := 6

/-- The octets of an address. -/
def octets : IpAddress → Bytes
  | .v4 o => o.toList
  | .v6 o => o.toList

/-- The integer that the ledger stores for an address. -/
def number (ip : IpAddress) : UInt128 := BitVec.ofNat 128 (Bytes.ofBigEndian ip.octets)

/-- The family tag that the ledger stores for an address. -/
def tag : IpAddress → UInt8
  | .v4 _ => tagV4
  | .v6 _ => tagV6

/-- The address that an integer and a family tag stand for. There is none for an unknown tag,
and none for a version 4 address of more than 32 bits. -/
def ofCode? (number : UInt128) (tag : UInt8) : Option IpAddress :=
  if tag = tagV4 then
    if number.toNat < UInt32.size then
      some (.v4 ⟨Bytes.toBigEndian 4 number.toNat, Bytes.length_toBigEndian 4 _⟩)
    else none
  else if tag = tagV6 then
    some (.v6 ⟨Bytes.toBigEndian 16 number.toNat, Bytes.length_toBigEndian 16 _⟩)
  else none

end IpAddress

end LedgerClient
