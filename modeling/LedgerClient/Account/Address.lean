import LedgerClient.Hash.Blake2b

/-!
# Accounts and their address text

An account is the 32 bytes of its public key. Its address text is the SS58 form: a network byte,
the account and a checksum of two bytes, written in base 58.
-/

namespace LedgerClient

/-- An account, by its public key. -/
abbrev AccountId := Octets 32

namespace Base58

/-- The digits: no zero, no capital I and O, no small l. -/
def alphabet : List Char := "123456789ABCDEFGHJKLMNPQRSTUVWXYZabcdefghijkmnopqrstuvwxyz".toList

/-- The digit of a number below 58. -/
def digit (n : Nat) : Char := alphabet.getD n '1'

/-- The digits of a number, the lowest first; zero has none. -/
def digits (n : Nat) : List Char := if n = 0 then [] else digit (n % 58) :: digits (n / 58)
termination_by n
decreasing_by omega

/-- The text of a byte string: a one for each zero byte at its start, then the digits of the
number. -/
def encode (bytes : Bytes) : String :=
  String.ofList ((bytes.takeWhile (· == 0)).map (fun _ => digit 0) ++
    (digits (Bytes.ofBigEndian bytes)).reverse)

end Base58

namespace AccountId

/-- The network byte of addresses that belong to no network in particular. -/
def genericNetwork : UInt8 := 42

/-- The bytes over which the checksum of an address is taken, before its payload. -/
def checksumSalt : Bytes := Bytes.ofText "SS58PRE"

/-- The address text of an account. -/
def address (a : AccountId) : String :=
  let payload := genericNetwork :: a.toList
  Base58.encode (payload ++ (Blake2b.digest 64 (checksumSalt ++ payload)).take 2)

end AccountId

end LedgerClient
