import LedgerClient.IpAddress.Basic

/-!
# The text of an Internet address

Version 4 is dotted decimal. Version 6 is eight groups in base 16 without leading zeros, where
the first of the longest runs of at least two zero groups is written as two colons; an address
that holds a version 4 address behind `::ffff:` shows that one in dotted decimal.
-/

namespace LedgerClient.IpAddress

/-- Octets in decimal, with points between them. -/
def dotted (octets : Bytes) : String :=
  String.intercalate "." (octets.map fun b => toString b.toNat)

/-- The groups of two octets each. -/
def groups : Bytes → List Nat
  | a :: b :: rest => (256 * a.toNat + b.toNat) :: groups rest
  | _ => []

/-- Groups in base 16, with colons between them. -/
def colons (gs : List Nat) : String :=
  String.intercalate ":" (gs.map fun g => String.ofList (Nat.toDigits 16 g))

/-- How many zero groups the list starts with. -/
def leadingZeros (gs : List Nat) : Nat := (gs.takeWhile (· == 0)).length

/-- The longest run of zero groups, the first one of several: its start and its length. -/
def zeroRun : List Nat → Nat × Nat
  | [] => (0, 0)
  | g :: gs =>
    let here := leadingZeros (g :: gs)
    let (start, later) := zeroRun gs
    if later ≤ here then (0, here) else (start + 1, later)

/-- The text of eight groups, with the longest zero run shortened. -/
def shortened (gs : List Nat) : String :=
  let (start, count) := zeroRun gs
  if 2 ≤ count then colons (gs.take start) ++ "::" ++ colons (gs.drop (start + count))
  else colons gs

/-- Whether the octets are those of a mapped version 4 address. -/
def isMapped (octets : Bytes) : Bool :=
  octets.take 12 == List.replicate 10 0 ++ [255, 255]

/-- The text of an address. -/
def text : IpAddress → String
  | .v4 o => dotted o.toList
  | .v6 o =>
    if isMapped o.toList then "::ffff:" ++ dotted (o.toList.drop 12)
    else shortened (groups o.toList)

end LedgerClient.IpAddress
