import LedgerClient.Host.Name
import LedgerClient.IpAddress.Basic

/-!
# Names that are numbers

A name whose last label is a number is an address of version 4.

## The rule

There are one to four numbers, in decimal, in base 16 behind `0x` or in base 8 behind another zero;
one point may stand at the end. Each but the last is one octet; the last one fills the octets that
are left.

This is one of the rules for hosts of the library that reads web addresses, and no rule of the program
itself; it is reached only from the node `Outside`.
-/

namespace LedgerClient.Host

/-- The number that digits of a base denote; there is none if one of them is no such digit. -/
def number? (base : Nat) (digits : List Char) : Option Nat :=
  digits.foldlM (fun n c => (Bytes.hexValue? c).bind fun d =>
    if d < base then some (base * n + d) else none) 0

/-- The number that a label is. Behind the mark of a base there may be no digits. -/
def labelNumber? : List Char → Option Nat
  | [] => none
  | '0' :: 'x' :: digits => number? 16 digits
  | '0' :: c :: digits => number? 8 (c :: digits)
  | label => number? 10 label

/-- The labels without an empty one at the end. -/
def withoutRoot (name : Name) : Name :=
  if name.getLast? = some [] then name.dropLast else name

/-- Whether a name has to be an address: its last label is a number or consists of digits. -/
def endsInNumber (name : Name) : Bool :=
  match (withoutRoot name).getLast? with
  | none => false
  | some label => !label.isEmpty && (label.all Char.isDigit || (labelNumber? label).isSome)

/-- The number that the numbers of a dotted address make up, given how many octets there are. -/
def dottedNumber? : (octets : Nat) → List Nat → Option Nat
  | 0, _ => none
  | _, [] => none
  | octets + 1, [n] => if n < Nat.pow 256 (octets + 1) then some n else none
  | octets + 1, n :: rest => do
    let low ← dottedNumber? octets rest
    if n < 256 then return Nat.pow 256 octets * n + low else none

/-- The address that a name of numbers is. -/
def dotted? (name : Name) : Option IpAddress := do
  let numbers ← (withoutRoot name).mapM labelNumber?
  let n ← dottedNumber? 4 numbers
  return .v4 ⟨Bytes.toBigEndian 4 n, Bytes.length_toBigEndian 4 n⟩

end LedgerClient.Host
