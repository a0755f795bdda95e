import LedgerClient.Host.Dotted

/-!
# Addresses in brackets

An address of version 6 stands in square brackets, so that its colons are not taken for the one
in front of a port.

## The rule

There are eight groups of one to four digits in base 16, with colons between them. Two colons in a
row stand, once, for one or more groups of zero. The last two groups may be written as four decimal
numbers with points between them and without leading zeros.

This is one of the rules for hosts of the library that reads web addresses, and no rule of the program
itself; it is reached only from the node `Outside`.
-/

namespace LedgerClient.Host

/-- The value of a group of up to four digits in base 16. -/
def group? (digits : List Char) : Option Nat :=
  if digits.isEmpty || 4 < digits.length then none else number? 16 digits

/-- The value of an octet in decimal. -/
def octet? (digits : List Char) : Option Nat :=
  if digits.isEmpty || (digits.head? == some '0' && digits ≠ ['0']) then none
  else (number? 10 digits).filter (· < 256)

/-- The two groups that four octets in decimal make up. -/
def quad? (text : List Char) : Option (List Nat) := do
  match ← (Text.partsAt '.' text).mapM octet? with
  | [a, b, c, d] => return [256 * a + b, 256 * c + d]
  | _ => none

/-- The groups that texts denote, where the last one may be four octets in decimal. -/
def groups? : List (List Char) → Option (List Nat)
  | [] => some []
  | [text] => (quad? text).or ((group? text).map ([·]))
  | text :: texts => do return (← group? text) :: (← groups? texts)

/-- The texts between the colons of a part of an address, which can be empty. -/
def betweenColons (part : List Char) : List (List Char) :=
  if part.isEmpty then [] else Text.partsAt ':' part

/-- The text before the first two colons in a row and the text behind them, if there are such. -/
def atDoubleColon : List Char → List Char × Option (List Char)
  | [] => ([], none)
  | c :: rest =>
    if c = ':' ∧ rest.head? = some ':' then ([], some rest.tail)
    else
      let (before, behind) := atDoubleColon rest
      (c :: before, behind)

/-- The eight groups of an address. -/
def allGroups? (text : List Char) : Option (List Nat) := do
  match atDoubleColon text with
  | (_, none) =>
    let groups ← groups? (betweenColons text)
    if groups.length = 8 then return groups else none
  | (before, some behind) =>
    let left ← (betweenColons before).mapM group?
    let right ← groups? (betweenColons behind)
    let given := left.length + right.length
    if given < 8 then return left ++ List.replicate (8 - given) 0 ++ right else none

/-- The address that a text denotes. -/
def v6? (text : List Char) : Option IpAddress := do
  let n := (← allGroups? text).foldl (fun n group => 65536 * n + group) 0
  return .v6 ⟨Bytes.toBigEndian 16 n, Bytes.length_toBigEndian 16 n⟩

/-- The address that a text in brackets denotes. -/
def bracketed? (text : List Char) : Option IpAddress :=
  if text.getLast? = some ']' then v6? text.tail.dropLast else none

end LedgerClient.Host
