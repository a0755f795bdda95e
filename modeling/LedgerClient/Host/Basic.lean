import LedgerClient.Host.Bracketed

/-!
# Hosts

The part of a web address that says which machine is meant: a name or an Internet address.

## The rule

A host that starts with a square bracket is an address of version 6. Any other host may hold
escapes, each a percent sign and two digits in base 16 that stand for a byte; the bytes have to be
a text in UTF-8, and the text has to be a name. A name that ends in a number is an address of
version 4. A name can come out empty, since some characters are dropped from it.

The rules for hosts, in this module and in those below it, are not the program's. They stand for what
the library that reads web addresses accepts, and are reached only from the node `Outside`, which
refuses an address whose host is none. What the program does with a node does not depend on them.
-/

namespace LedgerClient

/-- A machine on the Internet. -/
inductive Host where
  /-- By its name. -/
  | named (name : Host.Name)
  /-- By its address. -/
  | address (ip : IpAddress)
  deriving DecidableEq

/-- Why a text is no host. -/
inductive HostFault where
  /-- There is nothing. -/
  | empty
  /-- It is no name. -/
  | badName
  /-- It ends in a number but is no address of version 4. -/
  | badV4
  /-- It starts with a bracket but is no address of version 6. -/
  | badV6
  deriving DecidableEq

namespace Host

/-- The bytes of a text with its escapes resolved. A percent sign without two digits behind it
stands for itself. -/
def unescaped : List Char → Bytes
  | [] => []
  | '%' :: a :: b :: rest =>
    match Bytes.hexValue? a, Bytes.hexValue? b with
    | some high, some low => UInt8.ofNat (16 * high + low) :: unescaped rest
    | _, _ => Bytes.ofText "%" ++ unescaped (a :: b :: rest)
  | c :: rest => Bytes.ofText c.toString ++ unescaped rest

/-- The host that a name is. -/
def ofName (name : Name) : Except HostFault Host :=
  if name = [[]] then .error .empty
  else if endsInNumber name then
    match dotted? name with
    | some ip => .ok (.address ip)
    | none => .error .badV4
  else .ok (.named name)

/-- The host that a text denotes. -/
def read (text : List Char) : Except HostFault Host :=
  match text with
  | [] => .error .empty
  | '[' :: _ =>
    match bracketed? text with
    | some ip => .ok (.address ip)
    | none => .error .badV6
  | _ =>
    match String.fromUTF8? ⟨(unescaped text).toArray⟩ with
    | none => .error .badName
    | some plain =>
      match name? plain.toList with
      | some name => ofName name
      | none => .error .badName

/-- Whether a host is this machine. -/
def isLoopback : Host → Bool
  | named name => name == ["localhost".toList]
  | address (.v4 octets) => octets.toList.head? == some 127
  | address (.v6 octets) => octets.toList == Bytes.toBigEndian 16 1

end Host

end LedgerClient
