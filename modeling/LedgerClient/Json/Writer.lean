import LedgerClient.Bytes

/-!
# Writing JSON

A string between double quotes, and an object on one line or with one member on each line.
-/

namespace LedgerClient.Json

/-- A character as it stands inside a string: quotes, backslashes and controls are escaped. -/
def escape (c : Char) : List Char :=
  if c = '"' then ['\\', '"']
  else if c = '\\' then ['\\', '\\']
  else if c = '\x08' then ['\\', 'b']
  else if c = '\x0c' then ['\\', 'f']
  else if c = '\n' then ['\\', 'n']
  else if c = '\r' then ['\\', 'r']
  else if c = '\t' then ['\\', 't']
  else if c.toNat < 0x20 then
    ['\\', 'u', '0', '0', Bytes.hexDigit (c.toNat / 16), Bytes.hexDigit (c.toNat % 16)]
  else [c]

/-- A string. -/
def quote (s : String) : List Char := '"' :: s.toList.flatMap escape ++ ['"']

/-- A natural number. -/
def naturalText (n : Nat) : List Char := Nat.toDigits 10 n

/-- The literal for nothing, or a value. -/
def orNull {α : Type} (write : α → List Char) : Option α → List Char
  | none => "null".toList
  | some a => write a

/-- Texts one after the other, with a separator between them. -/
def separated (separator : List Char) : List (List Char) → List Char
  | [] => []
  | [last] => last
  | item :: rest => item ++ separator ++ separated separator rest

/-- An object on one line, from its names and the texts of its values. -/
def compactObject (members : List (String × List Char)) : List Char :=
  ['\x7b'] ++ separated [','] (members.map fun (name, v) => quote name ++ [':'] ++ v) ++
    ['\x7d']

/-- An object with one member on each line, indented by two blanks. -/
def prettyObject (members : List (String × List Char)) : List Char :=
  ['\x7b', '\n'] ++
    separated [',', '\n']
      (members.map fun (name, v) => [' ', ' '] ++ quote name ++ [':', ' '] ++ v) ++
    ['\n', '\x7d']

end LedgerClient.Json
