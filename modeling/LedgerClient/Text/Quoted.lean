import LedgerClient.Text.Unprintable

/-!
# Quoted texts

How texts, lists of texts and lists of bytes are shown inside messages: a text stands between
double quotes, with an escape for each character that would end it or could not be seen, and a
list stands between square brackets with its items separated by a comma and a space.
-/

namespace LedgerClient.Text

/-- The digits of a number in base 16, in lower case and without leading zeros. -/
def hexDigits (n : Nat) : String := String.ofList (Nat.toDigits 16 n)

/-- A character as it stands inside a quoted text. -/
def escape (c : Char) : String :=
  if c = '"' then "\\\""
  else if c = '\\' then "\\\\"
  else if c = '\n' then "\\n"
  else if c = '\r' then "\\r"
  else if c = '\t' then "\\t"
  else if c.toNat = 0 then "\\0"
  else if isUnprintable c then "\\u\x7b" ++ hexDigits c.toNat ++ "\x7d"
  else c.toString

/-- A text between double quotes. -/
def quoted (s : String) : String := "\"" ++ String.join (s.toList.map escape) ++ "\""

/-- A list of shown items between square brackets. -/
def bracketed (items : List String) : String := "[" ++ String.intercalate ", " items ++ "]"

/-- A list of quoted texts. -/
def quotedList (items : List String) : String := bracketed (items.map quoted)

/-- A list of numbers, one for each byte. -/
def byteList (bytes : List UInt8) : String := bracketed (bytes.map fun b => toString b.toNat)

end LedgerClient.Text
