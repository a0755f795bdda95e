import LedgerClient.Bytes
import LedgerClient.Text.CharRange
import LedgerClient.Text.Runs

/-!
# Tables of code points as text

The large tables that a standard lays down are kept as text. A table is made of rows, each of
them of items and each of these of code points in base 16. Semicolons divide rows, blanks and line
ends divide the items of a row, and points divide the code points of an item.
-/

namespace LedgerClient.Text

/-- The number that digits in base 16 denote. -/
def codePoint (digits : List Char) : Nat :=
  digits.foldl (fun n c => 16 * n + (Bytes.hexValue? c).getD 0) 0

/-- The rows of a table, with the code points of their items. -/
def codeTable (text : String) : List (List (List Nat)) :=
  (runs (· != ';') text.toList).map fun row =>
    (runs (fun c => !c.isWhitespace) row).map fun item =>
      (runs (· != '.') item).map codePoint

end LedgerClient.Text
