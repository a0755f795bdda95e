/-!
# Sets of characters given by ranges

A property of characters that a standard lays down as a table is kept as a list of ranges of
code points.
-/

namespace LedgerClient.Text

/-- Ranges of code points, each with its first and its last one. -/
abbrev CharRanges := List (Nat × Nat)

/-- Whether a character lies in one of the ranges. -/
def CharRanges.contains (ranges : CharRanges) (c : Char) : Bool :=
  ranges.any fun (first, last) => first ≤ c.toNat && c.toNat ≤ last

end LedgerClient.Text
