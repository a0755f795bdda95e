/-!
# Decimal amounts

A decimal amount is a sign, a mantissa of 96 bits and a scale of at most 28: the number
`mantissa / 10 ^ scale`, negative or not. One number has several forms, which differ in their
trailing zeros; zero also has two signs. The text of an amount shows its form: it has exactly
`scale` digits after the point.
-/

namespace LedgerClient

/-- What bounds a mantissa of 96 bits. -/
abbrev Decimal.mantissaBound : Nat := 0x1000000000000000000000000

/-- A signed decimal amount with its form. -/
structure Decimal where
  /-- Whether the sign is minus. -/
  negative : Bool
  /-- The digits read as one integer. -/
  mantissa : Nat
  /-- How many of the digits follow the point. -/
  scale : Nat
  /-- The mantissa has 96 bits. -/
  mantissa_lt : mantissa < Decimal.mantissaBound
  /-- There are at most 28 digits after the point. -/
  scale_le : scale ≤ 28
  deriving DecidableEq

namespace Decimal

/-- The amount with a given integer mantissa and scale, if it has that form. -/
def ofInt? (mantissa : Int) (scale : Nat) : Option Decimal :=
  if h : mantissa.natAbs < mantissaBound ∧ scale ≤ 28 then
    some ⟨mantissa < 0, mantissa.natAbs, scale, h.1, h.2⟩
  else none

/-- What one unit before the point counts for in a mantissa, given a scale: a power of ten. -/
def unit (scale : Nat) : Nat := Nat.pow 10 scale

/-- The amount with its sign set to minus, also when it is zero. -/
def negated (d : Decimal) : Decimal := { d with negative := true }

/-- The `k` lowest decimal digits of a number, the highest first. -/
def lowDigits : Nat → Nat → List Char
  | 0, _ => []
  | k + 1, n => lowDigits k (n / 10) ++ [Nat.digitChar (n % 10)]

/-- The digits of the text: the integer part, and the fractional digits behind a point. -/
def digits (mantissa scale : Nat) : List Char :=
  Nat.toDigits 10 (mantissa / unit scale) ++
    if scale = 0 then [] else '.' :: lowDigits scale mantissa

/-- The text of an amount, with exactly `scale` digits after the point. -/
def text (d : Decimal) : String :=
  String.ofList ((if d.negative then ['-'] else []) ++ digits d.mantissa d.scale)

end Decimal

end LedgerClient
