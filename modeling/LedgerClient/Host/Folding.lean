import LedgerClient.Host.FoldingTable
import LedgerClient.Text.Composed
import LedgerClient.Text.Hidden

/-!
# Folded names

International host names are compared without regard to case and to characters of compatibility.
Folding brings a name into the one form: each character is kept, dropped, replaced or refused, and
the result is composed.

## The rule

ASCII is kept, with small letters for capitals; whether it can stand in a name is not asked here.
Replacements come from tables. Characters that are no more than a hint to whoever shows them are
dropped, except for the two joiners, which are kept. What is hidden is refused, and so are a few
characters whose replacements would hold points, or that only describe other characters.

This is one of the rules for hosts of the library that reads web addresses, and no rule of the program
itself; it is reached only from the node `Outside`.
-/

namespace LedgerClient.Host

/-- The joiner and the non-joiner, which have no width. -/
def isJoiner (c : Char) : Bool := c == '\u200c' || c == '\u200d'

/-- Characters that are hints for showing other characters. -/
def droppedRanges : Text.CharRanges := [
    (0xAD, 0xAD), (0x34F, 0x34F), (0x115F, 0x1160), (0x17B4, 0x17B5), (0x180B, 0x180F),
    (0x200B, 0x200B), (0x2060, 0x2064), (0x206A, 0x206F), (0x3164, 0x3164), (0xFE00, 0xFE0F),
    (0xFEFF, 0xFEFF), (0xFFA0, 0xFFA0), (0x1BCA0, 0x1BCA3), (0x1D173, 0x1D17A),
    (0xE0100, 0xE01EF)]

/-- Characters that are refused although they are not hidden. -/
def refusedRanges : Text.CharRanges := [
    (0x2024, 0x2026), (0x2488, 0x249B), (0x2FF0, 0x2FFF), (0x31EF, 0x31EF), (0x33C2, 0x33C2),
    (0x33C7, 0x33C7), (0x33D8, 0x33D8), (0xFE12, 0xFE12), (0xFE19, 0xFE19), (0xFE30, 0xFE30),
    (0xFE52, 0xFE52), (0xFFFC, 0xFFFD), (0x1F100, 0x1F100)]

/-! ### Characters -/

/-- The next character, for every second character of an alternating range. -/
def successor? (n : Nat) : Option (List Char) :=
  if alternating.any fun (first, last) => first ≤ n && n ≤ last && (n - first) % 2 == 0 then
    some [Char.ofNat (n + 1)]
  else none

/-- The character at the same place of another range. -/
def shift? (n : Nat) : Option (List Char) :=
  (shifted.find? fun (first, last, _) => first ≤ n && n ≤ last).map fun (first, _, start) =>
    [Char.ofNat (start + (n - first))]

/-- The replacement of its own that a character has. -/
def spelling? (n : Nat) : Option (List Char) :=
  spelled.findSome? fun (first, texts) => if first ≤ n then texts[n - first]? else none

/-- What replaces a character that is not ASCII, if anything does. -/
def replacement? (c : Char) : Option (List Char) :=
  (successor? c.toNat).orElse fun _ => (shift? c.toNat).orElse fun _ => spelling? c.toNat

/-- What a character becomes, unless it is refused. -/
def foldChar (c : Char) : Option (List Char) :=
  if c.toNat < 0x80 then some [c.toLower]
  else
    match replacement? c with
    | some text => some text
    | none =>
      if droppedRanges.contains c then some []
      else if isJoiner c then some [c]
      else if Text.isHidden c || refusedRanges.contains c then none
      else some [c]

/-! ### Texts -/

/-- The folded form of a text, unless one of its characters is refused. -/
def folded? (cs : List Char) : Option (List Char) :=
  (cs.mapM foldChar).map fun texts => Text.composed texts.flatten

/-- Whether a text is its own folded form. -/
def isFolded (cs : List Char) : Bool := folded? cs == some cs

end LedgerClient.Host
