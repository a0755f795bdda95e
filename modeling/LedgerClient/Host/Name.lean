import LedgerClient.Host.Direction
import LedgerClient.Host.Joiner
import LedgerClient.Host.Punycode

/-!
# Names of hosts

A name is a sequence of labels with points between them. Names are international: a label may hold
letters of any script, or be written in ASCII behind the mark `xn--`.

## The rule

A name is folded first, and only then taken apart into labels. A label behind the mark has to be
the ASCII form of a text that is folded already and is not ASCII itself. A label does not start
with a mark, has joiners only where they make a difference and holds none of the characters that
divide a web address. Labels may be empty. All labels together keep to the rule about directions
of writing. Labels of an excessive length are refused where they are beyond ASCII.

This is one of the rules for hosts of the library that reads web addresses, and no rule of the program
itself; it is reached only from the node `Outside`.
-/

namespace LedgerClient.Host

/-- A name by its labels. -/
abbrev Name := List (List Char)

/-- Whether a character is ASCII. -/
def isAscii (c : Char) : Bool := c.toNat < 0x80

/-- Whether an ASCII character stands in no name of a host: controls, blanks, and the characters
that divide a web address. -/
def isForbidden (c : Char) : Bool :=
  c.toNat ≤ 0x20 || c.toNat == 0x7F || "#%/:<>?@[\\]^|".toList.contains c

/-- The greatest length of what stands behind the mark of a label. -/
def longestWritten : Nat := 2000

/-- The greatest length of a label that is not ASCII. -/
def longestLabel : Nat := 1000

/-- The text that a label stands for, if the label is written well. -/
def label? : List Char → Option (List Char)
  | 'x' :: 'n' :: '-' :: '-' :: written =>
    if written.all isAscii && written.length ≤ longestWritten then
      (Punycode.decode? written).filter fun text => isFolded text && !text.all isAscii
    else none
  | label => some label

/-- Whether a label can stand in a name. -/
def isLabel (label : List Char) : Bool :=
  !label.any isForbidden && !label.head?.any Text.isMark && joinersUseful [] label &&
    (label.all isAscii || label.length ≤ longestLabel)

/-- The name that a text denotes. -/
def name? (text : List Char) : Option Name := do
  let labels ← (Text.partsAt '.' (← folded? text)).mapM label?
  if labels.all isLabel && isOneWay labels then return labels else none

end LedgerClient.Host
