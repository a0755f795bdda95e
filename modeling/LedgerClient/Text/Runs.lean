/-!
# Texts taken apart

Two ways to divide a text: into the maximal runs of characters that have a property, where what
lies between the runs is left out, and at every occurrence of one character, where parts can be
empty.
-/

namespace LedgerClient.Text

/-- The maximal runs of characters that have a property. -/
def runs (p : Char → Bool) (cs : List Char) : List (List Char) :=
  (cs.splitBy fun a b => p a == p b).filter fun run => run.head?.any p

/-- The parts between the occurrences of a character. -/
def partsAt (separator : Char) (cs : List Char) : List (List Char) :=
  cs.foldr (fun c parts =>
    if c = separator then [] :: parts else (c :: parts.headD []) :: parts.tail) [[]]

end LedgerClient.Text
