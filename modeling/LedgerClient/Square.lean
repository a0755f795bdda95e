/-!
# Squares of words

Sixteen words in four rows of four. A family of ciphers and hash functions stirs such a square in
rounds: first along its four columns, then along its four diagonals.
-/

namespace LedgerClient

/-- Sixteen words, row by row. -/
abbrev Square (α : Type) := Vector α 16

namespace Square

/-- Four positions in a square, one in each row. -/
structure Line where
  /-- The position in the first row. -/
  a : Fin 16
  /-- The position in the second row. -/
  b : Fin 16
  /-- The position in the third row. -/
  c : Fin 16
  /-- The position in the fourth row. -/
  d : Fin 16

/-- The four columns. -/
def columns : List Line := [⟨0, 4, 8, 12⟩, ⟨1, 5, 9, 13⟩, ⟨2, 6, 10, 14⟩, ⟨3, 7, 11, 15⟩]

/-- The four diagonals; those that leave the square on the right come back on the left. -/
def diagonals : List Line := [⟨0, 5, 10, 15⟩, ⟨1, 6, 11, 12⟩, ⟨2, 7, 8, 13⟩, ⟨3, 4, 9, 14⟩]

/-- The lines of a round, in order. -/
def lines : List Line := columns ++ diagonals

/-- The square with another word at a position. -/
def put {α : Type} (s : Square α) (i : Fin 16) (w : α) : Square α := s.set i w

end Square

end LedgerClient
