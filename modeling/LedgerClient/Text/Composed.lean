import LedgerClient.Text.ComposedTable

/-!
# Composed texts

One and the same text can be written with composite characters or with the characters and marks
that they are made of, and with marks in different orders. In its composed form every character
stands together with the marks behind it as far as there is a character for them: the text is
taken apart, the marks behind each character are put in the order of their combining classes, and
what has a composite is put together again.

## The model

The table of composites lists pairs. Hangul syllables follow a rule instead: a syllable is a
leading consonant, a vowel and perhaps a trailing consonant, and their numbers make up its number.
Composites are at most three pairs deep. Characters that have a composed form of their own but no
pair, which texts are rid of by folding, are left as they are.
-/

namespace LedgerClient.Text

/-- The combining class of a character; most characters have class 0, and so has each of the
first ones. -/
def combiningClass (c : Char) : Nat :=
  if c.toNat < 0x300 then 0
  else
    match combiningRanges.find? fun (_, ranges) => ranges.contains c with
    | some (k, _) => k
    | none => 0

/-! ### Hangul -/

/-- The number of a syllable or a part of one, counted from the first of its kind. -/
def indexFrom? (first count : Nat) (c : Char) : Option Nat :=
  if first ≤ c.toNat ∧ c.toNat < first + count then some (c.toNat - first) else none

/-- The two parts of a Hangul syllable: the syllable without its trailing consonant and that
consonant, or the leading consonant and the vowel. -/
def syllableParts? (c : Char) : Option (Char × Char) :=
  (indexFrom? 0xAC00 11172 c).map fun n =>
    if n % 28 = 0 then (Char.ofNat (0x1100 + n / 588), Char.ofNat (0x1161 + n % 588 / 28))
    else (Char.ofNat (c.toNat - n % 28), Char.ofNat (0x11A7 + n % 28))

/-- The Hangul syllable that two parts make up. -/
def syllable? (a b : Char) : Option Char :=
  match indexFrom? 0x1100 19 a, indexFrom? 0x1161 21 b with
  | some l, some v => some (Char.ofNat (0xAC00 + 588 * l + 28 * v))
  | _, _ =>
    match indexFrom? 0xAC00 11172 a, indexFrom? 0x11A8 27 b with
    | some n, some t => if n % 28 = 0 then some (Char.ofNat (a.toNat + t + 1)) else none
    | _, _ => none

/-! ### Pairs -/

/-- The two characters that a composite is made of. No ASCII character is a composite. -/
def parts? (c : Char) : Option (Char × Char) :=
  if c.toNat < 0x80 then none
  else (syllableParts? c).orElse fun _ =>
    composites.findSome? fun (second, pairs) =>
      (pairs.find? fun (_, whole) => whole == c.toNat).map fun (first, _) =>
        (Char.ofNat first, Char.ofNat second)

/-- The composite of two characters. -/
def composite? (a b : Char) : Option Char :=
  (syllable? a b).orElse fun _ =>
    (composites.lookup b.toNat).bind fun pairs =>
      (pairs.lookup a.toNat).map Char.ofNat

/-! ### The composed form -/

/-- A character taken apart, down to a depth. -/
def takenApart : Nat → Char → List Char
  | 0, c => [c]
  | depth + 1, c =>
    match parts? c with
    | some (a, b) => takenApart depth a ++ takenApart depth b
    | none => [c]

/-- A character put in front of ordered ones: behind those with a lower class other than 0. -/
def place (c : Char) : List Char → List Char
  | [] => [c]
  | d :: rest =>
    if 0 < combiningClass d ∧ combiningClass d < combiningClass c then d :: place c rest
    else c :: d :: rest

/-- The characters with the marks between two of class 0 in the order of their classes. -/
def ordered (cs : List Char) : List Char := cs.foldr place []

/-- A character and what is behind it, put together. Between the two stand marks that were passed
over, the last of them of class `last`; a character is blocked by one of its own class or above. -/
def joined (starter : Char) : (passed : List Char) → (last : Nat) → List Char → List Char
  | passed, _, [] => starter :: passed.reverse
  | passed, last, c :: rest =>
    let k := combiningClass c
    match if passed.isEmpty || last < k then composite? starter c else none with
    | some whole => joined whole passed last rest
    | none =>
      if k = 0 then starter :: passed.reverse ++ joined c [] 0 rest
      else joined starter (c :: passed) k rest

/-- The composed form of a text. -/
def composed (cs : List Char) : List Char :=
  match ordered (cs.flatMap (takenApart 3)) with
  | [] => []
  | c :: rest => joined c [] 0 rest

end LedgerClient.Text
