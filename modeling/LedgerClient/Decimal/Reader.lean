import LedgerClient.Decimal.Basic

/-!
# Reading a decimal amount

The reader goes through a text once, character by character, and keeps what it has read so far.
It accepts an optional sign, then digits with at most one point among them and underscores
after the first digit. It never rounds: a text with more digits than an amount can hold is
refused.

## The refusals

A text is refused at the first character that cannot be taken. A digit that makes the mantissa
too large is too fine an amount behind the point and too large an amount before it; once 28
digits follow the point, nothing may follow, not even an underscore.
-/

namespace LedgerClient.Decimal

/-- Why a text is not a decimal amount. -/
inductive Fault where
  /-- The text is empty. -/
  | empty
  /-- A second point. -/
  | twoPoints
  /-- An underscore before the first digit. -/
  | leadingUnderscore
  /-- A character that no amount holds, or a sign that is not the first character. -/
  | unknownCharacter
  /-- Too many digits before the point. -/
  | tooLarge
  /-- Too many digits after the point. -/
  | tooFine
  /-- No digit at all. -/
  | noDigits
  deriving DecidableEq

/-- The text of a refusal. -/
def Fault.message : Fault → String
  | .empty => "Invalid decimal: empty"
  | .twoPoints => "Invalid decimal: two decimal points"
  | .leadingUnderscore => "Invalid decimal: must start lead with a number"
  | .unknownCharacter => "Invalid decimal: unknown character"
  | .tooLarge => "Invalid decimal: overflow from too many digits"
  | .tooFine => "Number has a high precision that can not be represented."
  | .noDigits => "Invalid decimal: no digits found"

/-- What has been read of an amount. -/
structure Reading where
  /-- Whether a point was read. -/
  pointSeen : Bool
  /-- Whether a digit was read. -/
  digitSeen : Bool
  /-- The digits read as one integer. -/
  mantissa : Nat
  /-- How many digits were read after the point. -/
  scale : Nat
  /-- The mantissa has 96 bits. -/
  mantissa_lt : mantissa < mantissaBound
  /-- There are at most 28 digits after the point. -/
  scale_le : scale ≤ 28

namespace Reading

/-- Nothing read yet. -/
def start : Reading := ⟨false, false, 0, 0, by decide, by decide⟩

/-- A digit of value `d` is read. -/
def digit (r : Reading) (d : Nat) (room : r.scale < 28) : Except Fault Reading :=
  if fits : 10 * r.mantissa + d < mantissaBound then
    if r.pointSeen then
      .ok { r with
        digitSeen := true, mantissa := 10 * r.mantissa + d, scale := r.scale + 1,
        mantissa_lt := fits, scale_le := room }
    else
      .ok { r with digitSeen := true, mantissa := 10 * r.mantissa + d, mantissa_lt := fits }
  else
    .error (if r.pointSeen then .tooFine else .tooLarge)

/-- One more character is read. -/
def step (r : Reading) (c : Char) : Except Fault Reading :=
  if room : r.scale < 28 then
    if c.isDigit then r.digit (c.toNat - '0'.toNat) room
    else if c = '.' then
      if r.pointSeen then .error .twoPoints else .ok { r with pointSeen := true }
    else if c = '_' then
      if r.digitSeen then .ok r else .error .leadingUnderscore
    else .error .unknownCharacter
  else .error .tooFine

/-- The rest of a text is read. -/
def run (r : Reading) : List Char → Except Fault Reading
  | [] => if r.digitSeen then .ok r else .error .noDigits
  | c :: cs =>
    match r.step c with
    | .ok next => next.run cs
    | .error fault => .error fault

/-- The amount that was read, with the sign that stood before it. -/
def amount (r : Reading) (negative : Bool) : Decimal :=
  ⟨negative, r.mantissa, r.scale, r.mantissa_lt, r.scale_le⟩

end Reading

/-- The amount that a text denotes, exactly. -/
def read : List Char → Except Fault Decimal
  | [] => .error .empty
  | '+' :: cs => (Reading.start.run cs).map (·.amount false)
  | '-' :: cs => (Reading.start.run cs).map (·.amount true)
  | cs => (Reading.start.run cs).map (·.amount false)

end LedgerClient.Decimal
