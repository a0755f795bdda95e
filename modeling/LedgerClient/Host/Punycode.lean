/-!
# Punycode

The form in which a label of a host name with characters beyond ASCII is written in ASCII.

## The rule

What is before the last hyphen is the ASCII of the label, and what is behind it says which
characters stand where among it. It is a sequence of numbers, each a number of steps from one
possible insertion to the next: all places for a character come before the first place for the
next one. The numbers are written with digits of base 36, the lowest first, where the place and
what was read before decide which digit ends a number.

Numbers of 32 bits or more are refused.

This is one of the rules for hosts of the library that reads web addresses, and no rule of the program
itself; it is reached only from the node `Outside`.
-/

namespace LedgerClient.Host.Punycode

/-- The value of a digit: letters come before decimal digits. -/
def digit? (c : Char) : Option Nat :=
  if 'a' ≤ c ∧ c ≤ 'z' then some (c.toNat - 97)
  else if '0' ≤ c ∧ c ≤ '9' then some (c.toNat - 22)
  else none

/-- The least digit with which a number goes on at a place. -/
def threshold (place bias : Nat) : Nat :=
  if place ≤ bias then 1 else if bias + 26 ≤ place then 26 else place - bias

/-- A number brought down to the size of the digits, and the places that takes. -/
def scaled (delta place : Nat) : Nat × Nat :=
  if 455 < delta then scaled (delta / 35) (place + 36) else (delta, place)
termination_by delta
decreasing_by exact Nat.div_lt_self (by omega) (by omega)

/-- The bias behind a number of steps, with the count of characters that there are by then. -/
def adapted (delta count : Nat) (isFirst : Bool) : Nat :=
  let damped := if isFirst then delta / 700 else delta / 2
  let (rest, place) := scaled (damped + damped / count) 0
  place + 36 * rest / (rest + 38)

/-- A number below 2 ^ 32. -/
def word? (n : Nat) : Option Nat := if n < UInt32.size then some n else none

/-- Reads a number on top of a sum: the new sum, and the rest of the digits. -/
def steps? (bias : Nat) : (place weight sum : Nat) → List Char → Option (Nat × List Char)
  | _, _, _, [] => none
  | place, weight, sum, c :: rest => do
    let d ← digit? c
    let sum ← word? (sum + (← word? (d * weight)))
    let t := threshold place bias
    if d < t then return (sum, rest)
    else steps? bias (place + 36) (← word? (weight * (36 - t))) sum rest

/-- Reading a number takes digits. -/
theorem length_lt_of_steps? {bias place weight sum : Nat} {cs : List Char}
    {r : Nat × List Char} (h : steps? bias place weight sum cs = some r) :
    r.2.length < cs.length := by
  induction cs generalizing place weight sum with
  | nil => simp [steps?] at h
  | cons c rest ih =>
    simp only [steps?, Option.bind_eq_bind, Option.bind_eq_some_iff] at h
    obtain ⟨d, -, product, -, total, -, h⟩ := h
    split at h
    · simp only [Option.pure_def, Option.some.injEq] at h
      simp [← h]
    · obtain ⟨w, -, h⟩ := Option.bind_eq_some_iff.1 h
      have := ih h
      simp only [List.length_cons]
      omega

/-- The character of a code point, if there is one. -/
def char? (n : Nat) : Option Char :=
  if h : n.isValidChar then some (Char.ofNatAux n h) else none

/-- Inserts the characters that digits tell of. The last insertion was before place `start` and
of the code point `code`. -/
def inserted? (bias code start : Nat) (text : List Char) (digits : List Char) :
    Option (List Char) :=
  match digits with
  | [] => some text
  | c :: rest =>
    match _h : steps? bias 36 1 start (c :: rest) with
    | none => none
    | some (sum, left) =>
      let count := text.length + 1
      match char? (code + sum / count) with
      | none => none
      | some new =>
        inserted? (adapted (sum - start) count (start == 0)) (code + sum / count)
          (sum % count + 1) (text.insertIdx (sum % count) new) left
termination_by digits.length
decreasing_by exact length_lt_of_steps? _h

/-- The ASCII of a label and the digits behind it. A hyphen at the very start divides nothing. -/
def divided (cs : List Char) : List Char × List Char :=
  let digits := (cs.reverse.takeWhile (· != '-')).reverse
  let ascii := cs.take (cs.length - digits.length - 1)
  if ascii.isEmpty then ([], cs) else (ascii, digits)

/-- The label that is written in this way. -/
def decode? (cs : List Char) : Option (List Char) :=
  let (ascii, digits) := divided cs
  if ascii.all fun c => c.toNat < 0x80 then inserted? 72 128 0 ascii digits else none

end LedgerClient.Host.Punycode
