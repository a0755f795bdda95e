import LedgerClient.Bytes
import LedgerClient.Json.Basic

/-!
# Reading JSON

A recursive descent over the characters of a text. Each function takes the rest of the text and
gives what it read with what is left, or nothing when the text is not well-formed.

## Termination

Values nest, so the three functions for values, items and members carry a bound on the depth of
their calls. Along any chain of calls every second one takes a bracket, a comma or a colon, so
twice the length of the text, and two more, is never reached.
-/

namespace LedgerClient.Json

/-- The blanks between tokens. -/
def isSpace (c : Char) : Bool := c == ' ' || c == '\t' || c == '\n' || c == '\r'

/-- The text without the blanks at its start. -/
def skipSpace (s : List Char) : List Char := s.dropWhile isSpace

/-! ### Strings -/

/-- A piece of a string: a character, or a 16-bit code unit given by an escape. -/
inductive Piece where
  /-- A character that stands for itself, or a short escape. -/
  | char (c : Char)
  /-- A code unit written in base 16. -/
  | unit (n : Nat)

/-- Where the reader of a string stands. -/
inductive Place where
  /-- Between pieces. -/
  | between
  /-- Behind a backslash. -/
  | escape
  /-- Inside a code unit: the digits still to come, and the value of those read. -/
  | digits (left value : Nat)

/-- The character that a short escape stands for. -/
def shortEscape? (c : Char) : Option Char :=
  if c = '"' then some '"'
  else if c = '\\' then some '\\'
  else if c = '/' then some '/'
  else if c = 'b' then some '\x08'
  else if c = 'f' then some '\x0c'
  else if c = 'n' then some '\n'
  else if c = 'r' then some '\r'
  else if c = 't' then some '\t'
  else none

/-- The pieces of a string up to its closing quote, and the text behind it. -/
def pieces? : Place → List Char → Option (List Piece × List Char)
  | _, [] => none
  | .between, c :: rest =>
    if c = '"' then some ([], rest)
    else if c = '\\' then pieces? .escape rest
    else if c.toNat < 0x20 then none
    else (pieces? .between rest).map fun (ps, left) => (.char c :: ps, left)
  | .escape, c :: rest =>
    if c = 'u' then pieces? (.digits 4 0) rest
    else
      match shortEscape? c with
      | some e => (pieces? .between rest).map fun (ps, left) => (.char e :: ps, left)
      | none => none
  | .digits left value, c :: rest =>
    match Bytes.hexValue? c with
    | none => none
    | some d =>
      if left ≤ 1 then
        (pieces? .between rest).map fun (ps, left) => (.unit (16 * value + d) :: ps, left)
      else pieces? (.digits (left - 1) (16 * value + d)) rest

/-- Whether a code unit is the first half of a surrogate pair. -/
def isHighHalf (n : Nat) : Bool := 0xD800 ≤ n && n ≤ 0xDBFF

/-- Whether a code unit is the second half of a surrogate pair. -/
def isLowHalf (n : Nat) : Bool := 0xDC00 ≤ n && n ≤ 0xDFFF

/-- The character of a surrogate pair. -/
def pairChar (high low : Nat) : Char :=
  Char.ofNat (0x10000 + 0x400 * (high - 0xD800) + (low - 0xDC00))

/-- The characters that pieces denote: surrogates must come in pairs. -/
def content? : List Piece → Option (List Char)
  | [] => some []
  | .char c :: rest => (content? rest).map (c :: ·)
  | .unit high :: .unit low :: rest =>
    if isHighHalf high then
      if isLowHalf low then (content? rest).map (pairChar high low :: ·) else none
    else if isLowHalf high then none
    else (content? (.unit low :: rest)).map (Char.ofNat high :: ·)
  | .unit n :: rest =>
    if isHighHalf n || isLowHalf n then none else (content? rest).map (Char.ofNat n :: ·)

/-- The content of a string whose opening quote was read, and the text behind it. -/
def string? (s : List Char) : Option (Option String × List Char) :=
  (pieces? .between s).map fun (ps, left) => ((content? ps).map String.ofList, left)

/-! ### Numbers -/

/-- A run of at least one digit, and the text behind it. -/
def digits? (s : List Char) : Option (List Char × List Char) :=
  let ds := s.takeWhile Char.isDigit
  if ds.isEmpty then none else some (ds, s.dropWhile Char.isDigit)

/-- The integer part of a number: no zero stands before another digit. -/
def integerPart? (s : List Char) : Option (Nat × List Char) :=
  match digits? s with
  | some (ds, rest) =>
    if 1 < ds.length ∧ ds.head? = some '0' then none
    else some (Nat.ofDigitChars 10 ds 0, rest)
  | none => none

/-- The text behind a fraction, and whether there was one. -/
def fraction? : List Char → Option (Bool × List Char)
  | '.' :: rest => (digits? rest).map fun (_, left) => (true, left)
  | s => some (false, s)

/-- The text without a sign at its start. -/
def dropSign : List Char → List Char
  | '+' :: rest => rest
  | '-' :: rest => rest
  | s => s

/-- The text behind an exponent, and whether there was one. -/
def exponent? : List Char → Option (Bool × List Char)
  | 'e' :: rest => (digits? (dropSign rest)).map fun (_, left) => (true, left)
  | 'E' :: rest => (digits? (dropSign rest)).map fun (_, left) => (true, left)
  | s => some (false, s)

/-- A number without a minus sign, and the text behind it. -/
def unsigned? (s : List Char) : Option (Json × List Char) := do
  let (n, s) ← integerPart? s
  let (fraction, s) ← fraction? s
  let (exponent, s) ← exponent? s
  return (if fraction || exponent then .otherNumber else .natural n, s)

/-- A number, and the text behind it. -/
def number? : List Char → Option (Json × List Char)
  | '-' :: rest => (unsigned? rest).map fun (_, left) => (.otherNumber, left)
  | s => unsigned? s

/-! ### Values -/

/-- The text behind a word, if it starts with that word. -/
def afterWord? : List Char → List Char → Option (List Char)
  | [], s => some s
  | _ :: _, [] => none
  | w :: word, c :: s => if w = c then afterWord? word s else none

/-- A literal, and the text behind it. -/
def literal? (word : String) (j : Json) (s : List Char) : Option (Json × List Char) :=
  (afterWord? word.toList s).map fun left => (j, left)

mutual

/-- A value, and the text behind it. -/
def value? : Nat → List Char → Option (Json × List Char)
  | 0, _ => none
  | depth + 1, s =>
    match skipSpace s with
    | [] => none
    | c :: rest =>
      if c = '"' then (string? rest).map fun (content, left) => (.string content, left)
      else if c = '[' then
        match skipSpace rest with
        | ']' :: left => some (.array [], left)
        | inner => (items? depth inner).map fun (items, left) => (.array items, left)
      else if c = '\x7b' then
        match skipSpace rest with
        | '\x7d' :: left => some (.object [], left)
        | inner => (members? depth inner).map fun (members, left) => (.object members, left)
      else if c = 'n' then literal? "null" .null (c :: rest)
      else if c = 't' then literal? "true" (.bool true) (c :: rest)
      else if c = 'f' then literal? "false" (.bool false) (c :: rest)
      else number? (c :: rest)

/-- The items of an array from the next one on, and the text behind the closing bracket. -/
def items? : Nat → List Char → Option (List Json × List Char)
  | 0, _ => none
  | depth + 1, s =>
    match value? depth s with
    | none => none
    | some (j, rest) =>
      match skipSpace rest with
      | ',' :: more => (items? depth more).map fun (js, left) => (j :: js, left)
      | ']' :: left => some ([j], left)
      | _ => none

/-- The members of an object from the next one on, and the text behind the closing brace. -/
def members? : Nat → List Char → Option (List (Option String × Json) × List Char)
  | 0, _ => none
  | depth + 1, s =>
    match skipSpace s with
    | '"' :: rest =>
      match string? rest with
      | none => none
      | some (name, rest) =>
        match skipSpace rest with
        | ':' :: rest =>
          match value? depth rest with
          | none => none
          | some (j, rest) =>
            match skipSpace rest with
            | ',' :: more => (members? depth more).map fun (ms, left) => ((name, j) :: ms, left)
            | '\x7d' :: left => some ([(name, j)], left)
            | _ => none
        | _ => none
    | _ => none

end

/-- The value that a text denotes, with nothing but blanks around it. -/
def parse? (text : String) : Option Json :=
  let s := text.toList
  match value? (2 * s.length + 2) s with
  | some (j, left) => if (skipSpace left).isEmpty then some j else none
  | none => none

end LedgerClient.Json
