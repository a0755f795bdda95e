/-!
# JSON values

A JSON text read into a tree, and what a tree says when a number, a text or a name is expected.

## The model

Members of an object keep their order and may repeat a name. A number is kept only as far as it
matters: a natural number written without sign, fraction and exponent has a value, any other
number has none. A string may hold an escape for half of a surrogate pair; such a string is
well-formed but denotes no text, and its content is `none`.
-/

namespace LedgerClient

/-- A JSON value. -/
inductive Json where
  /-- The literal for nothing. -/
  | null
  /-- A truth value. -/
  | bool (b : Bool)
  /-- A number without sign, fraction and exponent. -/
  | natural (n : Nat)
  /-- Any other number. -/
  | otherNumber
  /-- A string, with its text if it denotes one. -/
  | string (content : Option String)
  /-- An array. -/
  | array (items : List Json)
  /-- An object. -/
  | object (members : List (Option String × Json))

namespace Json

/-- The text of a string that denotes one. -/
def text? : Json → Option String
  | string content => content
  | _ => none

/-- A natural number of 64 bits. -/
def uint64? : Json → Option UInt64
  | natural n => if n < UInt64.size then some (UInt64.ofNat n) else none
  | _ => none

/-- The name of one of several alternatives: a string, or an object whose only member has that
name and nothing as its value. -/
def tag? : Json → Option String
  | string content => content
  | object [(name, null)] => name
  | _ => none

/-- A value that may be absent, which is written as the literal for nothing. -/
def optional? {α : Type} (decode : Json → Option α) : Json → Option (Option α)
  | null => some none
  | j => (decode j).map some

/-- The member of a name, if there is one; there may not be two. -/
def member? (name : String) (members : List (Option String × Json)) : Option (Option Json) :=
  match members.filter fun m => m.1 == some name with
  | [] => some none
  | [(_, j)] => some (some j)
  | _ => none

/-- The decoded member of a name, or a value for when there is none. -/
def field? {α : Type} (name : String) (decode : Json → Option α) (fallback : α)
    (members : List (Option String × Json)) : Option α :=
  match member? name members with
  | some (some j) => decode j
  | some none => some fallback
  | none => none

/-- The decoded item at a position, or a value for when there is none. -/
def item? {α : Type} (position : Nat) (decode : Json → Option α) (fallback : α)
    (items : List Json) : Option α :=
  match items[position]? with
  | some j => decode j
  | none => some fallback

end Json

end LedgerClient
