import LedgerClient.Bytes

/-!
# Dynamic values

Values as they come out of the ledger's storage and as they go into calls: primitives, composites
with named or unnamed fields, and variants that hold a composite.
-/

namespace LedgerClient

/-- The fields of a composite: with names, or without. -/
inductive Fields (α : Type) where
  /-- Fields with names; a name can occur more than once. -/
  | named (fields : List (String × α))
  /-- Fields without names. -/
  | unnamed (items : List α)

/-- A dynamic value. -/
inductive Value where
  /-- An unsigned integer of up to 128 bits. -/
  | u128 (n : UInt128)
  /-- A signed integer of up to 128 bits. -/
  | i128 (n : Int)
  /-- An unsigned integer of 256 bits, as bytes. -/
  | u256 (bytes : Octets 32)
  /-- A signed integer of 256 bits, as bytes. -/
  | i256 (bytes : Octets 32)
  /-- A truth value. -/
  | bool (b : Bool)
  /-- A character. -/
  | char (c : Char)
  /-- A text. -/
  | str (s : String)
  /-- A sequence of bits. -/
  | bits (bs : List Bool)
  /-- A composite. -/
  | composite (fields : Fields Value)
  /-- One of several alternatives, with what it holds. -/
  | variant (name : String) (fields : Fields Value)

namespace Fields

/-- The field values in order, whatever their names. -/
def values {α : Type} : Fields α → List α
  | named fields => fields.map Prod.snd
  | unnamed items => items

/-- The first field of a name; unnamed fields have none. -/
def find? {α : Type} (name : String) : Fields α → Option α
  | named fields => (fields.find? fun f => f.1 == name).map Prod.snd
  | unnamed _ => none

end Fields

namespace Value

/-! ### Making values -/

/-- A composite of unnamed fields. -/
def list (items : List Value) : Value := composite (.unnamed items)

/-- A composite of named fields. -/
def record (fields : List (String × Value)) : Value := composite (.named fields)

/-- An integer given as a natural number, modulo `2 ^ 128`. -/
def ofNat (n : Nat) : Value := u128 (BitVec.ofNat 128 n)

/-- The bytes of a byte string as a list of integers. -/
def ofBytes (bytes : Bytes) : Value := list (bytes.map fun b => ofNat b.toNat)

/-! ### Looking into values -/

/-- The first field of a name, in a composite or in what a variant holds. -/
def at? (name : String) : Value → Option Value
  | composite fields => fields.find? name
  | variant _ fields => fields.find? name
  | _ => none

/-- The unsigned integer that a value is. -/
def nat? : Value → Option Nat
  | u128 n => some n.toNat
  | _ => none

/-- The byte that a value is. -/
def byte? (v : Value) : Option UInt8 :=
  match v.nat? with
  | some n => if n < 256 then some (UInt8.ofNat n) else none
  | none => none

/-- The bytes that a list of values is, if there are 32 of them. -/
def octets32? (values : List Value) : Option (Octets 32) :=
  (values.mapM byte?).bind (Octets.ofList? 32)

/-- The account that a value is: 32 bytes, bare or inside composites of a single field. -/
def account? : Value → Option (Octets 32)
  | composite (.unnamed [inner]) => account? inner
  | composite (.named [(_, inner)]) => account? inner
  | composite fields => octets32? fields.values
  | _ => none
termination_by structural v => v

end Value

end LedgerClient
