import LedgerClient.Account.Address
import LedgerClient.Error
import LedgerClient.IpAddress.Basic
import LedgerClient.Modality
import LedgerClient.Value

/-!
# Calls

The calls of the ledger that the client knows how to make. Each has a module, a function, the
names of its parameters in order, and the one of the participant's two keys that signs it. A call
is composed from named values and checked before anything is sent.

## The model

A `Call` is one of the known kinds with exactly that kind's parameters, in order: the type holds
no other. `compose` looks at the faults of its input in a fixed order: an unknown kind, then the
first name that is no parameter, then the first parameter that is missing, then a repetition.
-/

namespace LedgerClient

/-- Which of a participant's two keys signs. -/
inductive KeyRole where
  /-- The operational key. -/
  | hotkey
  /-- The custodial key. -/
  | coldkey
  deriving DecidableEq

/-- The name of a key. -/
def KeyRole.name : KeyRole → String
  | .hotkey => "Hotkey"
  | .coldkey => "Coldkey"

/-- The known calls. -/
inductive CallKind where
  /-- Register a peer at an address. -/
  | subscribe
  /-- Put stake into a peer. -/
  | addStake
  /-- Take stake out of a peer. -/
  | removeStake
  /-- Send money to an account. -/
  | transfer
  /-- Assign weights to other peers. -/
  | setWeights
  deriving DecidableEq

namespace CallKind

/-- All known calls. -/
def all : List CallKind := [subscribe, addStake, removeStake, transfer, setWeights]

/-- The list of all known calls is complete. -/
theorem mem_all (kind : CallKind) : kind ∈ all := by cases kind <;> decide

/-- The module of the ledger that offers a call. -/
def module : CallKind → String
  | transfer => "Balances"
  | _ => "SubtensorModule"

/-- The function of the module. -/
def function : CallKind → String
  | subscribe => "subscribe"
  | addStake => "add_stake"
  | removeStake => "remove_stake"
  | transfer => "transfer"
  | setWeights => "set_weights"

/-- The names of the parameters, in order. -/
def params : CallKind → List String
  | subscribe => ["ip", "port", "ip_type", "modality", "coldkey"]
  | addStake => ["hotkey", "ammount_staked"]
  | removeStake => ["hotkey", "ammount_unstaked"]
  | transfer => ["dest", "value"]
  | setWeights => ["dests", "weights"]

/-- The key that signs: custody of money needs the coldkey. -/
def signer : CallKind → KeyRole
  | subscribe | setWeights => .hotkey
  | addStake | removeStake | transfer => .coldkey

/-- The call with a given module and function. -/
def find? (module function : String) : Option CallKind :=
  all.find? fun kind => kind.module == module && kind.function == function

end CallKind

/-- A checked call: a known kind with exactly its parameters, in order. -/
structure Call where
  /-- Which call it is. -/
  kind : CallKind
  /-- The parameters with their values. -/
  fields : List (String × Value)
  /-- They are the parameters of the kind. -/
  names_eq : fields.map Prod.fst = kind.params

namespace Call

/-! ### Composing -/

/-- The fields without the one at an index; the last field takes its place. -/
def removeAt (fields : List (String × Value)) (i : Nat) : List (String × Value) :=
  match fields.getLast? with
  | none => []
  | some last => fields.dropLast.set i last

/-- The value of the first field with a name, and the other fields. -/
def takeOut? (name : String) (fields : List (String × Value)) :
    Option (Value × List (String × Value)) :=
  match fields.findFinIdx? fun f => f.1 == name with
  | none => none
  | some i => some (fields[i].2, removeAt fields i)

/-- The values given for some parameters, in the order of the parameters, and what else was given.
Each value is taken out of what is left when it is the turn of its parameter. -/
def arrange (missing : String → Error) :
    (params : List String) → (given : List (String × Value)) →
      Except Error
        ({ fields : List (String × Value) // fields.map Prod.fst = params } × List (String × Value))
  | [], given => .ok (⟨[], rfl⟩, given)
  | p :: ps, given =>
    match takeOut? p given with
    | none => .error (missing p)
    | some (v, rest) =>
      match arrange missing ps rest with
      | .error e => .error e
      | .ok (⟨fields, names⟩, left) => .ok (⟨(p, v) :: fields, by simp [names]⟩, left)

/-- The call of a kind with the values that were arranged for it; nothing else may be left. -/
def ofArranged (kind : CallKind) (repeated : Error)
    (arranged : { fields : List (String × Value) // fields.map Prod.fst = kind.params } ×
      List (String × Value)) : Except Error Call :=
  if arranged.2.isEmpty then .ok ⟨kind, arranged.1.val, arranged.1.property⟩ else .error repeated

/-- The call of a module and function with the given values, checked against its kind. -/
def compose (module function : String) (given : List (String × Value)) : Except Error Call :=
  match CallKind.find? module function with
  | none => .error (.noSuchCall module function)
  | some kind =>
    match given.find? fun f => !kind.params.contains f.1 with
    | some (extra, _) => .error (.invalidArgument (.noParameter module function extra))
    | none =>
      let missing p := Error.invalidArgument (.missingParameter module function p)
      arrange missing kind.params given >>=
        ofArranged kind (.invalidArgument (.repeatedParameter module function))

/-- The value of a parameter. -/
def field? (call : Call) (name : String) : Option Value :=
  (call.fields.find? fun f => f.1 == name).map Prod.snd

/-- Module and function of a call. -/
def path (call : Call) : String := call.kind.module ++ "::" ++ call.kind.function

/-! ### The known calls -/

/-- Register a peer at an address. -/
def subscribe (ip : IpAddress) (port : UInt16) (modality : Modality) (coldkey : AccountId) :
    Except Error Call :=
  compose "SubtensorModule" "subscribe"
    [("ip", .u128 ip.number),
     ("port", .ofNat port.toNat),
     ("ip_type", .ofNat ip.tag.toNat),
     ("modality", .ofNat modality.toUInt8.toNat),
     ("coldkey", .ofBytes coldkey.toList)]

/-- Put stake into the peer of a uid. -/
def addStake (uid : UInt64) (amount : Balance) : Except Error Call :=
  compose "SubtensorModule" "add_stake"
    [("hotkey", .ofNat uid.toNat), ("ammount_staked", .ofNat amount.rao.toNat)]

/-- Take stake out of the peer of a uid. -/
def removeStake (uid : UInt64) (amount : Balance) : Except Error Call :=
  compose "SubtensorModule" "remove_stake"
    [("hotkey", .ofNat uid.toNat), ("ammount_unstaked", .ofNat amount.rao.toNat)]

/-- Send money to an account. -/
def transfer (dest : AccountId) (amount : Balance) : Except Error Call :=
  compose "Balances" "transfer"
    [("dest", .variant "Id" (.unnamed [.ofBytes dest.toList])),
     ("value", .ofNat amount.rao.toNat)]

/-- Assign weights to other peers, one value for each. -/
def setWeights (dests : List UInt64) (values : List UInt32) : Except Error Call :=
  if dests.length ≠ values.length then
    .error (.invalidArgument (.weightLengths dests.length values.length))
  else
    compose "SubtensorModule" "set_weights"
      [("dests", .list (dests.map fun uid => .ofNat uid.toNat)),
       ("weights", .list (values.map fun w => .ofNat w.toNat))]

end Call

/-! ### Extrinsics -/

/-- A signed and encoded call, ready for submission. -/
structure Extrinsic where
  /-- The call. -/
  call : Call
  /-- The account that signed it. -/
  signer : AccountId
  /-- The nonce it was signed with. -/
  nonce : UInt64
  /-- The encoded bytes. -/
  encoded : Bytes

namespace Extrinsic

/-- The hash of the encoded bytes. -/
def hash (x : Extrinsic) : Hash := Blake2b.digest256 x.encoded

/-- The text of the hash. -/
def hashText (x : Extrinsic) : String := x.hash.text

end Extrinsic

end LedgerClient
