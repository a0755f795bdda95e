import LedgerClient.Error
import LedgerClient.IpAddress.Basic
import LedgerClient.Modality
import LedgerClient.Storage.Item

/-!
# Decoding stored values

From dynamic values to balances, uids, weights and peer records, and from raw storage keys to
uids and accounts. An absent entry never gets here; a present value without the expected shape is
malformed data, and no number is ever cut down to fit.
-/

namespace LedgerClient

/-! ### Integers and sequences -/

namespace Value

/-- The integer of 64 bits that a value is. -/
def uint64 (what : String) (v : Value) : Except Error UInt64 :=
  match v.nat? with
  | none => .error (.invalidData (.notInteger what))
  | some n =>
    if n < UInt64.size then .ok (UInt64.ofNat n) else .error (.invalidData (.outOfRange what n))

/-- The items of a sequence. -/
def items (what : String) : Value → Except Error (List Value)
  | composite fields => .ok fields.values
  | _ => .error (.invalidData (.notSequence what))

/-- The weight that a value is: an integer of 32 bits. -/
def weight (v : Value) : Except Error UInt32 :=
  match v.uint64 "weight value" with
  | .error e => .error e
  | .ok n =>
    if n.toNat < UInt32.size then .ok (UInt32.ofNat n.toNat)
    else .error (.invalidData (.outOfRange "weight value" n.toNat))

/-- The list of uids that a value is. -/
def uidList (v : Value) : Except Error (List UInt64) :=
  match v.items "weight uids" with
  | .error e => .error e
  | .ok items => items.mapM (uint64 "weight uid")

/-- The list of weights that a value is. -/
def weightList (v : Value) : Except Error (List UInt32) :=
  match v.items "weight values" with
  | .error e => .error e
  | .ok items => items.mapM weight

/-! ### Balances -/

/-- The free balance in the record of an account. -/
def freeBalance (v : Value) : Except Error Balance :=
  match ((v.at? "data").bind (at? "free")).bind nat? with
  | none => .error (.invalidData .noFreeBalance)
  | some n => (Balance.ofNat n).mapError .balance

/-- The stake that a value is. -/
def stake (v : Value) : Except Error Balance := (v.uint64 "stake").map Balance.mk

end Value

/-! ### Weights -/

/-- The weights that one peer gives to others: destinations, and a value for each. -/
structure WeightVector where
  /-- The peer that gives the weights. -/
  source : UInt64
  /-- The peers that get them. -/
  dests : List UInt64
  /-- The weights. -/
  values : List UInt32
  /-- There is one weight for each destination. -/
  length_eq : dests.length = values.length
  deriving DecidableEq

namespace WeightVector

/-- Destinations and weights put together; their numbers must agree. -/
def make (source : UInt64) (dests : List UInt64) (values : List UInt32) :
    Except Error WeightVector :=
  if h : dests.length = values.length then .ok ⟨source, dests, values, h⟩
  else .error (.invalidData (.weightLengths source dests.length values.length))

/-- The destinations with their weights. -/
def pairs (w : WeightVector) : List (UInt64 × UInt32) := w.dests.zip w.values

end WeightVector

/-! ### Peers -/

/-- The record of a registered peer. -/
structure PeerRecord where
  /-- The uid. -/
  uid : UInt64
  /-- The integer of the address. -/
  ip : UInt128
  /-- The port. -/
  port : UInt16
  /-- The family tag of the address. -/
  ipType : UInt8
  /-- The number of the modality. -/
  modality : UInt8
  /-- The account of the hotkey. -/
  hotkey : AccountId
  /-- The account of the coldkey. -/
  coldkey : AccountId
  deriving DecidableEq

namespace PeerRecord

/-- The address, if integer and family tag stand for one. -/
def ipAddress? (p : PeerRecord) : Option IpAddress := IpAddress.ofCode? p.ip p.ipType

/-- The modality, if the number stands for one. -/
def modality? (p : PeerRecord) : Option Modality := Modality.ofUInt8? p.modality

/-- Whether the record shows this integer as its address, and this port. -/
def serves (p : PeerRecord) (ip : UInt128) (port : UInt16) : Bool := p.ip == ip && p.port == port

/-- A field of a peer record. -/
def field (v : Value) (name : String) : Except Error Value :=
  match v.at? name with
  | some f => .ok f
  | none => .error (.invalidData (.noField name))

/-- An integer field of a peer record that is below a bound. -/
def narrow (v : Value) (name : String) (bound : Nat) : Except Error Nat := do
  let n ← (← field v name).uint64 name
  if n.toNat < bound then return n.toNat
  else throw (.invalidData (.outOfRange name n.toNat))

/-- An account field of a peer record. -/
def account (v : Value) (name : String) : Except Error AccountId := do
  match (← field v name).account? with
  | some a => return a
  | none => throw (.invalidData (.notAccount name))

/-- The address field of a peer record, of up to 128 bits. -/
def address (v : Value) : Except Error UInt128 := do
  match ← field v "ip" with
  | .u128 n => return n
  | _ => throw (.invalidData (.notInteger "ip"))

/-- The peer record that a value is. -/
def ofValue (v : Value) : Except Error PeerRecord := do
  let ip ← address v
  let uid ← (← field v "uid").uint64 "uid"
  let port ← narrow v "port" UInt16.size
  let ipType ← narrow v "ip_type" UInt8.size
  let modality ← narrow v "modality" UInt8.size
  let hotkey ← account v "hotkey"
  let coldkey ← account v "coldkey"
  return ⟨uid, ip, .ofNat port, .ofNat ipType, .ofNat modality, hotkey, coldkey⟩

end PeerRecord

/-! ### Raw keys -/

namespace RawKey

/-- The uid that a raw storage key ends in, with its lowest byte first. -/
def uid (key : Bytes) : Except Error UInt64 :=
  if key.length < 8 then .error (.invalidData (.shortKey "uid"))
  else .ok (UInt64.ofNat (Bytes.ofLittleEndian (key.drop (key.length - 8))))

/-- The account that a raw storage key ends in. -/
def account (key : Bytes) : Except Error AccountId :=
  match Octets.ofList? 32 (key.drop (key.length - 32)) with
  | some a => .ok a
  | none => .error (.invalidData (.shortKey "account"))

end RawKey

end LedgerClient
