import LedgerClient.Client.Basic
import LedgerClient.Storage.Decode

/-!
# Reading the ledger

Reads of single entries, of whole maps and of blocks. A single entry that is absent reads as
`none`, except that an account without a record holds nothing; a present entry is decoded, and one
that cannot be decoded is an error. Whole maps can be read as they were in a given block.
-/

namespace LedgerClient

/-- An entry decoded if it is present. -/
def decodeEntry {α : Type} (decode : Value → Except Error α) :
    Option Value → Except Error (Option α)
  | none => .ok none
  | some v => (decode v).map some

/-- One entry of a map, with its key decoded, then its value. -/
def decodePair {κ α : Type} (key : Bytes → Except Error κ) (decode : Value → Except Error α)
    (entry : Bytes × Value) : Except Error (κ × α) :=
  match key entry.1 with
  | .error e => .error e
  | .ok k => (decode entry.2).map fun a => (k, a)

/-- All entries of a map, decoded in order up to the first one that cannot be. -/
def decodeEntries {κ α : Type} (key : Bytes → Except Error κ) (decode : Value → Except Error α)
    (entries : List (Bytes × Value)) : Except Error (List (κ × α)) :=
  entries.mapM (decodePair key decode)

namespace Client

variable {σ : Type} [Node σ]

/-! ### Raw reads -/

/-- A storage entry, in the latest block or in a given one. -/
def query (item : StorageItem) (block : Option Hash) : Action σ (Option Value) := do
  .note (.query item)
  .reading fun link => .ask link (.fetch item block)

/-- All entries of a storage map, in the latest block or in a given one. -/
def queryMap (map : StorageMap) (block : Option Hash) : Action σ (List (Bytes × Value)) := do
  .note (.queryMap map)
  .reading fun link => .ask link (.entries map block)

/-- A storage entry of the latest block, decoded if it is present. -/
def queryEntry {α : Type} (item : StorageItem) (decode : Value → Except Error α) :
    Action σ (Option α) := do
  let v ← query item none
  .finish (decodeEntry decode v)

/-- All entries of a storage map, decoded. -/
def queryEntries {κ α : Type} (map : StorageMap) (block : Option Hash)
    (key : Bytes → Except Error κ) (decode : Value → Except Error α) :
    Action σ (List (κ × α)) := do
  let entries ← queryMap map block
  .finish (decodeEntries key decode entries)

/-! ### Blocks -/

/-- The number of the latest block. -/
def currentBlock : Action σ UInt64 := .reading fun link => .ask link (.blockNumber none)

/-- The number of the block with a hash. -/
def blockNumber (hash : Hash) : Action σ UInt64 :=
  .reading fun link => .ask link (.blockNumber (some hash))

/-- The hash of the block with a number, if there is such a block yet. -/
def blockHash (number : UInt64) : Action σ (Option Hash) :=
  .reading fun link => .ask link (.blockHash number)

/-! ### Single entries -/

/-- The free balance of an account; an account without a record holds nothing. -/
def balance (account : AccountId) : Action σ Balance := do
  match ← query (.account account) none with
  | none =>
    .note (.noAccount account)
    return Balance.zero
  | some v => .finish v.freeBalance

/-- The uid of a hotkey. -/
def uidOf (hotkey : AccountId) : Action σ (Option UInt64) :=
  queryEntry (.active hotkey) (Value.uint64 "uid")

/-- The record of a peer. -/
def neuron (uid : UInt64) : Action σ (Option PeerRecord) :=
  queryEntry (.neuron uid) PeerRecord.ofValue

/-- The stake of a peer. -/
def stake (uid : UInt64) : Action σ (Option Balance) := queryEntry (.stake uid) Value.stake

/-- The peers that a peer gives weights to. -/
def weightUids (uid : UInt64) : Action σ (Option (List UInt64)) :=
  queryEntry (.weightUids uid) Value.uidList

/-- The weights that a peer gives. -/
def weightVals (uid : UInt64) : Action σ (Option (List UInt32)) :=
  queryEntry (.weightVals uid) Value.weightList

/-- The block in which a peer last emitted. -/
def lastEmit (uid : UInt64) : Action σ (Option UInt64) :=
  queryEntry (.lastEmit uid) (Value.uint64 "last emit")

/-- Destinations and weights of a peer put together; one that is absent counts as empty when the
other one is present. -/
def joinWeights (uid : UInt64) :
    Option (List UInt64) → Option (List UInt32) → Except Error (Option WeightVector)
  | none, none => .ok none
  | dests, values => (WeightVector.make uid (dests.getD []) (values.getD [])).map some

/-- The weights that a peer gives, with their destinations. -/
def weights (uid : UInt64) : Action σ (Option WeightVector) := do
  let dests ← weightUids uid
  let values ← weightVals uid
  .finish (joinWeights uid dests values)

/-! ### Whole maps -/

/-- All hotkeys with their uids. -/
def activeMap (block : Option Hash) : Action σ (List (AccountId × UInt64)) :=
  queryEntries .active block RawKey.account (Value.uint64 "uid")

/-- All uids with their stakes. -/
def stakeMap (block : Option Hash) : Action σ (List (UInt64 × Balance)) :=
  queryEntries .stake block RawKey.uid Value.stake

/-- All uids with the block of their last emission. -/
def lastEmitMap (block : Option Hash) : Action σ (List (UInt64 × UInt64)) :=
  queryEntries .lastEmit block RawKey.uid (Value.uint64 "last emit")

/-- All uids with the peers that they give weights to. -/
def weightUidsMap (block : Option Hash) : Action σ (List (UInt64 × List UInt64)) :=
  queryEntries .weightUids block RawKey.uid Value.uidList

/-- All uids with the weights that they give. -/
def weightValsMap (block : Option Hash) : Action σ (List (UInt64 × List UInt32)) :=
  queryEntries .weightVals block RawKey.uid Value.weightList

/-- All registered peers. -/
def neurons (block : Option Hash) : Action σ (List (UInt64 × PeerRecord)) := do
  let peers ← queryEntries .neurons block RawKey.uid PeerRecord.ofValue
  .note (.peers peers.length)
  return peers

/-! ### Registration -/

/-- The uid under which the wallet's hotkey is registered with a record of this address and port,
if it is. -/
def registeredAs (wallet : Wallet) (ip : IpAddress) (port : UInt16) :
    Action σ (Option UInt64) := do
  match ← uidOf wallet.hotkey.account with
  | none => return none
  | some uid =>
    match ← neuron uid with
    | none => return none
    | some peer => return if peer.serves ip.number port then some uid else none

/-- Whether the wallet's hotkey is registered with a record of this address and port. -/
def isSubscribed (wallet : Wallet) (ip : IpAddress) (port : UInt16) : Action σ Bool := do
  let some uid ← uidOf wallet.hotkey.account | return false
  let some peer ← neuron uid | return false
  return peer.serves ip.number port

end Client

end LedgerClient
