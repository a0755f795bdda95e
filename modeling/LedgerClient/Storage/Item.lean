import LedgerClient.Account.Address
import LedgerClient.Value

/-!
# Storage addresses

What the client reads from the ledger's storage: single entries under a key, and whole maps of
entries. Each has a module, a name and, for a single entry, the values of its key.
-/

namespace LedgerClient

/-- A map of the ledger that can be read whole. -/
inductive StorageMap where
  /-- From hotkeys to uids. -/
  | active
  /-- From uids to stakes. -/
  | stake
  /-- From uids to peer records. -/
  | neurons
  /-- From uids to the peers that they give weights to. -/
  | weightUids
  /-- From uids to the weights that they give. -/
  | weightVals
  /-- From uids to the block of their last emission. -/
  | lastEmit
  deriving DecidableEq

namespace StorageMap

/-- All maps. -/
def all : List StorageMap := [active, stake, neurons, weightUids, weightVals, lastEmit]

/-- The module of the ledger that keeps a map. -/
def module (_ : StorageMap) : String := "SubtensorModule"

/-- The name of a map. -/
def name : StorageMap → String
  | active => "Active"
  | stake => "Stake"
  | neurons => "Neurons"
  | weightUids => "WeightUids"
  | weightVals => "WeightVals"
  | lastEmit => "LastEmit"

/-- The map of a name. -/
def ofName? (text : String) : Option StorageMap := all.find? fun map => map.name == text

end StorageMap

/-- A single storage entry under its key. -/
inductive StorageItem where
  /-- The record of an account, which holds its free balance. -/
  | account (account : AccountId)
  /-- The stake of a peer. -/
  | stake (uid : UInt64)
  /-- The record of a peer. -/
  | neuron (uid : UInt64)
  /-- The peers that a peer gives weights to. -/
  | weightUids (uid : UInt64)
  /-- The weights that a peer gives. -/
  | weightVals (uid : UInt64)
  /-- The uid of a hotkey. -/
  | active (account : AccountId)
  /-- The block in which a peer last emitted. -/
  | lastEmit (uid : UInt64)
  deriving DecidableEq

namespace StorageItem

/-- The map that an entry belongs to, if it can be read whole. -/
def map? : StorageItem → Option StorageMap
  | account _ => none
  | stake _ => some .stake
  | neuron _ => some .neurons
  | weightUids _ => some .weightUids
  | weightVals _ => some .weightVals
  | active _ => some .active
  | lastEmit _ => some .lastEmit

/-- The module of the ledger that keeps an entry. -/
def module (item : StorageItem) : String :=
  match item.map? with
  | some map => map.module
  | none => "System"

/-- The name of the storage that an entry lies in. -/
def name (item : StorageItem) : String :=
  match item.map? with
  | some map => map.name
  | none => "Account"

/-- The values of the key, in the order in which the storage declares them. -/
def keys : StorageItem → List Value
  | account a | active a => [.ofBytes a.toList]
  | stake uid | neuron uid | weightUids uid | weightVals uid | lastEmit uid => [.ofNat uid.toNat]

end StorageItem

end LedgerClient
