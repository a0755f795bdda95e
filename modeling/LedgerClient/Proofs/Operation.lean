import LedgerClient.Client.Writing

/-!
# Operations

Everything that a client can be asked to do with a link that it has, as data. Making links and
giving them up are not among the operations.

## The model

A `Write` is an operation that may send an extrinsic; wallet and policy are given to it when it is
run. An `Operation` is a read, a step of a write, or a whole write. What is asked for decides the
type of the answer, so that a law of all operations is one statement about `Operation.run`, and its
proof has one case for each of them.
-/

namespace LedgerClient

/-! ### Writes -/

/-- The operations that may send an extrinsic. -/
inductive Write where
  /-- Sign a call and submit it. -/
  | send (call : Call)
  /-- Register the hotkey at an address. -/
  | subscribe (ip : IpAddress) (port : UInt16) (modality : Modality)
  /-- Put stake into a peer. -/
  | addStake (amount : Balance) (uid : UInt64)
  /-- Take stake out of a peer. -/
  | unstake (amount : Balance) (uid : UInt64)
  /-- Send money to an account. -/
  | transfer (dest : AccountId) (amount : Balance)
  /-- Assign weights to other peers. -/
  | setWeights (dests : List UInt64) (values : List UInt32)

namespace Write

/-- The type of the answer to a write. -/
abbrev Answer : Write → Type
  | subscribe _ _ _ => Registration
  | _ => Outcome

/-- The outcome of the submission that an answer tells of, if there was one. -/
def outcome? : (w : Write) → w.Answer → Option Outcome
  | subscribe _ _ _, .submitted outcome => some outcome
  | subscribe _ _ _, .alreadySubscribed _ => none
  | send _, outcome | addStake _ _, outcome | unstake _ _, outcome | transfer _ _, outcome
  | setWeights _ _, outcome => some outcome

/-- The call that a write sends. -/
def call (wallet : Wallet) : Write → Except Error Call
  | send call => .ok call
  | subscribe ip port modality => Call.subscribe ip port modality wallet.coldkey.account
  | addStake amount uid => Call.addStake uid amount
  | unstake amount uid => Call.removeStake uid amount
  | transfer dest amount => Call.transfer dest amount
  | setWeights dests values => Call.setWeights dests values

/-- What is wrong with the arguments of a write: weights need a value for each destination. -/
def fault? : Write → Option ArgumentFault
  | setWeights dests values =>
    if dests.length ≠ values.length then some (.weightLengths dests.length values.length) else none
  | _ => none

/-- The error of a write for which there is no link: bad arguments are found first. -/
def unlinkedError (w : Write) : Error := (w.fault?.map .invalidArgument).getD .notConnected

/-- A write composes its call unless there is something wrong with its arguments. -/
theorem call_cases (w : Write) (wallet : Wallet) :
    (w.fault? = none ∧ ∃ call, w.call wallet = .ok call) ∨
      ∃ fault, w.fault? = some fault ∧ w.call wallet = .error (.invalidArgument fault) := by
  cases w with
  | setWeights dests values =>
    simp only [fault?, call, Call.setWeights]
    by_cases h : dests.length = values.length
    · rw [if_neg (not_not_intro h), if_neg (not_not_intro h)]
      exact .inl ⟨rfl, _, rfl⟩
    · rw [if_pos h, if_pos h]
      exact .inr ⟨_, rfl, rfl⟩
  | send call => exact .inl ⟨rfl, call, rfl⟩
  | _ => exact .inl ⟨rfl, _, rfl⟩

variable {σ : Type} [Node σ]

/-- Carries out a write. -/
def run (wallet : Wallet) (policy : Policy) : (w : Write) → Action σ w.Answer
  | send call => Client.signAndSubmit call wallet policy
  | subscribe ip port modality => Client.subscribe wallet ip port modality policy
  | addStake amount uid => Client.addStake wallet amount uid policy
  | unstake amount uid => Client.unstake wallet amount uid policy
  | transfer dest amount => Client.transfer wallet dest amount policy
  | setWeights dests values => Client.setWeights wallet dests values policy

end Write

/-! ### All operations -/

/-- The operations of a client on a link that it has. -/
inductive Operation where
  /-- Read a storage entry. -/
  | query (item : StorageItem) (block : Option Hash)
  /-- Read a storage map. -/
  | queryMap (map : StorageMap) (block : Option Hash)
  /-- Read the number of the latest block. -/
  | currentBlock
  /-- Read the number of a block. -/
  | blockNumber (hash : Hash)
  /-- Read the hash of a block. -/
  | blockHash (number : UInt64)
  /-- Read a free balance. -/
  | balance (account : AccountId)
  /-- Read the uid of a hotkey. -/
  | uidOf (hotkey : AccountId)
  /-- Read the record of a peer. -/
  | neuron (uid : UInt64)
  /-- Read the stake of a peer. -/
  | stake (uid : UInt64)
  /-- Read the peers that a peer gives weights to. -/
  | weightUids (uid : UInt64)
  /-- Read the weights that a peer gives. -/
  | weightVals (uid : UInt64)
  /-- Read the weights that a peer gives, with their destinations. -/
  | weights (uid : UInt64)
  /-- Read the block in which a peer last emitted. -/
  | lastEmit (uid : UInt64)
  /-- Read all hotkeys. -/
  | activeMap (block : Option Hash)
  /-- Read all stakes. -/
  | stakeMap (block : Option Hash)
  /-- Read all last emissions. -/
  | lastEmitMap (block : Option Hash)
  /-- Read the peers that all peers give weights to. -/
  | weightUidsMap (block : Option Hash)
  /-- Read the weights that all peers give. -/
  | weightValsMap (block : Option Hash)
  /-- Read all peers. -/
  | neurons (block : Option Hash)
  /-- Ask whether the hotkey is registered at an address. -/
  | isSubscribed (wallet : Wallet) (ip : IpAddress) (port : UInt16)
  /-- Sign a call. -/
  | build (call : Call) (key : SigningKey)
  /-- Submit a signed call. -/
  | submit (x : Extrinsic) (policy : Policy)
  /-- Carry out a write. -/
  | write (w : Write) (wallet : Wallet) (policy : Policy)

namespace Operation

/-- The type of the answer to an operation. -/
abbrev Answer : Operation → Type
  | query _ _ => Option Value
  | queryMap _ _ => List (Bytes × Value)
  | currentBlock => UInt64
  | blockNumber _ => UInt64
  | blockHash _ => Option Hash
  | balance _ => Balance
  | uidOf _ => Option UInt64
  | neuron _ => Option PeerRecord
  | stake _ => Option Balance
  | weightUids _ => Option (List UInt64)
  | weightVals _ => Option (List UInt32)
  | weights _ => Option WeightVector
  | lastEmit _ => Option UInt64
  | activeMap _ => List (AccountId × UInt64)
  | stakeMap _ => List (UInt64 × Balance)
  | lastEmitMap _ => List (UInt64 × UInt64)
  | weightUidsMap _ => List (UInt64 × List UInt64)
  | weightValsMap _ => List (UInt64 × List UInt32)
  | neurons _ => List (UInt64 × PeerRecord)
  | isSubscribed _ _ _ => Bool
  | build _ _ => Extrinsic
  | submit _ _ => Outcome
  | write w _ _ => w.Answer

variable {σ : Type} [Node σ]

/-- Carries out an operation. -/
def run : (op : Operation) → Action σ op.Answer
  | query item block => Client.query item block
  | queryMap map block => Client.queryMap map block
  | currentBlock => Client.currentBlock
  | blockNumber hash => Client.blockNumber hash
  | blockHash number => Client.blockHash number
  | balance account => Client.balance account
  | uidOf hotkey => Client.uidOf hotkey
  | neuron uid => Client.neuron uid
  | stake uid => Client.stake uid
  | weightUids uid => Client.weightUids uid
  | weightVals uid => Client.weightVals uid
  | weights uid => Client.weights uid
  | lastEmit uid => Client.lastEmit uid
  | activeMap block => Client.activeMap block
  | stakeMap block => Client.stakeMap block
  | lastEmitMap block => Client.lastEmitMap block
  | weightUidsMap block => Client.weightUidsMap block
  | weightValsMap block => Client.weightValsMap block
  | neurons block => Client.neurons block
  | isSubscribed wallet ip port => Client.isSubscribed wallet ip port
  | build call key => Client.build call key
  | submit x policy => Client.submit x policy
  | write w wallet policy => w.run wallet policy

/-- The error of an operation for which there is no link. -/
def unlinkedError : Operation → Error
  | write w _ _ => w.unlinkedError
  | _ => .notConnected

end Operation

end LedgerClient
