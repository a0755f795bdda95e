import LedgerClient.Client.Reading

/-!
# Writing to the ledger

Registration, stake, transfers and weights. Each operation composes its call before the link is
touched, lets the key sign that the call's kind asks for, and hands the extrinsic to the node at
most once.
-/

namespace LedgerClient

/-- What became of a request to register. -/
inductive Registration where
  /-- The hotkey was registered at the address already; nothing was sent. -/
  | alreadySubscribed (uid : UInt64)
  /-- The registration was submitted. -/
  | submitted (outcome : Outcome)
  deriving DecidableEq

namespace Client

variable {σ : Type} [Node σ]

/-! ### Extrinsics -/

/-- Signs a call with a freshly read nonce. -/
def build (call : Call) (key : SigningKey) : Action σ Extrinsic :=
  .reading fun link => Extrinsic.build link call key

/-- Says how a submission ended. -/
def noteOutcome (x : Extrinsic) : Except Error Outcome → Action σ Unit
  | .ok outcome => .note (.submitted x.hash outcome)
  | .error e => .note (.submissionFailed x.hash e)

/-- Hands an extrinsic to the node and waits as far as the policy asks, all within the time limit
of submissions. An extrinsic whose submission ran out of time may still be included later. -/
def submit (x : Extrinsic) (policy : Policy) : Action σ Outcome := do
  let link ← .liveLink
  .note (.submitting x policy)
  .observed do
    let exchange := Extrinsic.submit link x policy
    let result ← (Action.within (·.submissionTimeout) .submissionTimeout exchange).outcome
    noteOutcome x result
    .finish result

/-- Builds a call with the key of the wallet that its kind asks for, then submits it. -/
def signAndSubmit (call : Call) (wallet : Wallet) (policy : Policy) : Action σ Outcome := do
  let x ← build call (wallet.key call.kind.signer)
  submit x policy

/-! ### Operations -/

/-- Registers the wallet's hotkey as a peer at an address, unless it is registered there. -/
def subscribe (wallet : Wallet) (ip : IpAddress) (port : UInt16) (modality : Modality)
    (policy : Policy) : Action σ Registration := do
  let call ← .finish (Call.subscribe ip port modality wallet.coldkey.account)
  match ← registeredAs wallet ip port with
  | some uid =>
    .note (.alreadySubscribed uid ip port wallet.hotkey.account)
    return .alreadySubscribed uid
  | none =>
    match ← (signAndSubmit call wallet policy).outcome with
    | .ok outcome =>
      .note (.subscribed ip port modality wallet.hotkey.account wallet.coldkey.account)
      return .submitted outcome
    | .error e =>
      .note (.subscribeFailed e)
      .fail e

/-- Composes a call, announces it and sends it. -/
def announced (call : Except Error Call) (notice : Notice) (wallet : Wallet) (policy : Policy) :
    Action σ Outcome := do
  let call ← .finish call
  .note notice
  signAndSubmit call wallet policy

/-- Puts stake from the coldkey into a peer. -/
def addStake (wallet : Wallet) (amount : Balance) (uid : UInt64) (policy : Policy) :
    Action σ Outcome :=
  announced (Call.addStake uid amount) (.staking amount uid) wallet policy

/-- Takes stake out of a peer, back to the coldkey. -/
def unstake (wallet : Wallet) (amount : Balance) (uid : UInt64) (policy : Policy) :
    Action σ Outcome :=
  announced (Call.removeStake uid amount) (.unstaking amount uid) wallet policy

/-- Sends money from the coldkey to an account. -/
def transfer (wallet : Wallet) (dest : AccountId) (amount : Balance) (policy : Policy) :
    Action σ Outcome :=
  announced (Call.transfer dest amount) (.transferring amount dest) wallet policy

/-- Sets the weights that the wallet's peer gives to others. -/
def setWeights (wallet : Wallet) (dests : List UInt64) (values : List UInt32) (policy : Policy) :
    Action σ Outcome :=
  announced (Call.setWeights dests values) (.settingWeights dests.length) wallet policy

end Client

end LedgerClient
