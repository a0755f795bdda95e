import LedgerClient.IpAddress.Text
import LedgerClient.Node.Basic

/-!
# Notices

What the client writes to its log while it works, as causes with a level and a wording.
-/

namespace LedgerClient

/-- How weighty a notice is. -/
inductive Level where
  /-- Of interest while looking for a fault. -/
  | debug
  /-- Of interest in normal operation. -/
  | info
  /-- Something went wrong and was dealt with. -/
  | warning
  /-- An operation failed. -/
  | error
  deriving DecidableEq

/-- The name of a level. -/
def Level.name : Level → String
  | .debug => "DEBUG"
  | .info => "INFO"
  | .warning => "WARN"
  | .error => "ERROR"

/-- What the client writes to its log. -/
inductive Notice where
  /-- A link to the target was made. -/
  | connected (target : Target) (endpoint : String)
  /-- The link to the target was given up on request. -/
  | disconnected (target : Target)
  /-- The link to the target was given up because of an error. -/
  | dropping (target : Target) (error : Error)
  /-- A number of candidates is left after a number of attempts. -/
  | candidatesLeft (count : Nat) (network : Network) (tried : Nat)
  /-- An address is being tried. -/
  | trying (network : Network) (address : String)
  /-- An address could not be reached. -/
  | unreachable (address : String) (error : Error)
  /-- No candidate is left after a number of attempts. -/
  | noneLeft (network : Network) (attempts : Nat)
  /-- A storage entry is read. -/
  | query (item : StorageItem)
  /-- A storage map is read. -/
  | queryMap (map : StorageMap)
  /-- An account has no record. -/
  | noAccount (account : AccountId)
  /-- A number of peers was read. -/
  | peers (count : Nat)
  /-- An extrinsic was built. -/
  | built (extrinsic : Extrinsic)
  /-- An extrinsic is handed to the node. -/
  | submitting (extrinsic : Extrinsic) (policy : Policy)
  /-- An extrinsic is in the pool. -/
  | inPool (extrinsic : Hash)
  /-- An extrinsic is in a block that is not final. -/
  | inBlock (extrinsic block : Hash)
  /-- A submission succeeded. -/
  | submitted (extrinsic : Hash) (outcome : Outcome)
  /-- A submission failed. -/
  | submissionFailed (extrinsic : Hash) (error : Error)
  /-- A peer is registered at the address already. -/
  | alreadySubscribed (uid : UInt64) (ip : IpAddress) (port : UInt16) (hotkey : AccountId)
  /-- A peer was registered. -/
  | subscribed (ip : IpAddress) (port : UInt16) (modality : Modality) (hotkey coldkey : AccountId)
  /-- A peer could not be registered. -/
  | subscribeFailed (error : Error)
  /-- Stake is put into a peer. -/
  | staking (amount : Balance) (uid : UInt64)
  /-- Stake is taken out of a peer. -/
  | unstaking (amount : Balance) (uid : UInt64)
  /-- Money is sent. -/
  | transferring (amount : Balance) (dest : AccountId)
  /-- A number of weights is assigned. -/
  | settingWeights (count : Nat)

namespace Notice

/-- How weighty a notice is. -/
def level : Notice → Level
  | candidatesLeft .. | query _ | queryMap _ | noAccount _ | peers _ | built _ | inPool _
  | inBlock .. => .debug
  | connected .. | disconnected _ | trying .. | submitting .. | submitted .. | alreadySubscribed ..
  | subscribed .. | staking .. | unstaking .. | transferring .. | settingWeights _ => .info
  | dropping .. | unreachable .. | submissionFailed .. => .warning
  | noneLeft .. | subscribeFailed _ => .error

/-! ### Wording -/

/-- How an account is shown by its bytes. -/
def accountText (a : AccountId) : String := "AccountId32(" ++ Text.byteList a.toList ++ ")"

/-- The text of a uid. -/
def uidText (uid : UInt64) : String := toString uid.toNat

/-- How a storage entry is shown. -/
def itemText : StorageItem → String
  | .account a => "Account(" ++ accountText a ++ ")"
  | .stake uid => "Stake(" ++ uidText uid ++ ")"
  | .neuron uid => "Neuron(" ++ uidText uid ++ ")"
  | .weightUids uid => "WeightUids(" ++ uidText uid ++ ")"
  | .weightVals uid => "WeightVals(" ++ uidText uid ++ ")"
  | .active a => "Active(" ++ accountText a ++ ")"
  | .lastEmit uid => "LastEmit(" ++ uidText uid ++ ")"

/-- The text of an address and a port. -/
def addressText (ip : IpAddress) (port : UInt16) : String :=
  ip.text ++ ":" ++ toString port.toNat

/-- The text of a notice. -/
def message : Notice → String
  | connected target endpoint => "Connected to " ++ target.text ++ " via " ++ endpoint
  | disconnected target => "Disconnected from " ++ target.text
  | dropping target error => "Dropping connection to " ++ target.text ++ ": " ++ error.message
  | candidatesLeft count network tried =>
    toString count ++ " candidates left for " ++ network.name ++ " (" ++ toString tried ++
      " blacklisted)"
  | trying network address => "Trying " ++ network.name ++ " via " ++ address
  | unreachable address error => "Failed to connect to " ++ address ++ ": " ++ error.message
  | noneLeft network attempts =>
    "No more endpoints available for " ++ network.name ++ " after " ++ toString attempts ++
      " attempts"
  | query item => "Query " ++ item.module ++ "::" ++ item.name ++ " " ++ itemText item
  | queryMap map => "Query map " ++ map.module ++ "::" ++ map.name
  | noAccount account => "No account record for " ++ account.address
  | peers count => "Fetched " ++ toString count ++ " peers"
  | built x =>
    "Built " ++ x.call.path ++ " for " ++ x.signer.address ++ " (nonce " ++
      toString x.nonce.toNat ++ "): " ++ toString x.encoded.length ++ " bytes, hash: " ++ x.hashText
  | submitting x policy =>
    "Submitting " ++ x.call.path ++ " signed by " ++ x.signer.address ++ " (" ++ policy.label ++
      "), hash: " ++ x.hashText
  | inPool x => "Extrinsic " ++ x.text ++ " in pool"
  | inBlock x block =>
    "Extrinsic " ++ x.text ++ " in block " ++ block.text ++ ", awaiting finality"
  | submitted x outcome => "Extrinsic " ++ x.text ++ " " ++ outcome.text
  | submissionFailed x error => "Extrinsic " ++ x.text ++ " failed: " ++ error.message
  | alreadySubscribed uid ip port hotkey =>
    "Already subscribed as uid " ++ uidText uid ++ " at " ++ addressText ip port ++ " (hotkey " ++
      hotkey.address ++ ")"
  | subscribed ip port modality hotkey coldkey =>
    "Subscribed " ++ addressText ip port ++ " (" ++ modality.name ++ ") with hotkey " ++
      hotkey.address ++ ", coldkey " ++ coldkey.address
  | subscribeFailed error => "Failed to subscribe: " ++ error.message
  | staking amount uid => "Staking " ++ amount.text ++ " into uid " ++ uidText uid
  | unstaking amount uid => "Unstaking " ++ amount.text ++ " from uid " ++ uidText uid
  | transferring amount dest => "Transferring " ++ amount.text ++ " to " ++ dest.address
  | settingWeights count => "Setting " ++ toString count ++ " weights"

/-- The line of the log. -/
def line (notice : Notice) : String := notice.level.name ++ " " ++ notice.message

end Notice

end LedgerClient
