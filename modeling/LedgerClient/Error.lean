import LedgerClient.Balance
import LedgerClient.Network
import LedgerClient.Text.Quoted

/-!
# Errors

Everything that can go wrong, as causes. The wording of an error is a function of its cause, and
so is whether the live link can still be trusted after it.

Some causes end in a constructor `other` with a text: a node can report a fault of that kind in
words of its own.
-/

namespace LedgerClient

/-- Why a key cannot be made from a secret URI. -/
inductive KeyFault where
  /-- The URI is not a phrase, a path and a password. -/
  | format
  /-- A hexadecimal seed has an odd number of digits. -/
  | oddDigits
  /-- A hexadecimal seed does not have 64 digits. -/
  | digitCount
  /-- A hexadecimal seed holds a character that is no digit, at a position. -/
  | digit (c : Char) (position : Nat)
  /-- A phrase has a number of words that no phrase has. -/
  | wordCount (words : Nat)
  /-- A well-formed URI whose key is in no key ring. -/
  | unlisted (uri : String)
  deriving DecidableEq

/-- Why an argument is refused. -/
inductive ArgumentFault where
  /-- A call has no such parameter. -/
  | noParameter (module function parameter : String)
  /-- A call lacks a parameter. -/
  | missingParameter (module function parameter : String)
  /-- A call is given a parameter more than once. -/
  | repeatedParameter (module function : String)
  /-- Weights have different numbers of destinations and values. -/
  | weightLengths (destinations values : Nat)
  /-- A network is listed without an address. -/
  | noEntrypoints (network : Network)
  /-- A key cannot be made. -/
  | key (fault : KeyFault)
  /-- Another fault, in words. -/
  | other (text : String)
  deriving DecidableEq

/-- Why stored data are malformed. -/
inductive DataFault where
  /-- An account record has no free balance. -/
  | noFreeBalance
  /-- A value is not an integer. -/
  | notInteger (what : String)
  /-- An integer is too large for what it stands for. -/
  | outOfRange (what : String) (n : Nat)
  /-- A value is not a sequence. -/
  | notSequence (what : String)
  /-- A peer record lacks a field. -/
  | noField (name : String)
  /-- A field of a peer record is not an account. -/
  | notAccount (name : String)
  /-- The weights of a peer have different numbers of destinations and values. -/
  | weightLengths (uid : UInt64) (destinations values : Nat)
  /-- A raw storage key is too short to end in what it should. -/
  | shortKey (what : String)
  /-- Another fault, in words. -/
  | other (text : String)
  deriving DecidableEq

/-- Why a configuration cannot be used. -/
inductive ConfigError where
  /-- The file cannot be read or written. -/
  | io (text : String)
  /-- The text is not a configuration. -/
  | json (text : String)
  /-- Neither an endpoint nor a network is set. -/
  | noTarget
  /-- Another fault, in words. -/
  | other (text : String)
  deriving DecidableEq

/-- A fault of the remote procedure layer under a live link. -/
inductive RpcFault where
  /-- Reading or writing failed. -/
  | io (text : String)
  /-- The node answered with an error. -/
  | refused (text : String) (code : Int)
  /-- The layer itself failed. -/
  | client (text : String)
  /-- The connection was lost. -/
  | disconnected (text : String)
  /-- The address is neither secure nor on this machine. -/
  | insecureUrl (url : String)
  /-- A subscription ended early. -/
  | subscriptionDropped
  /-- A limit was reached. -/
  | limitReached
  /-- An extrinsic is not valid. -/
  | invalidTransaction (text : String)
  /-- Another fault, in words. -/
  | other (text : String)
  deriving DecidableEq

/-- What can go wrong. -/
inductive Error where
  /-- No network has that name, or the catalog does not list it. -/
  | unknownNetwork (name : String)
  /-- Every address of a network was tried; they are given in order. -/
  | exhausted (network : Network) (attempted : List String)
  /-- A link to an endpoint could not be made. -/
  | connection (endpoint reason : String)
  /-- There is no live link. -/
  | notConnected
  /-- The live link failed. -/
  | transport (text : String)
  /-- A submission had no decisive answer within its time, in milliseconds. -/
  | submissionTimeout (limit : Nat)
  /-- A submitted extrinsic was refused. -/
  | rejected (reason : String)
  /-- An argument is refused. -/
  | invalidArgument (fault : ArgumentFault)
  /-- No call has that module and function. -/
  | noSuchCall (module function : String)
  /-- Stored data are malformed. -/
  | invalidData (fault : DataFault)
  /-- An amount is not a balance. -/
  | balance (error : BalanceError)
  /-- A configuration cannot be used. -/
  | config (error : ConfigError)
  /-- The remote procedure layer failed. -/
  | rpc (fault : RpcFault)
  /-- Bytes from the node could not be decoded. -/
  | decode (text : String)
  deriving DecidableEq

/-! ### Wording -/

/-- The text of a fault in a secret URI. -/
def KeyFault.message : KeyFault → String
  | .format => "invalid secret uri: Invalid secret phrase format"
  | .oddDigits => "invalid key: Cannot parse hex string: Odd number of digits"
  | .digitCount => "invalid key: Cannot parse hex string: Invalid string length"
  | .digit c position =>
    "invalid key: Cannot parse hex string: Invalid character '" ++ c.toString ++
      "' at position " ++ toString position
  | .wordCount words =>
    "invalid key: Cannot parse phrase: mnemonic has an invalid word count: " ++ toString words ++
      ". Word count must be 12, 15, 18, 21, or 24"
  | .unlisted uri => "invalid key: no listed key for " ++ uri

/-- The text of a fault in an argument. -/
def ArgumentFault.message : ArgumentFault → String
  | .noParameter module function parameter =>
    module ++ "::" ++ function ++ " has no parameter '" ++ parameter ++ "'"
  | .missingParameter module function parameter =>
    module ++ "::" ++ function ++ " is missing parameter '" ++ parameter ++ "'"
  | .repeatedParameter module function =>
    module ++ "::" ++ function ++ " given a parameter more than once"
  | .weightLengths destinations values =>
    "weight destinations and values differ in length: " ++ toString destinations ++ " != " ++
      toString values
  | .noEntrypoints network => "network " ++ network.name ++ " has no entrypoints"
  | .key fault => fault.message
  | .other text => text

/-- The text of a fault in stored data. -/
def DataFault.message : DataFault → String
  | .noFreeBalance => "account info has no data.free"
  | .notInteger what => what ++ " is not an integer"
  | .outOfRange what n => what ++ " out of range: " ++ toString n
  | .notSequence what => what ++ " is not a sequence"
  | .noField name => "peer record has no field '" ++ name ++ "'"
  | .notAccount name => name ++ " is not an account id"
  | .weightLengths uid destinations values =>
    "weights of uid " ++ toString uid.toNat ++ " have " ++ toString destinations ++
      " destinations but " ++ toString values ++ " values"
  | .shortKey what => "storage key too short for " ++ what
  | .other text => text

/-- The text of a fault in a configuration. -/
def ConfigError.message : ConfigError → String
  | .io text => "IO error: " ++ text
  | .json text => "JSON error: " ++ text
  | .noTarget => "Invalid client config: chain_endpoint and network are both unset"
  | .other text => text

/-- The text of a fault of the remote procedure layer. -/
def RpcFault.message : RpcFault → String
  | .io text => "Io error: " ++ text
  | .refused text code => "RPC error: User error: " ++ text ++ " (" ++ toString code ++ ")"
  | .client text => "RPC error: RPC error: client error: " ++ text
  | .disconnected text =>
    "RPC error: RPC error: the connection was lost (" ++ text ++
      "); reconnect automatically initiated"
  | .insecureUrl url => "RPC error: RPC error: insecure URL: " ++ url
  | .subscriptionDropped => "RPC error: subscription dropped."
  | .limitReached => "RPC error: limit reached"
  | .invalidTransaction text =>
    "Transaction error: The transaction is not valid: " ++ text
  | .other text => "Other error: " ++ text

/-- A span of time in whole seconds, rounded down. -/
def wholeSeconds (millis : Nat) : String := toString (millis / 1000) ++ "s"

/-- The text of an error. -/
def Error.message : Error → String
  | .unknownNetwork name => "Unknown network: " ++ name
  | .exhausted network attempted =>
    "No more endpoints available for network " ++ network.name ++ ", attempted: " ++
      Text.quotedList attempted
  | .connection endpoint reason => "Failed to connect to " ++ endpoint ++ ": " ++ reason
  | .notConnected => "Not connected to a chain endpoint"
  | .transport text => "Transport error: " ++ text
  | .submissionTimeout limit => "No response within timeout (" ++ wholeSeconds limit ++ ")"
  | .rejected reason => "Extrinsic rejected: " ++ reason
  | .invalidArgument fault => "Invalid argument: " ++ fault.message
  | .noSuchCall module function => "No such call: " ++ module ++ "::" ++ function
  | .invalidData fault => "Invalid data: " ++ fault.message
  | .balance error => error.message
  | .config error => "Configuration error: " ++ error.message
  | .rpc fault => "Subxt error: " ++ fault.message
  | .decode text => "Decode error: Error at : Custom error: " ++ text

/-! ### Classification -/

/-- Whether a fault of the remote procedure layer means that the link is broken. -/
def RpcFault.breaksLink : RpcFault → Bool
  | .io _ | .client _ | .disconnected _ | .subscriptionDropped => true
  | .refused .. | .insecureUrl _ | .limitReached | .invalidTransaction _ | .other _ => false

/-- Whether the live link can no longer be trusted after an error. -/
def Error.isTransport : Error → Bool
  | .transport _ => true
  | .rpc fault => fault.breaksLink
  | _ => false

/-- The error that a fault means while an extrinsic is handed over: an answer of the node refuses
the extrinsic, any other fault is one of the layer. -/
def Error.ofSubmission : RpcFault → Error
  | .refused text _ => .rejected text
  | fault => .rpc fault

/-- The network that a text names, or the error that names the text. -/
def Network.parse (text : String) : Except Error Network :=
  match ofText? text with
  | some network => .ok network
  | none => .error (.unknownNetwork text)

end LedgerClient
