import LedgerClient.Error
import LedgerClient.Text.Blank

/-!
# Client configuration

What a client connects to and how long it waits. An endpoint overrides the network; an endpoint
of blanks counts as none. Configured times are whole seconds of 64 bits; spans of time are
counted in milliseconds.
-/

namespace LedgerClient

/-- A span of time, in milliseconds. -/
abbrev Millis := Nat

/-- A span of whole seconds. -/
def seconds (n : Nat) : Millis := 1000 * n

/-- What a client connects to. -/
inductive Target where
  /-- A single address, without any other to fall back on. -/
  | endpoint (address : String)
  /-- A network of the catalog, whose addresses are tried until one answers. -/
  | network (network : Network)
  deriving DecidableEq

/-- The text of a target. -/
def Target.text : Target → String
  | .endpoint address => "endpoint " ++ address
  | .network n => "network " ++ n.name

/-- The configuration of a client. -/
structure ClientConfig where
  /-- The network, if one is selected. -/
  network : Option Network
  /-- The endpoint, if one is set; it overrides the network. -/
  endpoint : Option String
  /-- The expected time between blocks, in seconds. -/
  blockTimeSecs : UInt64
  /-- The time limit of one connection attempt, in seconds. -/
  connectTimeoutSecs : UInt64
  deriving DecidableEq

namespace ClientConfig

/-- The expected time between blocks of the ledger, in seconds. -/
def blockTimeDefault : UInt64 := 6

/-- The time limit of one connection attempt, in seconds. -/
def connectTimeoutDefault : UInt64 := 10

/-- The configuration for the primary main network. -/
def standard : ClientConfig :=
  ⟨some .kusanagi, none, blockTimeDefault, connectTimeoutDefault⟩

/-- The standard configuration for another network. -/
def forNetwork (network : Network) : ClientConfig := { standard with network := some network }

/-- The standard configuration for an endpoint. -/
def forEndpoint (endpoint : String) : ClientConfig := { standard with endpoint := some endpoint }

/-- The endpoint without the blanks around it, if anything is left of it. -/
def bareEndpoint? (c : ClientConfig) : Option String :=
  match c.endpoint with
  | some text => if (Text.trim text).isEmpty then none else some (Text.trim text)
  | none => none

/-- What to connect to: the endpoint if there is one, else the network. -/
def target (c : ClientConfig) : Except ConfigError Target :=
  match c.bareEndpoint?, c.network with
  | some address, _ => .ok (.endpoint address)
  | none, some network => .ok (.network network)
  | none, none => .error .noTarget

/-- The expected time between blocks. -/
def blockTime (c : ClientConfig) : Millis := seconds c.blockTimeSecs.toNat

/-- The time limit of one connection attempt. -/
def connectTimeout (c : ClientConfig) : Millis := seconds c.connectTimeoutSecs.toNat

/-- How long a submission waits: three block times. There is no such span when it has more
seconds than 64 bits hold. -/
def submissionTimeout? (c : ClientConfig) : Option Millis :=
  if 3 * c.blockTimeSecs.toNat < UInt64.size then some (seconds (3 * c.blockTimeSecs.toNat))
  else none

end ClientConfig

end LedgerClient
