import LedgerClient.Host.Basic
import LedgerClient.Node.Basic

/-!
# Refused websocket addresses

Which websocket addresses are refused before anything is sent: those that cannot be read, and
those over which the traffic would leave this machine unprotected.

## The model

Behind the scheme stands the authority, up to a slash, a backslash, a question mark or a hash
sign: an optional user part that ends in the last at sign, a host, and an optional port behind a
colon. A host in square brackets holds colons of its own. The first fault counts: the host is
looked at before the port, and both before protection.

None of this is the program's own doing. It stands for the checks that the libraries below the program
make, the one that reads web addresses and the one that speaks to a node, before anything is sent. The
program meets them only where it asks for a link to the outside world, which is here the node `Outside`;
on any other node an address is a text that the node may do with as it likes, and no theorem depends on
these checks. What happens on an address that is not refused is outside this library as well. In its
terms such an address never answers.
-/

namespace LedgerClient

/-- Why a websocket address is refused. -/
inductive EndpointFault where
  /-- There is no host, or what stands in its place is none. -/
  | badHost (fault : HostFault)
  /-- The port is not a number of 16 bits. -/
  | badPort
  /-- The scheme is not secure and the host is not this machine. -/
  | insecure
  deriving DecidableEq

/-- What a refusal says about a host. -/
def HostFault.text : HostFault → String
  | .empty => "empty host"
  | .badName => "invalid international domain name"
  | .badV4 => "invalid IPv4 address"
  | .badV6 => "invalid IPv6 address"

/-- The reason that a refusal of an address gives. -/
def EndpointFault.reason (url : String) : EndpointFault → String
  | .badHost fault => "RPC error: client error: " ++ fault.text
  | .badPort => "RPC error: client error: invalid port number"
  | .insecure => "RPC error: insecure URL: " ++ url

namespace Endpoint

/-! ### Taking an address apart -/

/-- The characters of an address that count: no blanks and control characters at its ends, no
tabs and line breaks inside. -/
def significant (url : String) : List Char :=
  let blank (c : Char) := c.toNat ≤ 0x20
  let trimmed := ((url.toList.dropWhile blank).reverse.dropWhile blank).reverse
  trimmed.filter fun c => c != '\t' && c != '\n' && c != '\r'

/-- Whether a character is a slash of either kind. -/
def isSlash (c : Char) : Bool := c == '/' || c == '\\'

/-- Whether a character ends the authority. -/
def endsAuthority (c : Char) : Bool := isSlash c || c == '?' || c == '#'

/-- The characters behind the last at sign, or all of them. -/
def behindUser (authority : List Char) : List Char :=
  (authority.reverse.takeWhile (· != '@')).reverse

/-- The host and the text behind it. A colon inside square brackets does not end the host. -/
def hostAndRest : Bool → List Char → List Char × List Char
  | _, [] => ([], [])
  | bracketed, c :: rest =>
    if c = ':' ∧ !bracketed then ([], c :: rest)
    else
      let (host, left) :=
        hostAndRest (if c = '[' then true else if c = ']' then false else bracketed) rest
      (c :: host, left)

/-- The parts of an address that decide whether it is refused. -/
structure Parts where
  /-- Whether the scheme protects the traffic. -/
  secure : Bool
  /-- The host. -/
  host : List Char
  /-- The text behind the colon that follows the host; it is empty without a colon. -/
  port : List Char
  deriving DecidableEq

/-- The parts of an address that starts in a websocket scheme. -/
def parts (url : String) : Parts :=
  let cs := significant url
  let scheme := cs.takeWhile (· != ':')
  let authority := (((cs.dropWhile (· != ':')).drop 1).dropWhile isSlash).takeWhile
    fun c => !endsAuthority c
  let (host, rest) := hostAndRest false (behindUser authority)
  { secure := scheme == "wss".toList, host := host, port := rest.drop 1 }

/-! ### Faults -/

/-- Whether a port is absent or a number of 16 bits. -/
def isPort (port : List Char) : Bool := (Host.number? 10 port).any (· < UInt16.size)

/-- Why an address is refused, if it is. -/
def fault? (url : String) : Option EndpointFault :=
  let p := parts url
  match Host.read p.host with
  | .error fault => some (.badHost fault)
  | .ok host =>
    if !isPort p.port then some .badPort
    else if p.secure || host.isLoopback then none
    else some .insecure

end Endpoint

/-- The world beyond this machine, which is always in the one state. -/
structure Outside

instance : Node Outside where
  dial url world :=
    match Endpoint.fault? url with
    | some fault => ⟨some 0, .error (.connection url (fault.reason url)), world, world⟩
    | none => ⟨none, .error .notConnected, world, world⟩
  ask _ _ world := ⟨none, .error .notConnected, world, world⟩

end LedgerClient
