import LedgerClient.Config.Basic
import LedgerClient.Json.Reader
import LedgerClient.Json.Writer
import LedgerClient.Modality
import LedgerClient.Policy

/-!
# Configurations as JSON text

A configuration is written as an object of four members. It is read from an object, in which
members may be missing or unknown but none of the four may occur twice, or from an array that
gives the four in order and may end early. What is missing has its standard value. An explicit
literal for nothing in place of the network or the endpoint means that there is none.

The smaller types that have a JSON form of their own are here as well.
-/

namespace LedgerClient

namespace Network

/-- The network that a JSON value names. -/
def ofJson? (j : Json) : Option Network := j.tag?.bind ofName?

/-- The JSON text of a network. -/
def jsonText (network : Network) : List Char := Json.quote network.name

end Network

namespace Policy

/-- The policy that a JSON value names. -/
def ofJson? (j : Json) : Option Policy := j.tag?.bind ofName?

/-- The JSON text of a policy. -/
def jsonText (policy : Policy) : List Char := Json.quote policy.name

end Policy

namespace Modality

/-- The modality that a JSON value names. -/
def ofJson? (j : Json) : Option Modality := j.tag?.bind ofName?

/-- The JSON text of a modality. -/
def jsonText (modality : Modality) : List Char := Json.quote modality.name

end Modality

namespace Balance

/-- The balance that a JSON value denotes: a number of rao. -/
def ofJson? (j : Json) : Option Balance := j.uint64?.map Balance.mk

/-- The JSON text of a balance. -/
def jsonText (b : Balance) : List Char := Json.naturalText b.rao.toNat

end Balance

namespace ClientConfig

/-! ### Reading -/

/-- The configuration that the members of an object give. -/
def ofMembers? (members : List (Option String × Json)) : Option ClientConfig :=
  if members.any fun m => m.1.isNone then none
  else do
    let network ← Json.field? "network" (Json.optional? Network.ofJson?) standard.network members
    let endpoint ←
      Json.field? "chain_endpoint" (Json.optional? Json.text?) standard.endpoint members
    let blockTime ← Json.field? "block_time_secs" Json.uint64? standard.blockTimeSecs members
    let connectTimeout ←
      Json.field? "connect_timeout_secs" Json.uint64? standard.connectTimeoutSecs members
    return ⟨network, endpoint, blockTime, connectTimeout⟩

/-- The configuration that the items of an array give. -/
def ofItems? (items : List Json) : Option ClientConfig :=
  if 4 < items.length then none
  else do
    let network ← Json.item? 0 (Json.optional? Network.ofJson?) standard.network items
    let endpoint ← Json.item? 1 (Json.optional? Json.text?) standard.endpoint items
    let blockTime ← Json.item? 2 Json.uint64? standard.blockTimeSecs items
    let connectTimeout ← Json.item? 3 Json.uint64? standard.connectTimeoutSecs items
    return ⟨network, endpoint, blockTime, connectTimeout⟩

/-- The configuration that a JSON value denotes. -/
def ofJson? : Json → Option ClientConfig
  | .object members => ofMembers? members
  | .array items => ofItems? items
  | _ => none

/-- The configuration that a JSON text denotes. -/
def ofText? (text : String) : Option ClientConfig := (Json.parse? text).bind ofJson?

/-! ### Writing -/

/-- The names of the four members with the texts of their values. -/
def members (c : ClientConfig) : List (String × List Char) :=
  [("network", Json.orNull Network.jsonText c.network),
   ("chain_endpoint", Json.orNull Json.quote c.endpoint),
   ("block_time_secs", Json.naturalText c.blockTimeSecs.toNat),
   ("connect_timeout_secs", Json.naturalText c.connectTimeoutSecs.toNat)]

/-- The text on one line. -/
def compactText (c : ClientConfig) : String := String.ofList (Json.compactObject c.members)

/-- The text with one member on each line. -/
def prettyText (c : ClientConfig) : String := String.ofList (Json.prettyObject c.members)

end ClientConfig

end LedgerClient
