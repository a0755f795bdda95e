import LedgerClient.Client.Basic

/-!
# Making and giving up the link

A client connects to a single address with one attempt. It connects to a network by trying the
network's addresses in random order, each one once, until one answers; when none does, the error
lists the addresses that were tried.

## Termination

Each attempt on a network adds an untried address to those that were tried, so the number of
untried candidates shrinks.
-/

namespace LedgerClient

namespace Client

variable {σ : Type}

/-- Draws an untried candidate. -/
def draw (candidates tried : List String) :
    Action σ (Option { address : String // address ∈ Catalog.untried candidates tried }) :=
  fun c s =>
    let (drawn, rest) := Catalog.pickUntried candidates tried c.words
    ⟨.ok drawn, { c with words := rest }, s, 0, []⟩

variable [Node σ]

/-- One attempt to make a link to an address, within the time limit of attempts. -/
def attempt (address : String) : Action σ Link :=
  let url := Catalog.websocketUrl address
  .within (·.connectTimeout)
    (fun limit => .connection url ("timed out after " ++ wholeSeconds limit)) (.dial url)

/-- Tries the untried candidates of a network until a link is made or none is left. -/
def failover (network : Network) (candidates tried : List String) : Action σ Link := do
  .note (.candidatesLeft (Catalog.untried candidates tried).length network tried.length)
  match ← draw candidates tried with
  | none =>
    .note (.noneLeft network tried.length)
    .fail (.exhausted network tried)
  | some ⟨address, _⟩ =>
    .note (.trying network address)
    match ← (attempt address).outcome with
    | .ok link => return link
    | .error e =>
      .note (.unreachable address e)
      failover network candidates (tried ++ [address])
termination_by (Catalog.untried candidates tried).length
decreasing_by exact Catalog.untried_shrinks (by assumption)

/-- Makes a link to the target. -/
def dialTarget : Action σ Link := do
  let c ← .client
  match c.target with
  | .endpoint address => attempt address
  | .network network =>
    match c.catalog.endpoints network with
    | .ok candidates => failover network candidates []
    | .error e => .fail e

/-- Makes a link to the target in place of a live one. -/
def connect : Action σ Unit := do
  let _ ← .release
  .report .connecting
  match ← dialTarget.outcome with
  | .ok link =>
    .note (.connected (← .client).target link.endpoint)
    .hold link
    .report .connected
  | .error e =>
    .report (.failed e.message)
    .fail e

omit [Node σ] in
/-- Gives up the live link, if there is one. -/
def disconnect : Action σ Unit := do
  if ← .release then
    .note (.disconnected (← .client).target)
  .report .disconnected

/-- Gives up the live link, if there is one, and makes a fresh one. -/
def reconnect : Action σ Unit := do
  disconnect
  connect

end Client

end LedgerClient
