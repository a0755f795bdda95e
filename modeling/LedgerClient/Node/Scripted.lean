import LedgerClient.Node.Basic

/-!
# Scripted nodes

A node in memory, for trying out what a client does. It holds a small ledger and follows a script:
for each of the calls to come it says how long the answer takes, whether there will be one at all,
and whether it is an error instead of the regular answer.

## The model

Every call takes one disturbance off the script; behind its end nothing is disturbed. A call whose
caller gave up has taken its disturbance, but has not acted. A call that answers with an error
of the script has not acted either. What comes at all comes within thirty years.
-/

namespace LedgerClient

/-- What disturbs a call. -/
structure Disturbance where
  /-- The time until the answer. -/
  delay : Millis
  /-- Whether there will be no answer. -/
  silent : Bool
  /-- The error that is the answer, if the call does not act. -/
  error : Option Error

/-- A call that is not disturbed. -/
def Disturbance.none : Disturbance := ⟨0, false, .none⟩

/-- A node in memory. -/
structure ScriptedNode where
  /-- The websocket addresses that refuse a link. -/
  dead : List String
  /-- The storage entries that are present. -/
  entry : StorageItem → Option Value
  /-- The entries of the storage maps, with raw keys. -/
  entries : StorageMap → List (Bytes × Value)
  /-- The number of the latest block. -/
  latest : UInt64
  /-- The next nonce, whatever the account. -/
  nonce : UInt64
  /-- What signing gives, if that is set. -/
  encoded : Option Bytes
  /-- What comes on the watch of a submission. -/
  arrivals : List Arrival
  /-- What disturbs the calls to come. -/
  script : List Disturbance
  /-- How many links were made. -/
  links : Nat

namespace ScriptedNode

/-- The block that the usual reports name. -/
def usualBlock : Hash := .replicate 32 0xB1

/-- The reports on an extrinsic that is included and becomes final at once. -/
def usualArrivals : List Arrival :=
  [.after 0 (.progress .inPool), .after 0 (.progress (.inBlock usualBlock)),
   .after 0 (.progress (.finalized usualBlock))]

/-- A node with an empty ledger and nothing to disturb it. -/
def empty : ScriptedNode where
  dead := []
  entry _ := none
  entries _ := []
  latest := 0
  nonce := 0
  encoded := none
  arrivals := usualArrivals
  script := []
  links := 0

/-! ### Changing the ledger -/

/-- A storage entry is set or removed. -/
def withEntry (node : ScriptedNode) (item : StorageItem) (value : Option Value) : ScriptedNode :=
  { node with entry := fun i => if i = item then value else node.entry i }

/-- The entries of a storage map are set. -/
def withEntries (node : ScriptedNode) (map : StorageMap) (list : List (Bytes × Value)) :
    ScriptedNode :=
  { node with entries := fun m => if m = map then list else node.entries m }

/-! ### Acting -/

/-- The hash of the block of a number: a fixed beginning, then the number. -/
def hashOf (number : UInt64) : Hash where
  toList := List.replicate 24 0xB1 ++ Bytes.toBigEndian 8 number.toNat
  length_eq := by simp [Bytes.length_toBigEndian]

/-- The number at the end of a hash. -/
def numberOf (hash : Hash) : UInt64 := UInt64.ofNat (Bytes.ofBigEndian (hash.toList.drop 24))

/-- What signing a call with a nonce gives, unless it is set. -/
def signed (call : Call) (nonce : UInt64) : Bytes :=
  Bytes.ofText (call.path ++ "@" ++ toString nonce.toNat)

/-- A link to an address that is not dead. -/
def accept (node : ScriptedNode) (url : String) : Except Error Link × ScriptedNode :=
  if node.dead.contains url then (.error (.connection url "connection refused"), node)
  else (.ok ⟨url, node.links⟩, { node with links := node.links + 1 })

/-- The longest time that anything takes: thirty years of 365 days. -/
def patience : Millis := 30 * 365 * 86400 * 1000

/-- An arrival after the longest time at most. -/
def punctual : Arrival → Arrival
  | .after delay report => .after (min delay patience) report
  | .never => .never

/-- The regular answer to a request, and the node after it. -/
def act (node : ScriptedNode) : (request : Request) → request.Answer × ScriptedNode
  | .fetch item _ => (node.entry item, node)
  | .entries map _ => (node.entries map, node)
  | .blockNumber none => (node.latest, node)
  | .blockNumber (some hash) => (numberOf hash, node)
  | .blockHash number => (if number ≤ node.latest then some (hashOf number) else none, node)
  | .nonce _ => (node.nonce, node)
  | .sign call _ nonce => (node.encoded.getD (signed call nonce), node)
  | .submit _ => (.ofList (node.arrivals.map punctual), { node with nonce := node.nonce + 1 })

/-- The reply to a call that the next disturbance of the script disturbs. -/
def reply {α : Type} (node : ScriptedNode)
    (regular : ScriptedNode → Except Error α × ScriptedNode) : Reply ScriptedNode α :=
  let disturbance := node.script.headD .none
  let rest := { node with script := node.script.tail }
  let (result, answered) :=
    match disturbance.error with
    | some e => (.error e, rest)
    | none => regular rest
  { delay := if disturbance.silent then none else some (min disturbance.delay patience)
    result := result
    answered := answered
    abandoned := rest }

instance : Node ScriptedNode where
  dial url node := node.reply fun n => n.accept url
  ask _ request node := node.reply fun n =>
    let (answer, after) := n.act request
    (.ok answer, after)

end ScriptedNode

end LedgerClient
