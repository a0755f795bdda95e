import LedgerClient.Catalog
import LedgerClient.Exchange

/-!
# Clients and their actions

A client knows what to connect to and how long to wait, and has at most one live link to a node.
What it does is an action: a step of client and node together that takes time, leaves a journal
and ends with a result or an error.

## The model

`Action σ α` maps a client and the state of a node to a `Ran`: the result, both states afterwards,
the time that passed and what an observer saw. Actions are put together in sequence, and an error
ends the sequence. An exchange becomes an action by `within`, which gives it one of the client's
time limits and says what it means to run out of time.

A run that never returns has a journal that says so (`Ran.Returns`). What else it holds, its result
above all, is what the client would have if the time had run out; nobody ever gets to see it.

The states of the link are published on a channel, if there is one. The channel holds a bounded
number of them until they are received; what does not fit is lost. Nothing that a client does
depends on the channel.
-/

namespace LedgerClient

/-! ### Channels -/

/-- A channel on which the states of a link are published. -/
structure Channel where
  /-- How many states it can hold. -/
  capacity : Nat
  /-- The states that wait to be received. -/
  queue : List LinkState
  /-- Whether the receiver is gone. -/
  closed : Bool
  deriving DecidableEq

namespace Channel

/-- An empty channel. -/
def ofCapacity (capacity : Nat) : Channel := ⟨capacity, [], false⟩

/-- A state is published; it is lost if the channel is full or has no receiver. -/
def send (ch : Channel) (state : LinkState) : Channel :=
  if ch.closed || ch.capacity ≤ ch.queue.length then ch
  else { ch with queue := ch.queue ++ [state] }

/-- All waiting states are received. -/
def drained (ch : Channel) : Channel := { ch with queue := [] }

/-- The receiver goes away, and the waiting states with it. -/
def withoutReceiver (ch : Channel) : Channel := { ch with queue := [], closed := true }

end Channel

/-! ### Clients -/

/-- A client of the ledger. -/
structure Client where
  /-- What it connects to. -/
  target : Target
  /-- The addresses of the networks. -/
  catalog : Catalog
  /-- The random words for choosing among addresses. -/
  words : WordSource
  /-- The live link, if there is one. -/
  link : Option Link
  /-- The state of the connection that was reported last. -/
  state : LinkState
  /-- Where the states are published, if anywhere. -/
  channel : Option Channel
  /-- The time limit of one connection attempt. -/
  connectTimeout : Millis
  /-- The time limit of one read. -/
  queryTimeout : Millis
  /-- The time limit of one submission. -/
  submissionTimeout : Millis

/-- Why no client is made of a configuration. -/
inductive SetupFault where
  /-- Three block times are more seconds than 64 bits hold; the program stops there. -/
  | overflow
  /-- The configuration is refused. -/
  | refused (error : Error)
  deriving DecidableEq

namespace Client

/-- The time limit of one connection attempt, unless another is set. -/
def connectTimeoutDefault : Millis := seconds 10

/-- The time limit of a read and of a submission, unless another is set: three block times. -/
def submissionTimeoutDefault : Millis := seconds (3 * ClientConfig.blockTimeDefault.toNat)

/-- A client for a target, without a link. -/
def start (target : Target) (words : WordSource) : Client where
  target := target
  catalog := .builtin
  words := words
  link := none
  state := .disconnected
  channel := none
  connectTimeout := connectTimeoutDefault
  queryTimeout := submissionTimeoutDefault
  submissionTimeout := submissionTimeoutDefault

/-- A client for the target and the time limits of a configuration, without a link. -/
def ofConfig (config : ClientConfig) (words : WordSource) : Except SetupFault Client :=
  match config.submissionTimeout? with
  | none => .error .overflow
  | some timeout =>
    match config.target with
    | .error e => .error (.refused (.config e))
    | .ok target =>
      .ok { start target words with
        connectTimeout := config.connectTimeout
        queryTimeout := timeout
        submissionTimeout := timeout }

/-- The live link, or the error that there is none. -/
def liveLink (c : Client) : Except Error Link :=
  match c.link with
  | some link => .ok link
  | none => .error .notConnected

/-- Whether there is a live link. -/
def isConnected (c : Client) : Bool := c.link.isSome

/-- The states that wait on the channel. -/
def published (c : Client) : List LinkState :=
  match c.channel with
  | some ch => ch.queue
  | none => []

/-- The client after the waiting states were received. -/
def afterReceiving (c : Client) : Client := { c with channel := c.channel.map (·.drained) }

/-- The client after the receiver of its states went away. -/
def withoutReceiver (c : Client) : Client :=
  { c with channel := c.channel.map (·.withoutReceiver) }

end Client

/-! ### Actions -/

/-- How an action ran. -/
structure Ran (σ α : Type) where
  /-- The result. -/
  result : Except Error α
  /-- The client afterwards. -/
  client : Client
  /-- The state of the node afterwards. -/
  node : σ
  /-- The time that passed. -/
  elapsed : Millis
  /-- What an observer saw. -/
  journal : Journal

/-- The action came to an end. -/
def Ran.Returns {σ α : Type} (ran : Ran σ α) : Prop := ran.journal.isUnending = false

/-- A step of client and node together. -/
def Action (σ α : Type) : Type := Client → σ → Ran σ α

namespace Action

variable {σ α β : Type}

/-- Ends at once with a result. -/
def finish (result : Except Error α) : Action σ α := fun c s => ⟨result, c, s, 0, []⟩

/-- Goes on with the result; an error ends the sequence. -/
def andThen (m : Action σ α) (f : α → Action σ β) : Action σ β := fun c s =>
  let first := m c s
  match first.result with
  | .error e => ⟨.error e, first.client, first.node, first.elapsed, first.journal⟩
  | .ok a =>
    let second := f a first.client first.node
    ⟨second.result, second.client, second.node, first.elapsed + second.elapsed,
      first.journal ++ second.journal⟩

instance : Monad (Action σ) where
  pure a := finish (.ok a)
  bind := andThen

/-- Ends with an error. -/
def fail (e : Error) : Action σ α := finish (.error e)

/-- The result of an action as a value, be it an error or not. -/
def outcome (m : Action σ α) : Action σ (Except Error α) := fun c s =>
  let ran := m c s
  { ran with result := .ok ran.result }

/-- The client. -/
def client : Action σ Client := fun c s => ⟨.ok c, c, s, 0, []⟩

/-- Puts an entry into the journal. -/
def record (entry : Entry) : Action σ Unit := fun c s => ⟨.ok (), c, s, 0, [entry]⟩

/-- Writes a notice. -/
def note (notice : Notice) : Action σ Unit := record (.noted notice)

/-- Takes a new state of the connection, and reports and publishes it. -/
def report (state : LinkState) : Action σ Unit := fun c s =>
  ⟨.ok (), { c with state := state, channel := c.channel.map (·.send state) }, s, 0,
    [.reported state]⟩

/-- Takes a live link. -/
def hold (link : Link) : Action σ Unit := fun c s =>
  ⟨.ok (), { c with link := some link }, s, 0, []⟩

/-- Gives up the live link; the result is whether there was one. -/
def release : Action σ Bool := fun c s =>
  match c.link with
  | some link => ⟨.ok true, { c with link := none }, s, 0, [.released link]⟩
  | none => ⟨.ok false, c, s, 0, []⟩

/-- The live link, or the error that there is none. -/
def liveLink : Action σ Link := fun c s => finish c.liveLink c s

/-- An exchange within one of the client's time limits, with the error for running out of time. -/
def within (limit : Client → Millis) (late : Millis → Error) (x : Exchange σ α) : Action σ α :=
  fun c s =>
    let talk := x (limit c) s
    ⟨talk.result.getD (.error (late (limit c))), c, talk.node, talk.elapsed, talk.journal⟩

/-- An action after which the live link is given up if the error means that it is broken. -/
def observed (m : Action σ α) : Action σ α := do
  match ← m.outcome with
  | .ok a => return a
  | .error e =>
    if e.isTransport then
      if ← release then
        note (.dropping (← client).target e)
        report .disconnected
    fail e

/-- The error of a read that ran out of time: the node counts as unreachable. -/
def noResponse (limit : Millis) : Error :=
  .transport ("no response within " ++ wholeSeconds limit)

/-- A read over the live link, within the time limit of reads. -/
def reading (x : Link → Exchange σ α) : Action σ α := do
  let link ← liveLink
  observed (within (·.queryTimeout) noResponse (x link))

end Action

end LedgerClient
