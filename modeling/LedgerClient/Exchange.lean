import LedgerClient.Node.Journal

/-!
# Exchanges

An exchange is a conversation with a node under a time limit. It may consist of several calls one
after the other; all of them together have the one limit.

## The model

An exchange is given the time it may take and the state of the node. It ends with a result, or
without one when its time ran out. The replies' delays add up; an exchange is in time if and only
if they add up to at most its limit. One that is not is cut off exactly at the limit: the call
that was waited for has not been answered, nothing after it has happened, and what was noted
before stays in the journal.

The clock is looked at only while something is waited for. An exchange for which the next report is
there whenever it asks for one, and which no report decides, is neither decided nor cut off: it goes
on for ever. Its journal says so (`Exchange.unending`); the time and the state that come with it are
those of the part that was followed.
-/

namespace LedgerClient

/-- How an exchange ended. -/
structure Talk (σ α : Type) where
  /-- The result, if there is one. -/
  result : Option (Except Error α)
  /-- The time that passed. -/
  elapsed : Millis
  /-- The state of the node. -/
  node : σ
  /-- What an observer saw. -/
  journal : Journal

/-- A conversation with a node, given a time limit. -/
def Exchange (σ α : Type) : Type := Millis → σ → Talk σ α

namespace Exchange

variable {σ α β : Type}

/-! ### Putting exchanges together -/

/-- Ends at once with a result. -/
def finish (result : Except Error α) : Exchange σ α := fun _ s => ⟨some result, 0, s, []⟩

/-- Goes on with what was answered, in the time that is left. -/
def andThen (x : Exchange σ α) (f : α → Exchange σ β) : Exchange σ β := fun limit s =>
  let first := x limit s
  match first.result with
  | none => ⟨none, first.elapsed, first.node, first.journal⟩
  | some (.error e) => ⟨some (.error e), first.elapsed, first.node, first.journal⟩
  | some (.ok a) =>
    let second := f a (limit - first.elapsed) first.node
    ⟨second.result, first.elapsed + second.elapsed, second.node, first.journal ++ second.journal⟩

instance : Monad (Exchange σ) where
  pure a := finish (.ok a)
  bind := andThen

/-- Puts an entry into the journal. -/
def record (entry : Entry) : Exchange σ Unit := fun _ s => ⟨some (.ok ()), 0, s, [entry]⟩

/-- Writes a notice. -/
def note (notice : Notice) : Exchange σ Unit := record (.noted notice)

/-- Lets some time pass. -/
def wait (delay : Millis) : Exchange σ Unit := fun limit s =>
  if delay ≤ limit then ⟨some (.ok ()), delay, s, []⟩ else ⟨none, limit, s, []⟩

/-- Waits for ever. -/
def silence : Exchange σ α := fun limit s => ⟨none, limit, s, []⟩

/-- Goes on for ever, and never gets to wait. -/
def unending : Exchange σ α := fun _ s => ⟨none, 0, s, [.unending]⟩

/-! ### Calls -/

/-- Waits for a reply. -/
def await (entry : Entry) (reply : σ → Reply σ α) : Exchange σ α := fun limit s =>
  let r := reply s
  match r.delay with
  | some delay =>
    if delay ≤ limit then ⟨some r.result, delay, r.answered, [entry]⟩
    else ⟨none, limit, r.abandoned, [entry]⟩
  | none => ⟨none, limit, r.abandoned, [entry]⟩

/-- Takes a reply that needs no waiting. -/
def compute (entry : Entry) (reply : σ → Reply σ α) : Exchange σ α := fun _ s =>
  let r := reply s
  ⟨some r.result, 0, r.answered, [entry]⟩

variable [Node σ]

/-- Asks for a link to a websocket address. -/
def dial (url : String) : Exchange σ Link := await (.dialled url) (Node.dial url)

/-- Makes a request over a link and waits for the answer. -/
def ask (link : Link) (request : Request) : Exchange σ request.Answer :=
  await (.asked link request) (Node.ask link request)

/-- Makes a request over a link that is answered on this side of it. -/
def askLocal (link : Link) (request : Request) : Exchange σ request.Answer :=
  compute (.asked link request) (Node.ask link request)

end Exchange

/-! ### Extrinsics -/

namespace Arrival

variable {σ : Type}

/-- Asks for the reports of a sequence, from a position on, until one decides the submission. The
bound is on the number of reports that are still looked at; a sequence of which none of them ends the
wait counts as one that goes on for ever. -/
def follow (arrival : Nat → Arrival) (policy : Policy) (extrinsic : Hash) :
    (bound position : Nat) → Exchange σ Outcome
  | 0, _ => Exchange.unending
  | bound + 1, position => do
    Exchange.record .polled
    match arrival position with
    | .never => Exchange.silence
    | .after delay report =>
      Exchange.wait delay
      match verdict policy extrinsic report with
      | .decided result => Exchange.finish result
      | .stillInPool =>
        Exchange.note (.inPool extrinsic)
        follow arrival policy extrinsic bound (position + 1)
      | .stillInBlock block =>
        Exchange.note (.inBlock extrinsic block)
        follow arrival policy extrinsic bound (position + 1)

/-- Waits for as many reports of a sequence as the policy asks. Nothing is waited for when the
policy only asks for the pool, since the sequence starts there. -/
def outcome (arrival : Nat → Arrival) (policy : Policy) (extrinsic : Hash) (bound : Nat) :
    Exchange σ Outcome :=
  if policy = .fireAndForget then Exchange.finish (.ok (.accepted extrinsic))
  else follow arrival policy extrinsic bound 0

end Arrival

/-- Waits until the extrinsic has got as far as the policy asks. What is open at the horizon of the
watch stays open, so that the wait goes on for ever exactly when it is nowhere over. -/
def Watch.outcome {σ : Type} (w : Watch) (policy : Policy) (extrinsic : Hash) :
    Exchange σ Outcome :=
  fun limit s => Arrival.outcome w.arrival policy extrinsic (w.horizon limit) limit s

namespace Extrinsic

variable {σ : Type} [Node σ]

/-- Reads the next nonce of a key's account and signs a call with it. -/
def build (link : Link) (call : Call) (key : SigningKey) : Exchange σ Extrinsic := do
  let nonce ← Exchange.ask link (.nonce key.account)
  let encoded ← Exchange.askLocal link (.sign call key nonce)
  let extrinsic : Extrinsic := ⟨call, key.account, nonce, encoded⟩
  Exchange.note (.built extrinsic)
  return extrinsic

/-- Hands an extrinsic to the node and waits as far as the policy asks. -/
def submit (link : Link) (x : Extrinsic) (policy : Policy) : Exchange σ Outcome := do
  let watch ← Exchange.ask link (.submit x.encoded)
  watch.outcome policy x.hash

end Extrinsic

end LedgerClient
