import LedgerClient.Config.Basic
import LedgerClient.Storage.Item
import LedgerClient.Submission
import LedgerClient.Wallet.Basic

/-!
# Nodes

The other side of the client: whatever answers when a link is made to an address and when
something is asked over a link. A node can answer, refuse, take its time or never answer, and what
it does can depend on everything that happened before.

## The model

`Node σ` is a way to behave for things with states in `σ`. Each call has a reply: the time until
the answer, or none when there will never be one; the answer itself; and the state afterwards,
once when the answer was waited for and once when the caller gave up before. Nothing is assumed of
a node. What one and the same state is asked, it always answers in the same way; since a state can
hold the whole history, this allows every behaviour that a client can observe.

A submission answers with a watch: the reports on the extrinsic one after the other, each with the
time that passes before it, or silence from some report on. A watch may also give reports without
end and without a pause, none of which decides anything; then a wait for it is never over. Which
waits those are cannot be seen from finitely many reports, so a watch carries a horizon: a number of
reports beyond which a wait that is still open stays open. Every sequence of arrivals has one
(`Watch.exists_of_arrival`), hence this too excludes no behaviour; it is there for waits to be
computed.
-/

namespace LedgerClient

/-! ### Watching an extrinsic -/

/-- What comes when the next report on an extrinsic is asked for. -/
inductive Arrival where
  /-- A report, after some time. -/
  | after (delay : Millis) (report : Report)
  /-- Nothing, ever. -/
  | never

namespace Arrival

/-- The time until a report; silence takes none. -/
def delay : Arrival → Millis
  | after d _ => d
  | never => 0

/-- Whether a wait under a policy ends at this arrival: with a report that decides, or in silence. -/
def ends (policy : Policy) : Arrival → Bool
  | after _ report => report.decides policy
  | never => true

/-- The time that the first `n` of a sequence of arrivals take. -/
def total (arrival : Nat → Arrival) : Nat → Millis
  | 0 => 0
  | n + 1 => total arrival n + (arrival n).delay

/-- `Concludes arrival policy span n`: a wait that has `span` and has come to position `n` is over
there, be it decided, left in silence or out of time. -/
def Concludes (arrival : Nat → Arrival) (policy : Policy) (span : Millis) (n : Nat) : Prop :=
  (arrival n).ends policy = true ∨ span < total arrival (n + 1)

end Arrival

/-- The reports on a submitted extrinsic. -/
structure Watch where
  /-- What comes at each of the positions. -/
  arrival : Nat → Arrival
  /-- The number of reports after which a wait with so much time is over, if it ever is. -/
  horizon : Millis → Nat
  /-- A wait that is over at some position is over within the horizon. -/
  concludes_within : ∀ policy span n, Arrival.Concludes arrival policy span n →
    ∃ m < horizon span, Arrival.Concludes arrival policy span m

/-- The watch that gives the arrivals of a list and then closes. -/
def Watch.ofList (arrivals : List Arrival) : Watch where
  arrival n := arrivals.getD n (.after 0 .closed)
  horizon _ := arrivals.length + 1
  concludes_within _ _ _ _ :=
    ⟨arrivals.length, Nat.lt_succ_self _, .inl (by simp [Arrival.ends, Report.decides])⟩

/-! ### Links and requests -/

/-- A link to a node. -/
structure Link where
  /-- The websocket address that it was made to. -/
  endpoint : String
  /-- A number that tells links to one address apart. -/
  serial : Nat
  deriving DecidableEq

/-- What can be asked over a link. -/
inductive Request where
  /-- A storage entry, in the latest block or in a given one. -/
  | fetch (item : StorageItem) (block : Option Hash)
  /-- All entries of a storage map, in the latest block or in a given one. -/
  | entries (map : StorageMap) (block : Option Hash)
  /-- The number of the latest block or of a given one. -/
  | blockNumber (block : Option Hash)
  /-- The hash of the block of a number. -/
  | blockHash (number : UInt64)
  /-- The next nonce of an account, extrinsics in the pool counted in. -/
  | nonce (account : AccountId)
  /-- A call encoded and signed; this needs the node's metadata but no exchange with it. -/
  | sign (call : Call) (key : SigningKey) (nonce : UInt64)
  /-- An encoded extrinsic taken into the pool. -/
  | submit (encoded : Bytes)

/-- The type of the answer to a request. -/
abbrev Request.Answer : Request → Type
  | .fetch _ _ => Option Value
  | .entries _ _ => List (Bytes × Value)
  | .blockNumber _ => UInt64
  | .blockHash _ => Option Hash
  | .nonce _ => UInt64
  | .sign _ _ _ => Bytes
  | .submit _ => Watch

/-! ### Replies -/

/-- What a node in states `σ` does with a call that asks for an `α`. -/
structure Reply (σ α : Type) where
  /-- The time until the answer, if one will come. -/
  delay : Option Millis
  /-- The answer. -/
  result : Except Error α
  /-- The state after the answer. -/
  answered : σ
  /-- The state after the caller gave up waiting. -/
  abandoned : σ

/-- A way to behave for nodes with states in `σ`. -/
class Node (σ : Type) where
  /-- What happens when a link to an address is asked for. -/
  dial : String → σ → Reply σ Link
  /-- What happens to a request over a link. -/
  ask : Link → (request : Request) → σ → Reply σ request.Answer

end LedgerClient
