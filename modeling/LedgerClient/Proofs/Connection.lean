import LedgerClient.Client.Connection
import LedgerClient.Proofs.Action

/-!
# Laws of making and giving up the link

What a client is like after it was asked to connect or to disconnect, and what an observer has seen.
Connecting gives up a live link first, whatever comes of it, then reports that a link is being made,
and settles once it is known how the attempts ended: with the new link, or with the text of the
error. How they end is left open here.
-/

namespace LedgerClient

variable {σ : Type}

namespace Client

/-- The client with another state of the connection, which it has reported and published. -/
def reporting (c : Client) (state : LinkState) : Client :=
  { c with state := state, channel := c.channel.map (·.send state) }

/-- The client without a link. -/
def withoutLink (c : Client) : Client := { c with link := none }

/-- The client while a link is being made. -/
def connecting (c : Client) : Client := c.withoutLink.reporting .connecting

/-- The client after an attempt to make a link ended in some way. -/
def settled (c : Client) : Except Error Link → Client
  | .ok link => { c with link := some link }.reporting .connected
  | .error e => c.reporting (.failed e.message)

/-- What an observer sees of a live link being given up. -/
def releaseEntries (c : Client) : Journal :=
  match c.link with
  | some link => [.released link]
  | none => []

/-- What an observer sees when an attempt to make a link has ended in some way. -/
def settlement (c : Client) : Except Error Link → Journal
  | .ok link => [.noted (.connected c.target link.endpoint), .reported .connected]
  | .error e => [.reported (.failed e.message)]

/-- What an observer sees of a client that disconnects. -/
def farewell (c : Client) : Journal :=
  match c.link with
  | some link => [.released link, .noted (.disconnected c.target), .reported .disconnected]
  | none => [.reported .disconnected]

end Client

namespace Client

@[simp] theorem dials_releaseEntries (c : Client) : c.releaseEntries.dials = [] := by
  rw [releaseEntries]
  split <;> rfl

@[simp] theorem reports_releaseEntries (c : Client) : c.releaseEntries.reports = [] := by
  rw [releaseEntries]
  split <;> rfl

@[simp] theorem dials_settlement (c : Client) (result : Except Error Link) :
    (c.settlement result).dials = [] := by
  cases result <;> rfl

@[simp] theorem isUnending_releaseEntries (c : Client) : c.releaseEntries.isUnending = false := by
  rw [releaseEntries]
  split <;> rfl

@[simp] theorem isUnending_settlement (c : Client) (result : Except Error Link) :
    (c.settlement result).isUnending = false := by
  cases result <;> rfl

@[simp] theorem dials_farewell (c : Client) : c.farewell.dials = [] := by
  rw [farewell]
  split <;> rfl

@[simp] theorem reports_farewell (c : Client) : c.farewell.reports = [.disconnected] := by
  rw [farewell]
  split <;> rfl

end Client

/-! ### The steps -/

namespace Action

theorem release_eq (c : Client) (s : σ) :
    release c s = ⟨.ok c.link.isSome, c.withoutLink, s, 0, c.releaseEntries⟩ := by
  rcases h : c.link with _ | link
  · have hc : c.withoutLink = c := by rw [Client.withoutLink, ← h]
    simp only [release, Client.releaseEntries, h, hc, Option.isSome_none]
  · simp only [release, Client.releaseEntries, h, Client.withoutLink, Option.isSome_some]

theorem report_eq (state : LinkState) (c : Client) (s : σ) :
    report state c s = ⟨.ok (), c.reporting state, s, 0, [.reported state]⟩ := rfl

end Action

namespace Client

open LedgerClient.Action

theorem disconnect_eq (c : Client) (s : σ) :
    disconnect c s = ⟨.ok (), c.withoutLink.reporting .disconnected, s, 0, c.farewell⟩ := by
  rw [disconnect, bind_of_eq_ok _ (release_eq c s)]
  rcases h : c.link with _ | link
  · simp [farewell, releaseEntries, h, Ran.behind, report_eq]
  · simp [farewell, releaseEntries, h, Ran.behind, bind, andThen, report_eq, client, note, record,
      withoutLink]

variable [Node σ]

/-- Connecting, given what comes of making a link. -/
theorem connect_eq (c : Client) (s : σ) :
    let ran := dialTarget c.connecting s
    connect c s =
      ⟨ran.result.map fun _ => (), ran.client.settled ran.result, ran.node, ran.elapsed,
        c.releaseEntries ++ .reported .connecting ::
          (ran.journal ++ ran.client.settlement ran.result)⟩ := by
  have hreport : report .connecting c.withoutLink s =
    ⟨.ok (), c.connecting, s, 0, [.reported .connecting]⟩ := report_eq _ _ s
  rw [connect, bind_of_eq_ok _ (release_eq c s), bind_of_eq_ok _ hreport, outcome_bind]
  rcases dialTarget c.connecting s with ⟨result, c', t, elapsed, journal⟩
  cases result with
  | ok link =>
    simp [Ran.behind, settled, settlement, Except.map, bind, andThen, client, note, record, hold,
      report_eq, reporting]
  | error e =>
    simp [Ran.behind, settled, settlement, Except.map, bind, andThen, report_eq, fail, finish]

/-- Reconnecting is disconnecting, then connecting. -/
theorem reconnect_eq (c : Client) (s : σ) :
    reconnect c s =
      (connect (c.withoutLink.reporting .disconnected) s).behind 0 c.farewell := by
  rw [reconnect, bind_of_eq_ok _ (disconnect_eq c s)]

end Client

end LedgerClient
