import LedgerClient.Proofs.Lifecycle
import LedgerClient.Proofs.Publication
import Mathlib.Data.List.Induction

/-!
# The status channel only observes

A subscriber who listens on the channel of a client learns how the state of the link went on. The
channel holds a bounded number of states, the subscriber may be slow or go away, and so some of what
happened may never be told. What is told is told in order, and nobody but the subscriber is affected:
the client goes on in the same way.

## The model

An `Event` is a step of the client or something that the subscriber does. A `Broadcast` is a session
with a subscriber; it keeps what was received so far and the history of the states. The history is not
read off the channel: `Step.updates` says which states a step leads through, given how it ended and
whether a link was lost.

`Broadcast.Delivers` says that nothing gets lost in an event: every update finds room on the channel,
and no receiver goes away while states wait.

What the channel might affect is all but the channel. `Client.muted` and `Session.muted` leave it out,
with the steps that are about the channel alone.

## What is proved

* `Step.reports_run`, `Step.state_run`: the updates of a step are what is reported in it, and the last
  of them is the state.
* `Broadcast.sublist_run`, `Broadcast.received_run_of_delivers`: what is received, by induction on the
  events.
* `Broadcast.muted_run`: the session but for the channel, by induction on the events.
* `status_channel_only_observes`: the rule in one statement.
-/

namespace LedgerClient

variable {σ : Type}

/-! ### The history of the states -/

/-- The states that opening leads through, given how it ended. -/
def openingStates : Except Error Unit → List LinkState
  | .ok _ => [.connecting, .connected]
  | .error e => [.connecting, .failed e.message]

/-- The states that follow from a link being lost between two moments: there was one, and is none. -/
def lossStates (c c' : Client) : List LinkState :=
  if c.isConnected ∧ ¬ c'.isConnected then [.disconnected] else []

theorem lossStates_of_lost {c c' : Client} (h : c.isConnected) (h' : ¬ c'.isConnected) :
    lossStates c c' = [.disconnected] := if_pos ⟨h, h'⟩

theorem lossStates_self (c : Client) : lossStates c c = [] := if_neg fun h => h.2 h.1

/-- The states that a step leads through, given the client before and after it and how it ended: to
disconnect and to lose a link lead to being disconnected, to reconnect is to disconnect first. -/
def Step.updates (c c' : Client) : (step : Step) → Except Error step.Answer → List LinkState
  | connect, result => openingStates result
  | reconnect, result => .disconnected :: openingStates result
  | disconnect, _ => [.disconnected]
  | operate _, _ => lossStates c c'
  | adjust _, _ | receive, _ | hangUp, _ => []

section Updates

variable [Node σ]

/-- An operation loses the link, or leaves the client alone. -/
theorem Operation.drop_cases (op : Operation) (c : Client) (s : σ) :
    (c.isConnected ∧ ¬ (op.run c s).client.isConnected ∧ (op.run c s).client.state = .disconnected ∧
      (c.aftermath (op.run c s).result).reports = [.disconnected]) ∨
    ((op.run c s).client = c ∧ c.aftermath (op.run c s).result = []) := by
  rw [op.observant_run.client_eq]
  rcases h : c.link with _ | link
  · exact .inr ⟨Client.after_of_none h _, Client.aftermath_of_none h _⟩
  · by_cases hb : BreaksLink (op.run c s).result
    · rw [Client.after_of_breaksLink hb]
      refine .inl ⟨?_, ?_, Client.state_unlinked h, Client.reports_aftermath_of_link h hb⟩
      · simp [Client.isConnected, h]
      · simp [Client.isConnected, Client.link_unlinked]
    · exact .inr ⟨Client.after_of_not_breaksLink hb, Client.aftermath_of_not_breaksLink hb c⟩

theorem Client.reports_connect (c : Client) (s : σ) :
    (connect c s).journal.reports = openingStates (connect c s).result := by
  rw [connect_eq]
  simp only [Journal.reports_append, Journal.reports_reported_cons, reports_releaseEntries,
    reports_dialTarget, List.nil_append]
  cases (dialTarget c.connecting s).result <;> rfl

/-- The updates of a step are what is reported in it. -/
theorem Step.reports_run (step : Step) (c : Client) (s : σ) :
    (step.run c s).journal.reports =
      step.updates c (step.run c s).client (step.run c s).result := by
  cases step with
  | connect => exact c.reports_connect s
  | reconnect =>
    have hran := Client.reconnect_eq c s
    simp only [Step.run, Step.updates, hran, Ran.behind, Journal.reports_append,
      Client.reports_farewell, Client.reports_connect]
    rfl
  | disconnect =>
    have hran := Client.disconnect_eq c s
    simp only [Step.run, Step.updates, hran, Client.reports_farewell]
  | operate op =>
    show (op.run c s).journal.reports = lossStates c (op.run c s).client
    rw [op.reports_run]
    rcases op.drop_cases c s with ⟨hbefore, hafter, -, hreports⟩ | ⟨hclient, hnone⟩
    · rw [hreports, lossStates_of_lost hbefore hafter]
    · rw [hnone, hclient, lossStates_self, Journal.reports_nil]
  | adjust setting => rfl
  | receive => rfl
  | hangUp => rfl

/-- The state that a client ends with is the last one that it was led through. -/
theorem Step.state_run (step : Step) (c : Client) (s : σ) :
    (step.run c s).client.state =
      (step.run c s).journal.reports.getLast?.getD c.state := by
  cases step with
  | connect =>
    have hreports := c.reports_connect s
    simp only [Step.run, hreports]
    rcases c.connect_cases s with ⟨⟨answer, hok⟩, -, hstate⟩ | ⟨e, he, -, hstate⟩
    · rw [hok, hstate]
      rfl
    · rw [he, hstate]
      rfl
  | reconnect =>
    have hran := Client.reconnect_eq c s
    have hreports := (c.withoutLink.reporting .disconnected).reports_connect s
    simp only [Step.run, hran, Ran.behind, Journal.reports_append, hreports]
    rcases (c.withoutLink.reporting .disconnected).connect_cases s with
      ⟨⟨answer, hok⟩, -, hstate⟩ | ⟨e, he, -, hstate⟩
    · rw [hok, hstate]
      simp [openingStates]
    · rw [he, hstate]
      simp [openingStates]
  | disconnect =>
    have hran := Client.disconnect_eq c s
    simp only [Step.run, hran, Client.reports_farewell]
    rfl
  | operate op =>
    show (op.run c s).client.state = (op.run c s).journal.reports.getLast?.getD c.state
    rw [op.reports_run]
    rcases op.drop_cases c s with ⟨-, -, hstate, hreports⟩ | ⟨hclient, hnone⟩
    · rw [hstate, hreports]
      rfl
    · rw [hclient, hnone]
      rfl
  | adjust setting => cases setting <;> rfl
  | receive => rfl
  | hangUp => rfl

end Updates

/-! ### Steps and the channel -/

namespace Step

/-- Whether a step is one of the client's own, and not about the channel alone. -/
def isOwn : Step → Bool
  | adjust (.channel _) | receive | hangUp => false
  | _ => true

variable [Node σ]

/-- All that a step of the client's own does with the channel is to publish. -/
theorem onlyPublishes_run {step : Step} (h : step.isOwn = true) :
    OnlyPublishes (step.run (σ := σ)) := by
  cases step with
  | connect => exact Client.onlyPublishes_connect
  | reconnect => exact Client.onlyPublishes_reconnect
  | disconnect => exact Client.onlyPublishes_disconnect
  | operate op => exact op.onlyPublishes_run
  | adjust setting =>
    cases setting with
    | channel ch => cases h
    | _ => exact .of_silent (fun _ _ => rfl) fun _ _ => rfl
  | receive => cases h
  | hangUp => cases h

/-- A step about the channel leaves everything else alone. -/
theorem run_of_not_isOwn {step : Step} (h : step.isOwn = false) (c : Client) (s : σ) :
    (step.run c s).client.muted = c.muted ∧ (step.run c s).node = s ∧
      (step.run c s).journal = [] := by
  cases step with
  | adjust setting =>
    cases setting with
    | channel ch => exact ⟨rfl, rfl, rfl⟩
    | _ => cases h
  | receive => exact ⟨rfl, rfl, rfl⟩
  | hangUp => exact ⟨rfl, rfl, rfl⟩
  | _ => cases h

end Step

/-! ### What a step does to what waits -/

namespace Client

theorem published_of_some {c : Client} {ch : Channel} (h : c.channel = some ch) :
    c.published = ch.queue := by
  simp only [published, h]

theorem published_of_none {c : Client} (h : c.channel = none) : c.published = [] := by
  simp only [published, h]

/-- What waits after something happened to the channel alone. -/
theorem published_of_map {c c' : Client} {f : Channel → Channel} (h : c'.channel = c.channel.map f)
    {g : List LinkState → List LinkState} (hnil : g [] = [])
    (hqueue : ∀ ch, (f ch).queue = g ch.queue) : c'.published = g c.published := by
  rcases hc : c.channel with _ | ch
  · rw [hc] at h
    rw [published_of_none h, published_of_none hc, hnil]
  · rw [hc] at h
    rw [published_of_some h, published_of_some hc, hqueue]

theorem published_afterReceiving (c : Client) : c.afterReceiving.published = [] :=
  published_of_map (g := fun _ => []) rfl rfl fun _ => rfl

theorem published_withoutReceiver (c : Client) : c.withoutReceiver.published = [] :=
  published_of_map (g := fun _ => []) rfl rfl fun _ => rfl

end Client

namespace Step

/-- What the subscriber receives in a step. -/
def received (c : Client) : Step → List LinkState
  | receive => c.published
  | _ => []

variable [Node σ]

/-- After a step of the client's own, some of the updates wait behind what waited before. -/
theorem exists_published_run {step : Step} (h : step.isOwn = true) (c : Client) (s : σ) :
    ∃ kept, kept.Sublist (step.run c s).journal.reports ∧
      (step.run c s).client.published = c.published ++ kept := by
  have hchannel := (onlyPublishes_run (σ := σ) h).channel_eq c s
  rcases hc : c.channel with _ | ch
  · rw [hc] at hchannel
    refine ⟨[], List.nil_sublist _, ?_⟩
    rw [Client.published_of_none hchannel, Client.published_of_none hc]
    rfl
  · rw [hc] at hchannel
    rw [Client.published_of_some hchannel, Client.published_of_some hc]
    exact ch.exists_queue_sendAll _

theorem received_of_isOwn {step : Step} (h : step.isOwn = true) (c : Client) :
    step.received c = [] := by
  cases step with
  | receive => cases h
  | _ => rfl

/-- The steps about the channel that keep it are what the subscriber does. -/
theorem eq_receive_or_hangUp {step : Step} (h : ∀ ch, step ≠ .adjust (.channel ch))
    (hown : ¬ step.isOwn = true) : step = .receive ∨ step = .hangUp := by
  cases step with
  | adjust setting =>
    cases setting with
    | channel ch => exact absurd rfl (h ch)
    | _ => exact absurd rfl hown
  | receive => exact .inl rfl
  | hangUp => exact .inr rfl
  | _ => exact absurd rfl hown

/-- What is received in a step, and what waits after it, has waited before or is an update. -/
theorem sublist_run {step : Step} (h : ∀ ch, step ≠ .adjust (.channel ch)) (c : Client) (s : σ) :
    (step.received c ++ (step.run c s).client.published).Sublist
      (c.published ++ (step.run c s).journal.reports) := by
  by_cases hown : step.isOwn = true
  · obtain ⟨kept, hkept, hpublished⟩ := exists_published_run hown c s
    rw [received_of_isOwn hown, hpublished]
    exact hkept.append_left c.published
  · obtain rfl | rfl := eq_receive_or_hangUp h hown
    · show (c.published ++ c.afterReceiving.published).Sublist (c.published ++ [])
      rw [c.published_afterReceiving]
    · show c.withoutReceiver.published.Sublist (c.published ++ [])
      rw [c.published_withoutReceiver]
      exact List.nil_sublist _

/-- If there is room for the updates and nothing is thrown away, all of it is received or waits. -/
theorem received_run_of_room {step : Step} (h : ∀ ch, step ≠ .adjust (.channel ch)) {c : Client}
    {s : σ} {ch : Channel} (hc : c.channel = some ch)
    (hroom : ch.Holds (step.run c s).journal.reports) (hstays : step = .hangUp → c.published = []) :
    step.received c ++ (step.run c s).client.published =
      c.published ++ (step.run c s).journal.reports := by
  by_cases hown : step.isOwn = true
  · have hchannel := (onlyPublishes_run (σ := σ) hown).channel_eq c s
    rw [hc] at hchannel
    rw [received_of_isOwn hown, Client.published_of_some hchannel, Client.published_of_some hc,
      Channel.queue_sendAll_of_holds hroom]
    rfl
  · obtain rfl | rfl := eq_receive_or_hangUp h hown
    · show c.published ++ c.afterReceiving.published = c.published ++ []
      rw [c.published_afterReceiving]
    · show c.withoutReceiver.published = c.published ++ []
      rw [c.published_withoutReceiver, hstays rfl]
      rfl

end Step

/-! ### Sessions without the channel -/

namespace Session

/-- The steps of the client's own, with what came of them. -/
def ownTurns (session : Session σ) : List Turn := session.turns.filter fun turn => turn.step.isOwn

/-- A session but for the channel: the steps about it are left out, and the client is without it. -/
def muted (session : Session σ) : Session σ :=
  ⟨session.ownTurns, session.client.muted, session.node, session.journal⟩

variable [Node σ]

theorem ownTurns_take_of_isOwn {step : Step} (h : step.isOwn = true) (session : Session σ) :
    (session.take step).ownTurns =
      session.ownTurns ++ [⟨step, (step.run session.client session.node).result⟩] := by
  simp [ownTurns, take, List.filter_append, h]

theorem ownTurns_take_of_not_isOwn {step : Step} (h : step.isOwn = false) (session : Session σ) :
    (session.take step).ownTurns = session.ownTurns := by
  simp [ownTurns, take, List.filter_append, h]

/-- A step of the client's own is the same step without the channel. -/
theorem muted_take_of_isOwn {step : Step} (h : step.isOwn = true) (session : Session σ) :
    (session.take step).muted = session.muted.take step := by
  have hpublishes := Step.onlyPublishes_run (σ := σ) h
  have hran := hpublishes session.client session.node
  have hclient := hpublishes.muted_client session.client session.node
  rw [muted, ownTurns_take_of_isOwn h, muted, take, take, hclient, hran]
  rfl

/-- A step about the channel is none without it. -/
theorem muted_take_of_not_isOwn {step : Step} (h : step.isOwn = false) (session : Session σ) :
    (session.take step).muted = session.muted := by
  obtain ⟨hclient, hnode, hjournal⟩ := Step.run_of_not_isOwn h session.client session.node
  rw [muted, ownTurns_take_of_not_isOwn h, muted, take, hclient, hnode, hjournal, List.append_nil]

end Session

/-! ### Sessions with a subscriber -/

namespace Channel

/-- Some of the waiting states are received, the oldest first. -/
def collected (ch : Channel) (count : Nat) : Channel := { ch with queue := ch.queue.drop count }

/-- The receiver lets nothing more onto the channel; what waits can still be received. -/
def shut (ch : Channel) : Channel := { ch with closed := true }

end Channel

/-- The session after something happened to its channel alone. -/
def Session.onChannel (session : Session σ) (f : Channel → Channel) : Session σ :=
  { session with client := session.client.withChannel (session.client.channel.map f) }

/-- Something that happens to a client or to its subscriber. -/
inductive Event where
  /-- The client takes a step; the steps in which the subscriber receives all that waits or goes away
  are among them. -/
  | step (step : Step)
  /-- The subscriber receives some of the states that wait. -/
  | collect (count : Nat)
  /-- The subscriber closes the channel, and can still receive what waits. -/
  | close

/-- A session with a subscriber. -/
structure Broadcast (σ : Type) where
  /-- The session. -/
  session : Session σ
  /-- The states that the subscriber has received, in order. -/
  received : List LinkState
  /-- The states that the client was led through, in order. -/
  history : List LinkState

namespace Event

/-- The step of the client's own that an event is, if it is one. -/
def own? : Event → Option Step
  | step taken => if taken.isOwn then some taken else none
  | collect _ | close => none

/-- The event does not put another channel in the place of the one that there is. -/
def KeepsChannel : Event → Prop
  | step taken => ∀ ch, taken ≠ .adjust (.channel ch)
  | collect _ | close => True

end Event

namespace Broadcast

/-- A client and its subscriber before the first event. -/
def start (c : Client) (s : σ) : Broadcast σ := ⟨.start c s, [], []⟩

/-- What waits to be received. -/
def pending (b : Broadcast σ) : List LinkState := b.session.client.published

variable [Node σ]

/-- The states that the client is led through in the next event. -/
def updates (b : Broadcast σ) : Event → List LinkState
  | .step step =>
    let ran := step.run b.session.client b.session.node
    step.updates b.session.client ran.client ran.result
  | .collect _ | .close => []

/-- What the subscriber receives in the next event. -/
def deliveries (b : Broadcast σ) : Event → List LinkState
  | .step step => step.received b.session.client
  | .collect count => b.pending.take count
  | .close => []

/-- What the next event does to the session. -/
def advance (b : Broadcast σ) : Event → Session σ
  | .step step => b.session.take step
  | .collect count => b.session.onChannel (·.collected count)
  | .close => b.session.onChannel (·.shut)

/-- After the next event. -/
def next (b : Broadcast σ) (event : Event) : Broadcast σ :=
  ⟨b.advance event, b.received ++ b.deliveries event, b.history ++ b.updates event⟩

/-- After these events. -/
def run (events : List Event) (c : Client) (s : σ) : Broadcast σ := events.foldl next (start c s)

theorem run_append_singleton (events : List Event) (event : Event) (c : Client) (s : σ) :
    run (events ++ [event]) c s = (run events c s).next event := by
  rw [run, run, List.foldl_append]
  rfl

/-- Nothing gets lost in the next event: there is room for every update when it is published, and the
subscriber does not go away while states wait. -/
def Delivers (b : Broadcast σ) : Event → Prop
  | .step step =>
    (∃ ch, b.session.client.channel = some ch ∧ ch.Holds (b.updates (.step step))) ∧
      (step = .hangUp → b.pending = [])
  | .collect _ | .close => True

/-! ### What is received -/

/-- The updates of an event are what is reported in it. -/
theorem reports_advance (b : Broadcast σ) (event : Event) :
    (b.advance event).journal.reports = b.session.journal.reports ++ b.updates event := by
  cases event with
  | step step =>
    show (b.session.journal ++ _).reports = _
    rw [Journal.reports_append, step.reports_run]
    rfl
  | collect count => exact (List.append_nil _).symm
  | close => exact (List.append_nil _).symm

/-- The state after an event is the last one of its updates, if there are any. -/
theorem state_advance (b : Broadcast σ) (event : Event) :
    (b.advance event).client.state =
      (b.updates event).getLast?.getD b.session.client.state := by
  cases event with
  | step step =>
    have hstate := step.state_run b.session.client b.session.node
    rw [step.reports_run] at hstate
    exact hstate
  | collect count => rfl
  | close => rfl

/-- The history is what the client reports. -/
theorem history_run (events : List Event) (c : Client) (s : σ) :
    (run events c s).history = (run events c s).session.journal.reports := by
  induction events using List.reverseRecOn with
  | nil => rfl
  | append_singleton events event ih =>
    rw [run_append_singleton]
    show (run events c s).history ++ _ = ((run events c s).advance event).journal.reports
    rw [ih, reports_advance]

/-- The state is the last one of the history. -/
theorem state_run (events : List Event) (c : Client) (s : σ) :
    (run events c s).session.client.state = (run events c s).history.getLast?.getD c.state := by
  induction events using List.reverseRecOn with
  | nil => rfl
  | append_singleton events event ih =>
    rw [run_append_singleton]
    show ((run events c s).advance event).client.state =
      ((run events c s).history ++ (run events c s).updates event).getLast?.getD c.state
    rw [state_advance, ih, List.getLast?_append]
    cases ((run events c s).updates event).getLast? <;> rfl

/-- What the subscriber does with the channel moves states from those that wait to those that are
received, and loses none. -/
theorem received_collect (b : Broadcast σ) (count : Nat) :
    b.deliveries (.collect count) ++ (b.next (.collect count)).pending = b.pending := by
  have hpending : (b.next (.collect count)).pending = b.pending.drop count :=
    Client.published_of_map (f := (·.collected count)) rfl List.drop_nil fun _ => rfl
  rw [hpending]
  exact List.take_append_drop count b.pending

theorem pending_close (b : Broadcast σ) : (b.next .close).pending = b.pending :=
  Client.published_of_map (f := (·.shut)) (g := id) rfl rfl fun _ => rfl

/-- What is received in an event, and what waits after it, has waited before or is an update. -/
theorem sublist_next (b : Broadcast σ) {event : Event} (h : event.KeepsChannel) :
    (b.deliveries event ++ (b.next event).pending).Sublist (b.pending ++ b.updates event) := by
  cases event with
  | step step =>
    have hstep := step.sublist_run h b.session.client b.session.node
    rw [step.reports_run] at hstep
    exact hstep
  | collect count =>
    rw [received_collect]
    exact List.sublist_append_left _ _
  | close =>
    rw [pending_close]
    exact List.sublist_append_left _ _

/-- If nothing gets lost, all of it is received or waits. -/
theorem received_next_of_delivers {b : Broadcast σ} {event : Event} (h : event.KeepsChannel)
    (hdelivers : b.Delivers event) :
    b.deliveries event ++ (b.next event).pending = b.pending ++ b.updates event := by
  cases event with
  | step step =>
    obtain ⟨⟨ch, hc, hroom⟩, hstays⟩ := hdelivers
    have hreports := step.reports_run b.session.client b.session.node
    have hroom' : ch.Holds (step.run b.session.client b.session.node).journal.reports := by
      rw [hreports]
      exact hroom
    have hstep := Step.received_run_of_room h hc hroom' hstays
    rw [hreports] at hstep
    exact hstep
  | collect count =>
    rw [received_collect]
    exact (List.append_nil _).symm
  | close =>
    rw [pending_close]
    exact (List.append_nil _).symm

/-- What was received and what waits is part of the history, in order. -/
theorem sublist_run {events : List Event} (h : ∀ event ∈ events, event.KeepsChannel) {c : Client}
    (hc : c.published = []) (s : σ) :
    ((run events c s).received ++ (run events c s).pending).Sublist (run events c s).history := by
  induction events using List.reverseRecOn with
  | nil =>
    show c.published.Sublist []
    rw [hc]
  | append_singleton events event ih =>
    rw [run_append_singleton]
    have hbefore := ih fun other hm => h other (List.mem_append_left _ hm)
    generalize run events c s = b at hbefore
    have hnext := b.sublist_next (h event (by simp))
    show (b.received ++ b.deliveries event ++ (b.next event).pending).Sublist
      (b.history ++ b.updates event)
    rw [List.append_assoc]
    refine (hnext.append_left b.received).trans ?_
    rw [← List.append_assoc]
    exact hbefore.append_right (b.updates event)

/-- If nothing gets lost in any event, what was received and what waits is the whole history. -/
theorem received_run_of_delivers {events : List Event} (h : ∀ event ∈ events, event.KeepsChannel)
    {c : Client} (hc : c.published = []) {s : σ}
    (hdelivers : ∀ before event, before ++ [event] <+: events → (run before c s).Delivers event) :
    (run events c s).received ++ (run events c s).pending = (run events c s).history := by
  induction events using List.reverseRecOn with
  | nil => exact hc
  | append_singleton events event ih =>
    have hlast := hdelivers events event (List.prefix_refl _)
    have hbefore := ih (fun other hm => h other (List.mem_append_left _ hm)) fun before other hp =>
      hdelivers before other (hp.trans (List.prefix_append _ _))
    rw [run_append_singleton]
    generalize run events c s = b at hbefore hlast
    have hnext := received_next_of_delivers (h event (by simp)) hlast
    show b.received ++ b.deliveries event ++ (b.next event).pending = b.history ++ b.updates event
    rw [List.append_assoc, hnext, ← List.append_assoc, hbefore]

/-! ### What the channel does not affect -/

/-- An event that is a step of the client's own is this step without the channel. -/
theorem muted_advance_of_own (b : Broadcast σ) {event : Event} {step : Step}
    (h : event.own? = some step) : (b.advance event).muted = b.session.muted.take step := by
  cases event with
  | step taken =>
    rw [Event.own?, Option.ite_none_right_eq_some, Option.some.injEq] at h
    obtain ⟨hown, rfl⟩ := h
    exact Session.muted_take_of_isOwn hown b.session
  | collect count => cases h
  | close => cases h

/-- Any other event is none without the channel. -/
theorem muted_advance_of_not_own (b : Broadcast σ) {event : Event} (h : event.own? = none) :
    (b.advance event).muted = b.session.muted := by
  cases event with
  | step taken =>
    have hown : taken.isOwn = false := by simpa [Event.own?] using h
    exact Session.muted_take_of_not_isOwn hown b.session
  | collect count => rfl
  | close => rfl

/-- But for the channel, the session is that of a client without one that takes the same steps. -/
theorem muted_run (events : List Event) (c : Client) (s : σ) :
    (run events c s).session.muted = Session.run (events.filterMap Event.own?) c.muted s := by
  induction events using List.reverseRecOn with
  | nil => rfl
  | append_singleton events event ih =>
    rw [run_append_singleton, List.filterMap_append, List.filterMap_cons, List.filterMap_nil]
    show ((run events c s).advance event).muted = _
    cases hown : event.own? with
    | none => rw [muted_advance_of_not_own _ hown, ih, List.append_nil]
    | some step => rw [muted_advance_of_own _ hown, ih, Session.run_append_singleton]

end Broadcast

/-- **The status channel only observes.** Whatever happens to a client and to the subscriber on its
channel, the history of the states is what the client reported, and its state is the last of them.
What the subscriber receives is part of the history, in order, if nothing was on the channel in the
beginning and no other channel takes its place; and if every update found room on it, what was
received and what still waits is the whole history. Two clients that differ in their channel alone,
and take the same steps, end alike whatever their subscribers do: what comes of each step is the same,
an observer sees the same, the node is in the same state, and so are the clients but for the
channel. -/
theorem status_channel_only_observes [Node σ] (c : Client) (s : σ) (events : List Event) :
    let b := Broadcast.run events c s
    b.history = b.session.journal.reports ∧
    b.session.client.state = b.history.getLast?.getD c.state ∧
    (c.published = [] → (∀ event ∈ events, event.KeepsChannel) →
      b.received.Sublist b.history ∧
      ((∀ before event, before ++ [event] <+: events →
          (Broadcast.run before c s).Delivers event) →
        b.received ++ b.pending = b.history)) ∧
    ∀ (c' : Client) (events' : List Event), c'.muted = c.muted →
      events'.filterMap Event.own? = events.filterMap Event.own? →
      let b' := Broadcast.run events' c' s
      b'.session.ownTurns = b.session.ownTurns ∧ b'.session.journal = b.session.journal ∧
      b'.session.node = b.session.node ∧ b'.session.client.muted = b.session.client.muted ∧
      b'.history = b.history := by
  intro b
  refine ⟨Broadcast.history_run events c s, Broadcast.state_run events c s, ?_, ?_⟩
  · intro hempty hkeeps
    refine ⟨?_, Broadcast.received_run_of_delivers hkeeps hempty⟩
    exact (List.sublist_append_left _ _).trans (Broadcast.sublist_run hkeeps hempty s)
  · intro c' events' hclient hevents b'
    have hmuted : b'.session.muted = b.session.muted := by
      rw [Broadcast.muted_run, Broadcast.muted_run, hclient, hevents]
    simp only [Session.muted, Session.mk.injEq] at hmuted
    obtain ⟨hturns, hclient', hnode, hjournal⟩ := hmuted
    refine ⟨hturns, hjournal, hnode, hclient', ?_⟩
    rw [Broadcast.history_run, Broadcast.history_run]
    exact congrArg Journal.reports hjournal

/-- On a channel with one place the second update of an opening gets lost, and the next one after the
first was received does not. -/
example :
    let c := (Client.start (.endpoint "a:1") (.ofList [])).withChannel (some (.ofCapacity 1))
    let b := Broadcast.run [.step .connect, .collect 1, .step .disconnect] c ScriptedNode.empty
    b.received = [.connecting] ∧ b.pending = [.disconnected] ∧
      b.history = [.connecting, .connected, .disconnected] := ⟨rfl, rfl, rfl⟩

end LedgerClient
