import LedgerClient.Proofs.Composition
import LedgerClient.Proofs.Failover
import LedgerClient.Proofs.LinkDrop

/-!
# Publication

The states of the link that a client reports are published on its channel, one after the other, and
this is all that a client has to do with its channel: it never looks at it.

## The model

`OnlyPublishes m` says both at once. It compares a run of `m` with the run from the same client
without a channel: they have the same result, the same journal and so on, and differ in the channel
alone, on which the states in the journal were published. So the channel decides nothing, and what
becomes of it is known from the journal.

## What is proved

* `OnlyPublishes.bind` and others: the law is kept when actions are put together.
* `Operation.onlyPublishes_run`, `Client.onlyPublishes_connect`: it is a law of all that a client does.
* `OnlyPublishes.reports_eq`: what an action reports is what a channel that is large enough gets.
-/

namespace LedgerClient

variable {σ α β : Type}

/-! ### Channels -/

namespace Channel

/-- Several states are published, one after the other. -/
def sendAll (ch : Channel) (states : List LinkState) : Channel := states.foldl send ch

@[simp] theorem sendAll_nil (ch : Channel) : ch.sendAll [] = ch := rfl

@[simp] theorem sendAll_cons (ch : Channel) (state : LinkState) (states : List LinkState) :
    ch.sendAll (state :: states) = (ch.send state).sendAll states := rfl

theorem sendAll_append (ch : Channel) (states more : List LinkState) :
    ch.sendAll (states ++ more) = (ch.sendAll states).sendAll more := List.foldl_append

@[simp] theorem map_sendAll_nil (channel : Option Channel) :
    channel.map (·.sendAll []) = channel := by
  cases channel <;> rfl

theorem map_sendAll_append (channel : Option Channel) (states more : List LinkState) :
    (channel.map (·.sendAll states)).map (·.sendAll more) =
      channel.map (·.sendAll (states ++ more)) := by
  cases channel with
  | none => rfl
  | some ch => exact congrArg some (ch.sendAll_append states more).symm

/-- All the states find room, one after the other, and there is somebody to receive them. -/
def Holds (ch : Channel) : List LinkState → Prop
  | [] => True
  | state :: rest => ch.closed = false ∧ ch.queue.length < ch.capacity ∧ (ch.send state).Holds rest

theorem send_of_room {ch : Channel} (hopen : ch.closed = false)
    (hroom : ch.queue.length < ch.capacity) (state : LinkState) :
    ch.send state = { ch with queue := ch.queue ++ [state] } := by
  rw [send, if_neg]
  simp [hopen, hroom]

/-- A state that is published waits behind the others or is lost. -/
theorem queue_send (ch : Channel) (state : LinkState) :
    (ch.send state).queue = ch.queue ++ [state] ∨ (ch.send state).queue = ch.queue := by
  rw [send]
  split
  · exact .inr rfl
  · exact .inl rfl

/-- Of the states that are published some wait behind the others, in order. -/
theorem exists_queue_sendAll (ch : Channel) (states : List LinkState) :
    ∃ kept, kept.Sublist states ∧ (ch.sendAll states).queue = ch.queue ++ kept := by
  induction states generalizing ch with
  | nil => exact ⟨[], .slnil, by simp⟩
  | cons state rest ih =>
    obtain ⟨kept, hkept, hqueue⟩ := ih (ch.send state)
    rw [sendAll_cons, hqueue]
    rcases ch.queue_send state with hsent | hlost
    · exact ⟨state :: kept, hkept.cons_cons state, by rw [hsent]; simp⟩
    · exact ⟨kept, hkept.cons state, by rw [hlost]⟩

/-- When they all find room, all wait. -/
theorem queue_sendAll_of_holds {ch : Channel} {states : List LinkState} (h : ch.Holds states) :
    (ch.sendAll states).queue = ch.queue ++ states := by
  induction states generalizing ch with
  | nil => simp
  | cons state rest ih =>
    obtain ⟨hopen, hroom, hrest⟩ := h
    rw [sendAll_cons, ih hrest, send_of_room hopen hroom]
    simp

/-- There is room in an empty channel for as many states as it has places. -/
theorem holds_of_length_le {ch : Channel} (hopen : ch.closed = false) {states : List LinkState}
    (h : ch.queue.length + states.length ≤ ch.capacity) : ch.Holds states := by
  induction states generalizing ch with
  | nil => trivial
  | cons state rest ih =>
    rw [List.length_cons] at h
    have hroom : ch.queue.length < ch.capacity := by omega
    refine ⟨hopen, hroom, ?_⟩
    rw [send_of_room hopen hroom]
    refine ih hopen ?_
    simp only [List.length_append, List.length_singleton]
    omega

end Channel

/-! ### The law -/

namespace Client

/-- The client with a channel, or with none. -/
def withChannel (c : Client) (channel : Option Channel) : Client := { c with channel := channel }

/-- The client without a channel. -/
def muted (c : Client) : Client := c.withChannel none

@[simp] theorem channel_withChannel (c : Client) (channel : Option Channel) :
    (c.withChannel channel).channel = channel := rfl

/-- What an observer sees of a link being given up does not depend on the channel. -/
theorem aftermath_withChannel (c : Client) (channel : Option Channel) (result : Except Error α) :
    (c.withChannel channel).aftermath result = c.aftermath result := rfl

/-- The state that giving up a broken link leads to is published. -/
theorem after_withChannel (c : Client) (channel : Option Channel) (result : Except Error α) :
    (c.withChannel channel).after result =
      (c.after result).withChannel (channel.map (·.sendAll (c.aftermath result).reports)) := by
  by_cases hb : BreaksLink result
  · rw [after_of_breaksLink hb, after_of_breaksLink hb]
    rcases h : c.link with _ | link
    · have h' : (c.withChannel channel).link = none := h
      rw [unlinked_of_none h, unlinked_of_none h', aftermath_of_none h, Journal.reports_nil,
        Channel.map_sendAll_nil]
    · rw [reports_aftermath_of_link h hb]
      simp only [unlinked, withChannel, h]
      rfl
  · rw [after_of_not_breaksLink hb, after_of_not_breaksLink hb, aftermath_of_not_breaksLink hb c,
      Journal.reports_nil, Channel.map_sendAll_nil]

end Client

/-- A run with the client on another channel: the states that it reported are published there. -/
def Ran.publishedOn (ran : Ran σ α) (channel : Option Channel) : Ran σ α :=
  { ran with client := ran.client.withChannel (channel.map (·.sendAll ran.journal.reports)) }

/-- All that an action does with a channel is to publish the states that it reports: its run is that
of the client without a channel, but for what became of the channel. -/
def OnlyPublishes (m : Action σ α) : Prop := ∀ c s, m c s = (m c.muted s).publishedOn c.channel

namespace OnlyPublishes

open LedgerClient.Action

/-- An action that reports nothing and leaves the channel alone. -/
theorem of_silent {m : Action σ α}
    (h : ∀ c s, m c s = { m c.muted s with client := (m c.muted s).client.withChannel c.channel })
    (hreports : ∀ c s, (m c s).journal.reports = []) : OnlyPublishes m := by
  intro c s
  rw [h c s, Ran.publishedOn, hreports c.muted s]
  simp

theorem finish (result : Except Error α) : OnlyPublishes (Action.finish (σ := σ) result) :=
  of_silent (fun _ _ => rfl) fun _ _ => rfl

theorem pure (a : α) : OnlyPublishes (Pure.pure a : Action σ α) := finish (.ok a)

theorem note (notice : Notice) : OnlyPublishes (Action.note (σ := σ) notice) :=
  of_silent (fun _ _ => rfl) fun _ _ => rfl

theorem hold (link : Link) : OnlyPublishes (Action.hold (σ := σ) link) :=
  of_silent (fun _ _ => rfl) fun _ _ => rfl

theorem release : OnlyPublishes (Action.release (σ := σ)) := by
  refine of_silent (fun c s => ?_) fun c s => ?_
  · rw [release_eq, release_eq]
    rfl
  · rw [release_eq]
    exact c.reports_releaseEntries

theorem report (state : LinkState) : OnlyPublishes (Action.report (σ := σ) state) :=
  fun _ _ => rfl

theorem liveLink : OnlyPublishes (Action.liveLink (σ := σ)) :=
  of_silent (fun _ _ => rfl) fun _ _ => rfl

theorem within {limit : Client → Millis} (hlimit : ∀ c, limit c.muted = limit c)
    (late : Millis → Error) {x : Exchange σ α} (hx : ∀ limit s, (x limit s).journal.reports = []) :
    OnlyPublishes (Action.within limit late x) := by
  refine of_silent (fun c s => ?_) fun c s => hx _ s
  simp only [Action.within, hlimit]
  rfl

/-- The client after a run, but for its channel. -/
theorem muted_client {m : Action σ α} (hm : OnlyPublishes m) (c : Client) (s : σ) :
    (m c s).client.muted = (m c.muted s).client := by
  -- a run without a channel ends without one
  have hmuted : (m c.muted s).client.muted = (m c.muted s).client :=
    (congrArg Ran.client (hm c.muted s)).symm
  rw [hm c s, ← hmuted]
  rfl

theorem bind {m : Action σ α} {f : α → Action σ β} (hm : OnlyPublishes m)
    (hf : ∀ a, OnlyPublishes (f a)) : OnlyPublishes (m >>= f) := by
  intro c s
  have hran := hm c s
  rcases h : (m c.muted s).result with e | a
  · rw [bind_error f h, bind_error f (e := e) (by rw [hran]; exact h), hran]
    rfl
  · -- the second step starts with what the first one left on the channel
    have hclient := hm.muted_client c s
    rw [bind_ok f h, bind_ok f (a := a) (by rw [hran]; exact h), hf a, hclient, hran]
    simp only [Ran.publishedOn, Ran.behind, Journal.reports_append, Client.channel_withChannel,
      Channel.map_sendAll_append]

theorem outcome {m : Action σ α} (hm : OnlyPublishes m) : OnlyPublishes m.outcome := by
  intro c s
  have hran := hm c s
  simp only [Action.outcome]
  rw [hran]
  rfl

/-- A step that looks at the client, but not at its channel. -/
theorem client_bind {f : Client → Action σ β} (hf : ∀ c, f c.muted = f c)
    (h : ∀ c, OnlyPublishes (f c)) : OnlyPublishes (Action.client >>= f) := by
  intro c s
  have hran : ∀ d : Client, (Action.client >>= f) d s = (f d d s).behind 0 [] := fun d =>
    bind_of_eq_ok f rfl
  rw [hran, hran, hf, h c c s]
  rfl

/-- A broken link is given up in the same way, whatever the channel. -/
theorem observed {m : Action σ α} (hm : OnlyPublishes m) : OnlyPublishes (Action.observed m) := by
  intro c s
  rw [observed_eq, observed_eq, hm c s]
  simp only [Ran.publishedOn, Client.after_withChannel, Client.aftermath_withChannel,
    Journal.reports_append, Channel.map_sendAll_append]

theorem reading {x : Link → Exchange σ α} (hx : ∀ link, (x link).Talks) :
    OnlyPublishes (Action.reading x) := by
  refine liveLink.bind fun link => observed ?_
  exact within (fun _ => rfl) _ fun limit s => (hx link limit s).reports

theorem submit [Node σ] (x : Extrinsic) (policy : Policy) :
    OnlyPublishes (Client.submit (σ := σ) x policy) := by
  refine liveLink.bind fun link => (note _).bind fun _ => observed ?_
  have hexchange : OnlyPublishes (Action.within (·.submissionTimeout) .submissionTimeout
      (Extrinsic.submit (σ := σ) link x policy)) :=
    within (fun _ => rfl) _ fun limit s => (Extrinsic.talks_submit link x policy limit s).reports
  refine hexchange.outcome.bind fun result => ?_
  rw [Client.noteOutcome_eq]
  exact (note _).bind fun _ => finish result

/-- The steps of operations only publish, and putting them together keeps it so. -/
theorem compositional [Node σ] : Compositional (σ := σ) fun _ m => OnlyPublishes m where
  finish := finish
  note := note
  bind := bind
  outcome := outcome
  ask request := reading fun link => Exchange.talks_ask link request
  build call key := reading fun link => Extrinsic.talks_build link call key
  submit := submit

end OnlyPublishes

/-- All that an operation does with a channel is to publish. -/
theorem Operation.onlyPublishes_run [Node σ] (op : Operation) : OnlyPublishes (op.run (σ := σ)) :=
  OnlyPublishes.compositional.operation op

/-! ### Making and giving up the link -/

namespace Client

variable [Node σ]

theorem onlyPublishes_attempt (address : String) : OnlyPublishes (attempt (σ := σ) address) := by
  refine .of_silent (fun _ _ => rfl) fun c s => ?_
  rw [journal_attempt]
  rfl

theorem onlyPublishes_failover (network : Network) (candidates tried : List String) :
    OnlyPublishes (failover (σ := σ) network candidates tried) := by
  induction tried using failover.induct candidates with
  | case1 tried ih =>
    rw [failover]
    refine (OnlyPublishes.note _).bind fun _ => ?_
    have hdraw : OnlyPublishes (draw (σ := σ) candidates tried) :=
      .of_silent (fun _ _ => rfl) fun _ _ => rfl
    refine hdraw.bind fun drawn => ?_
    cases drawn with
    | none => exact (OnlyPublishes.note _).bind fun _ => .finish _
    | some item =>
      obtain ⟨address, ha⟩ := item
      refine (OnlyPublishes.note _).bind fun _ => ?_
      refine (onlyPublishes_attempt address).outcome.bind fun result => ?_
      cases result with
      | ok link => exact .pure link
      | error e => exact (OnlyPublishes.note _).bind fun _ => ih address ha

theorem onlyPublishes_dialTarget : OnlyPublishes (dialTarget (σ := σ)) := by
  refine .client_bind (fun c => rfl) fun c => ?_
  cases c.target with
  | endpoint address => exact onlyPublishes_attempt address
  | network network =>
    dsimp only
    cases c.catalog.endpoints network with
    | ok candidates => exact onlyPublishes_failover network candidates []
    | error e => exact .finish _

theorem onlyPublishes_connect : OnlyPublishes (connect (σ := σ)) := by
  refine OnlyPublishes.release.bind fun _ => ?_
  refine (OnlyPublishes.report _).bind fun _ => ?_
  refine onlyPublishes_dialTarget.outcome.bind fun result => ?_
  cases result with
  | ok link =>
    refine .client_bind (fun c => rfl) fun c => ?_
    refine (OnlyPublishes.note _).bind fun _ => ?_
    exact (OnlyPublishes.hold link).bind fun _ => .report _
  | error e => exact (OnlyPublishes.report _).bind fun _ => .finish _

omit [Node σ] in
theorem onlyPublishes_disconnect : OnlyPublishes (disconnect (σ := σ)) := by
  intro c s
  have hfarewell : c.muted.farewell = c.farewell := rfl
  rw [disconnect_eq, disconnect_eq, Ran.publishedOn, hfarewell, reports_farewell]
  rfl

theorem onlyPublishes_reconnect : OnlyPublishes (reconnect (σ := σ)) :=
  onlyPublishes_disconnect.bind fun _ => onlyPublishes_connect

end Client

/-! ### What is reported -/

namespace OnlyPublishes

/-- What an action reports is the same on every channel. -/
theorem journal_withChannel {m : Action σ α} (hm : OnlyPublishes m) (c : Client)
    (channel : Option Channel) (s : σ) :
    (m (c.withChannel channel) s).journal = (m c s).journal := by
  rw [hm c s, hm (c.withChannel channel) s]
  rfl

theorem result_withChannel {m : Action σ α} (hm : OnlyPublishes m) (c : Client)
    (channel : Option Channel) (s : σ) :
    (m (c.withChannel channel) s).result = (m c s).result := by
  rw [hm c s, hm (c.withChannel channel) s]
  rfl

theorem channel_eq {m : Action σ α} (hm : OnlyPublishes m) (c : Client) (s : σ) :
    (m c s).client.channel = c.channel.map (·.sendAll (m c s).journal.reports) := by
  have hjournal : (m c.muted s).journal = (m c s).journal := hm.journal_withChannel c none s
  rw [← hjournal, hm c s]
  rfl

/-- If these are the states that get onto any channel, they are the states that are reported. -/
theorem reports_eq {m : Action σ α} (hm : OnlyPublishes m) {c : Client} {s : σ}
    {states : List LinkState}
    (h : ∀ ch, (m (c.withChannel (some ch)) s).client.channel = some (ch.sendAll states)) :
    (m c s).journal.reports = states := by
  -- a channel on which nothing gets lost
  let ch := Channel.ofCapacity ((m c s).journal.reports.length + states.length)
  have hsent : ch.sendAll (m c s).journal.reports = ch.sendAll states := by
    have hchannel := hm.channel_eq (c.withChannel (some ch)) s
    rw [h ch, hm.journal_withChannel] at hchannel
    exact (Option.some.inj hchannel).symm
  have hqueue : ∀ more : List LinkState,
      more.length ≤ (m c s).journal.reports.length + states.length →
      (ch.sendAll more).queue = more := by
    intro more hlength
    have hroom : ch.queue.length + more.length ≤ ch.capacity := by
      rw [Nat.add_comm]
      exact hlength
    exact Channel.queue_sendAll_of_holds (Channel.holds_of_length_le rfl hroom)
  rw [← hqueue _ (Nat.le_add_right _ _), hsent, hqueue _ (Nat.le_add_left _ _)]

end OnlyPublishes

section Reports

variable [Node σ]

/-- An operation reports nothing but that a broken link was given up. -/
theorem Operation.reports_run (op : Operation) (c : Client) (s : σ) :
    (op.run c s).journal.reports = (c.aftermath (op.run c s).result).reports := by
  have hpublishes := op.onlyPublishes_run (σ := σ)
  refine hpublishes.reports_eq fun ch => ?_
  rw [op.observant_run.client_eq, hpublishes.result_withChannel, Client.after_withChannel]
  rfl

/-- Making a link is not reported as long as it goes on. -/
theorem Client.reports_dialTarget (c : Client) (s : σ) : (dialTarget c s).journal.reports = [] := by
  refine onlyPublishes_dialTarget.reports_eq fun ch => ?_
  obtain ⟨words, hclient⟩ := (dialling_dialTarget (c.withChannel (some ch)) s).client_eq
  rw [hclient]
  rfl

end Reports

end LedgerClient
