import LedgerClient.Proofs.Composition
import LedgerClient.Proofs.Deadline

/-!
# Which operations lose the link

A client with a live link loses it in an operation exactly when the operation ends with an error
that means that the link is broken; in all other cases it is afterwards what it was. A client
without a link gets an error at once and is left alone, and so is the node.

## The model

`Observant m` says that what `m` does to a client follows from how it ends, by `Client.after`, and
that it makes no link. `NeedsLink m e` says that without a link `m` ends with `e` and does nothing
but write notices. Both are closed under sequence, so that all there is to show of an operation is
that its parts are reads and submissions, and that its other steps are harmless.

## What is proved

* `Operation.observant_run`, `Operation.needsLink_run`: both hold of every operation.
-/

namespace LedgerClient

variable {σ α β : Type}

/-! ### Exchanges talk and do nothing else -/

/-- An exchange talks with the node over a link and does nothing else. -/
def Exchange.Talks (x : Exchange σ α) : Prop := ∀ limit s, (x limit s).journal.Talks

namespace Exchange

theorem talks_note (notice : Notice) : Talks (note (σ := σ) notice) := by
  intro limit s entry hm
  rw [List.mem_singleton.mp hm]
  rfl

theorem talks_finish (result : Except Error α) : Talks (finish (σ := σ) result) :=
  fun _ _ _ hm => by cases hm

/-- Exchanges that talk may be put together. -/
theorem Talks.bind {x : Exchange σ α} {f : α → Exchange σ β} (hx : Talks x)
    (hf : ∀ a, Talks (f a)) : Talks (x >>= f) := by
  intro limit s
  match h : (x limit s).success? with
  | none =>
    rw [(bind_of_no_success f h).2]
    exact hx limit s
  | some (a, t) =>
    rw [bind_of_success f h]
    exact (hx limit s).append (hf a _ _)

variable [Node σ]

theorem talks_ask (link : Link) (request : Request) : Talks (ask (σ := σ) link request) := by
  intro limit s entry hm
  rw [journal_ask] at hm
  rw [List.mem_singleton.mp hm]
  rfl

theorem talks_askLocal (link : Link) (request : Request) :
    Talks (askLocal (σ := σ) link request) := by
  intro limit s entry hm
  rw [List.mem_singleton.mp hm]
  rfl

end Exchange

theorem Extrinsic.talks_build [Node σ] (link : Link) (call : Call) (key : SigningKey) :
    Exchange.Talks (build (σ := σ) link call key) := by
  refine (Exchange.talks_ask link _).bind fun nonce => ?_
  refine (Exchange.talks_askLocal link _).bind fun encoded => ?_
  exact (Exchange.talks_note _).bind fun _ => Exchange.talks_finish _

theorem Extrinsic.talks_submit [Node σ] (link : Link) (x : Extrinsic) (policy : Policy) :
    Exchange.Talks (submit (σ := σ) link x policy) := by
  intro limit s
  obtain ⟨journal, hw, hx⟩ := journal_submit link x policy limit s
  rw [hx]
  intro entry hm
  rcases List.mem_cons.mp hm with rfl | hm
  · rfl
  · exact hw.talks entry hm

namespace Action

/-! ### Observant actions -/

/-- An action is observant if all it does to a client is that it gives up the link when it ends with
an error that means that the link is broken, and if it makes no link. -/
structure Observant (m : Action σ α) : Prop where
  /-- The client follows from the result. -/
  client_eq : ∀ c s, (m c s).client = c.after (m c s).result
  /-- No link is made. -/
  dials_eq : ∀ c s, (m c s).journal.dials = []

namespace Observant

/-- A success leaves the client as it was. -/
theorem client_of_success {m : Action σ α} (hm : Observant m) {c : Client} {s t : σ} {a : α}
    (h : (m c s).success? = some (a, t)) : (m c s).client = c := by
  rw [hm.client_eq, (Ran.success?_eq_some_iff.mp h).1, Client.after_ok]

theorem finish {result : Except Error α} (h : Harmless result) :
    Observant (Action.finish (σ := σ) result) := by
  refine ⟨fun c s => ?_, fun c s => rfl⟩
  cases result with
  | ok a => rfl
  | error e => exact (Client.after_of_not_breaksLink h).symm

theorem note (notice : Notice) : Observant (Action.note (σ := σ) notice) :=
  ⟨fun _ _ => rfl, fun _ _ => rfl⟩

/-- A step that succeeds leaves the client to the next one; one that fails is the last. -/
theorem bind {m : Action σ α} {f : α → Action σ β} (hm : Observant m)
    (hf : ∀ a, Observant (f a)) : Observant (m >>= f) := by
  constructor
  · intro c s
    match h : (m c s).result with
    | .error e =>
      rw [bind_error f h, hm.client_eq, h]
      rfl
    | .ok a =>
      have hc : (m c s).client = c := by rw [hm.client_eq, h, Client.after_ok]
      rw [bind_ok f h, hc]
      exact (hf a).client_eq c _
  · intro c s
    match h : (m c s).result with
    | .error e =>
      rw [bind_error f h]
      exact hm.dials_eq c s
    | .ok a =>
      rw [bind_ok f h, Ran.behind, Journal.dials_append, hm.dials_eq, (hf a).dials_eq]
      rfl

/-- An error may be looked at on its way, if it is passed on in the end. -/
theorem outcome_bind {m : Action σ α} {f : Except Error α → Action σ β} (hm : Observant m)
    (hok : ∀ a, Observant (f (.ok a)))
    (herror : ∀ e, ∃ notice, f (.error e) = Action.note notice >>= fun _ => .finish (.error e)) :
    Observant (m.outcome >>= f) := by
  have hbind := hm.bind hok
  constructor
  · intro c s
    cases h : (m c s).result with
    | ok a =>
      rw [outcome_bind_of_ok h]
      exact hbind.client_eq c s
    | error e =>
      obtain ⟨notice, hf⟩ := herror e
      rw [outcome_bind_of_error hf h, hm.client_eq, h]
      rfl
  · intro c s
    cases h : (m c s).result with
    | ok a =>
      rw [outcome_bind_of_ok h]
      exact hbind.dials_eq c s
    | error e =>
      obtain ⟨notice, hf⟩ := herror e
      rw [outcome_bind_of_error hf h, Journal.dials_append, hm.dials_eq]
      rfl

theorem reading {x : Link → Exchange σ α} (hx : ∀ link, (x link).Talks) :
    Observant (Action.reading x) := by
  constructor
  · intro c s
    match h : c.link with
    | none => rw [reading_of_none x h, Client.after_of_none h]
    | some link => rw [reading_of_some x h]
  · intro c s
    match h : c.link with
    | none =>
      rw [reading_of_none x h]
      rfl
    | some link =>
      rw [reading_of_some x h, Journal.dials_append, (hx link _ s).dials, Client.dials_aftermath]
      rfl

theorem build [Node σ] (call : Call) (key : SigningKey) :
    Observant (Client.build (σ := σ) call key) :=
  .reading fun link => Extrinsic.talks_build link call key

theorem submit [Node σ] (x : Extrinsic) (policy : Policy) :
    Observant (Client.submit (σ := σ) x policy) := by
  constructor
  · intro c s
    match h : c.link with
    | none => rw [Client.submit_of_none x policy h, Client.after_of_none h]
    | some link => rw [Client.submit_of_some x policy h]
  · intro c s
    match h : c.link with
    | none =>
      rw [Client.submit_of_none x policy h]
      rfl
    | some link =>
      rw [Client.submit_of_some x policy h]
      change Journal.dials (_ ++ _) = []
      rw [Journal.dials_append, (Extrinsic.talks_submit link x policy _ s).dials]
      exact Client.dials_aftermath c _

/-- The steps of operations are observant, and putting them together keeps it so. -/
theorem relaying [Node σ] : Relaying (σ := σ) (fun _ => True) fun _ m => Observant m where
  finish := finish
  note := note
  bind := bind
  outcome_bind := outcome_bind
  ask request _ := reading fun link => Exchange.talks_ask link request
  build := build
  submit x policy _ := submit x policy

end Observant

/-! ### Actions that need a link -/

/-- Without a link the action ends at once with the error `e`, and does nothing but write notices. -/
def NeedsLink (m : Action σ α) (e : Error) : Prop :=
  ∀ c s, c.link = none → ∃ notices : List Notice, m c s = ⟨.error e, c, s, 0, notices.map .noted⟩

namespace NeedsLink

theorem finish (e : Error) : NeedsLink (Action.finish (.error e) : Action σ α) e :=
  fun _ _ _ => ⟨[], rfl⟩

theorem reading (x : Link → Exchange σ α) : NeedsLink (Action.reading x) .notConnected :=
  fun _ s h => ⟨[], reading_of_none x h s⟩

theorem bind {m : Action σ α} {e : Error} (h : NeedsLink m e) (f : α → Action σ β) :
    NeedsLink (m >>= f) e := by
  intro c s hc
  obtain ⟨notices, hm⟩ := h c s hc
  exact ⟨notices, by rw [bind_error f (e := e) (by rw [hm]), hm]⟩

theorem note_bind (notice : Notice) {f : Unit → Action σ α} {e : Error} (h : NeedsLink (f ()) e) :
    NeedsLink (note notice >>= f) e := by
  intro c s hc
  obtain ⟨notices, hf⟩ := h c s hc
  exact ⟨notice :: notices, by rw [Action.note_bind, hf]; rfl⟩

end NeedsLink

end Action

/-! ### Operations -/

namespace Client

open LedgerClient.Action

variable [Node σ]

theorem observant_queryEntry (item : StorageItem) {decode : Value → Except Error α}
    (h : ∀ v, Harmless (decode v)) : Observant (queryEntry (σ := σ) item decode) :=
  Observant.relaying.lookupLaw.queryEntry item h

theorem observant_uidOf (hotkey : AccountId) : Observant (uidOf (σ := σ) hotkey) :=
  Observant.relaying.lookupLaw.uidOf hotkey

theorem observant_registeredAs (wallet : Wallet) (ip : IpAddress) (port : UInt16) :
    Observant (registeredAs (σ := σ) wallet ip port) :=
  Observant.relaying.lookupLaw.registeredAs wallet ip port

end Client

/-- Every operation gives up a broken link, and no other. -/
theorem Operation.observant_run [Node σ] (op : Operation) : Action.Observant (op.run (σ := σ)) :=
  Action.Observant.relaying.operation op fun _ _ => trivial

/-! ### Operations without a link -/

namespace Client

open LedgerClient.Action

variable [Node σ]

theorem needsLink_query (item : StorageItem) (block : Option Hash) :
    NeedsLink (query (σ := σ) item block) .notConnected := .note_bind _ (.reading _)

theorem needsLink_queryMap (map : StorageMap) (block : Option Hash) :
    NeedsLink (queryMap (σ := σ) map block) .notConnected := .note_bind _ (.reading _)

theorem needsLink_queryEntry (item : StorageItem) (decode : Value → Except Error α) :
    NeedsLink (queryEntry (σ := σ) item decode) .notConnected := (needsLink_query item none).bind _

theorem needsLink_queryEntries (map : StorageMap) (block : Option Hash)
    (key : Bytes → Except Error α) (decode : Value → Except Error β) :
    NeedsLink (queryEntries (σ := σ) map block key decode) .notConnected :=
  (needsLink_queryMap map block).bind _

theorem needsLink_registeredAs (wallet : Wallet) (ip : IpAddress) (port : UInt16) :
    NeedsLink (registeredAs (σ := σ) wallet ip port) .notConnected :=
  (needsLink_queryEntry _ _).bind _

theorem needsLink_signAndSubmit (call : Call) (wallet : Wallet) (policy : Policy) :
    NeedsLink (signAndSubmit (σ := σ) call wallet policy) .notConnected :=
  (NeedsLink.reading _).bind _

end Client

namespace Write

open LedgerClient.Action

/-- A write looks at its arguments before it looks for the link. -/
theorem needsLink_compose (w : Write) (wallet : Wallet) {f : Call → Action σ α}
    (hf : ∀ call, NeedsLink (f call) .notConnected) :
    NeedsLink (Action.finish (w.call wallet) >>= f) w.unlinkedError := by
  obtain ⟨hn, call, h⟩ | ⟨fault, hs, h⟩ := w.call_cases wallet
  · rw [h, finish_ok_bind, unlinkedError, hn]
    exact hf call
  · rw [h, finish_error_bind, unlinkedError, hs]
    exact .finish _

variable [Node σ]

theorem needsLink_announced (w : Write) (notice : Notice) (wallet : Wallet) (policy : Policy) :
    NeedsLink (Client.announced (σ := σ) (w.call wallet) notice wallet policy) w.unlinkedError :=
  w.needsLink_compose wallet fun call =>
    .note_bind notice (Client.needsLink_signAndSubmit call wallet policy)

theorem needsLink_run (w : Write) (wallet : Wallet) (policy : Policy) :
    NeedsLink (w.run (σ := σ) wallet policy) w.unlinkedError := by
  cases w with
  | send call => exact Client.needsLink_signAndSubmit call wallet policy
  | subscribe ip port modality =>
    exact (subscribe ip port modality).needsLink_compose wallet fun call =>
      (Client.needsLink_registeredAs wallet ip port).bind _
  | addStake amount uid => exact (addStake amount uid).needsLink_announced _ wallet policy
  | unstake amount uid => exact (unstake amount uid).needsLink_announced _ wallet policy
  | transfer dest amount => exact (transfer dest amount).needsLink_announced _ wallet policy
  | setWeights dests values => exact (setWeights dests values).needsLink_announced _ wallet policy

end Write

/-- No operation does anything without a link. -/
theorem Operation.needsLink_run [Node σ] (op : Operation) :
    Action.NeedsLink (op.run (σ := σ)) op.unlinkedError := by
  cases op with
  | query item block => exact Client.needsLink_query item block
  | queryMap map block => exact Client.needsLink_queryMap map block
  | currentBlock => exact .reading _
  | blockNumber hash => exact .reading _
  | blockHash number => exact .reading _
  | balance account => exact (Client.needsLink_query _ none).bind _
  | uidOf hotkey => exact Client.needsLink_queryEntry _ _
  | neuron uid => exact Client.needsLink_queryEntry _ _
  | stake uid => exact Client.needsLink_queryEntry _ _
  | weightUids uid => exact Client.needsLink_queryEntry _ _
  | weightVals uid => exact Client.needsLink_queryEntry _ _
  | weights uid => exact (Client.needsLink_queryEntry _ _).bind _
  | lastEmit uid => exact Client.needsLink_queryEntry _ _
  | activeMap block => exact Client.needsLink_queryEntries _ block _ _
  | stakeMap block => exact Client.needsLink_queryEntries _ block _ _
  | lastEmitMap block => exact Client.needsLink_queryEntries _ block _ _
  | weightUidsMap block => exact Client.needsLink_queryEntries _ block _ _
  | weightValsMap block => exact Client.needsLink_queryEntries _ block _ _
  | neurons block => exact (Client.needsLink_queryEntries _ block _ _).bind _
  | isSubscribed wallet ip port =>
    rw [run, Client.isSubscribed_eq]
    exact (Client.needsLink_registeredAs wallet ip port).bind _
  | build call key => exact .reading _
  | submit x policy => exact fun c s h => ⟨[], Client.submit_of_none x policy h s⟩
  | write w wallet policy => exact w.needsLink_run wallet policy

end LedgerClient
