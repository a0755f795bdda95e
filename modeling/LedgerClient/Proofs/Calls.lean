import LedgerClient.Proofs.LinkDrop

/-!
# What calls do to the node

After an exchange that succeeds the journal tells all that has happened to the node: it has answered
the calls in it, one after the other, and nothing else. So the state in which the node is asked is known
from the calls before.

## The model

`afterCalls calls s` is the state of a node that was in state `s` and has answered these calls.
`Exchange.Recounts` and `Action.Recounts` say of an exchange and of an action that each success leaves
the node in that state. Both are closed under sequence. The actions that talk with the node are single
exchanges (`Action.IsExchange`), and take the law over from them.

## What is proved

* `Exchange.Recounts.build`, `Exchange.Recounts.submit`: the exchanges of a write recount.
* `Action.Recounts.relaying`: so do the steps of all operations, and what is put together from them.
-/

namespace LedgerClient

variable {σ α β : Type}

section Calls

variable [Node σ]

/-- The state of the node after these calls were answered, one after the other. -/
def afterCalls (calls : List (Link × Request)) (s : σ) : σ :=
  calls.foldl (fun t call => (Node.ask call.1 call.2 t).answered) s

theorem afterCalls_append (before after : List (Link × Request)) (s : σ) :
    afterCalls (before ++ after) s = afterCalls after (afterCalls before s) := List.foldl_append

/-! ### Exchanges -/

namespace Exchange

/-- After a success the node has answered the calls, and nothing else has happened to it. -/
def Recounts (x : Exchange σ α) : Prop := ∀ ⦃limit s a t⦄, (x limit s).success? = some (a, t) →
  t = afterCalls (x limit s).journal.calls s

namespace Recounts

theorem finish (result : Except Error α) : Recounts (Exchange.finish (σ := σ) result) :=
  fun _ _ _ _ h => (Talk.success?_eq_some_iff.mp h).2.symm

theorem note (notice : Notice) : Recounts (Exchange.note (σ := σ) notice) :=
  fun _ _ _ _ h => (Talk.success?_eq_some_iff.mp h).2.symm

theorem bind {x : Exchange σ α} {f : α → Exchange σ β} (hx : Recounts x)
    (hf : ∀ a, Recounts (f a)) : Recounts (x >>= f) := by
  intro limit s b t h
  rcases hr : (x limit s).result with _ | e | a
  · rw [bind_late f hr] at h
    cases h
  · rw [bind_error f hr] at h
    cases h
  · have hnode := hx (Talk.success?_eq_some_iff.mpr ⟨hr, rfl⟩)
    rw [bind_ok f hr, Talk.success?_behind] at h
    rw [bind_ok f hr, Talk.behind, Journal.calls_append, afterCalls_append, ← hnode]
    exact hf a h

theorem ask (link : Link) (request : Request) :
    Recounts (Exchange.ask (σ := σ) link request) := by
  intro limit s a t h
  obtain ⟨-, -, hnode⟩ := answers_iff.mpr h
  rw [journal_ask]
  exact hnode.symm

theorem askLocal (link : Link) (request : Request) :
    Recounts (Exchange.askLocal (σ := σ) link request) :=
  fun _ _ _ _ h => (Talk.success?_eq_some_iff.mp h).2.symm

theorem build (link : Link) (call : Call) (key : SigningKey) :
    Recounts (Extrinsic.build (σ := σ) link call key) := by
  refine (ask link _).bind fun nonce => ?_
  refine (askLocal link _).bind fun encoded => ?_
  exact (note _).bind fun _ => finish _

/-- Waiting for reports does nothing to the node. -/
theorem submit (link : Link) (x : Extrinsic) (policy : Policy) :
    Recounts (Extrinsic.submit (σ := σ) link x policy) := by
  intro limit s o t h
  obtain ⟨journal, hw, ⟨time, result, -, -, hx⟩ | ⟨elapsed, node, hx⟩⟩ :=
    Extrinsic.submit_cases link x policy limit s
  · rw [hx] at h ⊢
    rw [Journal.calls_asked_cons, hw.calls]
    exact (Talk.success?_eq_some_iff.mp h).2.symm
  · rw [hx] at h
    cases h

end Recounts

end Exchange

/-! ### Actions -/

namespace Action

/-- The action is one exchange over the live link, within one of the client's time limits. Without a link
it does nothing, and when the time runs out it says so with an error of its own. -/
structure IsExchange (m : Action σ α) (x : Link → Exchange σ α) (limit : Client → Millis)
    (late : Client → Error) : Prop where
  /-- What it does without a link. -/
  of_none : ∀ {c : Client}, c.link = none → ∀ s,
    (m c s).result = .error .notConnected ∧ (m c s).journal.calls = []
  /-- The result. -/
  result_eq : ∀ {c : Client} {link}, c.link = some link → ∀ s,
    (m c s).result = (x link (limit c) s).result.getD (.error (late c))
  /-- The state of the node. -/
  node_eq : ∀ {c : Client} {link}, c.link = some link → ∀ s,
    (m c s).node = (x link (limit c) s).node
  /-- The calls. -/
  calls_eq : ∀ {c : Client} {link}, c.link = some link → ∀ s,
    (m c s).journal.calls = (x link (limit c) s).journal.calls

namespace IsExchange

omit [Node σ] in
/-- It succeeds when the exchange does. -/
theorem success?_eq {m : Action σ α} {x : Link → Exchange σ α} {limit : Client → Millis}
    {late : Client → Error} (h : IsExchange m x limit late) {c : Client} {link : Link}
    (hc : c.link = some link) (s : σ) : (m c s).success? = (x link (limit c) s).success? := by
  rw [Ran.success?, Talk.success?, h.result_eq hc, h.node_eq hc]
  rcases (x link (limit c) s).result with _ | e | a
  · rfl
  · rfl
  · rfl

omit [Node σ] in
theorem reading (x : Link → Exchange σ α) :
    IsExchange (Action.reading x) x (·.queryTimeout) fun c => noResponse c.queryTimeout where
  of_none hc s := by
    rw [reading_of_none x hc]
    exact ⟨rfl, rfl⟩
  result_eq hc s := by rw [reading_of_some x hc, readResult]
  node_eq hc s := by rw [reading_of_some x hc]
  calls_eq hc s := calls_reading x hc s

theorem submit (x : Extrinsic) (policy : Policy) :
    IsExchange (Client.submit (σ := σ) x policy) (fun link => Extrinsic.submit link x policy)
      (·.submissionTimeout) fun c => .submissionTimeout c.submissionTimeout where
  of_none hc s := by
    rw [Client.submit_of_none x policy hc]
    exact ⟨rfl, rfl⟩
  result_eq hc s := by rw [Client.submit_of_some x policy hc, Client.submitResult]
  node_eq hc s := by rw [Client.submit_of_some x policy hc]
  calls_eq hc s := by
    rw [Client.submit_of_some x policy hc]
    simp [Client.calls_aftermath]

end IsExchange

/-- After a success the node has answered the calls, and nothing else has happened to it. -/
def Recounts (m : Action σ α) : Prop := ∀ ⦃c s a t⦄, (m c s).success? = some (a, t) →
  t = afterCalls (m c s).journal.calls s

namespace Recounts

theorem finish (result : Except Error α) : Recounts (Action.finish (σ := σ) result) :=
  fun _ _ _ _ h => (Ran.success?_eq_some_iff.mp h).2.symm

theorem note (notice : Notice) : Recounts (Action.note (σ := σ) notice) :=
  fun _ _ _ _ h => (Ran.success?_eq_some_iff.mp h).2.symm

theorem bind {m : Action σ α} {f : α → Action σ β} (hm : Recounts m) (hf : ∀ a, Recounts (f a)) :
    Recounts (m >>= f) := by
  intro c s b t h
  cases hr : (m c s).result with
  | error e =>
    rw [bind_error f hr] at h
    cases h
  | ok a =>
    have hnode := hm (Ran.success?_eq_some_iff.mpr ⟨hr, rfl⟩)
    rw [bind_ok f hr, Ran.success?_behind] at h
    rw [bind_ok f hr, Ran.calls_behind, afterCalls_append, ← hnode]
    exact hf a h

/-- An error that is passed on is no success. -/
theorem outcome_bind {m : Action σ α} {f : Except Error α → Action σ β} (hm : Recounts m)
    (hok : ∀ a, Recounts (f (.ok a)))
    (herror : ∀ e, ∃ notice, f (.error e) = Action.note notice >>= fun _ => .finish (.error e)) :
    Recounts (m.outcome >>= f) := by
  intro c s b t h
  cases hr : (m c s).result with
  | error e =>
    obtain ⟨notice, hf⟩ := herror e
    rw [outcome_bind_of_error hf hr] at h
    cases h
  | ok a =>
    rw [outcome_bind_of_ok hr] at h ⊢
    exact hm.bind hok h

/-- What an action that is one exchange does to the node is what the exchange does. -/
theorem of_exchange {m : Action σ α} {x : Link → Exchange σ α} {limit : Client → Millis}
    {late : Client → Error} (h : IsExchange m x limit late) (hx : ∀ link, (x link).Recounts) :
    Recounts m := by
  intro c s a t hsuccess
  cases hc : c.link with
  | none =>
    rw [Ran.success?, (h.of_none hc s).1] at hsuccess
    cases hsuccess
  | some link =>
    rw [h.calls_eq hc s]
    exact hx link (h.success?_eq hc s ▸ hsuccess)

/-- The steps of operations recount, and so do they one after the other. -/
theorem relaying : Relaying (σ := σ) (fun _ => True) fun _ m => Recounts m where
  finish _ := finish _
  note := note
  bind := bind
  outcome_bind := outcome_bind
  ask request _ := .of_exchange (.reading _) fun link => .ask link request
  build call key := .of_exchange (.reading _) fun link => .build link call key
  submit x policy _ := .of_exchange (.submit x policy) fun link => .submit link x policy

end Recounts

end Action

end Calls

end LedgerClient
