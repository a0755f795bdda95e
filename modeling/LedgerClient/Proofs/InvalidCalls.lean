import LedgerClient.Proofs.Calls

/-!
# Invalid calls

A write composes its call before it does anything else. Weights without a value for each destination
make no call, so they are refused at once, with or without a link, and nothing else happens. All other
arguments make a call: its module, function and parameters are known ones.

Whether a call is known is not looked at again. So a write with good arguments that ends with an error
that refuses a call or an argument has got this error from the node, as the answer to a request or as a
report on the extrinsic.

## The model

`Error.refusesCall` picks out the errors in question. `NodeSays e link t request` says that the node
answers a request with the error, or accepts an extrinsic and reports the error on it. `Voiced s calls e`
says that this happened at one of the calls, in the state that the node is in after the calls before it.

`Exchange.Echoes` and `Action.Echoes` say of an exchange and of an action that it ends with such an error
only when the node says it. Both also ask that the journal tells which state a success leaves the node
in, since that is where the next step goes on, and so they are closed under sequence.

## What is proved

* `Exchange.Echoes.ask`, `Exchange.Echoes.build`, `Exchange.Echoes.submit`: the exchanges of a write.
* `Write.echoes_run`: every write whose arguments make a call.
* `invalid_calls_touch_nothing`: both rules in one statement.
-/

namespace LedgerClient

variable {σ α β : Type}

/-! ### What the node says -/

/-- Whether an error refuses a call or an argument. -/
def Error.refusesCall : Error → Bool
  | .invalidArgument _ | .noSuchCall _ _ => true
  | _ => false

/-- A decoder's error does not refuse a call: it blames the data. -/
theorem BlamesData.not_refusesCall {result : Except Error α} (h : BlamesData result) {e : Error}
    (he : result = .error e) : e.refusesCall = false := by
  obtain ⟨fault, rfl⟩ := h e he
  rfl

section Echoes

variable [Node σ]

/-- The node in state `t` says the error to a request. -/
inductive NodeSays (e : Error) (link : Link) (t : σ) : Request → Prop where
  /-- The error is the answer. -/
  | refused {request : Request} : (Node.ask link request t).result = .error e →
      NodeSays e link t request
  /-- An extrinsic is accepted, and the error is among the reports on it. -/
  | reported {encoded : Bytes} {w : Watch} {k : Nat} {delay : Millis} :
      (Node.ask link (.submit encoded) t).result = .ok w → w.arrival k = .after delay (.failed e) →
      NodeSays e link t (.submit encoded)

/-- The node, in state `s` at first, says the error at one of these calls. -/
def Voiced (s : σ) (calls : List (Link × Request)) (e : Error) : Prop :=
  ∃ before link request after, calls = before ++ (link, request) :: after ∧
    NodeSays e link (afterCalls before s) request

namespace Voiced

variable {s : σ} {calls : List (Link × Request)} {e : Error}

theorem of_said {link : Link} {request : Request} (h : NodeSays e link s request) :
    Voiced s [(link, request)] e := ⟨[], link, request, [], rfl, h⟩

theorem append (h : Voiced s calls e) (more : List (Link × Request)) : Voiced s (calls ++ more) e := by
  obtain ⟨before, link, request, after, rfl, hsays⟩ := h
  exact ⟨before, link, request, after ++ more, by simp, hsays⟩

theorem behind {first : List (Link × Request)} (h : Voiced (afterCalls first s) calls e) :
    Voiced s (first ++ calls) e := by
  obtain ⟨before, link, request, after, rfl, hsays⟩ := h
  refine ⟨first ++ before, link, request, after, by simp, ?_⟩
  rw [afterCalls_append]
  exact hsays

end Voiced

/-! ### Exchanges -/

namespace Exchange

/-- An exchange that refuses a call only in the words of the node. -/
structure Echoes (x : Exchange σ α) : Prop where
  /-- Its journal tells what happened to the node. -/
  recounts : x.Recounts
  /-- An error that refuses a call was said by the node. -/
  voiced : ∀ {limit s e}, (x limit s).result = some (.error e) → e.refusesCall = true →
    Voiced s (x limit s).journal.calls e

namespace Echoes

theorem pure (a : α) : Echoes (Pure.pure a : Exchange σ α) where
  recounts := .finish _
  voiced h := by cases h

theorem note (notice : Notice) : Echoes (Exchange.note (σ := σ) notice) where
  recounts := .note notice
  voiced h := by cases h

theorem bind {x : Exchange σ α} {f : α → Exchange σ β} (hx : Echoes x) (hf : ∀ a, Echoes (f a)) :
    Echoes (x >>= f) := by
  refine ⟨hx.recounts.bind fun a => (hf a).recounts, ?_⟩
  intro limit s e h hrefuses
  rcases hr : (x limit s).result with _ | e' | a
  · rw [bind_late f hr] at h
    cases h
  · rw [bind_error f hr] at h ⊢
    cases h
    exact hx.voiced hr hrefuses
  · have hnode := hx.recounts (Talk.success?_eq_some_iff.mpr ⟨hr, rfl⟩)
    rw [bind_ok f hr] at h ⊢
    rw [Talk.behind, Journal.calls_append]
    refine Voiced.behind ?_
    rw [← hnode]
    exact (hf a).voiced h hrefuses

theorem ask (link : Link) (request : Request) : Echoes (Exchange.ask (σ := σ) link request) := by
  refine ⟨.ask link request, ?_⟩
  intro limit s e h _
  rw [journal_ask]
  refine .of_said (.refused ?_)
  simp only [Exchange.ask, await] at h
  split at h
  · split at h
    · exact Option.some.inj h
    · cases h
  · cases h

theorem askLocal (link : Link) (request : Request) :
    Echoes (Exchange.askLocal (σ := σ) link request) :=
  ⟨.askLocal link request, fun h _ => .of_said (.refused (Option.some.inj h))⟩

theorem build (link : Link) (call : Call) (key : SigningKey) :
    Echoes (Extrinsic.build (σ := σ) link call key) := by
  refine (ask link _).bind fun nonce => ?_
  refine (askLocal link _).bind fun encoded => ?_
  exact (note _).bind fun _ => pure _

/-- A decision that refuses a call is the node's answer, or one of its reports. -/
theorem says_of_decided {link : Link} {encoded : Bytes} {s : σ} {policy : Policy} {x : Hash}
    {time : Millis} {e : Error}
    (h : Decided (Node.ask link (.submit encoded) s) policy x time (.error e))
    (hrefuses : e.refusesCall = true) : NodeSays e link s (.submit encoded) := by
  cases h with
  | refused _ hr => exact .refused hr
  | reported _ hr _ hs =>
    obtain ⟨delay, report, harrival, hsettles⟩ := hs.settles
    cases hsettles with
    | lost => exact .reported hr harrival
    | _ => cases hrefuses

theorem submit (link : Link) (x : Extrinsic) (policy : Policy) :
    Echoes (Extrinsic.submit (σ := σ) link x policy) := by
  refine ⟨.submit link x policy, ?_⟩
  intro limit s e h hrefuses
  obtain ⟨journal, hw, ⟨time, result, hd, -, hx⟩ | ⟨elapsed, node, hx⟩⟩ :=
    Extrinsic.submit_cases link x policy limit s
  · rw [hx] at h ⊢
    rw [Journal.calls_asked_cons, hw.calls]
    rw [Option.some.inj h] at hd
    exact .of_said (says_of_decided hd hrefuses)
  · rw [hx] at h
    cases h

end Echoes

end Exchange

/-! ### Actions -/

namespace Action

/-- An action that refuses a call only in the words of the node. -/
structure Echoes (m : Action σ α) : Prop where
  /-- Its journal tells what happened to the node. -/
  recounts : m.Recounts
  /-- An error that refuses a call was said by the node. -/
  voiced : ∀ {c s e}, (m c s).result = .error e → e.refusesCall = true →
    Voiced s (m c s).journal.calls e

namespace Echoes

theorem finish {result : Except Error α} (h : ∀ e, result = .error e → e.refusesCall = false) :
    Echoes (Action.finish (σ := σ) result) where
  recounts := .finish result
  voiced he hrefuses := by
    rw [h _ he] at hrefuses
    cases hrefuses

theorem pure (a : α) : Echoes (Pure.pure a : Action σ α) := finish fun e h => by cases h

theorem note (notice : Notice) : Echoes (Action.note (σ := σ) notice) where
  recounts := .note notice
  voiced h := by cases h

theorem bind {m : Action σ α} {f : α → Action σ β} (hm : Echoes m) (hf : ∀ a, Echoes (f a)) :
    Echoes (m >>= f) := by
  refine ⟨hm.recounts.bind fun a => (hf a).recounts, ?_⟩
  intro c s e h hrefuses
  cases hr : (m c s).result with
  | error e' =>
    rw [bind_error f hr] at h ⊢
    cases h
    exact hm.voiced hr hrefuses
  | ok a =>
    have hnode := hm.recounts (Ran.success?_eq_some_iff.mpr ⟨hr, rfl⟩)
    rw [bind_ok f hr] at h ⊢
    rw [Ran.calls_behind]
    refine Voiced.behind ?_
    rw [← hnode]
    exact (hf a).voiced h hrefuses

/-- An error may be looked at on its way, if it is passed on in the end. -/
theorem outcome_bind {m : Action σ α} {f : Except Error α → Action σ β} (hm : Echoes m)
    (hok : ∀ a, Echoes (f (.ok a)))
    (herror : ∀ e, ∃ notice, f (.error e) = Action.note notice >>= fun _ => .finish (.error e)) :
    Echoes (m.outcome >>= f) := by
  refine ⟨hm.recounts.outcome_bind (fun a => (hok a).recounts) herror, ?_⟩
  intro c s e h hrefuses
  cases hr : (m c s).result with
  | error e' =>
    obtain ⟨notice, hf⟩ := herror e'
    rw [outcome_bind_of_error hf hr] at h ⊢
    cases h
    rw [Journal.calls_append]
    exact (hm.voiced hr hrefuses).append _
  | ok a =>
    rw [outcome_bind_of_ok hr] at h ⊢
    exact (hm.bind hok).voiced h hrefuses

/-- An action that is one exchange, and refuses no call when the time runs out. -/
theorem of_exchange {m : Action σ α} {x : Link → Exchange σ α} {limit : Client → Millis}
    {late : Client → Error} (h : IsExchange m x limit late) (hx : ∀ link, (x link).Echoes)
    (hlate : ∀ c, (late c).refusesCall = false) : Echoes m := by
  refine ⟨.of_exchange h fun link => (hx link).recounts, ?_⟩
  intro c s e he hrefuses
  cases hc : c.link with
  | none =>
    rw [(h.of_none hc s).1] at he
    cases he
    cases hrefuses
  | some link =>
    rw [h.result_eq hc] at he
    rw [h.calls_eq hc]
    rcases hr : (x link (limit c) s).result with _ | result
    · rw [hr, Option.getD_none] at he
      rw [← Except.error.inj he, hlate] at hrefuses
      cases hrefuses
    · rw [hr, Option.getD_some] at he
      rw [he] at hr
      exact (hx link).voiced hr hrefuses

theorem reading {x : Link → Exchange σ α} (hx : ∀ link, (x link).Echoes) :
    Echoes (Action.reading x) := of_exchange (.reading x) hx fun _ => rfl

theorem submit (x : Extrinsic) (policy : Policy) : Echoes (Client.submit (σ := σ) x policy) :=
  of_exchange (.submit x policy) (fun link => .submit link x policy) fun _ => rfl

/-- An entry is read as the node gives it, or its value is malformed. -/
theorem queryEntry (item : StorageItem) {decode : Value → Except Error α}
    (hdecode : ∀ v, BlamesData (decode v)) : Echoes (Client.queryEntry (σ := σ) item decode) := by
  have hquery : Echoes (Client.query (σ := σ) item none) :=
    (note _).bind fun _ => reading fun link => .ask link _
  refine hquery.bind fun v => finish fun e he => ?_
  cases v with
  | none => cases he
  | some v => exact ((hdecode v).map some).not_refusesCall he

theorem registeredAs (wallet : Wallet) (ip : IpAddress) (port : UInt16) :
    Echoes (Client.registeredAs (σ := σ) wallet ip port) := by
  refine (queryEntry _ (Value.blamesData_uint64 _)).bind fun found => ?_
  cases found with
  | none => exact pure none
  | some uid =>
    refine (queryEntry _ PeerRecord.blamesData_ofValue).bind fun record => ?_
    cases record with
    | none => exact pure none
    | some peer => exact pure _

theorem signAndSubmit (call : Call) (wallet : Wallet) (policy : Policy) :
    Echoes (Client.signAndSubmit (σ := σ) call wallet policy) := by
  have hbuild : Echoes (Client.build (σ := σ) call (wallet.key call.kind.signer)) :=
    reading fun link => .build link call _
  exact hbuild.bind fun x => submit x policy

end Echoes

end Action

/-! ### Writes -/

namespace Write

open LedgerClient.Action

variable {wallet : Wallet} {call : Call}

theorem echoes_announced {w : Write} (hcall : w.call wallet = .ok call) (notice : Notice)
    (policy : Policy) : Echoes (Client.announced (σ := σ) (w.call wallet) notice wallet policy) := by
  rw [Client.announced, hcall, finish_ok_bind]
  exact (Echoes.note notice).bind fun _ => .signAndSubmit call wallet policy

theorem echoes_subscribe {ip : IpAddress} {port : UInt16} {modality : Modality}
    (hcall : (subscribe ip port modality).call wallet = .ok call) (policy : Policy) :
    Echoes (Client.subscribe (σ := σ) wallet ip port modality policy) := by
  have hcomposed : Call.subscribe ip port modality wallet.coldkey.account = .ok call := hcall
  rw [Client.subscribe, hcomposed, finish_ok_bind]
  refine (Echoes.registeredAs wallet ip port).bind fun found => ?_
  cases found with
  | some uid => exact (Echoes.note _).bind fun _ => .pure _
  | none =>
    refine (Echoes.signAndSubmit call wallet policy).outcome_bind (fun outcome => ?_) ?_
    · exact (Echoes.note _).bind fun _ => .pure _
    · exact fun e => ⟨_, rfl⟩

/-- A write whose arguments make a call refuses a call only in the words of the node. -/
theorem echoes_run {w : Write} (hcall : w.call wallet = .ok call) (policy : Policy) :
    Echoes (w.run (σ := σ) wallet policy) := by
  cases w with
  | send call => exact .signAndSubmit call wallet policy
  | subscribe ip port modality => exact echoes_subscribe hcall policy
  | addStake amount uid => exact echoes_announced hcall _ policy
  | unstake amount uid => exact echoes_announced hcall _ policy
  | transfer dest amount => exact echoes_announced hcall _ policy
  | setWeights dests values => exact echoes_announced hcall _ policy

end Write

end Echoes

/-- **Invalid calls touch nothing.** Weights without a value for each destination are refused for their
numbers: whether there is a link or not, and whatever state the client is in, nothing is asked of the
node, nothing is noted, no time passes, and the client is what it was. Every other write makes a call of
its arguments; and if it ends with an error that refuses a call or an argument, the node said that error,
as the answer to one of the requests or as a report on the extrinsic. -/
theorem invalid_calls_touch_nothing [Node σ] (wallet : Wallet) (policy : Policy) :
    (∀ dests values, dests.length ≠ values.length → ∀ (c : Client) (s : σ),
      Client.setWeights wallet dests values policy c s =
        ⟨.error (.invalidArgument (.weightLengths dests.length values.length)), c, s, 0, []⟩) ∧
    ∀ w : Write, (∀ dests values, w = .setWeights dests values → dests.length = values.length) →
      (∃ call, w.call wallet = .ok call) ∧
      ∀ (c : Client) (s : σ) e, (w.run wallet policy c s).result = .error e →
        e.refusesCall = true → Voiced s (w.run wallet policy c s).journal.calls e := by
  constructor
  · intro dests values hne c s
    rw [Client.setWeights, Call.setWeights, if_pos hne, Client.announced, Action.finish_error_bind]
    rfl
  · intro w hw
    obtain ⟨call, hcall⟩ : ∃ call, w.call wallet = .ok call := by
      obtain ⟨-, hcall⟩ | ⟨fault, hfault, -⟩ := w.call_cases wallet
      · exact hcall
      · cases w with
        | setWeights dests values => simp [Write.fault?, hw dests values rfl] at hfault
        | _ => cases hfault
    exact ⟨⟨call, hcall⟩, fun c s e he hrefuses => (Write.echoes_run hcall policy).voiced he hrefuses⟩

/-- A node that answers the first request with the error that it knows no such call. -/
def protestingNode : ScriptedNode :=
  { ScriptedNode.empty with script := [⟨0, false, some (.noSuchCall "Balances" "transfer")⟩] }

/-- A wallet with two different keys. -/
def plainWallet : Wallet := ⟨⟨.replicate 32 5⟩, ⟨.replicate 32 6⟩⟩

/-- Two weights for three destinations are refused, without a link for their numbers as well; a transfer
is refused only because the node says so. -/
theorem invalid_calls_touch_nothing_of_protest :
    [1, 2, 3].length ≠ [88, 12345].length ∧
    Client.setWeights plainWallet [1, 2, 3] [88, 12345] .inclusion
        (.start (.endpoint "a:1") (.ofList [])) protestingNode =
      ⟨.error (.invalidArgument (.weightLengths 3 2)), .start (.endpoint "a:1") (.ofList []),
        protestingNode, 0, []⟩ ∧
    (Client.transfer plainWallet (.replicate 32 4) ⟨7⟩ .inclusion (linkedClient 0)
        protestingNode).result = .error (.noSuchCall "Balances" "transfer") ∧
    Voiced protestingNode
      (Client.transfer plainWallet (.replicate 32 4) ⟨7⟩ .inclusion (linkedClient 0)
        protestingNode).journal.calls
      (.noSuchCall "Balances" "transfer") := by
  obtain ⟨hweights, hwrites⟩ :=
    invalid_calls_touch_nothing (σ := ScriptedNode) plainWallet .inclusion
  have hfails : (Client.transfer plainWallet (.replicate 32 4) ⟨7⟩ .inclusion (linkedClient 0)
      protestingNode).result = .error (.noSuchCall "Balances" "transfer") := rfl
  obtain ⟨-, hvoiced⟩ := hwrites (.transfer (.replicate 32 4) ⟨7⟩) fun _ _ h => by cases h
  exact ⟨by decide, hweights [1, 2, 3] [88, 12345] (by decide) _ _, hfails,
    hvoiced (linkedClient 0) protestingNode _ hfails rfl⟩

end LedgerClient
