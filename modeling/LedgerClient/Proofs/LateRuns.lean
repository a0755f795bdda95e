import LedgerClient.Proofs.Calls
import LedgerClient.Proofs.Conversation

/-!
# Operations that run out of time

A client that has waited for an answer as long as it may gives up, and the whole operation with it:
nothing is asked any more. If it was a read, or the nonce for a call that is to be signed, the link counts
as broken and is given up. If it was a submission, the extrinsic may yet be included, and the link stays.

## The model

`Unanswered` says of a node alone that a request has no answer within a time limit, and `Undecided` that
nothing decides a submission within one. `Late c policy? link t request e` says what this means to a
client that makes the request when the node is in state `t`: it ends with the error `e`. A call that is
signed is not waited for, so this is never late.

`Heeds policy? m` says that an action keeps to that: after a call that is late there is none, and the
action ends with the error of this call. The state in which a call is made is known from the calls
before it (`Action.Recounts`).

## What is proved

* `Operation.heeds_run`: every operation heeds its time limits.
* `operation_drops_link_iff_transport`: what an operation does to the client, however it ends.
-/

namespace LedgerClient

variable {σ α β : Type}

section Late

variable [Node σ]

/-! ### Calls that are late -/

/-- Whether a request is waited for within the time limit of reads. -/
def Request.isRead : Request → Bool
  | .sign _ _ _ | .submit _ => false
  | _ => true

/-- In state `t` the node does not answer a request within the time limit, be it late or never. -/
def Unanswered (link : Link) (request : Request) (limit : Millis) (t : σ) : Prop :=
  ∀ delay, (Node.ask link request t).delay = some delay → limit < delay

/-- In state `t` the node does not decide the submission of an encoded extrinsic within the time limit,
be it late or never. -/
def Undecided (link : Link) (encoded : Bytes) (policy : Policy) (limit : Millis) (t : σ) : Prop :=
  ∀ time result, Decided (Node.ask link (.submit encoded) t) policy (Blake2b.digest256 encoded) time
    result → limit < time

/-- `Late c policy? link t request e`: made over the link when the node is in state `t`, the request
runs out of the time that the client has for it, and this is the error for that. -/
inductive Late (c : Client) (policy? : Option Policy) (link : Link) (t : σ) :
    Request → Error → Prop where
  /-- There is no answer. -/
  | read {request : Request} : request.isRead = true → Unanswered link request c.queryTimeout t →
      Late c policy? link t request (Action.noResponse c.queryTimeout)
  /-- There is no decision. -/
  | submission {encoded : Bytes} {policy : Policy} : policy? = some policy →
      Undecided link encoded policy c.submissionTimeout t →
      Late c policy? link t (.submit encoded) (.submissionTimeout c.submissionTimeout)

/-- Signing is not waited for. -/
theorem not_late_sign {c : Client} {policy? : Option Policy} {link : Link} {t : σ} {call : Call}
    {key : SigningKey} {nonce : UInt64} {e : Error} :
    ¬ Late c policy? link t (.sign call key nonce) e := by
  intro h
  cases h with
  | read h _ => cases h

/-! ### Exchanges -/

namespace Extrinsic

/-- Nothing is signed without a nonce. -/
theorem build_of_unanswered {link : Link} {key : SigningKey} {limit : Millis} {s : σ}
    (h : Unanswered link (.nonce key.account) limit s) (call : Call) :
    build link call key limit s =
      ⟨none, limit, (Node.ask link (.nonce key.account) s).abandoned,
        [.asked link (.nonce key.account)]⟩ := by
  have hask := Exchange.ask_of_late h
  rw [build, Exchange.bind_late _ (by rw [hask]), hask]

/-- The nonce is the first thing that is asked for, and only the signature may come after it. -/
theorem calls_build (link : Link) (call : Call) (key : SigningKey) (limit : Millis) (s : σ) :
    ∃ rest, (build link call key limit s).journal.calls = (link, .nonce key.account) :: rest ∧
      ∀ entry ∈ rest, ∃ nonce, entry = (link, .sign call key nonce) := by
  obtain ⟨requests, hsigning, hcalls⟩ := signing_build link call key limit s
  rw [hcalls]
  generalize ((build link call key limit s).success?.map fun built =>
    (built.1.encoded, built.2)) = signed at hsigning
  cases hsigning with
  | noNonce _ => exact ⟨[], rfl, fun entry hm => by cases hm⟩
  | notSigned _ _ => exact ⟨_, rfl, fun entry hm => ⟨_, List.mem_singleton.mp hm⟩⟩
  | signed _ _ => exact ⟨_, rfl, fun entry hm => ⟨_, List.mem_singleton.mp hm⟩⟩

/-- A submission that nothing decides in time has no result. -/
theorem result_submit_of_undecided {link : Link} {x : Extrinsic} {policy : Policy} {limit : Millis}
    {s : σ} (h : Undecided link x.encoded policy limit s) :
    (submit link x policy limit s).result = none := by
  obtain ⟨journal, -, ⟨time, result, hd, hl, -⟩ | ⟨elapsed, node, hx⟩⟩ :=
    submit_cases link x policy limit s
  · exact absurd hl (Nat.not_le.mpr (h time result hd))
  · rw [hx]

end Extrinsic

/-! ### Actions -/

namespace Action

/-- An observant action that heeds its time limits: a call that is late is the last one, and the action
ends with the error for it. -/
structure Heeds (policy? : Option Policy) (m : Action σ α) : Prop extends Observant m where
  /-- Its journal tells what happened to the node. -/
  recounts : m.Recounts
  /-- What comes of a late call. -/
  late : ∀ {c : Client} {s : σ} {before link request after e},
    (m c s).journal.calls = before ++ (link, request) :: after →
    Late c policy? link (afterCalls before s) request e →
    after = [] ∧ (m c s).result = .error e

namespace Heeds

variable {policy? : Option Policy}

/-- An action that makes no calls. -/
theorem of_calls_eq_nil {m : Action σ α} (hm : Observant m) (hrecounts : m.Recounts)
    (h : ∀ c s, (m c s).journal.calls = []) : Heeds policy? m := by
  refine ⟨hm, hrecounts, fun hcalls _ => ?_⟩
  rw [h] at hcalls
  exact absurd hcalls (List.append_ne_nil_of_right_ne_nil _ (List.cons_ne_nil _ _)).symm

/-- An action that is one exchange, which has no result if its call is late. -/
theorem of_exchange {m : Action σ α} {x : Link → Exchange σ α} {limit : Client → Millis}
    {error : Client → Error} (h : IsExchange m x limit error) (hm : Observant m)
    (hrecounts : m.Recounts)
    (hlate : ∀ {c : Client} {s : σ} {live before link request after e}, c.link = some live →
      (x live (limit c) s).journal.calls = before ++ (link, request) :: after →
      Late c policy? link (afterCalls before s) request e →
      after = [] ∧ (x live (limit c) s).result = none ∧ e = error c) : Heeds policy? m := by
  refine ⟨hm, hrecounts, ?_⟩
  intro c s before link request after e hcalls hrequest
  cases hc : c.link with
  | none =>
    rw [(h.of_none hc s).2] at hcalls
    exact absurd hcalls (List.append_ne_nil_of_right_ne_nil _ (List.cons_ne_nil _ _)).symm
  | some live =>
    rw [h.calls_eq hc] at hcalls
    obtain ⟨hafter, hresult, rfl⟩ := hlate hc hcalls hrequest
    rw [h.result_eq hc, hresult]
    exact ⟨hafter, rfl⟩

theorem finish {result : Except Error α} (h : Harmless result) :
    Heeds policy? (Action.finish (σ := σ) result) :=
  of_calls_eq_nil (.finish h) (.finish result) fun _ _ => rfl

theorem note (notice : Notice) : Heeds policy? (Action.note (σ := σ) notice) :=
  of_calls_eq_nil (.note notice) (.note notice) fun _ _ => rfl

/-- A late call is one of the first step, and then there is no second, or it is one of the second. -/
theorem bind {m : Action σ α} {f : α → Action σ β} (hm : Heeds policy? m)
    (hf : ∀ a, Heeds policy? (f a)) : Heeds policy? (m >>= f) := by
  refine ⟨hm.toObservant.bind fun a => (hf a).toObservant,
    hm.recounts.bind fun a => (hf a).recounts, ?_⟩
  intro c s before link request after e hcalls hlate
  cases hr : (m c s).result with
  | error e' =>
    rw [bind_error f hr] at hcalls ⊢
    obtain ⟨hafter, hresult⟩ := hm.late hcalls hlate
    cases hr.symm.trans hresult
    exact ⟨hafter, rfl⟩
  | ok a =>
    have hsuccess := Ran.success?_eq_some_iff.mpr ⟨hr, rfl⟩
    have hclient := hm.client_of_success hsuccess
    have hnode := hm.recounts hsuccess
    rw [bind_ok f hr, hclient] at hcalls ⊢
    rw [Ran.calls_behind] at hcalls
    have second rest (hbefore : before = (m c s).journal.calls ++ rest)
        (hrest : (f a c (m c s).node).journal.calls = rest ++ (link, request) :: after) :
        after = [] ∧ (f a c (m c s).node).result = .error e := by
      rw [hbefore, afterCalls_append, ← hnode] at hlate
      exact (hf a).late hrest hlate
    rcases List.append_eq_append_iff.mp hcalls with ⟨rest, hbefore, hrest⟩ | ⟨mid, hfirst, hmid⟩
    · exact second rest hbefore hrest
    · cases mid with
      | nil =>
        rw [List.append_nil] at hfirst
        exact second [] (by rw [hfirst, List.append_nil]) hmid.symm
      | cons call mid =>
        obtain ⟨rfl, -⟩ := List.cons.inj hmid
        obtain ⟨-, hresult⟩ := hm.late hfirst hlate
        rw [hr] at hresult
        cases hresult

/-- The error for a late call is passed on as well. -/
theorem outcome_bind {m : Action σ α} {f : Except Error α → Action σ β} (hm : Heeds policy? m)
    (hok : ∀ a, Heeds policy? (f (.ok a)))
    (herror : ∀ e, ∃ notice, f (.error e) = Action.note notice >>= fun _ => .finish (.error e)) :
    Heeds policy? (m.outcome >>= f) := by
  refine ⟨hm.toObservant.outcome_bind (fun a => (hok a).toObservant) herror,
    hm.recounts.outcome_bind (fun a => (hok a).recounts) herror, ?_⟩
  intro c s before link request after e hcalls hlate
  cases hr : (m c s).result with
  | error e' =>
    obtain ⟨notice, hf⟩ := herror e'
    rw [outcome_bind_of_error hf hr] at hcalls ⊢
    rw [Journal.calls_append, Journal.calls_noted_cons] at hcalls
    obtain ⟨hafter, hresult⟩ := hm.late ((List.append_nil _).symm.trans hcalls) hlate
    cases hr.symm.trans hresult
    exact ⟨hafter, rfl⟩
  | ok a =>
    rw [outcome_bind_of_ok hr] at hcalls ⊢
    exact (hm.bind hok).late hcalls hlate

/-- A single request, of which the answer is waited for. -/
theorem ask (request : Request) (hrequest : request.isLookup = true) :
    Heeds policy? (.reading fun link => .ask (σ := σ) link request) := by
  refine of_exchange (.reading _) (Observant.relaying.ask request hrequest)
    (Recounts.relaying.ask request hrequest) ?_
  intro c s live before link request' after e _ hcalls hlate
  rw [Exchange.journal_ask] at hcalls
  obtain ⟨rfl, hcall⟩ | ⟨-, hcall⟩ := List.singleton_eq_append_iff.mp hcalls
  · cases hcall
    cases hlate with
    | read _ hunanswered =>
      exact ⟨rfl, congrArg Talk.result (Exchange.ask_of_late hunanswered), rfl⟩
    | submission => cases hrequest
  · cases hcall

/-- Building an extrinsic: the nonce is waited for, and what comes after it is not. -/
theorem build (call : Call) (key : SigningKey) :
    Heeds policy? (Client.build (σ := σ) call key) := by
  refine of_exchange (.reading _) (.build call key) (Recounts.relaying.build call key) ?_
  intro c s live before link request after e _ hcalls hlate
  obtain ⟨rest, hrest, hsigns⟩ := Extrinsic.calls_build live call key c.queryTimeout s
  cases before with
  | nil =>
    cases (List.cons.inj (hrest.symm.trans hcalls)).1
    cases hlate with
    | read _ hunanswered =>
      have hbuild := Extrinsic.build_of_unanswered hunanswered call
      rw [afterCalls, List.foldl_nil] at hbuild
      rw [hbuild] at hcalls ⊢
      exact ⟨(List.cons.inj hcalls).2.symm, rfl, rfl⟩
  | cons first before =>
    have htail := (List.cons.inj (hrest.symm.trans hcalls)).2
    have hmem : (link, request) ∈ rest := by
      rw [htail]
      exact List.mem_append_right _ List.mem_cons_self
    obtain ⟨nonce, hsign⟩ := hsigns _ hmem
    cases hsign
    exact absurd hlate not_late_sign

theorem submit (x : Extrinsic) {policy : Policy} (hp : policy? = some policy) :
    Heeds policy? (Client.submit (σ := σ) x policy) := by
  refine of_exchange (.submit x policy) (.submit x policy)
    (Recounts.relaying.submit x policy trivial) ?_
  intro c s live before link request after e _ hcalls hlate
  obtain ⟨journal, hwaits, hj⟩ := Extrinsic.journal_submit live x policy c.submissionTimeout s
  rw [hj, Journal.calls_asked_cons, hwaits.calls] at hcalls
  obtain ⟨rfl, hcall⟩ | ⟨-, hcall⟩ := List.singleton_eq_append_iff.mp hcalls
  · cases hcall
    cases hlate with
    | read h => cases h
    | submission h hundecided =>
      cases hp.symm.trans h
      exact ⟨rfl, Extrinsic.result_submit_of_undecided hundecided, rfl⟩
  · cases hcall

/-- The steps of operations heed their time limits, and so do they one after the other. -/
theorem relaying : Relaying (σ := σ) (fun policy => policy? = some policy) fun _ m =>
    Heeds policy? m where
  finish := finish
  note := note
  bind := bind
  outcome_bind := outcome_bind
  ask := ask
  build := build
  submit x _ hp := submit x hp

end Heeds

end Action

end Late

/-- Every operation heeds its time limits. -/
theorem Operation.heeds_run [Node σ] (op : Operation) :
    Action.Heeds op.policy? (op.run (σ := σ)) :=
  Action.Heeds.relaying.operation op fun _ h => h

/-- An operation that makes a call has a link to make it over. -/
theorem Operation.exists_link_of_calls [Node σ] {op : Operation} {c : Client} {s : σ}
    {before after : List (Link × Request)} {call : Link × Request}
    (h : (op.run c s).journal.calls = before ++ call :: after) : ∃ link, c.link = some link := by
  cases hc : c.link with
  | some link => exact ⟨link, rfl⟩
  | none =>
    obtain ⟨notices, hrun⟩ := op.needsLink_run c s hc
    rw [hrun, (Journal.Waits.noted notices).calls] at h
    cases before <;> cases h

/-! ### The link -/

/-- Errors that say nothing about the link. -/
inductive Error.SparesLink : Error → Prop where
  /-- A submission ran out of time. -/
  | late {limit : Millis} : SparesLink (.submissionTimeout limit)
  /-- The extrinsic was refused. -/
  | rejected {reason : String} : SparesLink (.rejected reason)
  /-- The data are malformed. -/
  | malformed {fault : DataFault} : SparesLink (.invalidData fault)
  /-- An amount in the data is out of range. -/
  | amount {fault : BalanceError} : SparesLink (.balance fault)
  /-- The data cannot be decoded. -/
  | undecodable {text : String} : SparesLink (.decode text)

/-- **An operation loses the link exactly when the link is broken.** Without a link an operation
fails, asks nothing of the node and leaves the client alone. With a link, the client has lost it
afterwards, and is in the state of being disconnected, if the operation ended with an error that
means that the link is broken, and is what it was before if not.

An operation that asks for something to read, or for a nonce, and has no answer in time ends with such an
error, so that the link is lost. One that hands over an extrinsic which is not decided in time ends with
an error of another kind, if it ends, and leaves the client as it was; and so does one that ends with a
refused extrinsic or with malformed data. After a call that is late no other is made.

In no case are the settings of the client changed or a link asked for. -/
theorem operation_drops_link_iff_transport [Node σ] (op : Operation) (c : Client) (s : σ) :
    (c.link = none →
      (op.run c s).result = .error op.unlinkedError ∧
      (op.run c s).client = c ∧ (op.run c s).node = s ∧
      ∀ entry ∈ (op.run c s).journal, ∃ notice, entry = .noted notice) ∧
    (∀ link, c.link = some link →
      ((op.run c s).client.link = none ↔ BreaksLink (op.run c s).result) ∧
      (BreaksLink (op.run c s).result → (op.run c s).client.state = .disconnected) ∧
      (¬ BreaksLink (op.run c s).result → (op.run c s).client = c)) ∧
    (∀ before link request after,
      (op.run c s).journal.calls = before ++ (link, request) :: after → request.isRead = true →
      Unanswered link request c.queryTimeout (afterCalls before s) →
        (op.run c s).result = .error (Action.noResponse c.queryTimeout) ∧ after = [] ∧
        (op.run c s).client.link = none ∧ (op.run c s).client.state = .disconnected) ∧
    (∀ before link encoded after policy,
      (op.run c s).journal.calls = before ++ (link, .submit encoded) :: after →
      op.policy? = some policy →
      Undecided link encoded policy c.submissionTimeout (afterCalls before s) →
      (op.run c s).Returns →
        (op.run c s).result = .error (.submissionTimeout c.submissionTimeout) ∧ after = [] ∧
        (op.run c s).client = c) ∧
    (∀ e, e.SparesLink → (op.run c s).result = .error e → (op.run c s).client = c) ∧
    c.SameSettings (op.run c s).client ∧ (op.run c s).journal.dials = [] := by
  have hc := op.heeds_run.client_eq c s
  refine ⟨fun h => ?_, fun link h => ?_, fun before link request after hcalls hread hlate => ?_,
    fun before link encoded after policy hcalls hp hlate _ => ?_, fun e hspares he => ?_, ?_,
    op.heeds_run.dials_eq c s⟩
  · obtain ⟨notices, hrun⟩ := op.needsLink_run c s h
    rw [hrun]
    refine ⟨rfl, rfl, rfl, fun entry hm => ?_⟩
    obtain ⟨notice, -, rfl⟩ := List.mem_map.mp hm
    exact ⟨notice, rfl⟩
  · rw [hc]
    refine ⟨Client.link_after_iff h _, fun hb => ?_, Client.after_of_not_breaksLink⟩
    rw [Client.after_of_breaksLink hb, Client.state_unlinked h]
  · obtain ⟨hafter, hresult⟩ := op.heeds_run.late hcalls (.read hread hlate)
    obtain ⟨live, hlive⟩ := op.exists_link_of_calls hcalls
    rw [hresult, Client.after_error_of_transport rfl] at hc
    rw [hc]
    exact ⟨hresult, hafter, c.link_unlinked, Client.state_unlinked hlive⟩
  · obtain ⟨hafter, hresult⟩ := op.heeds_run.late hcalls (.submission hp hlate)
    rw [hresult, Client.after_error_of_harmless rfl] at hc
    exact ⟨hresult, hafter, hc⟩
  · rw [he, Client.after_error_of_harmless (by cases hspares <;> rfl)] at hc
    exact hc
  · rw [hc]
    exact Client.sameSettings_after c _

/-- A node that answers so many calls at once, and leaves the next one without an answer. -/
def tiringNode (answered : Nat) : ScriptedNode :=
  { ScriptedNode.empty with script := .replicate answered .none ++ [⟨0, true, none⟩] }

/-- Asked for the latest block, a node that does not answer costs a client its link, and so it does when
it is asked for the nonce to sign a call with. One that leaves only the hand-over of the call without an
answer does not. -/
theorem operation_drops_link_iff_transport_of_tiring :
    (Operation.run .currentBlock (linkedClient 35) (tiringNode 0)).result =
      .error (Action.noResponse 18000) ∧
    (Operation.run .currentBlock (linkedClient 35) (tiringNode 0)).client.link = none ∧
    (Operation.run (.build someExtrinsic.call ⟨.replicate 32 1⟩) (linkedClient 35)
      (tiringNode 0)).result = .error (Action.noResponse 18000) ∧
    (Operation.run (.build someExtrinsic.call ⟨.replicate 32 1⟩) (linkedClient 35)
      (tiringNode 0)).client.link = none ∧
    (Operation.run (.write (.send someExtrinsic.call) ⟨⟨.replicate 32 1⟩, ⟨.replicate 32 2⟩⟩
      .inclusion) (linkedClient 35) (tiringNode 2)).result = .error (.submissionTimeout 35) ∧
    (Operation.run (.write (.send someExtrinsic.call) ⟨⟨.replicate 32 1⟩, ⟨.replicate 32 2⟩⟩
      .inclusion) (linkedClient 35) (tiringNode 2)).client = linkedClient 35 := by
  have unanswered (request : Request) (limit : Millis) :
      Unanswered ⟨"ws://a:1", 0⟩ request limit (tiringNode 0) := by
    intro delay hdelay
    cases hdelay
  have undecided (encoded : Bytes) :
      Undecided ⟨"ws://a:1", 0⟩ encoded .inclusion 35 (tiringNode 0) := by
    intro time result h
    cases h with
    | refused hd _ => cases hd
    | accepted hd _ _ => cases hd
    | reported hd _ _ _ => cases hd
  have read := (operation_drops_link_iff_transport .currentBlock (linkedClient 35)
    (tiringNode 0)).2.2.1 [] _ _ [] rfl rfl (unanswered _ _)
  have signing := (operation_drops_link_iff_transport
    (.build someExtrinsic.call ⟨.replicate 32 1⟩) (linkedClient 35)
    (tiringNode 0)).2.2.1 [] _ _ [] rfl rfl (unanswered _ _)
  have submission := (operation_drops_link_iff_transport
    (.write (.send someExtrinsic.call) ⟨⟨.replicate 32 1⟩, ⟨.replicate 32 2⟩⟩ .inclusion)
    (linkedClient 35) (tiringNode 2)).2.2.2.1
    [(⟨"ws://a:1", 0⟩, .nonce (.replicate 32 1)),
      (⟨"ws://a:1", 0⟩, .sign someExtrinsic.call ⟨.replicate 32 1⟩ 0)]
    _ _ [] .inclusion rfl rfl (undecided _) rfl
  exact ⟨read.1, read.2.2.1, signing.1, signing.2.2.1, submission.1, submission.2.2⟩

end LedgerClient
