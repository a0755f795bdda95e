import LedgerClient.Proofs.Composition
import LedgerClient.Proofs.Deadline
import LedgerClient.Proofs.Failover

/-!
# Time limits

Whatever a node does, and also when it does nothing, an operation takes no more time than the time
limits of the client allow. Each read has the time limit of reads for itself, a submission has its own
for the hand-over and the wait together, and each attempt to make a link has one; in between no time
passes.

That little time passes is not all that matters: a submission that is given one report after the other
without a pause goes on for ever in no time at all. An operation comes to an end as well unless it
waits for such reports.

## The model

`Exchange.InTime` says that an exchange does not take more than the time it is given. Exchanges in
sequence have one limit together, so the rest is what the first ones leave. `Action.Spends` says that
an action takes no more than a budget of reads and submissions allows; here each part has its limit
anew, and the budgets add up, because nothing that is done on the way changes a limit.

`PacedNode σ policy limit` is a condition on nodes: all submissions that wait as the policy asks are
paced. There are nodes without this property, so it is a hypothesis wherever it is needed. Reads and
connecting do not need it, and a submission that does not wait has it with any node
(`pacedNode_fireAndForget`).

## What is proved

* `Extrinsic.inTime_build`, `Extrinsic.inTime_submit`: the exchanges of an operation end in time,
  also while waiting for reports.
* `Operation.spends_run`: every operation keeps to its budget.
* `Operation.returns_run`: with a paced node, every operation comes to an end.
* `Client.prompt_connect`: connecting comes to an end, and takes at most one limit for each link that is
  asked for.
* `everything_ends_in_time`: all this of operations and of connecting in one statement.
* `send_never_returns`: a node that is not paced can keep a client for ever.
-/

namespace LedgerClient

variable {σ α β : Type}

/-! ### Exchanges -/

/-- An exchange takes at most the time that it is given, whatever the node does. -/
def Exchange.InTime (x : Exchange σ α) : Prop := ∀ limit s, (x limit s).elapsed ≤ limit

namespace Exchange

theorem inTime_finish (result : Except Error α) : InTime (finish (σ := σ) result) :=
  fun limit _ => Nat.zero_le limit

theorem inTime_record (entry : Entry) : InTime (record (σ := σ) entry) :=
  fun limit _ => Nat.zero_le limit

theorem inTime_silence : InTime (silence : Exchange σ α) := fun limit _ => Nat.le_refl limit

theorem inTime_wait (delay : Millis) : InTime (wait (σ := σ) delay) := by
  intro limit s
  rw [wait]
  split
  · next h => exact h
  · exact Nat.le_refl limit

theorem inTime_await (entry : Entry) (reply : σ → Reply σ α) : InTime (await entry reply) := by
  intro limit s
  by_cases h : ∃ delay, (reply s).delay = some delay ∧ delay ≤ limit
  · obtain ⟨delay, hd, hl⟩ := h
    rw [await_of_delay hd hl]
    exact hl
  · have hlate : ∀ delay, (reply s).delay = some delay → limit < delay :=
      fun delay hd => Nat.lt_of_not_le fun hl => h ⟨delay, hd, hl⟩
    exact Nat.le_of_eq (congrArg Talk.elapsed (await_of_late hlate))

theorem inTime_compute (entry : Entry) (reply : σ → Reply σ α) : InTime (compute entry reply) :=
  fun limit _ => Nat.zero_le limit

/-- What comes second has the time that is left. -/
theorem InTime.bind {x : Exchange σ α} {f : α → Exchange σ β} (hx : InTime x)
    (hf : ∀ a, InTime (f a)) : InTime (x >>= f) := by
  intro limit s
  rcases h : (x limit s).result with _ | e | a
  · rw [bind_late f h]
    exact hx limit s
  · rw [bind_error f h]
    exact hx limit s
  · rw [bind_ok f h]
    calc
      _ ≤ (x limit s).elapsed + (limit - (x limit s).elapsed) := Nat.add_le_add_left (hf a _ _) _
      _ = limit := Nat.add_sub_cancel' (hx limit s)

/-- Reports are waited for until the limit, however many there are. -/
theorem inTime_waiting : WaitingLaw (σ := σ) fun _ x => InTime x where
  finish := inTime_finish
  silence := inTime_silence
  unending := fun limit _ => Nat.zero_le limit
  wait := inTime_wait
  polled := inTime_record _
  inPool _ := inTime_record _
  inBlock _ _ := inTime_record _
  bind := .bind
  limits h := by
    intro limit s
    obtain ⟨y, hy, hxy⟩ := h limit
    rw [hxy]
    exact hy limit s

end Exchange

open Exchange

namespace Extrinsic

variable [Node σ]

/-- Reading the nonce and signing end within the limit of one read. -/
theorem inTime_build (link : Link) (call : Call) (key : SigningKey) :
    InTime (build (σ := σ) link call key) := by
  refine (inTime_await _ _).bind fun nonce => ?_
  refine (inTime_compute _ _).bind fun encoded => ?_
  exact (inTime_record _).bind fun _ => inTime_finish _

/-- The hand-over and the wait end within one limit. -/
theorem inTime_submit (link : Link) (x : Extrinsic) (policy : Policy) :
    InTime (submit (σ := σ) link x policy) :=
  (inTime_await _ _).bind fun w => inTime_waiting.outcome w policy x.hash

end Extrinsic

/-! ### Operations -/

namespace Action

/-- An action takes at most the time that so many reads and submissions may take, and changes no
time limit. -/
structure Spends (reads submissions : Nat) (m : Action σ α) : Prop where
  /-- The time that passes. -/
  elapsed_le : ∀ (c : Client) s,
    (m c s).elapsed ≤ reads * c.queryTimeout + submissions * c.submissionTimeout
  /-- The settings of the client. -/
  settings : ∀ (c : Client) s, c.SameSettings (m c s).client

namespace Spends

theorem finish (result : Except Error α) : Spends 0 0 (Action.finish (σ := σ) result) :=
  ⟨fun _ _ => Nat.zero_le _, fun c _ => .refl c⟩

theorem note (notice : Notice) : Spends 0 0 (Action.note (σ := σ) notice) :=
  ⟨fun _ _ => Nat.zero_le _, fun c _ => .refl c⟩

theorem mono {m n k l : Nat} {x : Action σ α} (hm : m ≤ k) (hn : n ≤ l) (hx : Spends m n x) :
    Spends k l x :=
  ⟨fun c s => Nat.le_trans (hx.elapsed_le c s)
    (Nat.add_le_add (Nat.mul_le_mul_right _ hm) (Nat.mul_le_mul_right _ hn)), hx.settings⟩

theorem outcome {m n : Nat} {x : Action σ α} (hx : Spends m n x) : Spends m n x.outcome :=
  ⟨hx.elapsed_le, hx.settings⟩

/-- What comes second has its limits anew, and they are what they were. -/
theorem bind {m n k l : Nat} {x : Action σ α} {f : α → Action σ β} (hx : Spends m n x)
    (hf : ∀ a, Spends k l (f a)) : Spends (m + k) (n + l) (x >>= f) := by
  constructor
  · intro c s
    cases h : (x c s).result with
    | error e =>
      rw [bind_error f h]
      exact (hx.mono (Nat.le_add_right m k) (Nat.le_add_right n l)).elapsed_le c s
    | ok a =>
      rw [bind_ok f h]
      have hfirst := hx.elapsed_le c s
      have hsecond := (hf a).elapsed_le (x c s).client (x c s).node
      rw [(hx.settings c s).queryTimeout, (hx.settings c s).submissionTimeout] at hsecond
      calc
        _ ≤ (m * c.queryTimeout + n * c.submissionTimeout) +
            (k * c.queryTimeout + l * c.submissionTimeout) := Nat.add_le_add hfirst hsecond
        _ = (m + k) * c.queryTimeout + (n + l) * c.submissionTimeout := by
          rw [Nat.add_mul, Nat.add_mul, Nat.add_add_add_comm]
  · intro c s
    cases h : (x c s).result with
    | error e =>
      rw [bind_error f h]
      exact hx.settings c s
    | ok a =>
      rw [bind_ok f h]
      exact (hx.settings c s).trans ((hf a).settings _ _)

/-- A read ends within the time limit of reads. -/
theorem reading {x : Link → Exchange σ α} (hx : ∀ link, InTime (x link)) :
    Spends 1 0 (Action.reading x) := by
  constructor
  · intro c s
    rw [Nat.one_mul, Nat.zero_mul, Nat.add_zero]
    cases h : c.link with
    | none =>
      rw [reading_of_none x h]
      exact Nat.zero_le _
    | some link =>
      rw [reading_of_some x h]
      exact hx link c.queryTimeout s
  · intro c s
    cases h : c.link with
    | none =>
      rw [reading_of_none x h]
      exact .refl c
    | some link =>
      rw [reading_of_some x h]
      exact c.sameSettings_after _

/-- A submission ends within the time limit of submissions. -/
theorem submit [Node σ] (x : Extrinsic) (policy : Policy) :
    Spends 0 1 (Client.submit (σ := σ) x policy) := by
  constructor
  · intro c s
    rw [Nat.one_mul, Nat.zero_mul, Nat.zero_add]
    cases h : c.link with
    | none =>
      rw [Client.submit_of_none x policy h]
      exact Nat.zero_le _
    | some link =>
      rw [Client.submit_of_some x policy h]
      exact Extrinsic.inTime_submit link x policy c.submissionTimeout s
  · intro c s
    cases h : c.link with
    | none =>
      rw [Client.submit_of_none x policy h]
      exact .refl c
    | some link =>
      rw [Client.submit_of_some x policy h]
      exact c.sameSettings_after _

/-- The steps of operations keep to their budgets, and budgets add up. -/
theorem budgeted [Node σ] : Budgeted (σ := σ) (fun _ => True) fun m n _ x => Spends m n x where
  finish := finish
  note := note
  bind := bind
  outcome := outcome
  mono := mono
  ask _ _ := reading fun _ => inTime_await _ _
  build call key := reading fun link => Extrinsic.inTime_build link call key
  submit x policy _ := submit x policy

end Spends

end Action

/-- Every operation keeps to its budget. -/
theorem Operation.spends_run [Node σ] (op : Operation) :
    Action.Spends op.reads op.submissions (op.run (σ := σ)) :=
  Action.Spends.budgeted.operation op fun _ _ => trivial

/-! ### Coming to an end -/

/-- The node is not one that can keep for ever a submission with this policy and this time limit. -/
def PacedNode (σ : Type) [Node σ] (policy : Policy) (limit : Millis) : Prop :=
  ∀ (link : Link) (encoded : Bytes) (s : σ), Paced (Node.ask link (.submit encoded) s) policy limit

/-- Those who do not wait are kept by no node. -/
theorem pacedNode_fireAndForget (σ : Type) [Node σ] (limit : Millis) :
    PacedNode σ .fireAndForget limit := fun _ _ _ h => absurd rfl h

/-- Reading the nonce and signing come to an end. -/
theorem Extrinsic.isUnending_build [Node σ] (link : Link) (call : Call) (key : SigningKey)
    (limit : Millis) (s : σ) : (build link call key limit s).journal.isUnending = false := by
  have hask : (ask link (.nonce key.account) limit s).journal.isUnending = false := by
    rw [journal_ask]
    rfl
  rcases h : (ask link (.nonce key.account) limit s).result with _ | e | nonce
  · rw [build, bind_late _ h]
    exact hask
  · rw [build, bind_error _ h]
    exact hask
  · rw [build, bind_ok _ h, Talk.behind, Journal.isUnending_append, hask, Bool.false_or]
    rcases hsign : (askLocal link (.sign call key nonce)
        (limit - (ask link (.nonce key.account) limit s).elapsed)
        (ask link (.nonce key.account) limit s).node).result with _ | e | encoded
    · rw [bind_late _ hsign]
      rfl
    · rw [bind_error _ hsign]
      rfl
    · rw [bind_ok _ hsign]
      rfl

namespace Action

/-- An action that comes to an end if the time limit of submissions is `limit`. -/
structure Ends (limit : Millis) (reads submissions : Nat) (m : Action σ α) : Prop
    extends Spends reads submissions m where
  /-- It returns. -/
  returns : ∀ (c : Client) s, c.submissionTimeout = limit → (m c s).Returns

namespace Ends

variable {limit : Millis}

/-- Nothing that is done on the way changes the time limit of what comes second. -/
theorem bind {m n k l : Nat} {x : Action σ α} {f : α → Action σ β} (hx : Ends limit m n x)
    (hf : ∀ a, Ends limit k l (f a)) : Ends limit (m + k) (n + l) (x >>= f) := by
  refine ⟨hx.toSpends.bind fun a => (hf a).toSpends, fun c s hc => ?_⟩
  cases h : (x c s).result with
  | error e =>
    rw [bind_error f h]
    exact hx.returns c s hc
  | ok a =>
    rw [bind_ok f h, Ran.returns_behind_iff]
    refine ⟨hx.returns c s hc, (hf a).returns _ _ ?_⟩
    rw [(hx.settings c s).submissionTimeout, hc]

theorem reading {x : Link → Exchange σ α} (hx : ∀ link, InTime (x link))
    (hu : ∀ link limit s, (x link limit s).journal.isUnending = false) :
    Ends limit 1 0 (Action.reading x) := by
  refine ⟨.reading hx, fun c s _ => ?_⟩
  cases h : c.link with
  | none =>
    rw [reading_of_none x h]
    rfl
  | some link =>
    rw [Ran.Returns, reading_of_some x h, Journal.isUnending_append, hu,
      Client.isUnending_aftermath]
    rfl

theorem submit [Node σ] (x : Extrinsic) {policy : Policy} (hp : PacedNode σ policy limit) :
    Ends limit 0 1 (Client.submit (σ := σ) x policy) := by
  refine ⟨.submit x policy, fun c s hc => ?_⟩
  cases h : c.link with
  | none =>
    rw [Client.submit_of_none x policy h]
    rfl
  | some link =>
    rw [Client.returns_submit_iff_paced h, hc]
    exact hp link x.encoded s

/-- With a paced node the steps of operations come to an end, and so do they one after the other. -/
theorem budgeted [Node σ] :
    Budgeted (σ := σ) (fun policy => PacedNode σ policy limit) fun m n _ x => Ends limit m n x where
  finish result := ⟨.finish result, fun _ _ _ => rfl⟩
  note notice := ⟨.note notice, fun _ _ _ => rfl⟩
  bind := bind
  outcome hx := ⟨hx.toSpends.outcome, hx.returns⟩
  mono hm hn hx := ⟨hx.toSpends.mono hm hn, hx.returns⟩
  ask request _ := reading (fun _ => inTime_await _ _) fun link limit s => by
    rw [journal_ask]
    rfl
  build call key := reading (fun link => Extrinsic.inTime_build link call key) fun link =>
    Extrinsic.isUnending_build link call key
  submit x _ hp := submit x hp

end Ends

end Action

/-- Every operation comes to an end if no submission that it may make can be kept for ever. -/
theorem Operation.returns_run [Node σ] (op : Operation) {c : Client}
    (h : ∀ policy, op.policy? = some policy → PacedNode σ policy c.submissionTimeout) (s : σ) :
    (op.run c s).Returns :=
  (Action.Ends.budgeted.operation op h).returns c s rfl

/-! ### Connecting -/

namespace Client

variable [Node σ]

theorem elapsed_attempt_le (address : String) (c : Client) (s : σ) :
    (attempt address c s).elapsed ≤ c.connectTimeout := inTime_await _ _ c.connectTimeout s

/-- A run that comes to an end and takes at most one limit for each link that is asked for. -/
structure Prompt (limit : Millis) (ran : Ran σ α) : Prop where
  /-- It returns. -/
  returns : ran.Returns
  /-- The time that passes. -/
  elapsed_le : ran.elapsed ≤ ran.journal.dials.length * limit

theorem prompt_attempt (address : String) (c : Client) (s : σ) :
    Prompt c.connectTimeout (attempt address c s) := by
  constructor
  · rw [Ran.Returns, journal_attempt]
    rfl
  · rw [journal_attempt]
    exact Nat.le_trans (elapsed_attempt_le address c s) (Nat.le_of_eq (Nat.one_mul _).symm)

/-- Trying candidates is prompt: there is one limit for each of them. -/
theorem prompt_failover (network : Network) (candidates tried : List String) (c : Client) (s : σ) :
    Prompt c.connectTimeout (failover network candidates tried c s) := by
  induction tried using failover.induct candidates generalizing c s with
  | case1 tried ih =>
    by_cases h : Catalog.untried candidates tried = []
    · rw [failover_of_untried_nil h]
      exact ⟨rfl, Nat.zero_le _⟩
    · obtain ⟨⟨address, ha⟩, words, hdraw⟩ := exists_draw h c s
      have hattempt := elapsed_attempt_le address (c.withWords words) s
      rcases attempt_cases address (c.withWords words) s with
        ⟨link, t, elapsed, -, hran⟩ | ⟨e, t, elapsed, -, hran⟩
      · rw [hran] at hattempt
        rw [failover_of_ok hdraw hran]
        exact ⟨rfl, Nat.le_trans hattempt (Nat.le_of_eq (Nat.one_mul _).symm)⟩
      · rw [hran] at hattempt
        obtain ⟨hreturns, hrest⟩ := ih address ha (c.withWords words) t
        rw [failover_of_error hdraw hran]
        refine ⟨(Ran.returns_behind_iff ..).mpr ⟨rfl, hreturns⟩, ?_⟩
        simp only [Ran.behind, Journal.dials_append, dials_roundEntries, Journal.dials_noted_cons,
          List.length_append, List.length_singleton, Nat.add_mul, Nat.one_mul]
        exact Nat.add_le_add (Nat.le_trans hattempt (Nat.le_add_right _ _)) hrest

theorem prompt_dialTarget (c : Client) (s : σ) : Prompt c.connectTimeout (dialTarget c s) := by
  cases h : c.target with
  | endpoint address =>
    rw [dialTarget_of_endpoint h]
    exact prompt_attempt address c s
  | network network =>
    cases hn : c.catalog.addresses? network with
    | none =>
      rw [dialTarget_of_unknown h hn]
      exact ⟨rfl, Nat.zero_le _⟩
    | some candidates =>
      rw [dialTarget_of_listed h hn]
      exact prompt_failover network candidates [] c s

theorem dials_connect (c : Client) (s : σ) :
    (connect c s).journal.dials = (dialTarget c.connecting s).journal.dials := by
  rw [connect_eq]
  simp

/-- Connecting is prompt. -/
theorem prompt_connect (c : Client) (s : σ) : Prompt c.connectTimeout (connect c s) := by
  obtain ⟨hreturns, helapsed⟩ := prompt_dialTarget c.connecting s
  constructor
  · rw [Ran.Returns, connect_eq]
    simpa [Ran.Returns] using hreturns
  · rw [dials_connect, connect_eq]
    exact helapsed

end Client

/-- **Everything ends in time.** An operation takes at most the time limit of reads for each of its
reads and the time limit of submissions for its submission, whatever the node does; and it returns,
whatever the node does, unless it makes a submission that waits and the node is not a paced one.
Connecting always returns. To an endpoint it takes at most the time limit of an attempt; to a network it
takes at most that for each different address that the catalog has for it, and no time at all if it has
none. -/
theorem everything_ends_in_time [Node σ] (c : Client) (s : σ) :
    (∀ op : Operation,
      (op.run c s).elapsed ≤
        op.reads * c.queryTimeout + op.submissions * c.submissionTimeout ∧
      ((∀ policy, op.policy? = some policy → PacedNode σ policy c.submissionTimeout) →
        (op.run c s).Returns)) ∧
    (Client.connect c s).Returns ∧
    (∀ address, c.target = .endpoint address →
      (Client.connect c s).elapsed ≤ c.connectTimeout) ∧
    ∀ network, c.target = .network network →
      (∀ candidates, c.catalog.addresses? network = some candidates →
        (Client.connect c s).elapsed ≤ candidates.dedup.length * c.connectTimeout) ∧
      (c.catalog.addresses? network = none → (Client.connect c s).elapsed = 0) := by
  obtain ⟨hreturns, hconnect⟩ := Client.prompt_connect c s
  refine ⟨fun op => ⟨op.spends_run.elapsed_le c s, fun h => op.returns_run h s⟩, hreturns,
    fun address h => ?_, fun network h => ⟨?_, ?_⟩⟩
  · have hran : Client.dialTarget c.connecting s = Client.attempt address c.connecting s :=
      Client.dialTarget_of_endpoint (c := c.connecting) h s
    rw [Client.dials_connect, hran, Client.journal_attempt] at hconnect
    exact Nat.le_trans hconnect (Nat.le_of_eq (Nat.one_mul _))
  · intro candidates hn
    obtain ⟨tried, found, hopening⟩ := Client.exists_opening h hn s
    rw [hopening.dials_eq, List.length_map] at hconnect
    exact Nat.le_trans hconnect (Nat.mul_le_mul_right _ hopening.length_le)
  · intro hn
    have hran : Client.dialTarget c.connecting s =
        ⟨.error (.unknownNetwork network.name), c.connecting, s, 0, []⟩ :=
      Client.dialTarget_of_unknown (c := c.connecting) h hn s
    rw [Client.connect_eq, hran]

/-! ### To the limit -/

/-- A node that knows the uid of every hotkey but no peer, and takes 20 ms for each of three reads and
30 ms for a hand-over. -/
def draggingNode : ScriptedNode :=
  { ScriptedNode.empty with
    entry := fun
      | .active _ => some (.u128 3)
      | _ => none
    script := [⟨20, false, none⟩, ⟨20, false, none⟩, ⟨20, false, none⟩, .none, ⟨30, false, none⟩] }

/-- A client with a live link that has 20 ms for a read and 30 ms for a submission. -/
def hastyClient : Client := { linkedClient 30 with queryTimeout := 20 }

/-- A registration that waits for a block. -/
def someRegistration : Operation :=
  .write (.subscribe (.v4 (.replicate 4 127)) 80 .text)
    ⟨⟨.replicate 32 1⟩, ⟨.replicate 32 2⟩⟩ .inclusion

/-- A node that does not answer the first calls. -/
def silentNode : ScriptedNode := { ScriptedNode.empty with script := .replicate 5 ⟨0, true, none⟩ }

/-- A scripted node has only so many reports to give. -/
theorem pacedNode_scripted (policy : Policy) (limit : Millis) :
    PacedNode ScriptedNode policy limit := by
  intro link encoded node _ delay w _ _ hw
  simp only [Node.ask, ScriptedNode.reply] at hw
  cases h : (node.script.headD .none).error with
  | some e =>
    rw [h] at hw
    cases hw
  | none =>
    rw [h] at hw
    cases hw
    exact ⟨_, Watch.concludes_ofList _ policy _⟩

/-- A registration can take three reads and a submission to the millisecond, and no more; then it
returns. Connecting to an address that does not answer ends, and so does connecting to a network of two
such addresses, one of them listed twice. -/
theorem everything_ends_in_time_of_dragging :
    (someRegistration.run hastyClient draggingNode).elapsed = 90 ∧
    (someRegistration.run hastyClient draggingNode).elapsed ≤ 3 * 20 + 1 * 30 ∧
    someRegistration.policy? = some .inclusion ∧
    (someRegistration.run hastyClient draggingNode).Returns ∧
    hastyClient.target = .endpoint "a:1" ∧
    (Client.connect hastyClient silentNode).Returns ∧
    (Client.connect hastyClient silentNode).elapsed ≤ hastyClient.connectTimeout ∧
    searchingClient.target = .network .akira ∧
    searchingClient.catalog.addresses? .akira = some ["b:2", "a:1", "b:2"] ∧
    (Client.connect searchingClient silentNode).elapsed ≤ 2 * searchingClient.connectTimeout := by
  obtain ⟨registration, returns⟩ :=
    (everything_ends_in_time hastyClient draggingNode).1 someRegistration
  obtain ⟨-, connects, endpoint, -⟩ := everything_ends_in_time hastyClient silentNode
  have network := ((everything_ends_in_time searchingClient silentNode).2.2.2 .akira rfl).1
    ["b:2", "a:1", "b:2"] rfl
  exact ⟨by decide +kernel, registration, rfl, returns fun policy _ => pacedNode_scripted policy _,
    rfl, connects, endpoint "a:1" rfl, rfl, rfl, network⟩

/-- That node signs each call with nonce 0 at once. -/
theorem TirelessNode.build_eq (call : Call) (key : SigningKey) (limit : Millis)
    (node : TirelessNode) :
    ∃ journal, Client.build call key (linkedClient limit) node =
      ⟨.ok ⟨call, key.account, 0, []⟩, linkedClient limit, node, 0, journal⟩ :=
  ⟨[.asked ⟨"ws://a:1", 0⟩ (.nonce key.account), .asked ⟨"ws://a:1", 0⟩ (.sign call key 0),
    .noted (.built ⟨call, key.account, 0, []⟩)], rfl⟩

/-- A client is kept for ever by that node when it sends a call and waits for its finality, whatever the
call and however little time there is for a submission. -/
theorem TirelessNode.not_returns_send (limit : Millis) (call : Call) (wallet : Wallet) :
    ¬ (Operation.run (.write (.send call) wallet .finalization) (linkedClient limit)
      TirelessNode.mk).Returns := by
  intro hreturns
  obtain ⟨journal, hbuild⟩ :=
    TirelessNode.build_eq call (wallet.key call.kind.signer) limit .mk
  have hrun : Operation.run (.write (.send call) wallet .finalization) (linkedClient limit)
      TirelessNode.mk = (Client.submit ⟨call, _, 0, []⟩ .finalization (linkedClient limit)
        TirelessNode.mk).behind 0 journal := Action.bind_of_eq_ok _ hbuild
  rw [hrun, Ran.returns_behind_iff, Client.returns_submit_iff_paced (c := linkedClient limit) rfl]
    at hreturns
  exact TirelessNode.not_paced _ _ _ _ hreturns.2

/-- A client that has 30 ms for a submission sends a call with one read and one submission, and waits
for its finality: it never gets to an end. -/
theorem send_never_returns :
    (linkedClient 30).submissionTimeout = 30 ∧
    ¬ (Operation.run
      (.write (.send someExtrinsic.call) ⟨⟨.replicate 32 1⟩, ⟨.replicate 32 2⟩⟩ .finalization)
      (linkedClient 30) TirelessNode.mk).Returns :=
  ⟨rfl, TirelessNode.not_returns_send 30 _ _⟩

end LedgerClient
