import LedgerClient.Node.Scripted
import LedgerClient.Proofs.Action
import LedgerClient.Proofs.Waiting

/-!
# The deadline of a submission

Handing an extrinsic to a node and waiting for its fate have one time limit together. A submission
is decided by the answer of the node to the hand-over, if that is an error or more is not waited
for, and else by the first decisive report of the watch. Decided in time, it gives the decision;
not decided in time, it ends exactly at the limit, and the client still trusts its link.

The limit needs a pause to take effect. Should the reports come one after the other within the limit,
without end and without a decision, the client asks for the next one for ever, and the submission
never returns.

## The model

`Decided reply policy x time result` says of the node's reply to the hand-over alone when and how
the submission of `x` is decided. A submission that waits for a node that never answers, or for a
watch that is settled nowhere, is not decided at any time. `Paced reply policy limit` is the condition
for the limit to take effect: if a watch is waited for, then the wait is over at one of its positions,
be it by a decision, by silence or by the limit.

## What is proved

* `Extrinsic.submit_of_decided`, `Extrinsic.submit_of_overdue`, `Extrinsic.submit_of_unpaced`: what
  the exchange gives in each of the three cases.
* `Client.returns_submit_iff_paced`: a submission returns exactly if it is paced.
* `submit_meets_deadline`: what the client is told, and when, and the one case in which it is not told
  anything.
* `submit_never_returns`: a node that never pauses keeps a client for ever.
-/

namespace LedgerClient

variable {σ : Type}

/-! ### When a submission is decided -/

/-- `Decided reply policy x time result`: given the reply to its hand-over, the submission of the
extrinsic `x` is decided once `time` has passed, with this result. -/
inductive Decided (reply : Reply σ Watch) (policy : Policy) (x : Hash) :
    Millis → Except Error Outcome → Prop where
  /-- The hand-over fails. -/
  | refused {delay : Millis} {e : Error} : reply.delay = some delay → reply.result = .error e →
      Decided reply policy x delay (.error e)
  /-- The hand-over succeeds, and more is not waited for. -/
  | accepted {delay : Millis} {w : Watch} : reply.delay = some delay → reply.result = .ok w →
      policy = .fireAndForget → Decided reply policy x delay (.ok (.accepted x))
  /-- The hand-over succeeds, and a report decides. -/
  | reported {delay : Millis} {w : Watch} {k : Nat} {result : Except Error Outcome} :
      reply.delay = some delay → reply.result = .ok w → policy ≠ .fireAndForget →
      SettledAt policy x w.arrival k result →
      Decided reply policy x (delay + Arrival.total w.arrival (k + 1)) result

/-- A submission is decided once. -/
theorem Decided.unique {reply : Reply σ Watch} {policy : Policy} {x : Hash} {t t' : Millis}
    {r r' : Except Error Outcome} (h : Decided reply policy x t r)
    (h' : Decided reply policy x t' r') : t = t' ∧ r = r' := by
  cases h with
  | refused hd hr =>
    cases h' with
    | refused hd' hr' =>
      rw [hd, Option.some.injEq] at hd'
      rw [hr, Except.error.injEq] at hr'
      exact ⟨hd', by rw [hr']⟩
    | accepted _ hr' _ => rw [hr] at hr'; cases hr'
    | reported _ hr' _ _ => rw [hr] at hr'; cases hr'
  | accepted hd hr hp =>
    cases h' with
    | refused _ hr' => rw [hr] at hr'; cases hr'
    | accepted hd' _ _ =>
      rw [hd, Option.some.injEq] at hd'
      exact ⟨hd', rfl⟩
    | reported _ _ hp' _ => exact absurd hp hp'
  | reported hd hr hp hs =>
    cases h' with
    | refused _ hr' => rw [hr] at hr'; cases hr'
    | accepted _ _ hp' => exact absurd hp' hp
    | reported hd' hr' _ hs' =>
      rw [hd, Option.some.injEq] at hd'
      rw [hr, Except.ok.injEq] at hr'
      subst hd' hr'
      obtain ⟨rfl, rfl⟩ := hs.unique hs'
      exact ⟨rfl, rfl⟩

/-- A decision in favour of an extrinsic names it. -/
theorem Decided.extrinsic_eq {reply : Reply σ Watch} {policy : Policy} {x : Hash} {time : Millis}
    {o : Outcome} (h : Decided reply policy x time (.ok o)) : o.extrinsic = x := by
  cases h with
  | accepted _ _ _ => rfl
  | reported _ _ _ hs =>
    obtain ⟨delay, block, ⟨-, -, rfl⟩ | ⟨-, rfl⟩⟩ := hs.success
    · rfl
    · rfl

/-- With a watch, the decision is what waiting for it gives when there is time enough. -/
theorem Decided.outcome_eq {reply : Reply σ Watch} {policy : Policy} {x : Hash} {time span : Millis}
    {result : Except Error Outcome} (h : Decided reply policy x time result) {w : Watch}
    (hw : reply.result = .ok w) (ht : time ≤ span) (s : σ) :
    (w.outcome policy x span s).result = some result := by
  cases h with
  | refused _ hr => rw [hw] at hr; cases hr
  | accepted _ _ hp => rw [hp]; rfl
  | reported _ hr hp hs =>
    rw [hw, Except.ok.injEq] at hr
    subst hr
    obtain ⟨journal, -, -, -, hf⟩ := Watch.outcome_of_settled hp hs
      (Nat.le_trans (Nat.le_add_left _ _) ht) s
    rw [hf]

/-! ### When the time limit takes effect -/

/-- `Paced reply policy limit`: given the reply to its hand-over, a submission with this time limit
does not find a next report for ever. If it waits for a watch, then at one of the positions a report
decides, nothing comes, or what comes is too late. -/
def Paced (reply : Reply σ Watch) (policy : Policy) (limit : Millis) : Prop :=
  policy ≠ .fireAndForget → ∀ delay w, reply.delay = some delay → delay ≤ limit →
    reply.result = .ok w → ∃ n, Arrival.Concludes w.arrival policy (limit - delay) n

/-- A submission that is decided at some time, be it late, is paced. -/
theorem Decided.paced {reply : Reply σ Watch} {policy : Policy} {x : Hash} {time : Millis}
    {result : Except Error Outcome} (h : Decided reply policy x time result) (limit : Millis) :
    Paced reply policy limit := by
  intro hp delay w _ _ hw
  cases h with
  | refused _ hr => rw [hw] at hr; cases hr
  | accepted _ _ hp' => exact absurd hp' hp
  | @reported _ _ k _ _ hr _ hs =>
    rw [hw, Except.ok.injEq] at hr
    subst hr
    exact ⟨k, hs.concludes _⟩

/-! ### The exchange -/

namespace Extrinsic

variable [Node σ] {link : Link} {x : Extrinsic} {policy : Policy} {limit : Millis} {s : σ}

/-- The exchange of a submission that is decided in time. -/
theorem submit_of_decided {time : Millis} {result : Except Error Outcome}
    (h : Decided (Node.ask link (.submit x.encoded) s) policy x.hash time result)
    (hl : time ≤ limit) :
    ∃ journal : Journal, journal.Waits ∧ journal.isUnending = false ∧
      submit link x policy limit s =
        ⟨some result, time, (Node.ask link (.submit x.encoded) s).answered,
          .asked link (.submit x.encoded) :: journal⟩ := by
  rw [submit]
  cases h with
  | refused hd hr =>
    refine ⟨[], .nil, rfl, ?_⟩
    have ha := Exchange.ask_of_delay hd hl
    rw [Exchange.bind_error _ (e := _) (by rw [ha, hr]), ha]
  | @accepted _ w hd hr hp =>
    refine ⟨[], .nil, rfl, ?_⟩
    have ha := Exchange.ask_of_delay hd hl
    rw [Exchange.bind_ok _ (a := w) (by rw [ha, hr]), ha]
    subst hp
    rfl
  | @reported delay w k _ hd hr hp hs =>
    have ha := Exchange.ask_of_delay hd (Nat.le_trans (Nat.le_add_right _ _) hl)
    rw [Exchange.bind_ok _ (a := w) (by rw [ha, hr]), ha]
    obtain ⟨journal, -, hw, hu, hf⟩ := Watch.outcome_of_settled hp hs (Nat.le_sub_of_add_le' hl)
      (Node.ask link (.submit x.encoded) s).answered
    exact ⟨journal, hw, hu, by rw [hf]; rfl⟩

/-- The exchange of a submission that is not decided in time, and is paced. -/
theorem submit_of_overdue
    (h : ∀ time result, Decided (Node.ask link (.submit x.encoded) s) policy x.hash time result →
      limit < time)
    (hpaced : Paced (Node.ask link (.submit x.encoded) s) policy limit) :
    ∃ (node : σ) (journal : Journal), journal.Waits ∧ journal.isUnending = false ∧
      submit link x policy limit s =
        ⟨none, limit, node, .asked link (.submit x.encoded) :: journal⟩ := by
  rw [submit]
  by_cases hd : ∃ delay, (Node.ask link (.submit x.encoded) s).delay = some delay ∧ delay ≤ limit
  · obtain ⟨delay, hd, hl⟩ := hd
    have ha := Exchange.ask_of_delay hd hl
    match hr : (Node.ask link (.submit x.encoded) s).result with
    | .error e => exact absurd hl (Nat.not_le.mpr (h delay _ (.refused hd hr)))
    | .ok w =>
      rw [Exchange.bind_ok _ (a := w) (by rw [ha, hr]), ha]
      by_cases hp : policy = .fireAndForget
      · exact absurd hl (Nat.not_le.mpr (h delay _ (.accepted hd hr hp)))
      · have hlate : ∀ k result, SettledAt policy x.hash w.arrival k result →
            limit - delay < Arrival.total w.arrival (k + 1) := fun k result hs =>
          Nat.sub_lt_left_of_lt_add hl (h _ result (.reported hd hr hp hs))
        obtain ⟨journal, hw, hu, hf⟩ := Watch.outcome_of_overdue hp hlate
          (hpaced hp delay w hd hl hr) (Node.ask link (.submit x.encoded) s).answered
        exact ⟨_, journal, hw, hu, by rw [hf, Talk.behind, Nat.add_sub_cancel' hl]; rfl⟩
  · have hlate : ∀ delay, (Node.ask link (.submit x.encoded) s).delay = some delay →
        limit < delay := fun delay hdelay => Nat.lt_of_not_le fun hl => hd ⟨delay, hdelay, hl⟩
    have ha := Exchange.ask_of_late hlate
    refine ⟨(Node.ask link (.submit x.encoded) s).abandoned, [], .nil, rfl, ?_⟩
    rw [Exchange.bind_late _ (by rw [ha]), ha]

/-- The exchange of a submission that is not paced. -/
theorem submit_of_unpaced (h : ¬ Paced (Node.ask link (.submit x.encoded) s) policy limit) :
    ∃ (node : σ) (elapsed : Millis) (journal : Journal),
      journal.Waits ∧ journal.isUnending = true ∧
      submit link x policy limit s =
        ⟨none, elapsed, node, .asked link (.submit x.encoded) :: journal⟩ := by
  simp only [Paced, Classical.not_imp, Classical.not_forall, not_exists] at h
  obtain ⟨hp, delay, w, hd, hl, hr, hopen⟩ := h
  have ha := Exchange.ask_of_delay hd hl
  obtain ⟨elapsed, journal, hw, hu, hf⟩ := Watch.outcome_of_endless hp hopen x.hash
    (Node.ask link (.submit x.encoded) s).answered
  refine ⟨(Node.ask link (.submit x.encoded) s).answered, delay + elapsed, journal, hw, hu, ?_⟩
  rw [submit, Exchange.bind_ok _ (a := w) (by rw [ha, hr]), ha, hf]
  rfl

/-- The exchange of a submission that is paced: it is decided in time, or it ends at the limit. -/
theorem submit_of_paced (hpaced : Paced (Node.ask link (.submit x.encoded) s) policy limit) :
    ∃ journal : Journal, journal.Waits ∧ journal.isUnending = false ∧
      ((∃ time result, Decided (Node.ask link (.submit x.encoded) s) policy x.hash time result ∧
          time ≤ limit ∧ submit link x policy limit s =
            ⟨some result, time, (Node.ask link (.submit x.encoded) s).answered,
              .asked link (.submit x.encoded) :: journal⟩) ∨
        ∃ node, submit link x policy limit s =
          ⟨none, limit, node, .asked link (.submit x.encoded) :: journal⟩) := by
  by_cases h : ∃ time result,
      Decided (Node.ask link (.submit x.encoded) s) policy x.hash time result ∧ time ≤ limit
  · obtain ⟨time, result, hd, hl⟩ := h
    obtain ⟨journal, hw, hu, hx⟩ := submit_of_decided hd hl
    exact ⟨journal, hw, hu, .inl ⟨time, result, hd, hl, hx⟩⟩
  · have hlate : ∀ time result,
        Decided (Node.ask link (.submit x.encoded) s) policy x.hash time result → limit < time :=
      fun time result hd => Nat.lt_of_not_le fun hl => h ⟨time, result, hd, hl⟩
    obtain ⟨node, journal, hw, hu, hx⟩ := submit_of_overdue hlate hpaced
    exact ⟨journal, hw, hu, .inr ⟨node, hx⟩⟩

/-- A submission is decided in time, or it has no result. -/
theorem submit_cases (link : Link) (x : Extrinsic) (policy : Policy) (limit : Millis) (s : σ) :
    ∃ journal : Journal, journal.Waits ∧
      ((∃ time result, Decided (Node.ask link (.submit x.encoded) s) policy x.hash time result ∧
          time ≤ limit ∧ submit link x policy limit s =
            ⟨some result, time, (Node.ask link (.submit x.encoded) s).answered,
              .asked link (.submit x.encoded) :: journal⟩) ∨
        ∃ elapsed node, submit link x policy limit s =
          ⟨none, elapsed, node, .asked link (.submit x.encoded) :: journal⟩) := by
  by_cases hpaced : Paced (Node.ask link (.submit x.encoded) s) policy limit
  · obtain ⟨journal, hw, -, hdecided | ⟨node, hx⟩⟩ := submit_of_paced hpaced
    · exact ⟨journal, hw, .inl hdecided⟩
    · exact ⟨journal, hw, .inr ⟨limit, node, hx⟩⟩
  · obtain ⟨node, elapsed, journal, hw, -, hx⟩ := submit_of_unpaced hpaced
    exact ⟨journal, hw, .inr ⟨elapsed, node, hx⟩⟩

/-- A submission is one request over the link; all the rest is waiting. -/
theorem journal_submit (link : Link) (x : Extrinsic) (policy : Policy) (limit : Millis) (s : σ) :
    ∃ journal : Journal, journal.Waits ∧
      (submit link x policy limit s).journal = .asked link (.submit x.encoded) :: journal := by
  obtain ⟨journal, hw, ⟨time, result, -, -, hx⟩ | ⟨elapsed, node, hx⟩⟩ :=
    submit_cases link x policy limit s
  · exact ⟨journal, hw, by rw [hx]⟩
  · exact ⟨journal, hw, by rw [hx]⟩

/-- A submission that succeeds tells of the extrinsic that was handed over. -/
theorem extrinsic_of_submit {o : Outcome} (h : (submit link x policy limit s).result = some (.ok o)) :
    o.extrinsic = x.hash := by
  obtain ⟨journal, -, ⟨time, result, hd, -, hx⟩ | ⟨elapsed, node, hx⟩⟩ :=
    submit_cases link x policy limit s
  · rw [hx, Option.some.injEq] at h
    subst h
    exact hd.extrinsic_eq
  · rw [hx] at h
    cases h

end Extrinsic

/-! ### The client -/

namespace Client

variable [Node σ] {c : Client} {link : Link} {x : Extrinsic} {policy : Policy} {s : σ}

/-- A submission that is decided in time returns the decision when it is made. -/
theorem submit_of_decided (hc : c.link = some link) {time : Millis} {result : Except Error Outcome}
    (h : Decided (Node.ask link (.submit x.encoded) s) policy x.hash time result)
    (hl : time ≤ c.submissionTimeout) :
    (submit x policy c s).Returns ∧ (submit x policy c s).result = result ∧
      (submit x policy c s).elapsed = time := by
  obtain ⟨journal, -, hu, hx⟩ := Extrinsic.submit_of_decided h hl
  refine ⟨(returns_submit_iff x policy hc s).mpr ?_, ?_⟩
  · rw [hx]
    exact hu
  · rw [submit_of_some x policy hc, hx]
    exact ⟨rfl, rfl⟩

/-- A submission that is not decided in time, and is paced, returns at its limit. -/
theorem submit_of_overdue (hc : c.link = some link)
    (h : ∀ time result, Decided (Node.ask link (.submit x.encoded) s) policy x.hash time result →
      c.submissionTimeout < time)
    (hpaced : Paced (Node.ask link (.submit x.encoded) s) policy c.submissionTimeout) :
    (submit x policy c s).Returns ∧
      (submit x policy c s).result = .error (.submissionTimeout c.submissionTimeout) ∧
      (submit x policy c s).elapsed = c.submissionTimeout ∧ (submit x policy c s).client = c := by
  obtain ⟨node, journal, -, hu, hx⟩ := Extrinsic.submit_of_overdue h hpaced
  refine ⟨(returns_submit_iff x policy hc s).mpr ?_, ?_⟩
  · rw [hx]
    exact hu
  · rw [submit_of_some x policy hc, hx]
    exact ⟨rfl, rfl, rfl⟩

/-- A submission returns if it is paced, and only then. -/
theorem returns_submit_iff_paced (hc : c.link = some link) (x : Extrinsic) (policy : Policy)
    (s : σ) :
    (submit x policy c s).Returns ↔
      Paced (Node.ask link (.submit x.encoded) s) policy c.submissionTimeout := by
  constructor
  · intro hreturns
    refine Classical.byContradiction fun hpaced => ?_
    obtain ⟨node, elapsed, journal, -, hu, hx⟩ := Extrinsic.submit_of_unpaced hpaced
    rw [returns_submit_iff x policy hc, hx, Journal.isUnending_asked_cons, hu] at hreturns
    cases hreturns
  · intro hpaced
    obtain ⟨journal, -, hu, ⟨time, result, -, -, hx⟩ | ⟨node, hx⟩⟩ :=
      Extrinsic.submit_of_paced hpaced
    · rw [returns_submit_iff x policy hc, hx]
      exact hu
    · rw [returns_submit_iff x policy hc, hx]
      exact hu

end Client

/-- **One deadline for the whole submission.** A submission that is decided within the client's time
limit returns when it is decided and gives the decision: the error of the hand-over, or what waiting
for the watch gives when there is time enough. One that is not decided by then, be it late or never,
returns at the limit with an error of its own kind that carries the limit, and the client is what it
was, its link and its state included, provided that the submission is paced. One that is not paced,
where reports that decide nothing come within the limit one after the other for ever, is decided at no
time and never returns. -/
theorem submit_meets_deadline [Node σ] {c : Client} {link : Link} (hc : c.link = some link)
    (x : Extrinsic) (policy : Policy) (s : σ) :
    (∀ time result, Decided (Node.ask link (.submit x.encoded) s) policy x.hash time result →
      time ≤ c.submissionTimeout →
        (Client.submit x policy c s).Returns ∧
        (Client.submit x policy c s).result = result ∧
        (Client.submit x policy c s).elapsed = time ∧
        ∀ w, (Node.ask link (.submit x.encoded) s).result = .ok w →
          ∀ span (node : σ), time ≤ span →
            (w.outcome policy x.hash span node).result = some result) ∧
    ((∀ time result, Decided (Node.ask link (.submit x.encoded) s) policy x.hash time result →
        c.submissionTimeout < time) →
      Paced (Node.ask link (.submit x.encoded) s) policy c.submissionTimeout →
        (Client.submit x policy c s).Returns ∧
        (Client.submit x policy c s).result = .error (.submissionTimeout c.submissionTimeout) ∧
        (Client.submit x policy c s).elapsed = c.submissionTimeout ∧
        (Client.submit x policy c s).client = c) ∧
    (¬ Paced (Node.ask link (.submit x.encoded) s) policy c.submissionTimeout →
      (∀ time result,
        ¬ Decided (Node.ask link (.submit x.encoded) s) policy x.hash time result) ∧
      ¬ (Client.submit x policy c s).Returns) := by
  refine ⟨fun time result h hl => ?_, fun h hpaced => Client.submit_of_overdue hc h hpaced,
    fun hpaced => ⟨fun time result h => hpaced (h.paced _), ?_⟩⟩
  · obtain ⟨hreturns, hresult, helapsed⟩ := Client.submit_of_decided hc h hl
    exact ⟨hreturns, hresult, helapsed, fun w hw span node ht => h.outcome_eq hw ht node⟩
  · rwa [Client.returns_submit_iff_paced hc]

/-! ### To the millisecond -/

/-- A node that takes an extrinsic after 5 ms, and reports a block 10 ms and its finality another
20 ms later. -/
def unhurriedNode : ScriptedNode :=
  { ScriptedNode.empty with
    arrivals :=
      [.after 10 (.progress (.inBlock ScriptedNode.usualBlock)),
       .after 20 (.progress (.finalized ScriptedNode.usualBlock))]
    script := [⟨5, false, none⟩] }

/-- A client with a live link and a time limit for submissions. -/
def linkedClient (limit : Millis) : Client :=
  { Client.start (.endpoint "a:1") (.ofList []) with
    link := some ⟨"ws://a:1", 0⟩
    state := .connected
    submissionTimeout := limit }

/-- An extrinsic with some bytes. -/
def someExtrinsic : Extrinsic :=
  ⟨⟨.setWeights, [("dests", .list []), ("weights", .list [])], rfl⟩, .replicate 32 1, 0, [1, 2, 3]⟩

/-! ### A node that never pauses -/

/-- The reports of one who tells of the pool once, and of one and the same block ever after. -/
def tirelessReport : Nat → Report
  | 0 => .progress .inPool
  | _ + 1 => .progress (.inBlock ScriptedNode.usualBlock)

/-- Reports that come at once take no time, however many they are. -/
theorem total_immediate (report : Nat → Report) (n : Nat) :
    Arrival.total (fun k => .after 0 (report k)) n = 0 := by
  induction n with
  | zero => rfl
  | succ n ih => rw [Arrival.total, ih, Arrival.delay]

theorem concludes_immediate_iff {report : Nat → Report} {policy : Policy} {span : Millis} {n : Nat} :
    Arrival.Concludes (fun k => .after 0 (report k)) policy span n ↔
      (report n).decides policy = true := by
  rw [Arrival.Concludes, total_immediate]
  exact or_iff_left (Nat.not_lt_zero span)

/-- Those reports, without a pause. -/
def tirelessWatch : Watch where
  arrival n := .after 0 (tirelessReport n)
  horizon _ := 2
  concludes_within policy span n h := by
    rw [concludes_immediate_iff] at h
    cases n with
    | zero => cases h
    | succ n => exact ⟨1, Nat.lt_succ_self 1, concludes_immediate_iff.mpr h⟩

/-- A node that answers at once, and reports on each extrinsic without a pause. -/
structure TirelessNode

/-- The answer to a request. -/
def TirelessNode.answer : (request : Request) → request.Answer
  | .fetch _ _ => none
  | .entries _ _ => []
  | .blockNumber _ => 0
  | .blockHash _ => none
  | .nonce _ => 0
  | .sign _ _ _ => []
  | .submit _ => tirelessWatch

instance : Node TirelessNode where
  dial url node := ⟨some 0, .ok ⟨url, 0⟩, node, node⟩
  ask _ request node := ⟨some 0, .ok (TirelessNode.answer request), node, node⟩

/-- None of those reports ends the wait for finality. -/
theorem TirelessNode.not_concludes (span : Millis) (n : Nat) :
    ¬ Arrival.Concludes tirelessWatch.arrival .finalization span n := by
  intro h
  have hdecides := concludes_immediate_iff.mp h
  cases n <;> cases hdecides

theorem TirelessNode.not_paced (link : Link) (encoded : Bytes) (limit : Millis)
    (node : TirelessNode) :
    ¬ Paced (Node.ask link (.submit encoded) node) .finalization limit := by
  intro hpaced
  obtain ⟨n, hn⟩ := hpaced (by decide) 0 tirelessWatch rfl (Nat.zero_le limit) rfl
  exact not_concludes _ n hn

/-- With 35 ms the finality is seen, with 34 ms it is not, and from a node that never pauses nothing
is ever seen. -/
theorem submit_meets_deadline_of_35 :
    (linkedClient 35).link = some ⟨"ws://a:1", 0⟩ ∧ (linkedClient 34).link = some ⟨"ws://a:1", 0⟩ ∧
    (Client.submit someExtrinsic .finalization (linkedClient 35) unhurriedNode).result =
      .ok (.finalized someExtrinsic.hash ScriptedNode.usualBlock) ∧
    (Client.submit someExtrinsic .finalization (linkedClient 34) unhurriedNode).result =
      .error (.submissionTimeout 34) ∧
    (Client.submit someExtrinsic .finalization (linkedClient 34) unhurriedNode).client =
      linkedClient 34 ∧
    ¬ (Client.submit someExtrinsic .finalization (linkedClient 35) TirelessNode.mk).Returns := by
  have settled : SettledAt .finalization someExtrinsic.hash
      (Watch.ofList (unhurriedNode.arrivals.map ScriptedNode.punctual)).arrival 1
      (.ok (.finalized someExtrinsic.hash ScriptedNode.usualBlock)) := by
    refine settledAt_succ_iff.mpr ⟨⟨10, _, rfl, fun r hr => ?_⟩, ?_⟩
    · cases hr with
      | included hp => cases hp
    · exact settledAt_zero_iff.mpr ⟨20, _, rfl, .finalized⟩
  have decided : Decided (Node.ask ⟨"ws://a:1", 0⟩ (.submit someExtrinsic.encoded) unhurriedNode)
      .finalization someExtrinsic.hash 35
      (.ok (.finalized someExtrinsic.hash ScriptedNode.usualBlock)) :=
    .reported rfl rfl (by decide) settled
  have inTime := (submit_meets_deadline (c := linkedClient 35) rfl someExtrinsic .finalization
    unhurriedNode).1 _ _ decided (Nat.le_refl 35)
  have tooLate := (submit_meets_deadline (c := linkedClient 34) rfl someExtrinsic .finalization
    unhurriedNode).2.1 (fun time result h => by
      obtain ⟨rfl, -⟩ := decided.unique h
      exact Nat.lt_succ_self 34) (decided.paced 34)
  have never := (submit_meets_deadline (c := linkedClient 35) rfl someExtrinsic .finalization
    TirelessNode.mk).2.2 (TirelessNode.not_paced _ _ _ _)
  exact ⟨rfl, rfl, inTime.2.1, tooLate.2.1, tooLate.2.2.2, never.2⟩

/-- A client with 35 ms for a submission waits for the finality of an extrinsic that a node reports on
without a pause: nothing is decided at any time, the submission never returns, and after any number of
reports the wait is still open and no time has passed. -/
theorem submit_never_returns :
    (∀ time result, ¬ Decided
      (Node.ask ⟨"ws://a:1", 0⟩ (.submit someExtrinsic.encoded) TirelessNode.mk)
      .finalization someExtrinsic.hash time result) ∧
    ¬ (Client.submit someExtrinsic .finalization (linkedClient 35) TirelessNode.mk).Returns ∧
    ∀ count, ∃ journal : Journal, journal.polls = count ∧
      Arrival.outcome tirelessWatch.arrival .finalization someExtrinsic.hash count 35
        TirelessNode.mk = ⟨none, 0, .mk, journal⟩ := by
  have hpaced := TirelessNode.not_paced ⟨"ws://a:1", 0⟩ someExtrinsic.encoded 35 .mk
  refine ⟨fun time result h => hpaced (h.paced 35), ?_, fun count => ?_⟩
  · rwa [Client.returns_submit_iff_paced (c := linkedClient 35) rfl]
  · have hopen : ∀ n < count,
        ¬ Arrival.Concludes tirelessWatch.arrival .finalization 35 n :=
      fun n _ => TirelessNode.not_concludes 35 n
    have htime : Arrival.total tirelessWatch.arrival count = 0 := total_immediate tirelessReport count
    obtain ⟨journal, -, hpolls, -, hf⟩ :=
      Arrival.follow_of_endless hopen someExtrinsic.hash TirelessNode.mk
    refine ⟨journal, hpolls, ?_⟩
    rw [Arrival.outcome_waiting (by decide), hf, htime]

end LedgerClient
