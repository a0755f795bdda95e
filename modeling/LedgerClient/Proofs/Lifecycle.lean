import LedgerClient.Proofs.LinkDrop
import LedgerClient.Proofs.Session

/-!
# The lifecycle of a client

A client has a live link exactly when the state that it reported last says so. Between two steps no
link is being made, and the state tells of a failure exactly when the last attempt to make a link
ended with that failure and the link was not given up since. A client that fails to connect has no
link, whatever it had before, and there is never a second link beside the live one.

## The model

Link and state are two fields of a client, which connecting, disconnecting and a broken link change
each on its own. `Step.Effect` says what a step can do to the two of them, and `Lifecycle` what holds
of them in a session.

## What is proved

* `Step.effect_run`: the effects of all steps.
* `Session.lifecycle_run`: the lifecycle after every session.
* `session_keeps_lifecycle`: the rules in one statement.
-/

namespace LedgerClient

variable {σ : Type}

/-! ### What a step does to link and state -/

/-- What a step with a result does to the link and to the state of a client. -/
inductive Step.Effect (c c' : Client) (step : Step) : Except Error step.Answer → Prop where
  /-- A link was made. -/
  | opened {answer : step.Answer} {link : Link} : step.isOpening → c'.link = some link →
      c'.state = .connected → Effect c c' step (.ok answer)
  /-- No link could be made. -/
  | failed {e : Error} : step.isOpening → c'.link = none → c'.state = .failed e.message →
      Effect c c' step (.error e)
  /-- The link was given up on request. -/
  | closed {result : Except Error step.Answer} : step.isLinking → step.isOpening = false →
      c'.link = none → c'.state = .disconnected → Effect c c' step result
  /-- A broken link was given up. -/
  | lost {result : Except Error step.Answer} {link : Link} : step.isLinking = false →
      c.link = some link → c'.link = none → c'.state = .disconnected → Effect c c' step result
  /-- Link and state were left alone. -/
  | kept {result : Except Error step.Answer} : step.isLinking = false → c'.link = c.link →
      c'.state = c.state → Effect c c' step result

theorem Step.isLinking_of_isOpening {step : Step} (h : step.isOpening = true) :
    step.isLinking = true := by
  cases step <;> first | rfl | cases h

section Effect

variable [Node σ]

/-- Connecting ends with a live link or with an error, and then without a link. -/
theorem Client.connect_cases (c : Client) (s : σ) :
    ((∃ answer, (connect c s).result = .ok answer) ∧
      (∃ link, (connect c s).client.link = some link) ∧
      (connect c s).client.state = .connected) ∨
    ∃ e, (connect c s).result = .error e ∧ (connect c s).client.link = none ∧
      (connect c s).client.state = .failed e.message := by
  obtain ⟨words, hclient⟩ := (dialling_dialTarget c.connecting s).client_eq
  rw [connect_eq, hclient]
  cases (dialTarget c.connecting s).result with
  | ok link => exact .inl ⟨⟨(), rfl⟩, ⟨link, rfl⟩, rfl⟩
  | error e => exact .inr ⟨e, rfl, rfl, rfl⟩

/-- A step that makes a link does what connecting does. -/
theorem Step.effect_of_opening {c c' : Client} {step : Step} {result : Except Error step.Answer}
    (h : step.isOpening = true)
    (hcases : ((∃ answer, result = .ok answer) ∧ (∃ link, c'.link = some link) ∧
        c'.state = .connected) ∨
      ∃ e, result = .error e ∧ c'.link = none ∧ c'.state = .failed e.message) :
    step.Effect c c' result := by
  rcases hcases with ⟨⟨answer, rfl⟩, ⟨link, hlink⟩, hstate⟩ | ⟨e, rfl, hlink, hstate⟩
  · exact .opened h hlink hstate
  · exact .failed h hlink hstate

/-- An operation leaves link and state alone, unless the link is broken. -/
theorem Operation.effect_run (op : Operation) (c : Client) (s : σ) :
    (Step.operate op).Effect c (op.run c s).client (op.run c s).result := by
  by_cases hb : BreaksLink (op.run c s).result
  · rcases h : c.link with _ | link
    · refine .kept rfl ?_ ?_ <;> rw [op.observant_run.client_eq, Client.after_of_none h]
    · have hclient : (op.run c s).client = c.unlinked := by
        rw [op.observant_run.client_eq, Client.after_of_breaksLink hb]
      refine .lost rfl h ?_ ?_
      · rw [hclient, Client.link_unlinked]
      · rw [hclient, Client.state_unlinked h]
  · refine .kept rfl ?_ ?_ <;> rw [op.observant_run.client_eq, Client.after_of_not_breaksLink hb]

/-- What each step does to link and state. -/
theorem Step.effect_run (step : Step) (c : Client) (s : σ) :
    step.Effect c (step.run c s).client (step.run c s).result := by
  cases step with
  | connect => exact effect_of_opening rfl (c.connect_cases s)
  | reconnect =>
    have hrun := Client.reconnect_eq c s
    refine effect_of_opening rfl ?_
    simp only [Step.run, hrun, Ran.behind]
    exact (c.withoutLink.reporting .disconnected).connect_cases s
  | disconnect =>
    have hrun := Client.disconnect_eq c s
    simp only [Step.run, hrun]
    exact .closed rfl rfl rfl rfl
  | operate op => exact op.effect_run c s
  | adjust setting => cases setting <;> exact .kept rfl rfl rfl
  | receive => exact .kept rfl rfl rfl
  | hangUp => exact .kept rfl rfl rfl

/-! ### Link and state in a session -/

/-- The error of the last attempt to make a link, if nothing came of it and the link was not given up
since. -/
def Session.Failed (session : Session σ) (e : Error) : Prop :=
  ∃ turn, session.lastLinking? = some turn ∧ turn.step.isOpening = true ∧ turn.result = .error e

/-- What holds of link and state in a session. -/
structure Lifecycle (session : Session σ) : Prop where
  /-- There is a link exactly when the state says so. -/
  connected_iff : session.client.link.isSome ↔ session.client.state = .connected
  /-- No link is being made. -/
  not_connecting : session.client.state ≠ .connecting
  /-- The state tells of a failure exactly when the last attempt failed in this way. -/
  failed_iff : ∀ text, session.client.state = .failed text ↔
    ∃ e, session.Failed e ∧ e.message = text

/-- A client that was just made, for a target or from a configuration. -/
inductive Client.Fresh : Client → Prop where
  /-- For a target. -/
  | start (target : Target) (words : WordSource) : Fresh (.start target words)
  /-- From a configuration. -/
  | ofConfig {config : ClientConfig} {words : WordSource} {c : Client} :
      Client.ofConfig config words = .ok c → Fresh c

/-- A client that was just made has no link, and says so. -/
theorem Client.Fresh.disconnected {c : Client} (h : c.Fresh) :
    c.link = none ∧ c.state = .disconnected := by
  cases h with
  | start target words => exact ⟨rfl, rfl⟩
  | ofConfig hc =>
    rw [Client.ofConfig] at hc
    split at hc
    · cases hc
    · split at hc
      · cases hc
      · cases hc
        exact ⟨rfl, rfl⟩

omit [Node σ] in
/-- At first there is no link, and nothing has failed. -/
theorem Lifecycle.start {c : Client} (h : c.Fresh) (s : σ) : Lifecycle (Session.start c s) := by
  obtain ⟨hlink, hstate⟩ := h.disconnected
  constructor
  · simp [Session.start, hlink, hstate]
  · simp [Session.start, hstate]
  · simp [Session.start, hstate, Session.Failed, Session.lastLinking?]

namespace Session

variable {session : Session σ} {step : Step} {e : Error}

/-- After a step that was to make a link or to give it up, it alone decides what has failed. -/
theorem failed_take_of_linking (h : step.isLinking = true) :
    (session.take step).Failed e ↔ step.isOpening = true ∧
      (step.run session.client session.node).result = .error e := by
  simp [Failed, lastLinking?_take_of_linking h]

/-- Another step does not change what has failed. -/
theorem failed_take_of_not_linking (h : step.isLinking = false) :
    (session.take step).Failed e ↔ session.Failed e := by
  simp [Failed, lastLinking?_take_of_not_linking h]

end Session

/-- Every step keeps link and state in line. -/
theorem Lifecycle.take {session : Session σ} (h : Lifecycle session) (step : Step) :
    Lifecycle (session.take step) := by
  have heffect := step.effect_run session.client session.node
  have hclient : (session.take step).client = (step.run session.client session.node).client := rfl
  rw [← hclient] at heffect
  generalize hresult : (step.run session.client session.node).result = result at heffect
  cases heffect with
  | opened hopening hlink hstate =>
    refine ⟨by simp [hlink, hstate], by simp [hstate], fun text => ?_⟩
    simp [hstate, Session.failed_take_of_linking (Step.isLinking_of_isOpening hopening), hresult]
  | failed hopening hlink hstate =>
    refine ⟨by simp [hlink, hstate], by simp [hstate], fun text => ?_⟩
    simp [hstate, Session.failed_take_of_linking (Step.isLinking_of_isOpening hopening), hresult,
      hopening]
  | closed hlinking hopening hlink hstate =>
    refine ⟨by simp [hlink, hstate], by simp [hstate], fun text => ?_⟩
    simp [hstate, Session.failed_take_of_linking hlinking, hopening]
  | lost hlinking hbefore hlink hstate =>
    -- the link was live, so that nothing had failed
    have hconnected : session.client.state = .connected := h.connected_iff.mp (by simp [hbefore])
    have hnone : ∀ e, ¬ session.Failed e := fun e he => by
      have hfailed := (h.failed_iff e.message).mpr ⟨e, he, rfl⟩
      rw [hconnected] at hfailed
      cases hfailed
    refine ⟨by simp [hlink, hstate], by simp [hstate], fun text => ?_⟩
    simp [hstate, Session.failed_take_of_not_linking hlinking, hnone]
  | kept hlinking hlink hstate =>
    refine ⟨?_, ?_, fun text => ?_⟩
    · rw [hlink, hstate]
      exact h.connected_iff
    · rw [hstate]
      exact h.not_connecting
    · simp only [hstate, Session.failed_take_of_not_linking hlinking]
      exact h.failed_iff text

/-- Link and state are in line after every session. -/
theorem Session.lifecycle_run {c : Client} (h : c.Fresh) (steps : List Step) (s : σ) :
    Lifecycle (run steps c s) :=
  run_induction (.start h s) fun _ step _ hsession => hsession.take step

/-- A step that was to make a link and failed leaves none. -/
theorem Step.link_of_failed {step : Step} (h : step.isOpening = true) {c : Client} {s : σ} {e : Error}
    (he : (step.run c s).result = .error e) : (step.run c s).client.link = none := by
  have heffect := step.effect_run c s
  rw [he] at heffect
  cases heffect with
  | failed _ hlink _ => exact hlink
  | closed _ hopening _ _ => rw [h] at hopening; cases hopening
  | lost hlinking _ _ _ => rw [isLinking_of_isOpening h] at hlinking; cases hlinking
  | kept hlinking _ _ => rw [isLinking_of_isOpening h] at hlinking; cases hlinking

end Effect

/-- **The lifecycle of a client.** After any session of a client that was just made, with any node:
there is a live link exactly when the state is that of a connected client; no link is being made; the
state tells of a failure exactly when the last step that was to make a link or to give it up was to
make one and ended with an error of this text; if the next step is to make a link and fails, no link
is left; and the journal accounts for all links, so that of those that the node made all but the live
one have been given up. -/
theorem session_keeps_lifecycle [Node σ] {c : Client} (h : c.Fresh) (steps : List Step) (s : σ) :
    let session := Session.run steps c s
    (session.client.isConnected = true ↔ session.client.state = .connected) ∧
    session.client.state ≠ .connecting ∧
    (∀ text, session.client.state = .failed text ↔ ∃ turn e, session.lastLinking? = some turn ∧
      turn.step.isOpening = true ∧ turn.result = .error e ∧ e.message = text) ∧
    (∀ step : Step, step.isOpening = true → ∀ e,
      (step.run session.client session.node).result = .error e →
      (step.run session.client session.node).client.link = none) ∧
    Course none s session.journal session.client.link session.node ∧
    ∀ made : σ → Nat, CountsLinks made →
      made session.node =
        made s + session.journal.releases.length + session.client.link.toList.length := by
  intro session
  have hlifecycle : Lifecycle session := Session.lifecycle_run h steps s
  have hcourse : Course none s session.journal session.client.link session.node := by
    have hrun := Session.course_run steps c s
    rwa [h.disconnected.1] at hrun
  refine ⟨hlifecycle.connected_iff, hlifecycle.not_connecting, fun text => ?_,
    fun step hopening e he => Step.link_of_failed hopening he, hcourse, fun made hmade => ?_⟩
  · rw [hlifecycle.failed_iff]
    constructor
    · rintro ⟨e, ⟨turn, hlast, hopening, hresult⟩, htext⟩
      exact ⟨turn, e, hlast, hopening, hresult, htext⟩
    · rintro ⟨turn, e, hlast, hopening, hresult, htext⟩
      exact ⟨e, ⟨turn, hlast, hopening, hresult⟩, htext⟩
  · simpa using hcourse.made_eq hmade

/-! ### A link that is lost for a failure -/

/-- A scripted node counts the links that it makes. -/
theorem ScriptedNode.countsLinks : CountsLinks ScriptedNode.links := by
  constructor
  · intro url node link h
    cases hd : (node.script.headD .none).error with
    | some e =>
      simp only [Node.dial, reply, hd] at h
      cases h
    | none =>
      simp only [Node.dial, reply, hd, accept] at h ⊢
      split at h
      · cases h
      · next halive => rw [if_neg halive]
  · rintro url node t (⟨e, h, rfl⟩ | rfl)
    · cases hd : (node.script.headD .none).error with
      | some e => simp only [Node.dial, reply, hd]
      | none =>
        simp only [Node.dial, reply, hd, accept] at h ⊢
        split at h
        · next hdead => rw [if_pos hdead]
        · cases h
    · rfl
  · rintro link request node t (rfl | rfl)
    · simp only [Node.ask, reply]
      split
      · rfl
      · cases request <;> first | rfl | (rename_i block; cases block <;> rfl)
    · rfl

/-- A node that makes a link once and then refuses to. -/
def capriciousNode : ScriptedNode :=
  { ScriptedNode.empty with
    script := [.none, ⟨0, false, some (.connection "ws://a:1" "connection refused")⟩] }

/-- A client that connects twice to such a node has neither link in the end. -/
theorem session_keeps_lifecycle_of_refusal :
    (Client.start (.endpoint "a:1") (.ofList [])).Fresh ∧
    let session := Session.run [.connect, .connect] (Client.start (.endpoint "a:1") (.ofList []))
      capriciousNode
    session.client.state =
      .failed (Error.connection "ws://a:1" "connection refused").message ∧
    session.node.links = 1 ∧ session.journal.releases = [⟨"ws://a:1", 0⟩] ∧
    session.client.link = none := by
  obtain ⟨-, -, hfailed, -, -, hmade⟩ :=
    session_keeps_lifecycle (.start (.endpoint "a:1") (.ofList [])) [.connect, .connect]
      capriciousNode
  have hstate := (hfailed _).mpr ⟨⟨.connect, .error _⟩, _, rfl, rfl, rfl, rfl⟩
  have hlinks := hmade ScriptedNode.links ScriptedNode.countsLinks
  exact ⟨.start _ _, hstate, hlinks, rfl, rfl⟩

end LedgerClient
