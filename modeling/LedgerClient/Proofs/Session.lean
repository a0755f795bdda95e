import LedgerClient.Proofs.Failover

/-!
# Sessions

Everything that can be done with a client, one thing after the other: making and giving up the link,
operations, changes of its settings, and what its subscriber does. What holds between any two of them
is proved by induction on the list of steps.

## The model

A `Step` is one thing that is done with a client, and `Session.run` does a list of them. A session
keeps what came of each step, client and node as they are afterwards, and the journal of them all.
The node is the same all the time, also when the client's link leads to another address.

## What is proved

* `Step.orderly_run`, `Session.course_run`: every step is orderly, and so is every session.
* `Session.run_induction`: what holds at first and is kept by each step holds after every session.
-/

namespace LedgerClient

variable {σ : Type}

/-! ### Steps -/

/-- A setting of a client, which may be changed at any time. -/
inductive Setting where
  /-- The addresses of the networks. -/
  | catalog (catalog : Catalog)
  /-- The random words. -/
  | words (words : WordSource)
  /-- The channel on which the states are published. -/
  | channel (channel : Channel)
  /-- The time limit of one connection attempt. -/
  | connectTimeout (limit : Millis)
  /-- The time limit of one read. -/
  | queryTimeout (limit : Millis)
  /-- The time limit of one submission. -/
  | submissionTimeout (limit : Millis)

/-- The client with a setting. -/
def Client.adjusted (c : Client) : Setting → Client
  | .catalog catalog => { c with catalog := catalog }
  | .words words => c.withWords words
  | .channel channel => { c with channel := some channel }
  | .connectTimeout limit => { c with connectTimeout := limit }
  | .queryTimeout limit => { c with queryTimeout := limit }
  | .submissionTimeout limit => { c with submissionTimeout := limit }

/-- Turns the client into another one, and does nothing else. -/
def Action.become (f : Client → Client) : Action σ Unit := fun c s => ⟨.ok (), f c, s, 0, []⟩

/-- One thing that is done with a client. -/
inductive Step where
  /-- Make a link. -/
  | connect
  /-- Give up the link and make a fresh one. -/
  | reconnect
  /-- Give up the link. -/
  | disconnect
  /-- Carry out an operation. -/
  | operate (op : Operation)
  /-- Change a setting. -/
  | adjust (setting : Setting)
  /-- The subscriber receives the states that wait. -/
  | receive
  /-- The subscriber goes away. -/
  | hangUp

namespace Step

/-- The type of what comes of a step. -/
abbrev Answer : Step → Type
  | operate op => op.Answer
  | _ => Unit

/-- Whether a step makes a link. -/
def isOpening : Step → Bool
  | connect | reconnect => true
  | _ => false

/-- Whether a step makes a link or gives it up on request. -/
def isLinking : Step → Bool
  | connect | reconnect | disconnect => true
  | _ => false

/-- The steps that may hand over an extrinsic. -/
def MaySubmit : Step → Prop
  | operate op => op.MaySubmit
  | _ => False

variable [Node σ]

/-- Takes a step. -/
def run : (step : Step) → Action σ step.Answer
  | connect => Client.connect
  | reconnect => Client.reconnect
  | disconnect => Client.disconnect
  | operate op => op.run
  | adjust setting => .become fun c => c.adjusted setting
  | receive => .become Client.afterReceiving
  | hangUp => .become Client.withoutReceiver

end Step

/-! ### Sessions -/

/-- What came of a step. -/
structure Turn where
  /-- The step. -/
  step : Step
  /-- What came of it. -/
  result : Except Error step.Answer

/-- A client at work with a node. -/
structure Session (σ : Type) where
  /-- The steps taken so far. -/
  turns : List Turn
  /-- The client. -/
  client : Client
  /-- The state of the node. -/
  node : σ
  /-- What an observer saw so far. -/
  journal : Journal

namespace Session

/-- A session before the first step. -/
def start (c : Client) (s : σ) : Session σ := ⟨[], c, s, []⟩

/-- The last turn in which a link was to be made or given up. -/
def lastLinking? (session : Session σ) : Option Turn :=
  (session.turns.filter fun turn => turn.step.isLinking).getLast?

variable [Node σ]

/-- The session after another step. -/
def take (session : Session σ) (step : Step) : Session σ :=
  let ran := step.run session.client session.node
  ⟨session.turns ++ [⟨step, ran.result⟩], ran.client, ran.node, session.journal ++ ran.journal⟩

/-- The session in which these steps are taken. -/
def run (steps : List Step) (c : Client) (s : σ) : Session σ := steps.foldl take (start c s)

theorem run_append_singleton (steps : List Step) (step : Step) (c : Client) (s : σ) :
    run (steps ++ [step]) c s = (run steps c s).take step := by
  rw [run, run, List.foldl_append]
  rfl

/-- What holds at first and is kept by each of the steps holds afterwards. -/
theorem run_induction {motive : Session σ → Prop} {c : Client} {s : σ} {steps : List Step}
    (hstart : motive (start c s))
    (htake : ∀ session, ∀ step ∈ steps, motive session → motive (session.take step)) :
    motive (run steps c s) := by
  rw [run]
  generalize start c s = session at hstart
  induction steps generalizing session with
  | nil => exact hstart
  | cons step rest ih =>
    have hnext : motive (session.take step) := htake session step List.mem_cons_self hstart
    exact ih (fun next other hm => htake next other (List.mem_cons_of_mem _ hm)) _ hnext

theorem lastLinking?_take_of_linking {step : Step} (h : step.isLinking = true)
    (session : Session σ) :
    (session.take step).lastLinking? =
      some ⟨step, (step.run session.client session.node).result⟩ := by
  simp [lastLinking?, take, List.filter_append, h]

theorem lastLinking?_take_of_not_linking {step : Step} (h : step.isLinking = false)
    (session : Session σ) : (session.take step).lastLinking? = session.lastLinking? := by
  simp [lastLinking?, take, List.filter_append, h]

end Session

/-! ### All steps are orderly -/

namespace Client

open LedgerClient.Action

variable [Node σ]

theorem course_releaseEntries (c : Client) (s : σ) : Course c.link s c.releaseEntries none s := by
  rcases h : c.link with _ | link
  · simp only [releaseEntries, h]
    exact .done
  · simp only [releaseEntries, h]
    exact .released .done

theorem submits_releaseEntries {allowed : Prop} (c : Client) :
    c.releaseEntries.SubmitsOnlyIf allowed := by
  rw [releaseEntries]
  split <;> simp [Journal.SubmitsOnlyIf]

theorem course_farewell (c : Client) (s : σ) : Course c.link s c.farewell none s := by
  rcases h : c.link with _ | link
  · simp only [farewell, h]
    exact .reported _ .done
  · simp only [farewell, h]
    exact .released (.noted _ (.reported _ .done))

theorem submits_farewell {allowed : Prop} (c : Client) : c.farewell.SubmitsOnlyIf allowed := by
  rw [farewell]
  split <;> simp [Journal.SubmitsOnlyIf]

/-- Settling is a course from the link that was made, if any, to the live one. -/
theorem course_settlement {c : Client} (h : c.link = none) (result : Except Error Link) (s : σ) :
    Course result.toOption s (c.settlement result) (c.settled result).link s := by
  cases result with
  | ok link => exact .noted _ (.reported _ .done)
  | error e =>
    have hlink : (c.settled (.error e)).link = none := h
    rw [hlink]
    exact .reported _ .done

theorem submits_settlement {allowed : Prop} (c : Client) (result : Except Error Link) :
    (c.settlement result).SubmitsOnlyIf allowed := by
  cases result <;> simp [settlement, Journal.SubmitsOnlyIf]

theorem orderly_connect : Orderly False (connect (σ := σ)) := by
  constructor
  · intro c s
    have hdial := dialling_dialTarget c.connecting s
    have hlink : (dialTarget c.connecting s).client.link = none := by
      obtain ⟨words, hclient⟩ := hdial.client_eq
      rw [hclient]
      rfl
    rw [connect_eq]
    refine (c.course_releaseEntries s).trans (.reported _ ?_)
    exact hdial.course.trans (course_settlement hlink _ _)
  · intro c s
    have hdial := dialling_dialTarget c.connecting s
    have hreport : Journal.SubmitsOnlyIf False [.reported .connecting] := by
      simp [Journal.SubmitsOnlyIf]
    rw [connect_eq]
    refine c.submits_releaseEntries.append (hreport.append ?_)
    exact hdial.submits.append (submits_settlement _ _)

theorem orderly_disconnect : Orderly False (disconnect (σ := σ)) := by
  constructor
  · intro c s
    rw [disconnect_eq]
    exact c.course_farewell s
  · intro c s
    rw [disconnect_eq]
    exact c.submits_farewell

end Client

variable [Node σ]

theorem Action.orderly_become {f : Client → Client} (h : ∀ c, (f c).link = c.link) :
    Orderly False (become (σ := σ) f) := by
  refine ⟨fun c s => ?_, fun c s _ _ hm => by cases hm⟩
  rw [become, h c]
  exact .done

/-- Every step is orderly. -/
theorem Step.orderly_run (step : Step) : Action.Orderly step.MaySubmit (step.run (σ := σ)) := by
  cases step with
  | connect => exact Client.orderly_connect
  | reconnect => exact Client.orderly_disconnect.bind fun _ => Client.orderly_connect
  | disconnect => exact Client.orderly_disconnect
  | operate op => exact op.orderly_run
  | adjust setting => exact Action.orderly_become fun c => by cases setting <;> rfl
  | receive => exact Action.orderly_become fun c => rfl
  | hangUp => exact Action.orderly_become fun c => rfl

/-- Every session is a course. -/
theorem Session.course_run (steps : List Step) (c : Client) (s : σ) :
    Course c.link s (run steps c s).journal (run steps c s).client.link (run steps c s).node := by
  refine run_induction (motive := fun session =>
    Course c.link s session.journal session.client.link session.node) .done ?_
  intro session step _ hsession
  exact hsession.trans (step.orderly_run.course _ _)

end LedgerClient
