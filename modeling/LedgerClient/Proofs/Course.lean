import LedgerClient.Proofs.Composition

/-!
# The course of links and node

What an observer sees of a client accounts for all that happens to the node and to the links: the
node changes only by the calls in the journal, a link is asked for only when there is none, requests
go over the live link alone, and what is given up is the live link.

## The model

`Course live s journal live' t` reads a journal entry by entry. It starts with the node in state `s`
and the link `live`, if any, and ends with `t` and `live'`. A call leads to one of the two states
that the node's reply has, as it was answered or given up. A link that a node makes is live from then
on, so that there is never more than one.

`Exchange.Orderly` and `Action.Orderly` say of an exchange and of an action that its journal is such a
course. They also say when an extrinsic may be handed over. Both are closed under sequence, and an
action on a budget without submissions hands over nothing (`Action.Orderly.budgeted`).

## What is proved

* `Operation.orderly_run`: every operation is orderly, and only some hand over extrinsics.
-/

namespace LedgerClient

variable {σ α β : Type}

/-! ### Journals as courses -/

/-- Whether an entry tells of nothing that happens to links or node. -/
def Entry.isRemark : Entry → Bool
  | .polled | .unending | .reported _ | .noted _ => true
  | .dialled _ | .asked _ _ | .released _ => false

/-- Extrinsics are handed over only if `allowed` holds. -/
def Journal.SubmitsOnlyIf (allowed : Prop) (journal : Journal) : Prop :=
  ∀ link encoded, .asked link (.submit encoded) ∈ journal → allowed

theorem Journal.SubmitsOnlyIf.append {allowed : Prop} {j k : Journal}
    (hj : j.SubmitsOnlyIf allowed) (hk : k.SubmitsOnlyIf allowed) :
    Journal.SubmitsOnlyIf allowed (j ++ k) :=
  fun link encoded hm => (List.mem_append.mp hm).elim (hj link encoded) (hk link encoded)

theorem Journal.SubmitsOnlyIf.of_cons {allowed : Prop} {entry : Entry} {journal : Journal}
    (h : Journal.SubmitsOnlyIf allowed (entry :: journal)) : journal.SubmitsOnlyIf allowed :=
  fun link encoded hm => h link encoded (List.mem_cons_of_mem _ hm)

/-- Waiting hands over nothing. -/
theorem Journal.Waits.submits {journal : Journal} (h : journal.Waits) :
    journal.SubmitsOnlyIf False := by
  intro link encoded hm
  rcases h _ hm with he | he | ⟨notice, he⟩ <;> cases he

/-- The links that were given up, in order. -/
def Journal.releases (journal : Journal) : List Link :=
  journal.filterMap fun
    | .released link => some link
    | _ => none

section Course

variable [Node σ]

/-- The node makes no link to a websocket address, or makes one too late, and is then in state
`t`. -/
def Declines (url : String) (s t : σ) : Prop :=
  (∃ e, (Node.dial url s).result = .error e ∧ (Node.dial url s).answered = t) ∨
    (Node.dial url s).abandoned = t

/-- A request over a link is answered or given up, and the node is then in state `t`. -/
def Handles (link : Link) (request : Request) (s t : σ) : Prop :=
  (Node.ask link request s).answered = t ∨ (Node.ask link request s).abandoned = t

/-- `Course live s journal live' t`: with this journal the node goes from state `s` to `t`, and the
live link from `live` to `live'`. -/
inductive Course : Option Link → σ → Journal → Option Link → σ → Prop where
  /-- Nothing happens. -/
  | done {live : Option Link} {s : σ} : Course live s [] live s
  /-- An entry that tells of nothing. -/
  | remark {live live' : Option Link} {s t : σ} {entry : Entry} {journal : Journal} :
      entry.isRemark → Course live s journal live' t → Course live s (entry :: journal) live' t
  /-- A link is asked for, without success. -/
  | declined {live : Option Link} {s t u : σ} {url : String} {journal : Journal} :
      Declines url s t → Course none t journal live u →
      Course none s (.dialled url :: journal) live u
  /-- A link is asked for and made. -/
  | made {live : Option Link} {s t : σ} {url : String} {link : Link} {journal : Journal} :
      (Node.dial url s).result = .ok link →
      Course (some link) (Node.dial url s).answered journal live t →
      Course none s (.dialled url :: journal) live t
  /-- A request is made over the live link. -/
  | asked {live : Option Link} {s t u : σ} {link : Link} {request : Request} {journal : Journal} :
      Handles link request s t → Course (some link) t journal live u →
      Course (some link) s (.asked link request :: journal) live u
  /-- The live link is given up. -/
  | released {live : Option Link} {s t : σ} {link : Link} {journal : Journal} :
      Course none s journal live t → Course (some link) s (.released link :: journal) live t

namespace Course

variable {live live' live'' : Option Link} {s t u : σ} {j k : Journal}

theorem trans (hj : Course live s j live' t) (hk : Course live' t k live'' u) :
    Course live s (j ++ k) live'' u := by
  induction hj with
  | done => exact hk
  | remark he _ ih => exact .remark he (ih hk)
  | declined hd _ ih => exact .declined hd (ih hk)
  | made hr _ ih => exact .made hr (ih hk)
  | asked ha _ ih => exact .asked ha (ih hk)
  | released _ ih => exact .released (ih hk)

theorem noted (notice : Notice) (h : Course live s j live' t) :
    Course live s (.noted notice :: j) live' t := .remark rfl h

theorem reported (state : LinkState) (h : Course live s j live' t) :
    Course live s (.reported state :: j) live' t := .remark rfl h

end Course

/-- `made` counts the links that a node has made. A link counts only if it was waited for. -/
structure CountsLinks (made : σ → Nat) : Prop where
  /-- A link that is made counts. -/
  of_made : ∀ {url s link}, (Node.dial url s).result = .ok link →
    made (Node.dial url s).answered = made s + 1
  /-- Nothing counts when none is made. -/
  of_declined : ∀ {url s t}, Declines url s t → made t = made s
  /-- Requests make no links. -/
  of_handled : ∀ {link request s t}, Handles link request s t → made t = made s

/-- All links that are made in a course are given up in it, except for the one that is live in the
end. -/
theorem Course.made_eq {made : σ → Nat} (hmade : CountsLinks made) {live live' : Option Link}
    {s t : σ} {journal : Journal} (h : Course live s journal live' t) :
    made t + live.toList.length = made s + journal.releases.length + live'.toList.length := by
  induction h with
  | done => rfl
  | @remark _ _ _ _ entry journal he _ ih =>
    have hreleases : Journal.releases (entry :: journal) = journal.releases := by
      cases entry <;> first | rfl | cases he
    rw [hreleases]
    exact ih
  | declined hd _ ih =>
    rw [← hmade.of_declined hd]
    exact ih
  | made hr _ ih =>
    have hcount := hmade.of_made hr
    simp only [Option.toList_some, Option.toList_none, List.length_singleton, List.length_nil,
      Journal.releases, List.filterMap_cons] at ih ⊢
    omega
  | asked ha _ ih =>
    rw [← hmade.of_handled ha]
    exact ih
  | released _ ih =>
    simp only [Option.toList_some, Option.toList_none, List.length_nil, Journal.releases,
      List.filterMap_cons, List.length_cons] at ih ⊢
    omega

/-! ### Exchanges -/

namespace Exchange

/-- An exchange over a link asks over this link alone, accounts for all that happens to the node, and
hands over extrinsics only if `allowed` holds. -/
structure Orderly (link : Link) (allowed : Prop) (x : Exchange σ α) : Prop where
  /-- The journal is a course. -/
  course : ∀ limit s, Course (some link) s (x limit s).journal (some link) (x limit s).node
  /-- The condition for handing over extrinsics. -/
  submits : ∀ limit s, (x limit s).journal.SubmitsOnlyIf allowed

namespace Orderly

variable {link : Link} {allowed : Prop}

theorem finish (result : Except Error α) : Orderly link allowed (Exchange.finish (σ := σ) result) :=
  ⟨fun _ _ => .done, fun _ _ _ _ hm => by cases hm⟩

/-- A remark hands over nothing. -/
theorem submits_remark {entry : Entry} (h : entry.isRemark) :
    Journal.SubmitsOnlyIf allowed [entry] := by
  intro link encoded hm
  rw [← List.mem_singleton.mp hm] at h
  cases h

/-- An exchange that asks for nothing and makes no entry but a remark. -/
theorem record {entry : Entry} (h : entry.isRemark) :
    Orderly link allowed (Exchange.record (σ := σ) entry) :=
  ⟨fun _ _ => .remark h .done, fun _ _ => submits_remark h⟩

theorem note (notice : Notice) : Orderly link allowed (Exchange.note (σ := σ) notice) := record rfl

theorem wait (delay : Millis) : Orderly link allowed (Exchange.wait (σ := σ) delay) := by
  constructor
  · intro limit s
    rw [Exchange.wait]
    split <;> exact .done
  · intro limit s link encoded hm
    rw [Exchange.wait] at hm
    split at hm <;> cases hm

theorem silence : Orderly link allowed (Exchange.silence : Exchange σ α) :=
  ⟨fun _ _ => .done, fun _ _ _ _ hm => by cases hm⟩

theorem unending : Orderly link allowed (Exchange.unending : Exchange σ α) :=
  ⟨fun _ _ => .remark rfl .done, fun _ _ => submits_remark rfl⟩

theorem bind {x : Exchange σ α} {f : α → Exchange σ β} (hx : Orderly link allowed x)
    (hf : ∀ a, Orderly link allowed (f a)) : Orderly link allowed (x >>= f) := by
  constructor
  · intro limit s
    rcases h : (x limit s).result with _ | e | a
    · rw [bind_late f h]
      exact hx.course limit s
    · rw [bind_error f h]
      exact hx.course limit s
    · rw [bind_ok f h]
      exact (hx.course limit s).trans ((hf a).course _ _)
  · intro limit s
    rcases h : (x limit s).result with _ | e | a
    · rw [bind_late f h]
      exact hx.submits limit s
    · rw [bind_error f h]
      exact hx.submits limit s
    · rw [bind_ok f h]
      exact (hx.submits limit s).append ((hf a).submits _ _)

/-- The one entry of a request. -/
theorem submits_asked {request : Request} (h : ∀ encoded, request = .submit encoded → allowed) :
    Journal.SubmitsOnlyIf allowed [.asked link request] := by
  intro link' encoded hm
  rw [List.mem_singleton, Entry.asked.injEq] at hm
  exact h encoded hm.2.symm

theorem ask {request : Request} (h : ∀ encoded, request = .submit encoded → allowed) :
    Orderly link allowed (Exchange.ask (σ := σ) link request) := by
  constructor
  · intro limit s
    simp only [Exchange.ask, await]
    split
    · split
      · exact .asked (.inl rfl) .done
      · exact .asked (.inr rfl) .done
    · exact .asked (.inr rfl) .done
  · intro limit s
    rw [journal_ask]
    exact submits_asked h

theorem askLocal {request : Request} (h : ∀ encoded, request = .submit encoded → allowed) :
    Orderly link allowed (Exchange.askLocal (σ := σ) link request) :=
  ⟨fun _ _ => .asked (.inl rfl) .done, fun _ _ => submits_asked h⟩

/-- Waiting for reports asks nothing more of the node. -/
theorem waiting : WaitingLaw (σ := σ) fun _ x => Orderly link allowed x where
  finish := finish
  silence := silence
  unending := unending
  wait := wait
  polled := record rfl
  inPool _ := note _
  inBlock _ _ := note _
  bind := bind
  limits h := by
    constructor
    · intro limit s
      obtain ⟨y, hy, hxy⟩ := h limit
      rw [hxy]
      exact hy.course limit s
    · intro limit s
      obtain ⟨y, hy, hxy⟩ := h limit
      rw [hxy]
      exact hy.submits limit s

theorem build (call : Call) (key : SigningKey) :
    Orderly link allowed (Extrinsic.build (σ := σ) link call key) := by
  refine (ask fun _ h => by cases h).bind fun nonce => ?_
  refine (askLocal fun _ h => by cases h).bind fun encoded => ?_
  exact (note _).bind fun _ => finish _

theorem submit (x : Extrinsic) (policy : Policy) :
    Orderly link True (Extrinsic.submit (σ := σ) link x policy) :=
  (ask fun _ _ => trivial).bind fun w => waiting.outcome w policy x.hash

end Orderly

end Exchange

/-! ### Actions -/

/-- What an observer sees of a broken link being given up is a course. -/
theorem Client.course_aftermath (c : Client) (result : Except Error α) (s : σ) :
    Course c.link s (c.aftermath result) (c.after result).link s := by
  cases result with
  | ok a => exact .done
  | error e =>
    rcases h : c.link with _ | link
    · simp only [aftermath, h, after_of_none h]
      exact .done
    · rw [← h]
      by_cases ht : e.isTransport = true
      · simp only [aftermath, h, ht, if_true, after_error_of_transport ht, link_unlinked]
        exact .released (.noted _ (.reported _ .done))
      · rw [Bool.not_eq_true] at ht
        rw [aftermath_of_harmless c ht, after_error_of_harmless ht]
        exact .done

theorem Client.submits_aftermath {allowed : Prop} (c : Client) (result : Except Error α) :
    (c.aftermath result).SubmitsOnlyIf allowed := by
  intro link encoded hm
  unfold aftermath at hm
  repeat' split at hm
  all_goals simp at hm

namespace Action

/-- An action accounts for all that happens to links and node, and hands over extrinsics only if
`allowed` holds. -/
structure Orderly (allowed : Prop) (m : Action σ α) : Prop where
  /-- The journal is a course. -/
  course : ∀ c s, Course c.link s (m c s).journal (m c s).client.link (m c s).node
  /-- The condition for handing over extrinsics. -/
  submits : ∀ c s, (m c s).journal.SubmitsOnlyIf allowed

namespace Orderly

variable {allowed : Prop}

theorem finish (result : Except Error α) : Orderly allowed (Action.finish (σ := σ) result) :=
  ⟨fun _ _ => .done, fun _ _ _ _ hm => by cases hm⟩

theorem note (notice : Notice) : Orderly allowed (Action.note (σ := σ) notice) :=
  ⟨fun _ _ => .noted _ .done, fun _ _ _ _ hm => by cases List.mem_singleton.mp hm⟩

theorem outcome {m : Action σ α} (hm : Orderly allowed m) : Orderly allowed m.outcome :=
  ⟨hm.course, hm.submits⟩

/-- More may be allowed than is handed over. -/
theorem mono {allowed' : Prop} (h : allowed → allowed') {m : Action σ α} (hm : Orderly allowed m) :
    Orderly allowed' m :=
  ⟨hm.course, fun c s link encoded hmem => h (hm.submits c s link encoded hmem)⟩

theorem bind {m : Action σ α} {f : α → Action σ β} (hm : Orderly allowed m)
    (hf : ∀ a, Orderly allowed (f a)) : Orderly allowed (m >>= f) := by
  constructor
  · intro c s
    rcases h : (m c s).result with e | a
    · rw [bind_error f h]
      exact hm.course c s
    · rw [bind_ok f h]
      exact (hm.course c s).trans ((hf a).course _ _)
  · intro c s
    rcases h : (m c s).result with e | a
    · rw [bind_error f h]
      exact hm.submits c s
    · rw [bind_ok f h]
      exact (hm.submits c s).append ((hf a).submits _ _)

theorem reading {x : Link → Exchange σ α} (hx : ∀ link, Exchange.Orderly link allowed (x link)) :
    Orderly allowed (Action.reading x) := by
  constructor
  · intro c s
    rcases h : c.link with _ | link
    · rw [reading_of_none x h, h]
      exact .done
    · rw [reading_of_some x h]
      refine ((hx link).course _ s).trans ?_
      rw [← h]
      exact c.course_aftermath _ _
  · intro c s
    rcases h : c.link with _ | link
    · rw [reading_of_none x h]
      exact fun _ _ hm => by cases hm
    · rw [reading_of_some x h]
      exact ((hx link).submits _ s).append (c.submits_aftermath _)

theorem submit (x : Extrinsic) (policy : Policy) :
    Orderly True (Client.submit (σ := σ) x policy) := by
  refine ⟨fun c s => ?_, fun _ _ _ _ _ => trivial⟩
  rcases h : c.link with _ | link
  · rw [Client.submit_of_none x policy h, h]
    exact .done
  · rw [Client.submit_of_some x policy h]
    have hx : Exchange.Orderly link True (Extrinsic.submit (σ := σ) link x policy) :=
      .submit x policy
    refine .noted _ ((hx.course c.submissionTimeout s).trans (.noted _ ?_))
    rw [← h]
    exact c.course_aftermath _ _

theorem build (call : Call) (key : SigningKey) :
    Orderly allowed (Client.build (σ := σ) call key) := .reading fun _ => .build call key

/-- On a budget without submissions nothing is handed over. -/
theorem budgeted : Budgeted (σ := σ) (fun _ => True) fun _ n _ m => Orderly (0 < n) m where
  finish := finish
  note := note
  bind hm hf := (hm.mono fun h => Nat.add_pos_left h _).bind fun a =>
    (hf a).mono fun h => Nat.add_pos_right _ h
  outcome := outcome
  mono _ hn hm := hm.mono fun h => Nat.lt_of_lt_of_le h hn
  ask request h := .reading fun _ => .ask fun encoded he => by
    rw [he] at h
    cases h
  build := build
  submit x policy _ := (submit x policy).mono fun _ => Nat.one_pos

end Orderly

end Action

/-! ### Operations -/

/-- Looking up a registration hands over nothing. -/
theorem Client.orderly_registeredAs (wallet : Wallet) (ip : IpAddress) (port : UInt16) :
    Action.Orderly False (registeredAs (σ := σ) wallet ip port) :=
  (Action.Orderly.budgeted.lookupLaw.registeredAs wallet ip port).mono (Nat.lt_irrefl 0)

namespace Operation

/-- The operations that may hand over an extrinsic. -/
def MaySubmit : Operation → Prop
  | submit _ _ | write _ _ _ => True
  | _ => False

theorem maySubmit_of_submissions_pos {op : Operation} (h : 0 < op.submissions) : op.MaySubmit := by
  cases op with
  | submit x policy => trivial
  | write w wallet policy => trivial
  | _ => exact absurd h (Nat.lt_irrefl 0)

/-- Every operation is orderly, and only submissions and writes hand over extrinsics. -/
theorem orderly_run (op : Operation) : Action.Orderly op.MaySubmit (op.run (σ := σ)) :=
  (Action.Orderly.budgeted.operation op fun _ _ => trivial).mono maySubmit_of_submissions_pos

end Operation

end Course

end LedgerClient
