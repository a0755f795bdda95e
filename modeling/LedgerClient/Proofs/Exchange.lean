import LedgerClient.Exchange
import LedgerClient.Proofs.Result

/-!
# Laws of exchanges

How an exchange that consists of several steps ends, in terms of how its steps end, and what its
journal shows. A step that is late or fails is the last one; a step that succeeds leaves the rest
of the time to what follows.

`Answers` and `Signs` say of the node alone that it answers a request: the first within a time
limit, the second at once. A request is in the journal whether it is answered or not
(`journal_ask`).

A property that the steps of waiting for reports have, and that sequences keep, is a property of the
whole wait (`WaitingLaw.outcome`).
-/

namespace LedgerClient

variable {σ α β : Type}

/-! ### Views of a journal -/

namespace Journal

/-- The requests with the links they were made over, in order. -/
def calls (journal : Journal) : List (Link × Request) :=
  journal.filterMap fun
    | .asked link request => some (link, request)
    | _ => none

@[simp] theorem calls_append (j k : Journal) : (j ++ k).calls = j.calls ++ k.calls :=
  List.filterMap_append

@[simp] theorem calls_asked_cons (link : Link) (request : Request) (j : Journal) :
    Journal.calls (.asked link request :: j) = (link, request) :: j.calls := rfl

@[simp] theorem calls_noted_cons (notice : Notice) (j : Journal) :
    Journal.calls (.noted notice :: j) = j.calls := rfl

@[simp] theorem dials_append (j k : Journal) : (j ++ k).dials = j.dials ++ k.dials :=
  List.filterMap_append

@[simp] theorem dials_dialled_cons (url : String) (j : Journal) :
    Journal.dials (.dialled url :: j) = url :: j.dials := rfl

@[simp] theorem dials_noted_cons (notice : Notice) (j : Journal) :
    Journal.dials (.noted notice :: j) = j.dials := rfl

@[simp] theorem dials_reported_cons (state : LinkState) (j : Journal) :
    Journal.dials (.reported state :: j) = j.dials := rfl

@[simp] theorem reports_nil : Journal.reports [] = [] := rfl

@[simp] theorem reports_append (j k : Journal) : (j ++ k).reports = j.reports ++ k.reports :=
  List.filterMap_append

@[simp] theorem reports_reported_cons (state : LinkState) (j : Journal) :
    Journal.reports (.reported state :: j) = state :: j.reports := rfl

@[simp] theorem polls_append (j k : Journal) : (j ++ k).polls = j.polls + k.polls :=
  List.countP_append

@[simp] theorem isUnending_nil : isUnending [] = false := rfl

@[simp] theorem isUnending_append (j k : Journal) :
    (j ++ k).isUnending = (j.isUnending || k.isUnending) := List.any_append

@[simp] theorem isUnending_noted_cons (notice : Notice) (j : Journal) :
    isUnending (.noted notice :: j) = j.isUnending := rfl

@[simp] theorem isUnending_asked_cons (link : Link) (request : Request) (j : Journal) :
    isUnending (.asked link request :: j) = j.isUnending := rfl

@[simp] theorem isUnending_reported_cons (state : LinkState) (j : Journal) :
    isUnending (.reported state :: j) = j.isUnending := rfl

@[simp] theorem isUnending_polled_cons (j : Journal) :
    isUnending (.polled :: j) = j.isUnending := rfl

/-- Nothing was done but waiting for reports, be it for ever, and writing notices. -/
def Waits (journal : Journal) : Prop :=
  ∀ entry ∈ journal, entry = .polled ∨ entry = .unending ∨ ∃ notice, entry = .noted notice

theorem Waits.nil : Waits [] := fun _ hm => by cases hm

theorem Waits.noted (notices : List Notice) : Waits (notices.map .noted) := by
  intro entry hm
  obtain ⟨notice, -, rfl⟩ := List.mem_map.mp hm
  exact .inr (.inr ⟨notice, rfl⟩)

theorem Waits.calls {journal : Journal} (h : journal.Waits) : journal.calls = [] := by
  refine List.filterMap_eq_nil_iff.mpr fun entry hm => ?_
  obtain rfl | rfl | ⟨notice, rfl⟩ := h entry hm <;> rfl

theorem Waits.append {j k : Journal} (hj : j.Waits) (hk : k.Waits) : Waits (j ++ k) :=
  fun entry hm => (List.mem_append.mp hm).elim (hj entry) (hk entry)

end Journal

/-- Whether an entry belongs to talking with a node over a link. -/
def Entry.isTalk : Entry → Bool
  | .asked _ _ | .polled | .unending | .noted _ => true
  | .dialled _ | .released _ | .reported _ => false

namespace Journal

/-- Nothing was done but talking with the node over a link: no link was asked for or given up, and
no state was reported. -/
def Talks (journal : Journal) : Prop := ∀ entry ∈ journal, entry.isTalk = true

theorem Talks.append {j k : Journal} (hj : j.Talks) (hk : k.Talks) : Talks (j ++ k) :=
  fun entry hm => (List.mem_append.mp hm).elim (hj entry) (hk entry)

theorem Talks.dials {journal : Journal} (h : journal.Talks) : journal.dials = [] := by
  refine List.filterMap_eq_nil_iff.mpr fun entry hm => ?_
  have hentry := h entry hm
  cases entry <;> first | rfl | cases hentry

theorem Talks.reports {journal : Journal} (h : journal.Talks) : journal.reports = [] := by
  refine List.filterMap_eq_nil_iff.mpr fun entry hm => ?_
  have hentry := h entry hm
  cases entry <;> first | rfl | cases hentry

theorem Waits.talks {journal : Journal} (h : journal.Waits) : journal.Talks := by
  intro entry hm
  obtain rfl | rfl | ⟨notice, rfl⟩ := h entry hm <;> rfl

end Journal

/-! ### Steps in sequence -/

/-- What an exchange gives when some time passed and some entries were made before it. -/
def Talk.behind (elapsed : Millis) (journal : Journal) (talk : Talk σ α) : Talk σ α :=
  ⟨talk.result, elapsed + talk.elapsed, talk.node, journal ++ talk.journal⟩

@[simp] theorem Talk.behind_behind (d d' : Millis) (j j' : Journal) (talk : Talk σ α) :
    (talk.behind d j).behind d' j' = talk.behind (d' + d) (j' ++ j) := by
  simp only [behind, Nat.add_assoc, List.append_assoc]

/-- What an exchange that succeeded gave, and the state it left the node in. -/
def Talk.success? (talk : Talk σ α) : Option (α × σ) :=
  match talk.result with
  | some (.ok a) => some (a, talk.node)
  | _ => none

@[simp] theorem Talk.success?_behind (d : Millis) (j : Journal) (talk : Talk σ α) :
    (talk.behind d j).success? = talk.success? := rfl

theorem Talk.success?_eq_some_iff {talk : Talk σ α} {a : α} {s : σ} :
    talk.success? = some (a, s) ↔ talk.result = some (.ok a) ∧ talk.node = s := by
  rw [success?]
  match talk.result with
  | none => simp
  | some (.error e) => simp
  | some (.ok b) => simp

namespace Exchange

/-- After a step that ran out of time there is nothing. -/
theorem bind_late {x : Exchange σ α} (f : α → Exchange σ β) {limit : Millis} {s : σ}
    (h : (x limit s).result = none) :
    (x >>= f) limit s = ⟨none, (x limit s).elapsed, (x limit s).node, (x limit s).journal⟩ := by
  simp only [bind, andThen, h]

/-- After a step that failed there is nothing. -/
theorem bind_error {x : Exchange σ α} (f : α → Exchange σ β) {limit : Millis} {s : σ} {e : Error}
    (h : (x limit s).result = some (.error e)) :
    (x >>= f) limit s =
      ⟨some (.error e), (x limit s).elapsed, (x limit s).node, (x limit s).journal⟩ := by
  simp only [bind, andThen, h]

/-- After a step that succeeded comes the next one, in the time that is left. -/
theorem bind_ok {x : Exchange σ α} (f : α → Exchange σ β) {limit : Millis} {s : σ} {a : α}
    (h : (x limit s).result = some (.ok a)) :
    (x >>= f) limit s =
      (f a (limit - (x limit s).elapsed) (x limit s).node).behind
        (x limit s).elapsed (x limit s).journal := by
  simp only [bind, andThen, h, Talk.behind]

theorem record_bind (entry : Entry) (f : Unit → Exchange σ β) (limit : Millis) (s : σ) :
    (record entry >>= f) limit s = (f () limit s).behind 0 [entry] :=
  bind_ok f rfl

theorem note_bind (notice : Notice) (f : Unit → Exchange σ β) (limit : Millis) (s : σ) :
    (note notice >>= f) limit s = (f () limit s).behind 0 [.noted notice] :=
  bind_ok f rfl

/-- A wait that the limit allows. -/
theorem wait_bind {delay limit : Millis} (h : delay ≤ limit) (f : Unit → Exchange σ β) (s : σ) :
    (wait delay >>= f) limit s = (f () (limit - delay) s).behind delay [] := by
  have hw : wait delay limit s = ⟨some (.ok ()), delay, s, []⟩ := by rw [wait, if_pos h]
  rw [bind_ok f (a := ()) (by rw [hw]), hw]

/-- A wait that the limit cuts off. -/
theorem wait_bind_late {delay limit : Millis} (h : limit < delay) (f : Unit → Exchange σ β) (s : σ) :
    (wait delay >>= f) limit s = ⟨none, limit, s, []⟩ := by
  have hw : wait delay limit s = (⟨none, limit, s, []⟩ : Talk σ Unit) := by
    rw [wait, if_neg (Nat.not_le.mpr h)]
  rw [bind_late f (by rw [hw]), hw]

/-- A step that succeeds passes on what it gave and the state of the node. -/
theorem bind_of_success {x : Exchange σ α} (f : α → Exchange σ β) {limit : Millis} {s t : σ} {a : α}
    (h : (x limit s).success? = some (a, t)) :
    (x >>= f) limit s =
      (f a (limit - (x limit s).elapsed) t).behind (x limit s).elapsed (x limit s).journal := by
  obtain ⟨hr, rfl⟩ := Talk.success?_eq_some_iff.mp h
  exact bind_ok f hr

/-- After a step that does not succeed there is nothing, be it late or failed. -/
theorem bind_of_no_success {x : Exchange σ α} (f : α → Exchange σ β) {limit : Millis} {s : σ}
    (h : (x limit s).success? = none) :
    ((x >>= f) limit s).success? = none ∧
      ((x >>= f) limit s).journal = (x limit s).journal := by
  match hr : (x limit s).result with
  | none =>
    rw [bind_late f hr]
    exact ⟨rfl, rfl⟩
  | some (.error e) =>
    rw [bind_error f hr]
    exact ⟨rfl, rfl⟩
  | some (.ok a) =>
    rw [Talk.success?_eq_some_iff.mpr ⟨hr, rfl⟩] at h
    cases h

/-! ### Asking -/

/-- A reply that comes in time. -/
theorem await_of_delay {entry : Entry} {reply : σ → Reply σ α} {limit delay : Millis} {s : σ}
    (hd : (reply s).delay = some delay) (hl : delay ≤ limit) :
    await entry reply limit s =
      ⟨some (reply s).result, delay, (reply s).answered, [entry]⟩ := by
  simp only [await, hd, if_pos hl]

/-- A reply that does not come in time. -/
theorem await_of_late {entry : Entry} {reply : σ → Reply σ α} {limit : Millis} {s : σ}
    (h : ∀ delay, (reply s).delay = some delay → limit < delay) :
    await entry reply limit s = ⟨none, limit, (reply s).abandoned, [entry]⟩ := by
  simp only [await]
  split
  · next delay hd => rw [if_neg (Nat.not_le.mpr (h delay hd))]
  · rfl

variable [Node σ]

/-- The node answers a request over a link with `a` within a time limit, and is then in state
`s'`. -/
def Answers (link : Link) (limit : Millis) (request : Request) (s : σ) (a : request.Answer)
    (s' : σ) : Prop :=
  (∃ delay, (Node.ask link request s).delay = some delay ∧ delay ≤ limit) ∧
    (Node.ask link request s).result = .ok a ∧ (Node.ask link request s).answered = s'

/-- A call is signed with a nonce, which gives `encoded` and leaves the node in state `s'`. -/
def Signs (link : Link) (call : Call) (key : SigningKey) (nonce : UInt64) (s : σ)
    (encoded : Bytes) (s' : σ) : Prop :=
  (Node.ask link (.sign call key nonce) s).result = .ok encoded ∧
    (Node.ask link (.sign call key nonce) s).answered = s'

/-- A request that is answered in time. -/
theorem ask_of_delay {link : Link} {request : Request} {limit delay : Millis} {s : σ}
    (hd : (Node.ask link request s).delay = some delay) (hl : delay ≤ limit) :
    ask link request limit s =
      ⟨some (Node.ask link request s).result, delay, (Node.ask link request s).answered,
        [.asked link request]⟩ := await_of_delay hd hl

/-- A request that is not answered in time. -/
theorem ask_of_late {link : Link} {request : Request} {limit : Millis} {s : σ}
    (h : ∀ delay, (Node.ask link request s).delay = some delay → limit < delay) :
    ask link request limit s =
      ⟨none, limit, (Node.ask link request s).abandoned, [.asked link request]⟩ := await_of_late h

theorem journal_ask (link : Link) (request : Request) (limit : Millis) (s : σ) :
    (ask link request limit s).journal = [.asked link request] := by
  simp only [ask, await]
  split
  · split <;> rfl
  · rfl

/-- Asking succeeds when the node answers, and only then. -/
theorem answers_iff {link : Link} {request : Request} {limit : Millis} {s s' : σ}
    {a : request.Answer} :
    Answers link limit request s a s' ↔ (ask link request limit s).success? = some (a, s') := by
  rw [Talk.success?_eq_some_iff]
  simp only [Answers, ask, await]
  cases hd : (Node.ask link request s).delay with
  | none => simp
  | some delay => by_cases hl : delay ≤ limit <;> simp [hl]

theorem signs_iff {link : Link} {call : Call} {key : SigningKey} {nonce : UInt64} {limit : Millis}
    {s s' : σ} {encoded : Bytes} :
    Signs link call key nonce s encoded s' ↔
      (askLocal link (.sign call key nonce) limit s).success? = some (encoded, s') := by
  rw [Talk.success?_eq_some_iff]
  simp [Signs, askLocal, compute]

end Exchange

/-! ### Waiting for reports -/

/-- A property of exchanges that the steps of waiting for reports have, that exchanges in sequence
have if their parts do, and that only depends on what an exchange does within each limit. -/
structure WaitingLaw (P : (α : Type) → Exchange σ α → Prop) : Prop where
  /-- The wait is over. -/
  finish : ∀ result, P Outcome (.finish result)
  /-- Nothing comes any more. -/
  silence : P Outcome .silence
  /-- The reports never end. -/
  unending : P Outcome .unending
  /-- Some time passes before a report. -/
  wait : ∀ delay, P Unit (.wait delay)
  /-- A report is asked for. -/
  polled : P Unit (.record .polled)
  /-- The extrinsic is in the pool. -/
  inPool : ∀ x, P Unit (.note (.inPool x))
  /-- The extrinsic is in a block that does not decide. -/
  inBlock : ∀ x block, P Unit (.note (.inBlock x block))
  /-- One step, then another. -/
  bind : ∀ {α β} {x : Exchange σ α} {f : α → Exchange σ β}, P α x → (∀ a, P β (f a)) → P β (x >>= f)
  /-- The bound on the number of reports is another one for each limit. -/
  limits : ∀ {α} {x : Exchange σ α}, (∀ limit, ∃ y, P α y ∧ x limit = y limit) → P α x

namespace WaitingLaw

variable {P : (α : Type) → Exchange σ α → Prop}

theorem follow (h : WaitingLaw P) (arrival : Nat → Arrival) (policy : Policy) (x : Hash)
    (bound position : Nat) : P Outcome (Arrival.follow arrival policy x bound position) := by
  induction bound generalizing position with
  | zero => exact h.unending
  | succ bound ih =>
    rw [Arrival.follow]
    refine h.bind h.polled fun _ => ?_
    cases arrival position with
    | never => exact h.silence
    | after delay report =>
      refine h.bind (h.wait delay) fun _ => ?_
      cases verdict policy x report with
      | decided result => exact h.finish result
      | stillInPool => exact h.bind (h.inPool x) fun _ => ih (position + 1)
      | stillInBlock block => exact h.bind (h.inBlock x block) fun _ => ih (position + 1)

/-- Waiting for the reports of a watch has the property. -/
theorem outcome (h : WaitingLaw P) (w : Watch) (policy : Policy) (x : Hash) :
    P Outcome (w.outcome policy x) := by
  refine h.limits fun limit =>
    ⟨Arrival.outcome w.arrival policy x (w.horizon limit), ?_, rfl⟩
  rw [Arrival.outcome]
  split
  · exact h.finish _
  · exact h.follow w.arrival policy x (w.horizon limit) 0

end WaitingLaw

end LedgerClient
