import LedgerClient.Client.Writing
import LedgerClient.Proofs.Exchange

/-!
# Laws of actions

How an action that consists of several steps ends, in terms of how its steps end, and what the
client is like after an exchange with the node.

An exchange changes a client in one way only: when its result is an error that means a broken
link, the link is given up (`Client.after`). The steps of doing so are in the journal behind those
of the exchange (`Client.aftermath`). `Action.reading_of_some` and `Client.submit_of_some` say what
the two kinds of exchanges, reads and submissions, do to client, node and journal when there is a
link, and `Action.reading_of_none` and `Client.submit_of_none` when there is none.
`Client.isSubscribed_eq` says that the check of a registration is a look-up of its uid.
-/

namespace LedgerClient

variable {σ α β γ : Type}

/-! ### Steps in sequence -/

/-- What an action gives when some time passed and some entries were made before it. -/
def Ran.behind (elapsed : Millis) (journal : Journal) (ran : Ran σ α) : Ran σ α :=
  ⟨ran.result, ran.client, ran.node, elapsed + ran.elapsed, journal ++ ran.journal⟩

@[simp] theorem Ran.behind_behind (d d' : Millis) (j j' : Journal) (ran : Ran σ α) :
    (ran.behind d j).behind d' j' = ran.behind (d' + d) (j' ++ j) := by
  simp only [behind, Nat.add_assoc, List.append_assoc]

/-- What an action that succeeded gave, and the state it left the node in. -/
def Ran.success? (ran : Ran σ α) : Option (α × σ) :=
  match ran.result with
  | .ok a => some (a, ran.node)
  | .error _ => none

@[simp] theorem Ran.success?_behind (d : Millis) (j : Journal) (ran : Ran σ α) :
    (ran.behind d j).success? = ran.success? := rfl

@[simp] theorem Ran.calls_behind (d : Millis) (j : Journal) (ran : Ran σ α) :
    (ran.behind d j).journal.calls = j.calls ++ ran.journal.calls := Journal.calls_append j _

@[simp] theorem Ran.returns_behind_iff (d : Millis) (j : Journal) (ran : Ran σ α) :
    (ran.behind d j).Returns ↔ j.isUnending = false ∧ ran.Returns := by
  rw [Returns, behind, Journal.isUnending_append, Bool.or_eq_false_iff]
  exact Iff.rfl

theorem Ran.success?_eq_some_iff {ran : Ran σ α} {a : α} {s : σ} :
    ran.success? = some (a, s) ↔ ran.result = .ok a ∧ ran.node = s := by
  rw [success?]
  match ran.result with
  | .ok b => simp
  | .error e => simp

theorem Ran.result_eq_ok_iff {ran : Ran σ α} {a : α} :
    ran.result = .ok a ↔ ∃ t, ran.success? = some (a, t) := by
  constructor
  · intro h
    exact ⟨ran.node, success?_eq_some_iff.mpr ⟨h, rfl⟩⟩
  · rintro ⟨t, h⟩
    exact (success?_eq_some_iff.mp h).1

namespace Action

/-- After a step that failed there is nothing. -/
theorem bind_error {m : Action σ α} (f : α → Action σ β) {c : Client} {s : σ} {e : Error}
    (h : (m c s).result = .error e) :
    (m >>= f) c s =
      ⟨.error e, (m c s).client, (m c s).node, (m c s).elapsed, (m c s).journal⟩ := by
  simp only [bind, andThen, h]

/-- After a step that succeeded comes the next one. -/
theorem bind_ok {m : Action σ α} (f : α → Action σ β) {c : Client} {s : σ} {a : α}
    (h : (m c s).result = .ok a) :
    (m >>= f) c s =
      (f a (m c s).client (m c s).node).behind (m c s).elapsed (m c s).journal := by
  simp only [bind, andThen, h, Ran.behind]

/-- A step that succeeds passes on what it gave and the state of the node. -/
theorem bind_of_success {m : Action σ α} (f : α → Action σ β) {c : Client} {s t : σ} {a : α}
    (h : (m c s).success? = some (a, t)) :
    (m >>= f) c s = (f a (m c s).client t).behind (m c s).elapsed (m c s).journal := by
  obtain ⟨hr, rfl⟩ := Ran.success?_eq_some_iff.mp h
  exact bind_ok f hr

/-- After a step that does not succeed there is nothing. -/
theorem bind_of_no_success {m : Action σ α} (f : α → Action σ β) {c : Client} {s : σ}
    (h : (m c s).success? = none) :
    ((m >>= f) c s).success? = none ∧ ((m >>= f) c s).journal = (m c s).journal := by
  match hr : (m c s).result with
  | .error e =>
    rw [bind_error f hr]
    exact ⟨rfl, rfl⟩
  | .ok a =>
    rw [Ran.success?_eq_some_iff.mpr ⟨hr, rfl⟩] at h
    cases h

/-- A sequence succeeds when its first step does, and then the rest. -/
theorem success?_bind_iff {m : Action σ α} {f : α → Action σ β} {c : Client} {s t : σ} {b : β} :
    ((m >>= f) c s).success? = some (b, t) ↔
      ∃ a u, (m c s).success? = some (a, u) ∧ (f a (m c s).client u).success? = some (b, t) := by
  rcases h : (m c s).success? with _ | ⟨a, u⟩
  · simp [(bind_of_no_success f h).1]
  · rw [bind_of_success f h, Ran.success?_behind]
    constructor
    · intro hb
      exact ⟨a, u, rfl, hb⟩
    · rintro ⟨_, _, ha, hb⟩
      cases ha
      exact hb

/-- A step of which everything is known, and that succeeds. -/
theorem bind_of_eq_ok {m : Action σ α} (f : α → Action σ β) {c c' : Client} {s t : σ} {a : α}
    {d : Millis} {j : Journal} (h : m c s = ⟨.ok a, c', t, d, j⟩) :
    (m >>= f) c s = (f a c' t).behind d j := by
  rw [bind_ok f (a := a) (by rw [h]), h]

theorem note_bind (notice : Notice) (f : Unit → Action σ β) (c : Client) (s : σ) :
    (note notice >>= f) c s = (f () c s).behind 0 [.noted notice] :=
  bind_ok f rfl

/-- The result of an action goes on as a value, also when it is an error. -/
theorem outcome_bind (m : Action σ α) (f : Except Error α → Action σ β) (c : Client) (s : σ) :
    (m.outcome >>= f) c s =
      (f (m c s).result (m c s).client (m c s).node).behind (m c s).elapsed (m c s).journal :=
  bind_ok f rfl

theorem outcome_bind_of_ok {m : Action σ α} {f : Except Error α → Action σ β} {c : Client} {s : σ}
    {a : α} (h : (m c s).result = .ok a) :
    (m.outcome >>= f) c s = (m >>= fun a => f (.ok a)) c s := by
  rw [outcome_bind, h, bind_ok _ h]

/-- An error that is reported and passed on. -/
theorem outcome_bind_of_error {m : Action σ α} {f : Except Error α → Action σ β} {c : Client}
    {s : σ} {e : Error} {notice : Notice}
    (hf : f (.error e) = note notice >>= fun _ => finish (.error e))
    (h : (m c s).result = .error e) :
    (m.outcome >>= f) c s =
      ⟨.error e, (m c s).client, (m c s).node, (m c s).elapsed,
        (m c s).journal ++ [.noted notice]⟩ := by
  rw [outcome_bind, h, hf, note_bind]
  rfl

theorem finish_ok_bind (a : α) (f : α → Action σ β) : (finish (.ok a) >>= f) = f a := by
  funext c s
  rw [bind_ok f (a := a) rfl]
  simp [Ran.behind, finish]

theorem finish_error_bind (e : Error) (f : α → Action σ β) :
    (finish (.error e) >>= f) = finish (.error e) := by
  funext c s
  rw [bind_error f (e := e) rfl]
  rfl

/-- How steps in sequence are grouped makes no difference. -/
theorem bind_assoc (m : Action σ α) (f : α → Action σ β) (g : β → Action σ γ) :
    m >>= f >>= g = m >>= fun a => f a >>= g := by
  funext c s
  cases h : (m c s).result with
  | error e => rw [bind_error _ h, bind_error g (by rw [bind_error f h]), bind_error f h]
  | ok a =>
    rw [bind_ok _ h]
    cases hf : (f a (m c s).client (m c s).node).result with
    | error e =>
      rw [bind_error g hf, bind_error g (by rw [bind_ok f h, Ran.behind, hf]), bind_ok f h]
      rfl
    | ok b =>
      rw [bind_ok g hf, bind_ok g (by rw [bind_ok f h, Ran.behind, hf]), bind_ok f h]
      exact (Ran.behind_behind ..).symm

theorem liveLink_bind_of_some {c : Client} {link : Link} (h : c.link = some link)
    (f : Link → Action σ β) (s : σ) : (liveLink >>= f) c s = f link c s := by
  have hl : (liveLink : Action σ Link) c s = ⟨.ok link, c, s, 0, []⟩ := by
    simp only [liveLink, Client.liveLink, h, finish]
  rw [bind_ok f (a := link) (by rw [hl]), hl]
  simp [Ran.behind]

theorem liveLink_bind_of_none {c : Client} (h : c.link = none) (f : Link → Action σ β) (s : σ) :
    (liveLink >>= f) c s = ⟨.error .notConnected, c, s, 0, []⟩ := by
  have hl : (liveLink : Action σ Link) c s = ⟨.error .notConnected, c, s, 0, []⟩ := by
    simp only [liveLink, Client.liveLink, h, finish]
  rw [bind_error f (e := .notConnected) (by rw [hl]), hl]

end Action

/-! ### Giving up a broken link -/

/-- A result is an error that means that the link is broken. -/
def BreaksLink (result : Except Error α) : Prop :=
  ∃ e, result = .error e ∧ e.isTransport = true

theorem breaksLink_error_iff {e : Error} :
    BreaksLink (.error e : Except Error α) ↔ e.isTransport = true :=
  ⟨fun ⟨_, he, ht⟩ => by cases he; exact ht, fun ht => ⟨e, rfl, ht⟩⟩

theorem not_breaksLink_ok (a : α) : ¬ BreaksLink (.ok a) := fun ⟨_, h, _⟩ => by cases h

namespace Client

/-- The client after its link, if it had one, was given up because it is broken. -/
def unlinked (c : Client) : Client :=
  match c.link with
  | some _ =>
    { c with
      link := none
      state := .disconnected
      channel := c.channel.map (·.send .disconnected) }
  | none => c

/-- The client after an exchange with a result: without its link if the error means that the link
is broken, else as it was. -/
def after (c : Client) : Except Error α → Client
  | .ok _ => c
  | .error e => if e.isTransport then c.unlinked else c

/-- What an observer sees of giving up the link after a result. -/
def aftermath (c : Client) : Except Error α → Journal
  | .ok _ => []
  | .error e =>
    match c.link with
    | some link =>
      if e.isTransport then
        [.released link, .noted (.dropping c.target e), .reported .disconnected]
      else []
    | none => []

@[simp] theorem after_ok (c : Client) (a : α) : c.after (.ok a) = c := rfl

theorem after_error_of_transport {c : Client} {e : Error} (h : e.isTransport = true) :
    c.after (.error e : Except Error α) = c.unlinked := by rw [after, if_pos h]

theorem after_error_of_harmless {c : Client} {e : Error} (h : e.isTransport = false) :
    c.after (.error e : Except Error α) = c := by
  rw [after, if_neg (by rw [h]; exact Bool.false_ne_true)]

theorem unlinked_of_none {c : Client} (h : c.link = none) : c.unlinked = c := by
  simp only [unlinked, h]

theorem after_of_none {c : Client} (h : c.link = none) (result : Except Error α) :
    c.after result = c := by
  match result with
  | .ok a => rfl
  | .error e => rw [after, unlinked_of_none h, ite_self]

theorem link_unlinked (c : Client) : c.unlinked.link = none := by
  match h : c.link with
  | some _ => simp only [unlinked, h]
  | none => rw [unlinked_of_none h, h]

theorem state_unlinked {c : Client} {link : Link} (h : c.link = some link) :
    c.unlinked.state = .disconnected := by
  simp only [unlinked, h]

theorem after_of_not_breaksLink {c : Client} {result : Except Error α} (h : ¬ BreaksLink result) :
    c.after result = c := by
  match result with
  | .ok a => rfl
  | .error e =>
    rw [breaksLink_error_iff, Bool.not_eq_true] at h
    exact after_error_of_harmless h

theorem after_of_breaksLink {c : Client} {result : Except Error α} (h : BreaksLink result) :
    c.after result = c.unlinked := by
  obtain ⟨e, rfl, ht⟩ := h
  exact after_error_of_transport ht

/-- A live link is lost exactly with a result that breaks it. -/
theorem link_after_iff {c : Client} {link : Link} (h : c.link = some link)
    (result : Except Error α) : (c.after result).link = none ↔ BreaksLink result := by
  by_cases hb : BreaksLink result
  · rw [after_of_breaksLink hb, link_unlinked]
    exact iff_of_true rfl hb
  · rw [after_of_not_breaksLink hb, h]
    exact iff_of_false (fun hn => by cases hn) hb

/-- What giving up a broken link leaves alone. -/
structure SameSettings (c c' : Client) : Prop where
  /-- The target. -/
  target : c'.target = c.target
  /-- The catalog. -/
  catalog : c'.catalog = c.catalog
  /-- The random words. -/
  words : c'.words = c.words
  /-- The time limit of a connection attempt. -/
  connectTimeout : c'.connectTimeout = c.connectTimeout
  /-- The time limit of a read. -/
  queryTimeout : c'.queryTimeout = c.queryTimeout
  /-- The time limit of a submission. -/
  submissionTimeout : c'.submissionTimeout = c.submissionTimeout

theorem SameSettings.refl (c : Client) : SameSettings c c := ⟨rfl, rfl, rfl, rfl, rfl, rfl⟩

theorem SameSettings.trans {c c' c'' : Client} (h : SameSettings c c')
    (h' : SameSettings c' c'') : SameSettings c c'' where
  target := h'.target.trans h.target
  catalog := h'.catalog.trans h.catalog
  words := h'.words.trans h.words
  connectTimeout := h'.connectTimeout.trans h.connectTimeout
  queryTimeout := h'.queryTimeout.trans h.queryTimeout
  submissionTimeout := h'.submissionTimeout.trans h.submissionTimeout

theorem sameSettings_unlinked (c : Client) : SameSettings c c.unlinked := by
  rw [unlinked]
  split
  · exact ⟨rfl, rfl, rfl, rfl, rfl, rfl⟩
  · exact .refl c

theorem sameSettings_after (c : Client) (result : Except Error α) :
    SameSettings c (c.after result) := by
  match result with
  | .ok a => exact .refl c
  | .error e =>
    rw [after]
    split
    · exact sameSettings_unlinked c
    · exact .refl c

theorem aftermath_of_harmless (c : Client) {e : Error} (h : e.isTransport = false) :
    c.aftermath (.error e : Except Error α) = [] := by
  simp only [aftermath, h]
  split <;> rfl

theorem aftermath_of_none {c : Client} (h : c.link = none) (result : Except Error α) :
    c.aftermath result = [] := by
  cases result with
  | ok a => rfl
  | error e => simp only [aftermath, h]

theorem aftermath_of_not_breaksLink {result : Except Error α} (h : ¬ BreaksLink result)
    (c : Client) : c.aftermath result = [] := by
  cases result with
  | ok a => rfl
  | error e =>
    rw [breaksLink_error_iff, Bool.not_eq_true] at h
    exact c.aftermath_of_harmless h

/-- A broken link that is given up is reported. -/
theorem reports_aftermath_of_link {c : Client} {link : Link} (h : c.link = some link)
    {result : Except Error α} (hb : BreaksLink result) :
    (c.aftermath result).reports = [.disconnected] := by
  obtain ⟨e, rfl, ht⟩ := hb
  simp only [aftermath, h, ht, if_true]
  rfl

/-- Giving up a link asks nothing of any node. -/
theorem dials_aftermath (c : Client) (result : Except Error α) : (c.aftermath result).dials = [] := by
  unfold aftermath
  repeat' split
  all_goals rfl

theorem calls_aftermath (c : Client) (result : Except Error α) : (c.aftermath result).calls = [] := by
  unfold aftermath
  repeat' split
  all_goals rfl

@[simp] theorem isUnending_aftermath (c : Client) (result : Except Error α) :
    (c.aftermath result).isUnending = false := by
  unfold aftermath
  repeat' split
  all_goals rfl

end Client

/-! ### Reads and submissions -/

namespace Action

/-- An observed action ends as the action does, and then the link is given up if need be. -/
theorem observed_eq (m : Action σ α) (c : Client) (s : σ) :
    observed m c s =
      ⟨(m c s).result, (m c s).client.after (m c s).result, (m c s).node, (m c s).elapsed,
        (m c s).journal ++ (m c s).client.aftermath (m c s).result⟩ := by
  rw [observed, outcome_bind]
  match (m c s).result with
  | .ok a => simp [Ran.behind, pure, finish, Client.aftermath]
  | .error e =>
    match ht : e.isTransport, hl : (m c s).client.link with
    | false, _ =>
      rw [Client.after_error_of_harmless ht, Client.aftermath_of_harmless _ ht]
      simp [ht, Ran.behind, fail, finish]
    | true, none =>
      rw [Client.after_of_none hl]
      simp [ht, hl, bind, andThen, release, Ran.behind, fail, finish, Client.aftermath]
    | true, some link =>
      rw [Client.after_error_of_transport ht]
      simp [ht, hl, bind, andThen, release, client, note, record, report, Ran.behind, fail, finish,
        Client.unlinked, Client.aftermath]

theorem reading_of_none (x : Link → Exchange σ α) {c : Client} (h : c.link = none) (s : σ) :
    reading x c s = ⟨.error .notConnected, c, s, 0, []⟩ :=
  liveLink_bind_of_none h _ s

/-- The result of a read, given how the exchange ended. -/
def readResult (c : Client) (talk : Talk σ α) : Except Error α :=
  talk.result.getD (.error (noResponse c.queryTimeout))

/-- A read gives the result of its exchange, and nothing but a broken link changes the client. -/
theorem reading_of_some (x : Link → Exchange σ α) {c : Client} {link : Link}
    (h : c.link = some link) (s : σ) :
    let talk := x link c.queryTimeout s
    reading x c s =
      ⟨readResult c talk, c.after (readResult c talk), talk.node, talk.elapsed,
        talk.journal ++ c.aftermath (readResult c talk)⟩ := by
  simp only [reading]
  rw [liveLink_bind_of_some h, observed_eq]
  rfl

/-- A read succeeds when its exchange does. -/
theorem success?_reading (x : Link → Exchange σ α) {c : Client} {link : Link}
    (h : c.link = some link) (s : σ) :
    (reading x c s).success? = (x link c.queryTimeout s).success? := by
  rw [reading_of_some x h]
  simp only [Ran.success?, Talk.success?, readResult]
  rcases (x link c.queryTimeout s).result with _ | e | a
  · rfl
  · rfl
  · rfl

theorem calls_reading (x : Link → Exchange σ α) {c : Client} {link : Link}
    (h : c.link = some link) (s : σ) :
    (reading x c s).journal.calls = (x link c.queryTimeout s).journal.calls := by
  rw [reading_of_some x h, Journal.calls_append, Client.calls_aftermath, List.append_nil]

end Action

namespace Client

/-- The notice on how a submission ended. -/
def outcomeNotice (x : Extrinsic) : Except Error Outcome → Notice
  | .ok outcome => .submitted x.hash outcome
  | .error e => .submissionFailed x.hash e

theorem noteOutcome_eq (x : Extrinsic) (result : Except Error Outcome) :
    noteOutcome (σ := σ) x result = .note (outcomeNotice x result) := by
  cases result <;> rfl

variable [Node σ]

theorem submit_of_none (x : Extrinsic) (policy : Policy) {c : Client} (h : c.link = none) (s : σ) :
    submit x policy c s = ⟨.error .notConnected, c, s, 0, []⟩ :=
  Action.liveLink_bind_of_none h _ s

/-- The result of a submission, given how the exchange ended. -/
def submitResult (c : Client) (talk : Talk σ Outcome) : Except Error Outcome :=
  talk.result.getD (.error (.submissionTimeout c.submissionTimeout))

/-- A submission gives the result of its exchange, and nothing but a broken link changes the
client. -/
theorem submit_of_some (x : Extrinsic) (policy : Policy) {c : Client} {link : Link}
    (h : c.link = some link) (s : σ) :
    let talk := Extrinsic.submit link x policy c.submissionTimeout s
    submit x policy c s =
      ⟨submitResult c talk, c.after (submitResult c talk), talk.node, talk.elapsed,
        .noted (.submitting x policy) :: (talk.journal ++
          .noted (outcomeNotice x (submitResult c talk)) :: c.aftermath (submitResult c talk))⟩ := by
  simp only [submit]
  rw [Action.liveLink_bind_of_some h, Action.note_bind, Action.observed_eq, Action.outcome_bind,
    noteOutcome_eq, Action.note_bind]
  simp [Ran.behind, Action.finish, Action.within, submitResult]

/-- Submitting returns when its exchange comes to an end. -/
theorem returns_submit_iff (x : Extrinsic) (policy : Policy) {c : Client} {link : Link}
    (h : c.link = some link) (s : σ) :
    (submit x policy c s).Returns ↔
      (Extrinsic.submit link x policy c.submissionTimeout s).journal.isUnending = false := by
  rw [Ran.Returns, submit_of_some x policy h]
  simp

/-! ### Looking up a registration -/

/-- Whether a hotkey counts as registered is whether the look-up finds a uid: the same entries are
read, in the same order, and one that is missing ends both. -/
theorem isSubscribed_eq (wallet : Wallet) (ip : IpAddress) (port : UInt16) :
    isSubscribed (σ := σ) wallet ip port = (do return (← registeredAs wallet ip port).isSome) := by
  rw [isSubscribed, registeredAs, Action.bind_assoc]
  congr 1
  funext found
  cases found with
  | none => exact (Action.finish_ok_bind _ _).symm
  | some uid =>
    dsimp only
    rw [Action.bind_assoc]
    congr 1
    funext record
    cases record with
    | none => exact (Action.finish_ok_bind _ _).symm
    | some peer =>
      have hfound : (if peer.serves ip.number port then some uid else none).isSome =
          peer.serves ip.number port := by cases peer.serves ip.number port <;> rfl
      refine Eq.trans ?_ (Action.finish_ok_bind _ _).symm
      exact congrArg (fun found => Action.finish (.ok found)) hfound.symm

end Client

end LedgerClient
