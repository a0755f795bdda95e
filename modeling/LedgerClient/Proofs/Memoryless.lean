import LedgerClient.Proofs.Failover

/-!
# Opening has no memory

How a client opens is decided by four of its settings and by how the node answers. What the client
went through before leaves no trace in it: neither the link that it had, nor the state that it
reported, nor addresses that failed at an earlier opening. So a second opening does what a first one
would do at the same time, and it makes no difference whether the link was given up beforehand.

## The model

Two clients are compared that `AimAlike`, each with a node of its own. The nodes may be of different
kinds. They need not be in the same state either: `AnswersAlike alike` says of a relation between the
states of the two that related states make the same of a link being asked for, and are related again
whether the answer was waited for or not. `Twins` says that making a link goes the same way for both,
`OpenedAlike` that opening does.

The journals of two openings are not equal, since a link that is given up stands in them. What is
compared is what the client asks for.

## What is proved

* `Client.twins_dialTarget`: making a link goes the same way, by induction on the untried candidates.
* `Client.Opens.openedAlike`: so does opening, in either way.
* `Client.Opens.singleAttempt`: opening a single address is one attempt.
* `opening_has_no_memory`: the rule in one statement, with what it means for a single address.
-/

namespace LedgerClient

open Catalog (websocketUrl untried)

variable {σ τ α : Type}

/-! ### Clients and nodes that are alike -/

/-- The settings that decide how a client opens are the same for both. -/
structure Client.AimAlike (c d : Client) : Prop where
  /-- The target. -/
  target_eq : c.target = d.target
  /-- The addresses of the networks. -/
  catalog_eq : c.catalog = d.catalog
  /-- The random words. -/
  words_eq : c.words = d.words
  /-- The time limit of one connection attempt. -/
  connectTimeout_eq : c.connectTimeout = d.connectTimeout

/-- Related states of two nodes make the same of a link being asked for, and the states after it are
related again. -/
structure AnswersAlike [Node σ] [Node τ] (alike : σ → τ → Prop) : Prop where
  /-- The answer takes the same time. -/
  delay_eq : ∀ {s t}, alike s t → ∀ url, (Node.dial url s).delay = (Node.dial url t).delay
  /-- It is the same answer. -/
  result_eq : ∀ {s t}, alike s t → ∀ url, (Node.dial url s).result = (Node.dial url t).result
  /-- The states after the answer are related. -/
  answered : ∀ {s t}, alike s t → ∀ url,
    alike (Node.dial url s).answered (Node.dial url t).answered
  /-- The states after the caller gave up waiting are related. -/
  abandoned : ∀ {s t}, alike s t → ∀ url,
    alike (Node.dial url s).abandoned (Node.dial url t).abandoned

/-- Two runs from the clients `c` and `d` went the same way: nobody who sees result, time and journal
could tell one from the other, and the clients have used up the same words and nothing else. -/
structure Twins (alike : σ → τ → Prop) (c d : Client) (ran : Ran σ α) (ran' : Ran τ α) : Prop where
  /-- The result is the same. -/
  result_eq : ran.result = ran'.result
  /-- The same time passed. -/
  elapsed_eq : ran.elapsed = ran'.elapsed
  /-- An observer saw the same. -/
  journal_eq : ran.journal = ran'.journal
  /-- The same random words are left, and nothing else has changed. -/
  client_eq : ∃ words, ran.client = c.withWords words ∧ ran'.client = d.withWords words
  /-- The nodes are still alike. -/
  nodes : alike ran.node ran'.node

/-- Two openings came to the same: their result, the links that they asked for, and what the clients
are like afterwards. -/
structure OpenedAlike (alike : σ → τ → Prop) (ran : Ran σ Unit) (ran' : Ran τ Unit) : Prop where
  /-- The result is the same. -/
  result_eq : ran.result = ran'.result
  /-- The same links were asked for, in the same order. -/
  dials_eq : ran.journal.dials = ran'.journal.dials
  /-- The same link is live. -/
  link_eq : ran.client.link = ran'.client.link
  /-- The state is the same. -/
  state_eq : ran.client.state = ran'.client.state
  /-- The same random words are left. -/
  words_eq : ran.client.words = ran'.client.words
  /-- The same time passed. -/
  elapsed_eq : ran.elapsed = ran'.elapsed
  /-- The nodes are still alike. -/
  nodes : alike ran.node ran'.node

namespace Client.AimAlike

variable {c d : Client}

theorem withWords (h : c.AimAlike d) (words : WordSource) :
    (c.withWords words).AimAlike (d.withWords words) :=
  ⟨h.target_eq, h.catalog_eq, rfl, h.connectTimeout_eq⟩

/-- Link and state have no part in it. -/
theorem connecting (h : c.AimAlike d) : c.connecting.AimAlike d.connecting :=
  ⟨h.target_eq, h.catalog_eq, h.words_eq, h.connectTimeout_eq⟩

/-- A client that has disconnected still opens in the same way. -/
theorem disconnected (c : Client) : (c.withoutLink.reporting .disconnected).AimAlike c :=
  ⟨rfl, rfl, rfl, rfl⟩

theorem symm (h : c.AimAlike d) : d.AimAlike c :=
  ⟨h.target_eq.symm, h.catalog_eq.symm, h.words_eq.symm, h.connectTimeout_eq.symm⟩

theorem trans {e : Client} (h : c.AimAlike d) (h' : d.AimAlike e) : c.AimAlike e :=
  ⟨h.target_eq.trans h'.target_eq, h.catalog_eq.trans h'.catalog_eq, h.words_eq.trans h'.words_eq,
    h.connectTimeout_eq.trans h'.connectTimeout_eq⟩

end Client.AimAlike

/-! ### Making a link -/

namespace Client

variable {alike : σ → τ → Prop} {c d : Client} {s : σ} {t : τ}

/-- While a candidate is left, clients with the same words draw the same one. -/
theorem exists_draws (hcd : c.AimAlike d) {candidates tried : List String}
    (h : untried candidates tried ≠ []) (s : σ) (t : τ) :
    ∃ item words,
      draw candidates tried c s = ⟨.ok (some item), c.withWords words, s, 0, []⟩ ∧
      draw candidates tried d t = ⟨.ok (some item), d.withWords words, t, 0, []⟩ := by
  obtain ⟨item, rest, hp⟩ := Catalog.exists_pickUntried h c.words
  refine ⟨item, rest, ?_, ?_⟩
  · rw [draw, hp]
    rfl
  · rw [draw, ← hcd.words_eq, hp]
    rfl

variable [Node σ] [Node τ]

/-- An attempt goes the same way. -/
theorem exists_attempts (halike : AnswersAlike alike) (hcd : c.AimAlike d) (hst : alike s t)
    (address : String) :
    ∃ result s' t' elapsed, alike s' t' ∧
      attempt address c s = ⟨result, c, s', elapsed, [.dialled (websocketUrl address)]⟩ ∧
      attempt address d t = ⟨result, d, t', elapsed, [.dialled (websocketUrl address)]⟩ := by
  have hdelay := halike.delay_eq hst (websocketUrl address)
  have hresult := halike.result_eq hst (websocketUrl address)
  have hlimit := hcd.connectTimeout_eq
  by_cases h : ∃ delay, (Node.dial (websocketUrl address) s).delay = some delay ∧
      delay ≤ c.connectTimeout
  · obtain ⟨delay, hd, hl⟩ := h
    have hc := attempt_of_delay hd hl
    have hd' := attempt_of_delay (hdelay ▸ hd) (hlimit ▸ hl)
    rw [← hresult] at hd'
    exact ⟨_, _, _, delay, halike.answered hst _, hc, hd'⟩
  · have hlate : ∀ delay, (Node.dial (websocketUrl address) s).delay = some delay →
        c.connectTimeout < delay :=
      fun delay hd => Nat.lt_of_not_le fun hl => h ⟨delay, hd, hl⟩
    have hc := attempt_of_late hlate
    have hd' := attempt_of_late (hlimit ▸ hdelay ▸ hlate)
    rw [← hlimit] at hd'
    exact ⟨_, _, _, c.connectTimeout, halike.abandoned hst _, hc, hd'⟩

theorem twins_attempt (halike : AnswersAlike alike) (hcd : c.AimAlike d) (hst : alike s t)
    (address : String) : Twins alike c d (attempt address c s) (attempt address d t) := by
  obtain ⟨result, s', t', elapsed, hst', hc, hd⟩ := exists_attempts halike hcd hst address
  rw [hc, hd]
  exact ⟨rfl, rfl, rfl, ⟨c.words, rfl, by rw [hcd.words_eq]; rfl⟩, hst'⟩

/-- When no candidate is left, the search ends in the same way. -/
theorem twins_failover_nil (hcd : c.AimAlike d) (hst : alike s t) {network : Network}
    {candidates tried : List String} (h : untried candidates tried = []) :
    Twins alike c d (failover network candidates tried c s)
      (failover network candidates tried d t) := by
  rw [failover_of_untried_nil h, failover_of_untried_nil h]
  exact ⟨rfl, rfl, rfl, ⟨c.words, rfl, by rw [hcd.words_eq]; rfl⟩, hst⟩

/-- The search among the candidates of a network goes the same way. -/
theorem twins_failover (halike : AnswersAlike alike) (hcd : c.AimAlike d) (hst : alike s t)
    (network : Network) (candidates tried : List String) :
    Twins alike c d (failover network candidates tried c s)
      (failover network candidates tried d t) := by
  -- the untried candidates get fewer, while words and states of the nodes move on
  induction tried using failover.induct candidates generalizing c d s t with
  | case1 tried ih =>
    by_cases h : untried candidates tried = []
    · exact twins_failover_nil hcd hst h
    · obtain ⟨⟨address, ha⟩, words, hdraw, hdraw'⟩ := exists_draws hcd h s t
      obtain ⟨result, s', t', elapsed, hst', hran, hran'⟩ :=
        exists_attempts halike (hcd.withWords words) hst address
      cases result with
      | ok link =>
        rw [failover_of_ok hdraw hran, failover_of_ok hdraw' hran']
        exact ⟨rfl, rfl, rfl, ⟨words, rfl, rfl⟩, hst'⟩
      | error e =>
        obtain ⟨hresult, helapsed, hjournal, ⟨rest, hclient, hclient'⟩, hnodes⟩ :=
          ih address ha (hcd.withWords words) hst'
        rw [failover_of_error hdraw hran, failover_of_error hdraw' hran']
        refine ⟨hresult, ?_, ?_, ⟨rest, hclient, hclient'⟩, hnodes⟩
        · rw [Ran.behind, Ran.behind, helapsed]
        · rw [Ran.behind, Ran.behind, hjournal]

/-- Making a link to the target goes the same way, whatever the target. -/
theorem twins_dialTarget (halike : AnswersAlike alike) (hcd : c.AimAlike d) (hst : alike s t) :
    Twins alike c d (dialTarget c s) (dialTarget d t) := by
  cases h : c.target with
  | endpoint address =>
    rw [dialTarget_of_endpoint h, dialTarget_of_endpoint (hcd.target_eq ▸ h)]
    exact twins_attempt halike hcd hst address
  | network network =>
    have h' : d.target = .network network := hcd.target_eq ▸ h
    cases hn : c.catalog.addresses? network with
    | none =>
      rw [dialTarget_of_unknown h hn, dialTarget_of_unknown h' (hcd.catalog_eq ▸ hn)]
      exact ⟨rfl, rfl, rfl, ⟨c.words, rfl, by rw [hcd.words_eq]; rfl⟩, hst⟩
    | some candidates =>
      rw [dialTarget_of_listed h hn, dialTarget_of_listed h' (hcd.catalog_eq ▸ hn)]
      exact twins_failover halike hcd hst network candidates []

/-! ### Opening -/

theorem openedAlike_connect (halike : AnswersAlike alike) (hcd : c.AimAlike d) (hst : alike s t) :
    OpenedAlike alike (connect c s) (connect d t) := by
  obtain ⟨hresult, helapsed, hjournal, ⟨words, hclient, hclient'⟩, hnodes⟩ :=
    twins_dialTarget halike hcd.connecting hst
  rw [connect_eq, connect_eq, hclient, hclient', ← hresult, ← helapsed, ← hjournal]
  constructor
  case dials_eq => simp
  case elapsed_eq => rfl
  case nodes => exact hnodes
  all_goals cases (dialTarget c.connecting s).result <;> rfl

/-- The two ways to open. -/
inductive Opens : Action σ Unit → Prop where
  /-- To connect. -/
  | connect : Opens connect
  /-- To give up the link and make a fresh one. -/
  | reconnect : Opens reconnect

/-- Both are to connect with the same aim, after entries that ask for nothing. -/
theorem Opens.exists_connect {m : Action σ Unit} (hm : Opens m) (c : Client) (s : σ) :
    ∃ (c' : Client) (journal : Journal), c'.AimAlike c ∧ journal.dials = [] ∧
      m c s = (Client.connect c' s).behind 0 journal := by
  cases hm with
  | connect =>
    refine ⟨c, [], ⟨rfl, rfl, rfl, rfl⟩, rfl, ?_⟩
    simp [Ran.behind]
  | reconnect => exact ⟨_, c.farewell, .disconnected c, dials_farewell c, reconnect_eq c s⟩

/-- Opening goes the same way, and giving up the link first makes no difference. -/
theorem Opens.openedAlike {m : Action σ Unit} {m' : Action τ Unit} (hm : Opens m) (hm' : Opens m')
    (halike : AnswersAlike alike) (hcd : c.AimAlike d) (hst : alike s t) :
    OpenedAlike alike (m c s) (m' d t) := by
  obtain ⟨c', j, hc, hj, hran⟩ := hm.exists_connect c s
  obtain ⟨d', k, hd, hk, hran'⟩ := hm'.exists_connect d t
  obtain ⟨hresult, hdials, hlink, hstate, hwords, helapsed, hnodes⟩ :=
    openedAlike_connect halike ((hc.trans hcd).trans hd.symm) hst
  rw [hran, hran']
  refine ⟨hresult, ?_, hlink, hstate, hwords, ?_, hnodes⟩
  · rw [Ran.behind, Ran.behind, Journal.dials_append, Journal.dials_append, hj, hk, hdials]
  · rw [Ran.behind, Ran.behind, helapsed]

/-! ### Opening a single address -/

/-- What comes of opening a client whose target is a single address. -/
structure SingleAttempt (address : String) (c : Client) (s : σ) (ran : Ran σ Unit) : Prop where
  /-- One link is asked for, to the websocket form of the address. -/
  dials_eq : ran.journal.dials = [websocketUrl address]
  /-- No random word is used. -/
  words_eq : ran.client.words = c.words
  /-- An answer in time decides, with its own error if it is one. -/
  of_delay : ∀ delay, (Node.dial (websocketUrl address) s).delay = some delay →
    delay ≤ c.connectTimeout →
    ran.result = (Node.dial (websocketUrl address) s).result.map fun _ => ()
  /-- Without an answer in time opening fails with an error that names the address. -/
  of_late : (∀ delay, (Node.dial (websocketUrl address) s).delay = some delay →
      c.connectTimeout < delay) →
    ran.result = .error (.connection (websocketUrl address)
      ("timed out after " ++ wholeSeconds c.connectTimeout))

theorem singleAttempt_connect {address : String} (h : c.target = .endpoint address) (s : σ) :
    SingleAttempt address c s (connect c s) := by
  have hran : dialTarget c.connecting s = attempt address c.connecting s :=
    dialTarget_of_endpoint (c := c.connecting) h s
  rw [connect_eq, hran, client_attempt, journal_attempt]
  constructor
  case dials_eq => simp
  case words_eq => cases (attempt address c.connecting s).result <;> rfl
  case of_delay =>
    intro delay hd hl
    have ha := attempt_of_delay (c := c.connecting) hd hl
    rw [ha]
  case of_late =>
    intro hlate
    have ha := attempt_of_late (c := c.connecting) hlate
    rw [ha]
    rfl

theorem Opens.singleAttempt {m : Action σ Unit} (hm : Opens m) {address : String}
    (h : c.target = .endpoint address) (s : σ) : SingleAttempt address c s (m c s) := by
  obtain ⟨c', j, hc, hj, hran⟩ := hm.exists_connect c s
  obtain ⟨hdials, hwords, hdelay, hlate⟩ :=
    singleAttempt_connect (hc.target_eq.trans h) s
  rw [hc.words_eq] at hwords
  rw [hc.connectTimeout_eq] at hdelay hlate
  rw [hran]
  refine ⟨?_, hwords, hdelay, hlate⟩
  rw [Ran.behind, Journal.dials_append, hj, hdials, List.nil_append]

end Client

/-- **Opening has no memory.** Take two clients with the same target, catalog, random words and time
limit of an attempt, whatever they went through before, and nodes that will answer alike. However
each of them opens, by connecting or by reconnecting, the results are the same, the same links are
asked for in the same order, and the clients end with the same link, the same state and the same
random words; and the nodes still answer alike. If the target is a single address, one link is asked
for, to its websocket form, no random word is used, and opening fails only with the node's own error
or for want of an answer in time. -/
theorem opening_has_no_memory [Node σ] [Node τ] {alike : σ → τ → Prop} (halike : AnswersAlike alike)
    {c d : Client} (hcd : c.AimAlike d) {s : σ} {t : τ} (hst : alike s t)
    {m : Action σ Unit} (hm : Client.Opens m) {m' : Action τ Unit} (hm' : Client.Opens m') :
    OpenedAlike alike (m c s) (m' d t) ∧
    ∀ address, c.target = .endpoint address →
      Client.SingleAttempt address c s (m c s) ∧ Client.SingleAttempt address d t (m' d t) := by
  refine ⟨hm.openedAlike hm' halike hcd hst, fun address h => ⟨hm.singleAttempt h s, ?_⟩⟩
  exact hm'.singleAttempt (hcd.target_eq ▸ h) t

/-! ### Openings of clients with a past -/

namespace ScriptedNode

/-- Two scripted nodes make the same of a link being asked for. -/
structure DialsAlike (node other : ScriptedNode) : Prop where
  /-- The same addresses refuse. -/
  dead_eq : node.dead = other.dead
  /-- The same disturbances are to come. -/
  script_eq : node.script = other.script
  /-- As many links were made. -/
  links_eq : node.links = other.links

variable {node other : ScriptedNode}

theorem DialsAlike.rest (h : DialsAlike node other) :
    DialsAlike { node with script := node.script.tail } { other with script := other.script.tail } :=
  ⟨h.dead_eq, congrArg List.tail h.script_eq, h.links_eq⟩

theorem DialsAlike.accept (h : DialsAlike node other) (url : String) :
    (node.accept url).1 = (other.accept url).1 ∧
      DialsAlike (node.accept url).2 (other.accept url).2 := by
  by_cases hdead : node.dead.contains url
  · have hdead' : other.dead.contains url := h.dead_eq ▸ hdead
    rw [ScriptedNode.accept, ScriptedNode.accept, if_pos hdead, if_pos hdead']
    exact ⟨rfl, h⟩
  · have hdead' : ¬ other.dead.contains url := h.dead_eq ▸ hdead
    rw [ScriptedNode.accept, ScriptedNode.accept, if_neg hdead, if_neg hdead', h.links_eq]
    exact ⟨rfl, h.dead_eq, h.script_eq, rfl⟩

/-- What a scripted node makes of being asked for a link has nothing to do with its ledger. -/
theorem DialsAlike.dial (h : DialsAlike node other) (url : String) :
    (Node.dial url node).delay = (Node.dial url other).delay ∧
      (Node.dial url node).result = (Node.dial url other).result ∧
      DialsAlike (Node.dial url node).answered (Node.dial url other).answered ∧
      DialsAlike (Node.dial url node).abandoned (Node.dial url other).abandoned := by
  have hrest := h.rest
  obtain ⟨hresult, hanswered⟩ := hrest.accept url
  simp only [Node.dial, reply]
  generalize { node with script := node.script.tail } = rest at hrest hresult hanswered ⊢
  generalize { other with script := other.script.tail } = rest' at hrest hresult hanswered ⊢
  rw [h.script_eq]
  cases (other.script.headD .none).error with
  | some e => exact ⟨rfl, rfl, hrest, hrest⟩
  | none => exact ⟨rfl, hresult, hanswered, hrest⟩

theorem answersAlike : AnswersAlike DialsAlike where
  delay_eq h url := (h.dial url).1
  result_eq h url := (h.dial url).2.1
  answered h url := (h.dial url).2.2.1
  abandoned h url := (h.dial url).2.2.2

end ScriptedNode

/-- A node like `halfDeadNode`, with blocks. -/
def busyNode : ScriptedNode := { halfDeadNode with latest := 7 }

/-- A client like `searchingClient` that has a link already. -/
def servedClient : Client :=
  { searchingClient with link := some ⟨"ws://a:1", 5⟩, state := .connected }

/-- A client for the address that `halfDeadNode` does not serve. -/
def hopelessClient : Client := .start (.endpoint "b:2") (.ofList [])

/-- A client that has a link and reconnects fares as one that never had any; and one that was refused
is refused again, after one attempt. -/
theorem opening_has_no_memory_of_past :
    AnswersAlike ScriptedNode.DialsAlike ∧ searchingClient.AimAlike servedClient ∧
    halfDeadNode.DialsAlike busyNode ∧
    OpenedAlike ScriptedNode.DialsAlike (Client.connect searchingClient halfDeadNode)
      (Client.reconnect servedClient busyNode) ∧
    let refused := Client.connect hopelessClient halfDeadNode
    refused.client.state = .failed (Error.connection "ws://b:2" "connection refused").message ∧
    (Client.connect refused.client refused.node).journal.dials = ["ws://b:2"] ∧
    (Client.connect refused.client refused.node).result =
      .error (.connection "ws://b:2" "connection refused") := by
  have halike := ScriptedNode.answersAlike
  have hnodes : halfDeadNode.DialsAlike busyNode := ⟨rfl, rfl, rfl⟩
  have hclients : searchingClient.AimAlike servedClient := ⟨rfl, rfl, rfl, rfl⟩
  have hopened := opening_has_no_memory halike hclients hnodes .connect .reconnect
  have hpast : hopelessClient.AimAlike (Client.connect hopelessClient halfDeadNode).client :=
    ⟨rfl, rfl, rfl, rfl⟩
  have hagain := opening_has_no_memory halike hpast (s := halfDeadNode)
    (t := (Client.connect hopelessClient halfDeadNode).node) ⟨rfl, rfl, rfl⟩ .connect .connect
  obtain ⟨-, hsingle⟩ := hagain.2 "b:2" rfl
  refine ⟨halike, hclients, hnodes, hopened.1, rfl, hsingle.dials_eq, ?_⟩
  exact hsingle.of_delay 0 rfl (by decide)

end LedgerClient
