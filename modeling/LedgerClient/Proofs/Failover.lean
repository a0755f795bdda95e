import LedgerClient.Node.Scripted
import LedgerClient.Proofs.Choice
import LedgerClient.Proofs.Connection
import LedgerClient.Proofs.Course
import Mathlib.Data.List.Dedup
import Mathlib.Data.List.Perm.Subperm

/-!
# Failover

A client that connects to a network tries the network's addresses, in an order that chance decides,
until one of them accepts. No address is tried twice, an address counts as failed when its answer is
an error or does not come in time, and only when all have failed the client gives up. Then the error
lists what was tried.

## The model

`Accepts` and `Refuses` say of the node alone how it answers to one attempt. `Attempts` puts them
together: it relates the addresses that are tried one after the other to the link that comes of it,
if one does. `Search` says in these terms what the loop did when it started with some addresses tried
already, and `Opening` what connecting did as a whole.

## What is proved

* `Client.failover_spec`: the loop makes attempts on untried candidates until one accepts.
* `Client.dialling_dialTarget`: what making a link does, whatever the target.
* `Client.exists_opening`, `Client.result_of_acceptsInTurn`: what connecting to a network does, and
  when it succeeds.
* `opening_of_network`: the rule in one statement.
-/

namespace LedgerClient

open Catalog (websocketUrl untried)

variable {σ : Type}

/-! ### Attempts -/

section Attempts

variable [Node σ]

/-- The node accepts an attempt on an address within a time limit: it gives `link`, and is then in
state `t`. -/
def Accepts (limit : Millis) (address : String) (s : σ) (link : Link) (t : σ) : Prop :=
  (∃ delay, (Node.dial (websocketUrl address) s).delay = some delay ∧ delay ≤ limit) ∧
    (Node.dial (websocketUrl address) s).result = .ok link ∧
    (Node.dial (websocketUrl address) s).answered = t

/-- An attempt on an address fails: the answer is an error, or it does not come within the time
limit. Afterwards the node is in state `t`. -/
def Refuses (limit : Millis) (address : String) (s t : σ) : Prop :=
  (∃ delay e, (Node.dial (websocketUrl address) s).delay = some delay ∧ delay ≤ limit ∧
      (Node.dial (websocketUrl address) s).result = .error e ∧
      (Node.dial (websocketUrl address) s).answered = t) ∨
    ((∀ delay, (Node.dial (websocketUrl address) s).delay = some delay → limit < delay) ∧
      (Node.dial (websocketUrl address) s).abandoned = t)

/-- `Attempts limit s tried found t`: from state `s` of the node on, the addresses `tried` are tried
in this order. All fail, or the last one accepts and gives the link `found`. -/
inductive Attempts (limit : Millis) : σ → List String → Option Link → σ → Prop where
  /-- Nothing is tried. -/
  | nil {s : σ} : Attempts limit s [] none s
  /-- An address accepts, and nothing is tried after it. -/
  | accepted {s t : σ} {address : String} {link : Link} : Accepts limit address s link t →
      Attempts limit s [address] (some link) t
  /-- An address fails, and others are tried after it. -/
  | refused {s t u : σ} {address : String} {rest : List String} {found : Option Link} :
      Refuses limit address s t → Attempts limit t rest found u →
      Attempts limit s (address :: rest) found u

/-- No address both accepts and fails. -/
theorem Accepts.not_refuses {limit : Millis} {address : String} {s t u : σ} {link : Link}
    (h : Accepts limit address s link t) : ¬ Refuses limit address s u := by
  obtain ⟨⟨delay, hd, hl⟩, hr, -⟩ := h
  rintro (⟨_, e, -, -, he, -⟩ | ⟨hlate, -⟩)
  · rw [hr] at he
    cases he
  · exact Nat.not_le.mpr (hlate delay hd) hl

/-- An address that accepts makes a link. -/
theorem Accepts.course {limit : Millis} {address : String} {s t u : σ} {link : Link}
    {journal : Journal} {live : Option Link} (h : Accepts limit address s link t)
    (hrest : Course (some link) t journal live u) :
    Course none s (.dialled (websocketUrl address) :: journal) live u := by
  obtain ⟨-, hr, rfl⟩ := h
  exact .made hr hrest

/-- An attempt that fails makes none. -/
theorem Refuses.declines {limit : Millis} {address : String} {s t : σ}
    (h : Refuses limit address s t) : Declines (websocketUrl address) s t := by
  rcases h with ⟨_, e, -, -, hr, ht⟩ | ⟨-, ht⟩
  · exact .inl ⟨e, hr, ht⟩
  · exact .inr ht

/-- Of attempts that all fail, the first one fails and so do the others after it. -/
theorem Attempts.of_cons {limit : Millis} {s u : σ} {address : String} {rest : List String}
    (h : Attempts limit s (address :: rest) none u) :
    ∃ t, Refuses limit address s t ∧ Attempts limit t rest none u := by
  cases h with
  | refused hr hrest => exact ⟨_, hr, hrest⟩

/-- Of attempts that all fail, each fails when its turn comes. -/
theorem Attempts.split {limit : Millis} {s u : σ} {before after : List String} {address : String}
    (h : Attempts limit s (before ++ address :: after) none u) :
    ∃ t v, Attempts limit s before none t ∧ Refuses limit address t v := by
  induction before generalizing s with
  | nil =>
    obtain ⟨v, hr, -⟩ := h.of_cons
    exact ⟨s, v, .nil, hr⟩
  | cons first before ih =>
    obtain ⟨r, hr, hrest⟩ := h.of_cons
    obtain ⟨t, v, hb, ha⟩ := ih hrest
    exact ⟨t, v, .refused hr hb, ha⟩

end Attempts

/-! ### Trying the candidates -/

namespace Client

/-- The client with other random words. -/
def withWords (c : Client) (words : WordSource) : Client := { c with words := words }

theorem draw_of_untried_nil {candidates tried : List String} (h : untried candidates tried = [])
    (c : Client) (s : σ) : draw candidates tried c s = ⟨.ok none, c, s, 0, []⟩ := by
  rw [draw, Catalog.pickUntried_of_untried_nil h]

theorem exists_draw {candidates tried : List String} (h : untried candidates tried ≠ [])
    (c : Client) (s : σ) :
    ∃ item words, draw candidates tried c s = ⟨.ok (some item), c.withWords words, s, 0, []⟩ := by
  obtain ⟨item, rest, hp⟩ := Catalog.exists_pickUntried h c.words
  exact ⟨item, rest, by rw [draw, hp]; rfl⟩

variable [Node σ]

/-- An attempt that is answered in time. -/
theorem attempt_of_delay {address : String} {c : Client} {s : σ} {delay : Millis}
    (hd : (Node.dial (websocketUrl address) s).delay = some delay) (hl : delay ≤ c.connectTimeout) :
    attempt address c s =
      ⟨(Node.dial (websocketUrl address) s).result, c, (Node.dial (websocketUrl address) s).answered,
        delay, [.dialled (websocketUrl address)]⟩ := by
  have hx : Exchange.dial (websocketUrl address) c.connectTimeout s =
      ⟨some (Node.dial (websocketUrl address) s).result, delay,
        (Node.dial (websocketUrl address) s).answered, [.dialled (websocketUrl address)]⟩ :=
    Exchange.await_of_delay hd hl
  simp only [attempt, Action.within, hx, Option.getD_some]

/-- The error of an attempt that is not answered in time. -/
def attemptTimeout (url : String) (limit : Millis) : Error :=
  .connection url ("timed out after " ++ wholeSeconds limit)

/-- An attempt that is not answered in time. -/
theorem attempt_of_late {address : String} {c : Client} {s : σ}
    (h : ∀ delay, (Node.dial (websocketUrl address) s).delay = some delay →
      c.connectTimeout < delay) :
    attempt address c s =
      ⟨.error (attemptTimeout (websocketUrl address) c.connectTimeout), c,
        (Node.dial (websocketUrl address) s).abandoned, c.connectTimeout,
        [.dialled (websocketUrl address)]⟩ := by
  have hx : Exchange.dial (websocketUrl address) c.connectTimeout s =
      ⟨none, c.connectTimeout, (Node.dial (websocketUrl address) s).abandoned,
        [.dialled (websocketUrl address)]⟩ := Exchange.await_of_late h
  simp only [attempt, Action.within, hx, Option.getD_none, attemptTimeout]

/-- An attempt leaves the client alone, and succeeds when the address accepts. -/
theorem attempt_cases (address : String) (c : Client) (s : σ) :
    (∃ link t elapsed, Accepts c.connectTimeout address s link t ∧
      attempt address c s = ⟨.ok link, c, t, elapsed, [.dialled (websocketUrl address)]⟩) ∨
    (∃ e t elapsed, Refuses c.connectTimeout address s t ∧
      attempt address c s = ⟨.error e, c, t, elapsed, [.dialled (websocketUrl address)]⟩) := by
  by_cases h : ∃ delay, (Node.dial (websocketUrl address) s).delay = some delay ∧
      delay ≤ c.connectTimeout
  · obtain ⟨delay, hd, hl⟩ := h
    have ha := attempt_of_delay hd hl
    cases hr : (Node.dial (websocketUrl address) s).result with
    | ok link => exact .inl ⟨link, _, delay, ⟨⟨delay, hd, hl⟩, hr, rfl⟩, by rw [ha, hr]⟩
    | error e => exact .inr ⟨e, _, delay, .inl ⟨delay, e, hd, hl, hr, rfl⟩, by rw [ha, hr]⟩
  · have hlate : ∀ delay, (Node.dial (websocketUrl address) s).delay = some delay →
        c.connectTimeout < delay :=
      fun delay hd => Nat.lt_of_not_le fun hl => h ⟨delay, hd, hl⟩
    exact .inr ⟨_, _, _, .inr ⟨hlate, rfl⟩, attempt_of_late hlate⟩

theorem client_attempt (address : String) (c : Client) (s : σ) :
    (attempt address c s).client = c := by
  rcases attempt_cases address c s with ⟨_, _, _, -, hran⟩ | ⟨_, _, _, -, hran⟩ <;> rw [hran]

/-- An attempt asks for one link and does nothing else. -/
theorem journal_attempt (address : String) (c : Client) (s : σ) :
    (attempt address c s).journal = [.dialled (websocketUrl address)] := by
  rcases attempt_cases address c s with ⟨_, _, _, -, hran⟩ | ⟨_, _, _, -, hran⟩ <;> rw [hran]

/-! ### The loop -/

/-- What trying candidates gives: a link, or the error that lists all that was tried. -/
def searchResult (network : Network) (tried : List String) : Option Link → Except Error Link
  | some link => .ok link
  | none => .error (.exhausted network tried)

/-- What a search among the candidates that are not in `before` did: it made attempts on untried
candidates, each of them once, until one accepted or none was left. -/
structure Search (network : Network) (candidates before : List String) (c : Client) (s : σ)
    (ran : Ran σ Link) (tried : List String) (found : Option Link) : Prop where
  /-- The attempts. -/
  attempts : Attempts c.connectTimeout s tried found ran.node
  /-- They are on different addresses. -/
  nodup : tried.Nodup
  /-- They are on untried candidates. -/
  subset : ∀ address ∈ tried, address ∈ untried candidates before
  /-- Without a link no candidate is left. -/
  complete : found = none → ∀ address ∈ candidates, address ∈ before ++ tried
  /-- The result. -/
  result_eq : ran.result = searchResult network (before ++ tried) found
  /-- Nothing is used up but random words. -/
  client_eq : ∃ words, ran.client = c.withWords words
  /-- One link is asked for in each attempt. -/
  dials_eq : ran.journal.dials = tried.map websocketUrl
  /-- The attempts account for all that happens to the node, and only the link that was found is
  live. -/
  course : Course none s ran.journal found ran.node
  /-- Nothing is handed over. -/
  submits : ran.journal.SubmitsOnlyIf False

section Loop

variable {network : Network} {candidates tried : List String} {c : Client} {s : σ}

/-- When no candidate is left, the loop ends. -/
theorem failover_of_untried_nil (h : untried candidates tried = []) :
    failover network candidates tried c s =
      ⟨.error (.exhausted network tried), c, s, 0,
        [.noted (.candidatesLeft (untried candidates tried).length network tried.length),
          .noted (.noneLeft network tried.length)]⟩ := by
  rw [failover, Action.note_bind, Action.bind_of_eq_ok _ (draw_of_untried_nil h c s)]
  rfl

/-- A search that ends for want of candidates. -/
theorem search_of_untried_nil (h : untried candidates tried = []) :
    Search network candidates tried c s (failover network candidates tried c s) [] none := by
  rw [failover_of_untried_nil h]
  refine ⟨.nil, List.nodup_nil, by simp, fun _ address ha => ?_, ?_, ⟨c.words, rfl⟩, rfl,
    .noted _ (.noted _ .done), by simp [Journal.SubmitsOnlyIf]⟩
  · have hn : ¬ (address ∈ candidates ∧ address ∉ tried) := by
      rw [← Catalog.mem_untried, h]
      exact List.not_mem_nil
    simpa [ha] using hn
  · simp [searchResult]

/-- The entries of a round of the loop in which an address is tried. -/
def roundEntries (network : Network) (candidates tried : List String) (address : String) : Journal :=
  [.noted (.candidatesLeft (untried candidates tried).length network tried.length),
    .noted (.trying network address), .dialled (websocketUrl address)]

/-- A round in which the address accepts is the last one. -/
theorem failover_of_ok {address : String} {ha : address ∈ untried candidates tried}
    {words : WordSource} {link : Link} {t : σ} {elapsed : Millis}
    (hdraw : draw candidates tried c s = ⟨.ok (some ⟨address, ha⟩), c.withWords words, s, 0, []⟩)
    (hran : attempt address (c.withWords words) s =
      ⟨.ok link, c.withWords words, t, elapsed, [.dialled (websocketUrl address)]⟩) :
    failover network candidates tried c s =
      ⟨.ok link, c.withWords words, t, elapsed, roundEntries network candidates tried address⟩ := by
  rw [failover, Action.note_bind, Action.bind_of_eq_ok _ hdraw]
  dsimp only
  rw [Action.note_bind, Action.outcome_bind, hran]
  simp [Ran.behind, pure, Action.finish, roundEntries]

/-- After a round in which the address fails, the others are tried. -/
theorem failover_of_error {address : String} {ha : address ∈ untried candidates tried}
    {words : WordSource} {e : Error} {t : σ} {elapsed : Millis}
    (hdraw : draw candidates tried c s = ⟨.ok (some ⟨address, ha⟩), c.withWords words, s, 0, []⟩)
    (hran : attempt address (c.withWords words) s =
      ⟨.error e, c.withWords words, t, elapsed, [.dialled (websocketUrl address)]⟩) :
    failover network candidates tried c s =
      (failover network candidates (tried ++ [address]) (c.withWords words) t).behind elapsed
        (roundEntries network candidates tried address ++ [.noted (.unreachable address e)]) := by
  rw [failover, Action.note_bind, Action.bind_of_eq_ok _ hdraw]
  dsimp only
  rw [Action.note_bind, Action.outcome_bind, hran]
  dsimp only
  rw [Action.note_bind]
  simp [Ran.behind_behind, roundEntries]

theorem dials_roundEntries (address : String) :
    (roundEntries network candidates tried address).dials = [websocketUrl address] := rfl

theorem submits_roundEntries (address : String) :
    (roundEntries network candidates tried address).SubmitsOnlyIf False := by
  simp [roundEntries, Journal.SubmitsOnlyIf]

/-- A search that ends with the first attempt. -/
theorem search_of_ok {address : String} (ha : address ∈ untried candidates tried)
    {words : WordSource} {link : Link} {t : σ} {elapsed : Millis}
    (hacc : Accepts c.connectTimeout address s link t)
    (hran : failover network candidates tried c s =
      ⟨.ok link, c.withWords words, t, elapsed, roundEntries network candidates tried address⟩) :
    Search network candidates tried c s (failover network candidates tried c s) [address]
      (some link) := by
  rw [hran]
  refine ⟨.accepted hacc, List.nodup_singleton _, ?_, fun h => ?_, rfl, ⟨words, rfl⟩, rfl,
    .noted _ (.noted _ (hacc.course .done)), submits_roundEntries address⟩
  · simpa using ha
  · cases h

/-- A search that goes on after the first attempt. -/
theorem search_of_error {address : String} (ha : address ∈ untried candidates tried)
    {words : WordSource} {e : Error} {t : σ} {elapsed : Millis} {rest : List String}
    {found : Option Link} (href : Refuses c.connectTimeout address s t)
    (hran : failover network candidates tried c s =
      (failover network candidates (tried ++ [address]) (c.withWords words) t).behind elapsed
        (roundEntries network candidates tried address ++ [.noted (.unreachable address e)]))
    (hrest : Search network candidates (tried ++ [address]) (c.withWords words) t
      (failover network candidates (tried ++ [address]) (c.withWords words) t) rest found) :
    Search network candidates tried c s (failover network candidates tried c s) (address :: rest)
      found := by
  obtain ⟨hattempts, hnodup, hsubset, hcomplete, hresult, ⟨words', hclient⟩, hdials, hcourse,
    hsubmits⟩ := hrest
  rw [hran]
  have hrest : ∀ a ∈ rest, a ∈ untried candidates tried ∧ a ≠ address := by
    intro a hm
    have hu := Catalog.mem_untried.mp (hsubset a hm)
    simp only [List.mem_append, List.mem_singleton, not_or] at hu
    exact ⟨Catalog.mem_untried.mpr ⟨hu.1, hu.2.1⟩, hu.2.2⟩
  constructor
  case attempts => exact .refused href hattempts
  case nodup => exact List.nodup_cons.mpr ⟨fun hm => (hrest address hm).2 rfl, hnodup⟩
  case subset =>
    intro a hm
    rcases List.mem_cons.mp hm with rfl | hm
    · exact ha
    · exact (hrest a hm).1
  case complete =>
    intro hnone a hm
    simpa using hcomplete hnone a hm
  case result_eq => simpa [Ran.behind] using hresult
  case client_eq => exact ⟨words', hclient⟩
  case dials_eq => simp [Ran.behind, hdials, dials_roundEntries]
  case course => exact .noted _ (.noted _ (.declined href.declines (.noted _ hcourse)))
  case submits =>
    have hnote : Journal.SubmitsOnlyIf False [.noted (.unreachable address e)] := by
      simp [Journal.SubmitsOnlyIf]
    exact ((submits_roundEntries address).append hnote).append hsubmits

end Loop

/-- The loop searches among the untried candidates. -/
theorem failover_spec (network : Network) (candidates tried : List String) (c : Client) (s : σ) :
    ∃ more found,
      Search network candidates tried c s (failover network candidates tried c s) more found := by
  induction tried using failover.induct candidates generalizing c s with
  | case1 tried ih =>
    by_cases h : untried candidates tried = []
    · exact ⟨[], none, search_of_untried_nil h⟩
    · obtain ⟨⟨address, ha⟩, words, hdraw⟩ := exists_draw h c s
      rcases attempt_cases address (c.withWords words) s with
        ⟨link, t, elapsed, hacc, hran⟩ | ⟨e, t, elapsed, href, hran⟩
      · exact ⟨[address], some link, search_of_ok ha hacc (failover_of_ok hdraw hran)⟩
      · obtain ⟨rest, found, hrest⟩ := ih address ha (c.withWords words) t
        exact ⟨address :: rest, found, search_of_error ha href (failover_of_error hdraw hran) hrest⟩

/-! ### Making a link to the target -/

theorem dialTarget_of_endpoint {c : Client} {address : String} (h : c.target = .endpoint address)
    (s : σ) : dialTarget c s = attempt address c s := by
  simp [dialTarget, bind, Action.andThen, Action.client, h]

theorem dialTarget_of_unknown {c : Client} {network : Network} (h : c.target = .network network)
    (hn : c.catalog.addresses? network = none) (s : σ) :
    dialTarget c s = ⟨.error (.unknownNetwork network.name), c, s, 0, []⟩ := by
  simp [dialTarget, bind, Action.andThen, Action.client, h, Catalog.endpoints, hn, Action.fail,
    Action.finish]

theorem dialTarget_of_listed {c : Client} {network : Network} {candidates : List String}
    (h : c.target = .network network) (hn : c.catalog.addresses? network = some candidates)
    (s : σ) : dialTarget c s = failover network candidates [] c s := by
  simp [dialTarget, bind, Action.andThen, Action.client, h, Catalog.endpoints, hn]

/-- What making a link does, whatever the target: nothing is used up but random words, and the
attempts account for all that happens to the node. -/
structure Dialling (c : Client) (s : σ) (ran : Ran σ Link) : Prop where
  /-- Only random words are used up. -/
  client_eq : ∃ words, ran.client = c.withWords words
  /-- Only the link that is the result is live. -/
  course : Course none s ran.journal ran.result.toOption ran.node
  /-- Nothing is handed over. -/
  submits : ran.journal.SubmitsOnlyIf False

theorem dialling_attempt (address : String) (c : Client) (s : σ) :
    Dialling c s (attempt address c s) := by
  have hsubmits : Journal.SubmitsOnlyIf False [.dialled (websocketUrl address)] := by
    simp [Journal.SubmitsOnlyIf]
  rcases attempt_cases address c s with ⟨link, t, elapsed, hacc, ha⟩ | ⟨e, t, elapsed, href, ha⟩
  · rw [ha]
    exact ⟨⟨c.words, rfl⟩, hacc.course .done, hsubmits⟩
  · rw [ha]
    exact ⟨⟨c.words, rfl⟩, .declined href.declines .done, hsubmits⟩

theorem Search.dialling {network : Network} {candidates before tried : List String} {c : Client}
    {s : σ} {ran : Ran σ Link} {found : Option Link}
    (h : Search network candidates before c s ran tried found) : Dialling c s ran := by
  refine ⟨h.client_eq, ?_, h.submits⟩
  have hfound : ran.result.toOption = found := by
    rw [h.result_eq]
    cases found <;> rfl
  rw [hfound]
  exact h.course

theorem dialling_dialTarget (c : Client) (s : σ) : Dialling c s (dialTarget c s) := by
  cases h : c.target with
  | endpoint address =>
    rw [dialTarget_of_endpoint h]
    exact dialling_attempt address c s
  | network network =>
    cases hn : c.catalog.addresses? network with
    | none =>
      rw [dialTarget_of_unknown h hn]
      exact ⟨⟨c.words, rfl⟩, .done, fun _ _ hm => by cases hm⟩
    | some candidates =>
      rw [dialTarget_of_listed h hn]
      obtain ⟨tried, found, hsearch⟩ := failover_spec network candidates [] c s
      exact hsearch.dialling

end Client

/-! ### Opening a network -/

section Opening

variable [Node σ]

/-- What opening a network with these candidates did. -/
structure Opening (network : Network) (candidates : List String) (limit : Millis) (s : σ)
    (ran : Ran σ Unit) (tried : List String) (found : Option Link) : Prop where
  /-- The attempts: all but the last failed, and the last one only if no link was found. -/
  attempts : Attempts limit s tried found ran.node
  /-- There was an attempt. -/
  ne_nil : tried ≠ []
  /-- No address was tried twice. -/
  nodup : tried.Nodup
  /-- Only candidates were tried. -/
  subset : tried ⊆ candidates
  /-- There were at most as many attempts as there are different candidates. -/
  length_le : tried.length ≤ candidates.dedup.length
  /-- One link was asked for in each attempt, and no other. -/
  dials_eq : ran.journal.dials = tried.map websocketUrl
  /-- The link that was found is the live one. -/
  link_eq : ran.client.link = found
  /-- With a link, opening succeeds. -/
  of_found : found.isSome → ran.result = .ok ()
  /-- Without a link every candidate was tried, and the error lists them. -/
  of_not_found : found = none →
    tried.Perm candidates.dedup ∧ ran.result = .error (.exhausted network tried)

/-- An address accepts when its turn comes, whichever candidates failed before it. -/
def AcceptsInTurn (limit : Millis) (candidates : List String) (s : σ) (address : String) : Prop :=
  ∀ before t, before ⊆ candidates → address ∉ before → Attempts limit s before none t →
    ∃ link u, Accepts limit address t link u

theorem Attempts.ne_nil_of_some {limit : Millis} {s t : σ} {tried : List String} {link : Link}
    (h : Attempts limit s tried (some link) t) : tried ≠ [] := by
  rintro rfl
  cases h

namespace Client

variable {c : Client} {network : Network} {candidates : List String}

/-- Connecting leaves alone what decides what to connect to, and how long an attempt may take. -/
theorem connect_keeps (c : Client) (s : σ) :
    (connect c s).client.target = c.target ∧ (connect c s).client.catalog = c.catalog ∧
      (connect c s).client.connectTimeout = c.connectTimeout := by
  obtain ⟨words, hclient⟩ := (dialling_dialTarget c.connecting s).client_eq
  rw [connect_eq, hclient]
  cases (dialTarget c.connecting s).result with
  | ok link => exact ⟨rfl, rfl, rfl⟩
  | error e => exact ⟨rfl, rfl, rfl⟩

/-- Connecting to a listed network is an opening of it. -/
theorem exists_opening (h : c.target = .network network)
    (hn : c.catalog.addresses? network = some candidates) (s : σ) :
    ∃ tried found, Opening network candidates c.connectTimeout s (connect c s) tried found := by
  obtain ⟨tried, found, hsearch⟩ := failover_spec network candidates [] c.connecting s
  obtain ⟨hattempts, hnodup, hsubset, hcomplete, hresult, ⟨words, hclient⟩, hdials, -, -⟩ :=
    hsearch
  have hran : dialTarget c.connecting s = failover network candidates [] c.connecting s :=
    dialTarget_of_listed (c := c.connecting) h hn s
  have hsub : tried ⊆ candidates := fun address hm => (Catalog.mem_untried.mp (hsubset address hm)).1
  have hmem : ∀ address, address ∈ tried → address ∈ candidates.dedup := fun address hm =>
    List.mem_dedup.mpr (hsub hm)
  refine ⟨tried, found, ?_⟩
  rw [connect_eq, hran]
  constructor
  case attempts => exact hattempts
  case ne_nil =>
    cases found with
    | some link => exact hattempts.ne_nil_of_some
    | none =>
      obtain ⟨address, ha⟩ := List.exists_mem_of_ne_nil _ (c.catalog.ne_nil network candidates hn)
      exact List.ne_nil_of_mem (hcomplete rfl address ha)
  case nodup => exact hnodup
  case subset => exact hsub
  case length_le => exact (hnodup.subperm hmem).length_le
  case dials_eq =>
    simp only [Journal.dials_append, Journal.dials_reported_cons, dials_releaseEntries,
      dials_settlement, hdials, List.nil_append, List.append_nil]
  case link_eq =>
    rw [hresult, hclient]
    cases found <;> rfl
  case of_found =>
    intro hfound
    obtain ⟨link, rfl⟩ := Option.isSome_iff_exists.mp hfound
    rw [hresult]
    rfl
  case of_not_found =>
    rintro rfl
    refine ⟨(List.perm_ext_iff_of_nodup hnodup candidates.nodup_dedup).mpr fun address => ?_, ?_⟩
    · exact ⟨hmem address, fun ha => hcomplete rfl address (List.mem_dedup.mp ha)⟩
    · rw [hresult]
      rfl

/-- Opening succeeds when some candidate accepts in its turn. -/
theorem result_of_acceptsInTurn (h : c.target = .network network)
    (hn : c.catalog.addresses? network = some candidates) {address : String}
    (hmem : address ∈ candidates) {s : σ}
    (hacc : AcceptsInTurn c.connectTimeout candidates s address) :
    (connect c s).result = .ok () := by
  obtain ⟨tried, found, hopening⟩ := exists_opening h hn s
  cases found with
  | some link => exact hopening.of_found rfl
  | none =>
    -- otherwise the address was tried, at a time when it accepts, and failed
    exfalso
    obtain ⟨hperm, -⟩ := hopening.of_not_found rfl
    have htried : address ∈ tried := hperm.mem_iff.mpr (List.mem_dedup.mpr hmem)
    obtain ⟨before, rest, rfl, hbefore⟩ := List.eq_append_cons_of_mem htried
    obtain ⟨t, v, hfailed, hrefuses⟩ := hopening.attempts.split
    have hsub : before ⊆ candidates := fun a ha => hopening.subset (List.mem_append_left _ ha)
    obtain ⟨link, u, haccepts⟩ := hacc before t hsub hbefore hfailed
    exact haccepts.not_refuses hrefuses

end Client

end Opening

/-- **Failover is complete and repeats nothing.** A client that is to connect to a network that its
catalog does not list ends with an error of its own kind, and asks for no link. With a listed network
it tries different addresses of the network, one after the other, until one accepts; the link that
comes of it is the live one. Only when all have failed connecting ends with an error, and the error
lists all attempts in order. So it succeeds if any address accepts in its turn, whatever the random
words are; and the next time all addresses are candidates again. -/
theorem opening_of_network [Node σ] {c : Client} {network : Network}
    (h : c.target = .network network) (s : σ) :
    (c.catalog.addresses? network = none →
      (Client.connect c s).result = .error (.unknownNetwork network.name) ∧
      (Client.connect c s).journal.dials = [] ∧ (Client.connect c s).node = s) ∧
    ∀ candidates, c.catalog.addresses? network = some candidates →
      (∃ tried found,
        Opening network candidates c.connectTimeout s (Client.connect c s) tried found) ∧
      (∀ address ∈ candidates, AcceptsInTurn c.connectTimeout candidates s address →
        (Client.connect c s).result = .ok ()) ∧
      ∀ t : σ, ∃ tried found,
        Opening network candidates c.connectTimeout t
          (Client.connect (Client.connect c s).client t) tried found := by
  constructor
  · intro hn
    have hran : Client.dialTarget c.connecting s =
        ⟨.error (.unknownNetwork network.name), c.connecting, s, 0, []⟩ :=
      Client.dialTarget_of_unknown (c := c.connecting) h hn s
    rw [Client.connect_eq, hran]
    exact ⟨rfl, by simp, rfl⟩
  · intro candidates hn
    refine ⟨Client.exists_opening h hn s, fun address hmem hacc =>
      Client.result_of_acceptsInTurn h hn hmem hacc, fun t => ?_⟩
    obtain ⟨htarget, hcatalog, htimeout⟩ := Client.connect_keeps c s
    rw [← htarget] at h
    rw [← hcatalog] at hn
    rw [← htimeout]
    exact Client.exists_opening h hn t

/-! ### A dead address -/

namespace ScriptedNode

variable {node t : ScriptedNode} {limit : Millis} {address : String}

/-- An undisturbed node answers at once. -/
theorem dial_of_undisturbed (h : node.script = []) (url : String) :
    Node.dial url node = ⟨some 0, (node.accept url).1, (node.accept url).2, node⟩ := by
  have hrest : { node with script := [] } = node := by rw [← h]
  simp [Node.dial, reply, h, Disturbance.none, hrest]

/-- An attempt that fails leaves an undisturbed node as it was. -/
theorem eq_of_refuses (h : node.script = []) (href : Refuses limit address node t) : t = node := by
  rcases href with ⟨delay, e, -, -, hr, rfl⟩ | ⟨hlate, rfl⟩
  · rw [dial_of_undisturbed h] at hr ⊢
    simp only [accept] at hr ⊢
    split at hr <;> simp_all
  · rw [dial_of_undisturbed h]

theorem eq_of_attempts {tried : List String} (h : node.script = [])
    (hattempts : Attempts limit node tried none t) : t = node := by
  induction tried with
  | nil =>
    cases hattempts
    rfl
  | cons first rest ih =>
    obtain ⟨u, href, hrest⟩ := hattempts.of_cons
    obtain rfl := eq_of_refuses h href
    exact ih hrest

/-- An address that is not dead accepts whenever its turn comes. -/
theorem acceptsInTurn (h : node.script = []) (halive : Catalog.websocketUrl address ∉ node.dead)
    (candidates : List String) : AcceptsInTurn limit candidates node address := by
  intro before t _ _ hattempts
  obtain rfl := eq_of_attempts h hattempts
  refine ⟨⟨Catalog.websocketUrl address, t.links⟩, { t with links := t.links + 1 }, ?_⟩
  simp [Accepts, dial_of_undisturbed h, accept, halive]

end ScriptedNode

/-- A node that refuses links to one address. -/
def halfDeadNode : ScriptedNode := { ScriptedNode.empty with dead := ["ws://b:2"] }

/-- A client for a network with two addresses, one of which is listed twice. -/
def searchingClient : Client :=
  { Client.start (.network .akira) (.ofList [7, 0]) with
    catalog := ⟨fun _ => some ["b:2", "a:1", "b:2"], by simp⟩ }

/-- The address that is not dead is found. -/
theorem opening_of_network_half_dead :
    searchingClient.target = .network .akira ∧
    searchingClient.catalog.addresses? .akira = some ["b:2", "a:1", "b:2"] ∧
    AcceptsInTurn searchingClient.connectTimeout ["b:2", "a:1", "b:2"] halfDeadNode "a:1" ∧
    (Client.connect searchingClient halfDeadNode).result = .ok () := by
  have haccepts : AcceptsInTurn searchingClient.connectTimeout ["b:2", "a:1", "b:2"] halfDeadNode
      "a:1" := ScriptedNode.acceptsInTurn rfl (by decide) _
  have hopening := (opening_of_network (c := searchingClient) rfl halfDeadNode).2 _ rfl
  exact ⟨rfl, rfl, haccepts, hopening.2.1 "a:1" (by simp) haccepts⟩

end LedgerClient
