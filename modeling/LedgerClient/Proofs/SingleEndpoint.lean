import LedgerClient.Proofs.LinkDrop
import LedgerClient.Proofs.Memoryless
import LedgerClient.Proofs.Session
import LedgerClient.Proofs.Setup

/-!
# A single endpoint

A client that is made for one endpoint asks for links to this endpoint and to no other address, one in
each opening, whatever else is done with it. The endpoint may be given with blanks around it.

An endpoint of nothing but blanks is no endpoint, though. The configuration for one keeps the network of
the standard configuration, so such a client is one for the primary main network, and it searches among
the addresses of that network.

## The model

What a client connects to is fixed when it is made, so the sessions of a client are looked at, with any
steps in them. `ClientConfig.forEndpoint` is the configuration for an endpoint, and `Text.Blanks` says
what is blank.

## What is proved

* `ClientConfig.target_forEndpoint_of_bare`, `ClientConfig.target_forEndpoint_of_blanks`: what the
  configuration for an endpoint leads to.
* `Step.run_keeps`: no step changes what the client connects to.
* `Session.dials_run_of_endpoint`, `Session.dials_run_of_network`: what a session asks for, by induction
  on its steps.
* `single_endpoint_unless_blank`: the rule in one statement.
* `blank_endpoint_leads_to_network`: an endpoint that leads to the main network.
-/

namespace LedgerClient

open Catalog (websocketUrl)

variable {σ : Type}

/-! ### Configurations for an endpoint -/

namespace ClientConfig

variable {endpoint : String}

theorem target_forEndpoint_of_bare (h : ¬ Text.Blanks endpoint.toList) :
    (forEndpoint endpoint).target = .ok (.endpoint (Text.trim endpoint)) := by
  rw [target_eq_endpoint_iff, bareEndpoint?_eq_some_iff]
  exact ⟨endpoint, rfl, h, rfl⟩

theorem target_forEndpoint_of_blanks (h : Text.Blanks endpoint.toList) :
    (forEndpoint endpoint).target = .ok (.network .kusanagi) := by
  rw [target_eq_network_iff, bareEndpoint?_eq_none_iff]
  refine ⟨fun text htext => ?_, rfl⟩
  obtain rfl : endpoint = text := Option.some.inj htext
  exact h

end ClientConfig

/-! ### What a step asks for -/

namespace Client.Opens

variable [Node σ] {m : Action σ Unit} {c : Client}

/-- Opening a listed network asks for links to some of its addresses, and to no others. -/
theorem dials_of_network (hm : Opens m) {network : Network} {candidates : List String}
    (h : c.target = .network network) (hn : c.catalog.addresses? network = some candidates) (s : σ) :
    (m c s).journal.dials ≠ [] ∧ (m c s).journal.dials ⊆ candidates.map websocketUrl := by
  obtain ⟨c', journal, hc, hj, hran⟩ := hm.exists_connect c s
  rw [← hc.target_eq] at h
  rw [← hc.catalog_eq] at hn
  obtain ⟨tried, found, hopening⟩ := exists_opening h hn s
  rw [hran, Ran.behind, Journal.dials_append, hj, List.nil_append, hopening.dials_eq]
  exact ⟨by simpa using hopening.ne_nil, List.map_subset _ hopening.subset⟩

/-- Opening changes neither the target nor the catalog. -/
theorem keeps (hm : Opens m) (c : Client) (s : σ) :
    (m c s).client.target = c.target ∧ (m c s).client.catalog = c.catalog := by
  obtain ⟨c', journal, hc, -, hran⟩ := hm.exists_connect c s
  obtain ⟨htarget, hcatalog, -⟩ := connect_keeps c' s
  rw [hran]
  exact ⟨htarget.trans hc.target_eq, hcatalog.trans hc.catalog_eq⟩

end Client.Opens

namespace Step

/-- The step changes the addresses of the networks. -/
def ChangesCatalog (step : Step) : Prop := ∃ catalog, step = .adjust (.catalog catalog)

variable [Node σ] {step : Step} {c : Client}

/-- No step changes what the client connects to, and a change of the catalog is the only one that
changes the addresses of the networks. -/
theorem run_keeps (step : Step) (c : Client) (s : σ) :
    (step.run c s).client.target = c.target ∧
      (¬ step.ChangesCatalog → (step.run c s).client.catalog = c.catalog) := by
  cases step with
  | connect =>
    obtain ⟨htarget, hcatalog⟩ := Client.Opens.connect.keeps c s
    exact ⟨htarget, fun _ => hcatalog⟩
  | reconnect =>
    obtain ⟨htarget, hcatalog⟩ := Client.Opens.reconnect.keeps c s
    exact ⟨htarget, fun _ => hcatalog⟩
  | disconnect =>
    have hrun := Client.disconnect_eq c s
    rw [run, hrun]
    exact ⟨rfl, fun _ => rfl⟩
  | operate op =>
    have hsettings := Client.sameSettings_after c (op.run c s).result
    rw [run, op.observant_run.client_eq]
    exact ⟨hsettings.target, fun _ => hsettings.catalog⟩
  | adjust setting =>
    cases setting with
    | catalog catalog => exact ⟨rfl, fun h => absurd ⟨catalog, rfl⟩ h⟩
    | _ => exact ⟨rfl, fun _ => rfl⟩
  | receive => exact ⟨rfl, fun _ => rfl⟩
  | hangUp => exact ⟨rfl, fun _ => rfl⟩

/-- Only an opening asks for links. -/
theorem dials_run_of_not_opening (h : step.isOpening = false) (c : Client) (s : σ) :
    (step.run c s).journal.dials = [] := by
  cases step with
  | connect => cases h
  | reconnect => cases h
  | disconnect =>
    have hrun := Client.disconnect_eq c s
    rw [run, hrun]
    exact Client.dials_farewell c
  | operate op => exact op.observant_run.dials_eq c s
  | _ => rfl

/-- A step that makes a link is one of the two ways to open. -/
theorem exists_opens (h : step.isOpening = true) (c : Client) (s : σ) :
    ∃ m : Action σ Unit, Client.Opens m ∧ (step.run c s).journal = (m c s).journal := by
  cases step with
  | connect => exact ⟨_, .connect, rfl⟩
  | reconnect => exact ⟨_, .reconnect, rfl⟩
  | _ => cases h

end Step

/-! ### What a session asks for -/

namespace Session

variable [Node σ] {c : Client}

theorem target_run (steps : List Step) (c : Client) (s : σ) :
    (run steps c s).client.target = c.target := by
  refine run_induction (motive := fun session => session.client.target = c.target) rfl ?_
  intro session step _ h
  exact (step.run_keeps session.client session.node).1.trans h

theorem catalog_run {steps : List Step} (h : ∀ step ∈ steps, ¬ step.ChangesCatalog) (c : Client)
    (s : σ) : (run steps c s).client.catalog = c.catalog := by
  refine run_induction (motive := fun session => session.client.catalog = c.catalog) rfl ?_
  intro session step hm hsession
  exact ((step.run_keeps session.client session.node).2 (h step hm)).trans hsession

/-- With a single endpoint for its target, a client asks for one link to it in each opening. -/
theorem dials_run_of_endpoint {address : String} (h : c.target = .endpoint address)
    (steps : List Step) (s : σ) :
    (run steps c s).journal.dials =
      (steps.filter Step.isOpening).map fun _ => websocketUrl address := by
  induction steps using List.reverseRecOn with
  | nil => rfl
  | append_singleton steps step ih =>
    have htarget : (run steps c s).client.target = .endpoint address := (target_run steps c s).trans h
    rw [run_append_singleton, take, Journal.dials_append, ih, List.filter_append, List.map_append]
    congr 1
    cases hopening : step.isOpening with
    | true =>
      obtain ⟨m, hm, hjournal⟩ := step.exists_opens hopening (run steps c s).client (run steps c s).node
      rw [hjournal, (hm.singleAttempt htarget _).dials_eq, List.filter_singleton, hopening]
      rfl
    | false =>
      rw [Step.dials_run_of_not_opening hopening, List.filter_singleton, hopening]
      rfl

/-- With a network for its target, a client asks for links to addresses of the network only, at least
one in each opening. -/
theorem dials_run_of_network {network : Network} {candidates : List String}
    (h : c.target = .network network) (hn : c.catalog.addresses? network = some candidates)
    {steps : List Step} (hsteps : ∀ step ∈ steps, ¬ step.ChangesCatalog) (s : σ) :
    (run steps c s).journal.dials ⊆ candidates.map websocketUrl ∧
      (steps.filter Step.isOpening).length ≤ (run steps c s).journal.dials.length := by
  induction steps using List.reverseRecOn with
  | nil => exact ⟨List.nil_subset _, Nat.le_refl _⟩
  | append_singleton steps step ih =>
    have hbefore : ∀ step ∈ steps, ¬ step.ChangesCatalog := fun other hm =>
      hsteps other (List.mem_append_left _ hm)
    have htarget : (run steps c s).client.target = .network network := (target_run steps c s).trans h
    have hcatalog : (run steps c s).client.catalog.addresses? network = some candidates := by
      rw [catalog_run hbefore, hn]
    obtain ⟨hsubset, hlength⟩ := ih hbefore
    rw [run_append_singleton, take, Journal.dials_append, List.filter_append, List.length_append,
      List.length_append, List.filter_singleton]
    cases hopening : step.isOpening with
    | true =>
      obtain ⟨m, hm, hjournal⟩ := step.exists_opens hopening (run steps c s).client (run steps c s).node
      obtain ⟨hne, hsub⟩ := hm.dials_of_network htarget hcatalog (run steps c s).node
      rw [hjournal]
      exact ⟨List.append_subset.mpr ⟨hsubset, hsub⟩,
        Nat.add_le_add hlength (List.length_pos_iff.mpr hne)⟩
    | false =>
      rw [Step.dials_run_of_not_opening hopening, List.append_nil]
      exact ⟨hsubset, hlength⟩

end Session

/-- Every endpoint makes a client, for the endpoint or for the network that is left. -/
theorem Client.exists_ofConfig_forEndpoint {endpoint : String} {target : Target}
    (h : (ClientConfig.forEndpoint endpoint).target = .ok target) (words : WordSource) :
    ∃ c, Client.ofConfig (.forEndpoint endpoint) words = .ok c ∧ c.target = target ∧
      c.catalog = .builtin := by
  have hlt : 3 * (ClientConfig.forEndpoint endpoint).blockTimeSecs.toNat < UInt64.size :=
    show 3 * ClientConfig.blockTimeDefault.toNat < UInt64.size by decide
  exact ⟨_, ofConfig_eq_ok_iff.mpr ⟨hlt, target, h, rfl⟩, rfl, rfl⟩

/-- A blank endpoint makes a client for the primary main network, with its built-in addresses. -/
theorem Client.exists_ofConfig_forEndpoint_of_blanks {endpoint : String}
    (h : Text.Blanks endpoint.toList) (words : WordSource) :
    ∃ c, Client.ofConfig (.forEndpoint endpoint) words = .ok c ∧ c.target = .network .kusanagi ∧
      c.catalog.addresses? .kusanagi = some (Catalog.entrypoints .kusanagi) := by
  obtain ⟨c, hc, hnetwork, hcatalog⟩ :=
    exists_ofConfig_forEndpoint (ClientConfig.target_forEndpoint_of_blanks h) words
  exact ⟨c, hc, hnetwork, by rw [hcatalog]; rfl⟩

/-- **A single endpoint, unless it is blank.** The configuration for an endpoint always makes a client.
If the endpoint has anything but blanks in it, the client's target is the endpoint without the blanks
around it, and in every session the client asks for exactly one link in each opening, to that endpoint,
and for none otherwise. If the endpoint is nothing but blanks, the client's target is the primary main
network; in every session in which the addresses of the networks are not changed it asks for links to
the built-in addresses of that network, at least one in each opening. -/
theorem single_endpoint_unless_blank [Node σ] (endpoint : String) (words : WordSource) :
    ∃ c, Client.ofConfig (.forEndpoint endpoint) words = .ok c ∧
      (ClientConfig.forEndpoint endpoint).target = .ok c.target ∧
      (¬ Text.Blanks endpoint.toList →
        c.target = .endpoint (Text.trim endpoint) ∧
        ∀ steps (s : σ), (Session.run steps c s).journal.dials =
          (steps.filter Step.isOpening).map fun _ => websocketUrl (Text.trim endpoint)) ∧
      (Text.Blanks endpoint.toList →
        c.target = .network .kusanagi ∧
        ∀ steps (s : σ), (∀ step ∈ steps, ¬ step.ChangesCatalog) →
          (Session.run steps c s).journal.dials ⊆
            (Catalog.entrypoints .kusanagi).map websocketUrl ∧
          (steps.filter Step.isOpening).length ≤ (Session.run steps c s).journal.dials.length) := by
  by_cases hblanks : Text.Blanks endpoint.toList
  · have htarget := ClientConfig.target_forEndpoint_of_blanks hblanks
    obtain ⟨c, hc, hnetwork, hlisted⟩ :=
      Client.exists_ofConfig_forEndpoint_of_blanks hblanks words
    refine ⟨c, hc, by rw [htarget, hnetwork], fun hbare => absurd hblanks hbare, fun _ => ?_⟩
    exact ⟨hnetwork, fun steps s hsteps => Session.dials_run_of_network hnetwork hlisted hsteps s⟩
  · have htarget := ClientConfig.target_forEndpoint_of_bare hblanks
    obtain ⟨c, hc, haddress, -⟩ := Client.exists_ofConfig_forEndpoint htarget words
    refine ⟨c, hc, by rw [htarget, haddress], fun _ => ?_, fun h => absurd h hblanks⟩
    exact ⟨haddress, fun steps s => Session.dials_run_of_endpoint haddress steps s⟩

/-- An endpoint with blanks around it is asked for without them, once in each opening. -/
theorem single_endpoint_of_padded :
    ¬ Text.Blanks "\u2003a:1\n".toList ∧
    ∃ c, Client.ofConfig (.forEndpoint "\u2003a:1\n") (.ofList []) = .ok c ∧
      c.target = .endpoint "a:1" ∧
      (Session.run [.connect, .receive, .reconnect] c ScriptedNode.empty).journal.dials =
        ["ws://a:1", "ws://a:1"] := by
  have hbare : ¬ Text.Blanks "\u2003a:1\n".toList := by decide
  obtain ⟨c, hc, -, hsingle, -⟩ :=
    single_endpoint_unless_blank (σ := ScriptedNode) "\u2003a:1\n" (.ofList [])
  obtain ⟨htarget, hdials⟩ := hsingle hbare
  exact ⟨hbare, c, hc, htarget, hdials [.connect, .receive, .reconnect] ScriptedNode.empty⟩

/-- The client that is made for an endpoint of two blanks asks for a link to an address of the main
network. -/
theorem blank_endpoint_leads_to_network :
    (ClientConfig.forEndpoint "  ").target = .ok (.network .kusanagi) ∧
    ∃ c, Client.ofConfig (.forEndpoint "  ") (.ofList []) = .ok c ∧
      ∃ url ∈ (Session.run [.connect] c ScriptedNode.empty).journal.dials,
        url ∈ (Catalog.entrypoints .kusanagi).map websocketUrl ∧ url ≠ websocketUrl "  " := by
  have hblanks : Text.Blanks "  ".toList := by decide
  obtain ⟨c, hc, hnetwork, hlisted⟩ :=
    Client.exists_ofConfig_forEndpoint_of_blanks hblanks (.ofList [])
  have hkept : ∀ step ∈ [Step.connect], ¬ step.ChangesCatalog := by
    intro step hm
    rw [List.mem_singleton.mp hm]
    rintro ⟨catalog, h⟩
    cases h
  obtain ⟨hsubset, hlength⟩ :=
    Session.dials_run_of_network hnetwork hlisted hkept ScriptedNode.empty
  obtain ⟨url, hurl⟩ := List.exists_mem_of_length_pos hlength
  have hother : ∀ url ∈ (Catalog.entrypoints .kusanagi).map websocketUrl, url ≠ websocketUrl "  " := by
    decide +kernel
  exact ⟨ClientConfig.target_forEndpoint_of_blanks hblanks, c, hc, url, hurl, hsubset hurl,
    hother url (hsubset hurl)⟩

end LedgerClient
