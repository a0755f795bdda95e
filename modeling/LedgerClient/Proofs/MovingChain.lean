import LedgerClient.Proofs.Advertised

/-!
# Weights of a chain that moves on

The weights of a peer are stored in two entries, and a client reads one after the other, each as it
is in the latest state. Between the two reads the chain may move on. So the destinations may come from
one state and the weights from a later one, and when their numbers agree nothing shows it. This module
makes precise, and proves, what is true of the read all the same.

## The model

A `MovingChain` is a view of a node: a sequence of states, each with its entries, and how far the chain
has come at each moment. A read of the latest state shows some state that the chain was in while the
read went on. `MovingChain.Shows` says that an entry is there in a state and decodes to something.

## What is proved

* `MovingChain.exists_of_reads`: a single read shows the entry of one state.
* `weights_of_moving_chain`: destinations and weights are those of two states of the chain during the
  read, the second no earlier than the first; with one of the entries unchanged between the two, one
  state has both.
* `weights_of_no_state`: weights that are read though no state of the chain has them.
-/

namespace LedgerClient

variable {σ α : Type}

/-! ### Chains that move on -/

/-- A view of a node: the states of a chain one after the other, and where the chain is. -/
structure MovingChain (σ : Type) [Node σ] where
  /-- The entries of each of the states. -/
  stored : Nat → StorageItem → Option Value
  /-- How many times the chain has moved on. -/
  position : σ → Nat
  /-- A read of the latest state shows one that the chain was in while the read went on. -/
  of_fetch : ∀ {link : Link} {item : StorageItem} {s : σ} {v : Option Value},
    (Node.ask link (.fetch item none) s).result = .ok v →
      ∃ p, position s ≤ p ∧ p ≤ position (Node.ask link (.fetch item none) s).answered ∧
        v = stored p item

namespace MovingChain

variable [Node σ] (chain : MovingChain σ)

/-- An entry is there in a state, and decodes to `a`. -/
def Shows (p : Nat) (item : StorageItem) (decode : Value → Except Error α) (a : α) : Prop :=
  ∃ v, chain.stored p item = some v ∧ decode v = .ok a

/-- A read entry is that of a state during the read. -/
theorem exists_of_reads {link : Link} {limit : Millis} {item : StorageItem}
    {decode : Value → Except Error α} {s t : σ} {a : Option α}
    (h : Reads link limit item decode s a t) :
    ∃ p, chain.position s ≤ p ∧ p ≤ chain.position t ∧
      decodeEntry decode (chain.stored p item) = .ok a := by
  obtain ⟨v, ⟨-, hresult, rfl⟩, hdecode⟩ := h
  obtain ⟨p, hfrom, hto, rfl⟩ := chain.of_fetch hresult
  exact ⟨p, hfrom, hto, hdecode⟩

end MovingChain

/-- What is decoded is what a present entry decodes to. -/
theorem decodeEntry_of_some {decode : Value → Except Error α} {entry : Option Value} {a : Option α}
    {v : Value} (h : decodeEntry decode entry = .ok a) (hv : entry = some v) :
    ∃ b, decode v = .ok b ∧ a = some b := by
  subst hv
  obtain ⟨b, hdecode, rfl⟩ := map_eq_ok_iff.mp h
  exact ⟨b, hdecode, rfl⟩

/-- Something is decoded only of a present entry. -/
theorem exists_of_decodeEntry {decode : Value → Except Error α} {entry : Option Value} {b : α}
    (h : decodeEntry decode entry = .ok (some b)) : ∃ v, entry = some v ∧ decode v = .ok b := by
  cases entry with
  | none => cases h
  | some v =>
    obtain ⟨b', hd, hb⟩ := decodeEntry_of_some h rfl
    cases hb
    exact ⟨v, rfl, hd⟩

/-! ### Reading weights -/

namespace Client

/-- What is put together is what was read, if anything was; something absent counts as empty. -/
theorem of_joinWeights {uid : UInt64} {dests : Option (List UInt64)} {values : Option (List UInt32)}
    {w : WeightVector} (h : joinWeights uid dests values = .ok (some w)) :
    w.source = uid ∧ w.dests = dests.getD [] ∧ w.values = values.getD [] ∧
      (dests ≠ none ∨ values ≠ none) := by
  have hpresent : dests ≠ none ∨ values ≠ none := by
    cases dests with
    | some d => exact .inl (Option.some_ne_none d)
    | none =>
      cases values with
      | some x => exact .inr (Option.some_ne_none x)
      | none => cases h
  have hmake : WeightVector.make uid (dests.getD []) (values.getD []) = .ok w := by
    unfold joinWeights at h
    split at h
    · cases h
    · obtain ⟨made, hmade, hw⟩ := map_eq_ok_iff.mp h
      cases hw
      exact hmade
  unfold WeightVector.make at hmake
  split at hmake
  · cases hmake
    exact ⟨rfl, rfl, rfl, hpresent⟩
  · cases hmake

variable [Node σ] {uid : UInt64} {c : Client} {s : σ} {w : WeightVector}

/-- Weights are read when both entries are, one after the other. -/
theorem reads_of_weights {found : Option WeightVector}
    (h : (weights uid c s).result = .ok found) :
    ∃ link t dests values,
      Reads link c.queryTimeout (.weightUids uid) Value.uidList s dests t ∧
      Reads link c.queryTimeout (.weightVals uid) Value.weightList t values
        (weights uid c s).node ∧
      joinWeights uid dests values = .ok found := by
  obtain ⟨u, hu⟩ := Ran.result_eq_ok_iff.mp h
  have hnode := (Ran.success?_eq_some_iff.mp hu).2
  obtain ⟨dests, t, hdests, hrest⟩ := Action.success?_bind_iff.mp hu
  have hclient : (weightUids uid c s).client = c := by
    have hobservant : Action.Observant (weightUids (σ := σ) uid) :=
      observant_queryEntry _ Value.harmless_uidList
    exact hobservant.client_of_success hdests
  rw [hclient] at hrest
  obtain ⟨values, u', hvalues, hjoin⟩ := Action.success?_bind_iff.mp hrest
  obtain ⟨hresult, rfl⟩ := Ran.success?_eq_some_iff.mp hjoin
  obtain ⟨link, hc, hfirst⟩ := queryEntry_iff.mp hdests
  obtain ⟨link', hc', hsecond⟩ := queryEntry_iff.mp hvalues
  cases hc.symm.trans hc'
  rw [hnode]
  exact ⟨link, t, dests, values, hfirst, hsecond, hresult⟩

end Client

/-- **Weights of a moving chain.** Let the chain move on in any way while the weights of a peer are
read. If weights are read, then there are two states that the chain was in during the read, the second
no earlier than the first, such that the destinations are those of the first and the weights those of
the second: where the entries are present, they decode to them. One of the entries is present, and both
are unless the weights are empty. With both present, and one of them the same in both states, one state
has both. -/
theorem weights_of_moving_chain [Node σ] (chain : MovingChain σ) {uid : UInt64} {c : Client} {s : σ}
    {w : WeightVector} (h : (Client.weights uid c s).result = .ok (some w)) :
    w.source = uid ∧ ∃ p q, chain.position s ≤ p ∧ p ≤ q ∧
      q ≤ chain.position (Client.weights uid c s).node ∧
      let destsAt r := chain.Shows r (.weightUids uid) Value.uidList w.dests
      let valuesAt r := chain.Shows r (.weightVals uid) Value.weightList w.values
      (∀ v, chain.stored p (.weightUids uid) = some v → v.uidList = .ok w.dests) ∧
      (∀ v, chain.stored q (.weightVals uid) = some v → v.weightList = .ok w.values) ∧
      (destsAt p ∨ valuesAt q) ∧
      (w.dests ≠ [] → destsAt p ∧ valuesAt q) ∧
      (destsAt p ∧ valuesAt q →
        chain.stored p (.weightUids uid) = chain.stored q (.weightUids uid) ∨
          chain.stored p (.weightVals uid) = chain.stored q (.weightVals uid) →
        ∃ r, (r = p ∨ r = q) ∧ destsAt r ∧ valuesAt r) := by
  obtain ⟨link, t, dests, values, hfirst, hsecond, hjoin⟩ := Client.reads_of_weights h
  obtain ⟨p, hfrom, hmiddle, hdests⟩ := chain.exists_of_reads hfirst
  obtain ⟨q, hmiddle', hto, hvalues⟩ := chain.exists_of_reads hsecond
  obtain ⟨hsource, hd, hv, hpresent⟩ := Client.of_joinWeights hjoin
  refine ⟨hsource, p, q, hfrom, le_trans hmiddle hmiddle', hto, ?_⟩
  intro destsAt valuesAt
  have huids : dests ≠ none → destsAt p := by
    intro hne
    obtain ⟨d, rfl⟩ := Option.ne_none_iff_exists'.mp hne
    obtain ⟨v, hstored, hdecode⟩ := exists_of_decodeEntry hdests
    exact ⟨v, hstored, by rw [hdecode, hd, Option.getD_some]⟩
  have hvals : values ≠ none → valuesAt q := by
    intro hne
    obtain ⟨x, rfl⟩ := Option.ne_none_iff_exists'.mp hne
    obtain ⟨v, hstored, hdecode⟩ := exists_of_decodeEntry hvalues
    exact ⟨v, hstored, by rw [hdecode, hv, Option.getD_some]⟩
  refine ⟨?_, ?_, hpresent.imp huids hvals, fun hne => ?_, fun hshown hsame => ?_⟩
  · intro v hstored
    obtain ⟨d, hdecode, rfl⟩ := decodeEntry_of_some hdests hstored
    rw [hdecode, hd, Option.getD_some]
  · intro v hstored
    obtain ⟨x, hdecode, rfl⟩ := decodeEntry_of_some hvalues hstored
    rw [hdecode, hv, Option.getD_some]
  · -- What is absent counts as empty, and the two lists are of one length.
    refine ⟨huids ?_, hvals ?_⟩
    · rintro rfl
      exact hne hd
    · rintro rfl
      have hempty : w.dests.length = 0 := by rw [w.length_eq, hv, Option.getD_none, List.length_nil]
      exact hne (List.length_eq_zero_iff.mp hempty)
  · -- With the destinations unchanged the second state has both, with the weights unchanged the first.
    obtain ⟨hshown, hshown'⟩ := hshown
    rcases hsame with hsame | hsame
    · obtain ⟨v, hstored, hdecode⟩ := hshown
      exact ⟨q, .inr rfl, ⟨v, hsame ▸ hstored, hdecode⟩, hshown'⟩
    · obtain ⟨v, hstored, hdecode⟩ := hshown'
      exact ⟨p, .inl rfl, hshown, ⟨v, hsame ▸ hstored, hdecode⟩⟩

/-! ### A chain that moves on between the two reads -/

/-- A node whose chain moves on with every request. -/
structure RestlessNode where
  /-- How many times the chain has moved on. -/
  moves : Nat

namespace RestlessNode

/-- In the first state a peer gives weights to the peers 1 and 2, in all later ones to 3 and 4. -/
def stored : Nat → StorageItem → Option Value
  | 0, .weightUids _ => some (.list [.ofNat 1, .ofNat 2])
  | 0, .weightVals _ => some (.list [.ofNat 10, .ofNat 20])
  | _ + 1, .weightUids _ => some (.list [.ofNat 3, .ofNat 4])
  | _ + 1, .weightVals _ => some (.list [.ofNat 30, .ofNat 40])
  | _, _ => none

/-- The answer to a request. -/
def answer (node : RestlessNode) : (request : Request) → Except Error request.Answer
  | .fetch item _ => .ok (stored node.moves item)
  | .entries _ _ => .ok []
  | .blockNumber _ => .ok (.ofNat node.moves)
  | .blockHash _ => .ok none
  | .nonce _ => .ok 0
  | .sign _ _ _ => .ok []
  | .submit _ => .ok (.ofList [])

instance : Node RestlessNode where
  dial url node := ⟨some 0, .ok ⟨url, 0⟩, node, node⟩
  ask _ request node := ⟨some 0, node.answer request, ⟨node.moves + 1⟩, node⟩

/-- The chain of the node. -/
def chain : MovingChain RestlessNode where
  stored := stored
  position := moves
  of_fetch := by
    intro link item s v h
    cases h
    exact ⟨s.moves, Nat.le_refl _, Nat.le_succ _, rfl⟩

end RestlessNode

/-- The destinations of the first state with the weights of the second. -/
def mixedWeights : WeightVector := ⟨5, [1, 2], [30, 40], rfl⟩

/-- A node on which a peer has an empty list of destinations, and no entry for the weights. -/
def halfPresentNode : ScriptedNode :=
  ScriptedNode.empty.withEntry (.weightUids 5) (some (.list []))

/-- The client reads weights that no state of the chain has: those of two states, when the chain moves
on between the reads; and empty ones where one of the two entries is not there at all. -/
theorem weights_of_no_state :
    ((Client.weights 5 (linkedClient 0) (⟨0⟩ : RestlessNode)).result = .ok (some mixedWeights) ∧
      ∀ p, ¬ (RestlessNode.chain.Shows p (.weightUids 5) Value.uidList mixedWeights.dests ∧
        RestlessNode.chain.Shows p (.weightVals 5) Value.weightList mixedWeights.values)) ∧
    ((Client.weights 5 (linkedClient 0) halfPresentNode).result = .ok (some ⟨5, [], [], rfl⟩) ∧
      halfPresentNode.entry (.weightVals 5) = none) := by
  refine ⟨⟨by decide, ?_⟩, by decide, by decide⟩
  rintro p ⟨⟨u, hu, hdests⟩, ⟨v, hv, hvalues⟩⟩
  cases p with
  | zero =>
    cases hv
    revert hvalues
    decide
  | succ p =>
    cases hu
    revert hdests
    decide

/-- The two states of weights that are read of it. -/
theorem weights_of_moving_chain_of_restless :
    (Client.weights 5 (linkedClient 0) (⟨0⟩ : RestlessNode)).result = .ok (some mixedWeights) ∧
    ∃ p q, p ≤ q ∧ q ≤ 2 ∧
      RestlessNode.chain.Shows p (.weightUids 5) Value.uidList [1, 2] ∧
      RestlessNode.chain.Shows q (.weightVals 5) Value.weightList [30, 40] := by
  have hread : (Client.weights 5 (linkedClient 0) (⟨0⟩ : RestlessNode)).result =
      .ok (some mixedWeights) := by decide
  obtain ⟨-, p, q, -, hpq, hq, -, -, -, hshows, -⟩ :=
    weights_of_moving_chain RestlessNode.chain hread
  obtain ⟨huids, hvals⟩ := hshows (by decide)
  exact ⟨hread, p, q, hpq, hq, huids, hvals⟩

end LedgerClient
