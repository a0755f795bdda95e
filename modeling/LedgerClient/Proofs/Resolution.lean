import LedgerClient.Proofs.Choice

/-!
# Which address is tried next

A client that wants to reach a network asks its catalog for an address that it has not tried. What the
answer is about, an address, that none is left, or that the network is not listed, follows from the
addresses of this one network and from which of them were tried; only which of the untried addresses it
is depends on chance.

## What is proved

* `Catalog.resolve_of_listed`: for a listed network the answer is what is picked among its untried
  addresses.
* `Catalog.resolve_cases`: the three answers, and the random words that each of them takes.
* `Catalog.resolve_congr`: what the answer depends on.
* `resolve_is_sound_and_complete`: the rule in one statement.
-/

namespace LedgerClient

namespace Catalog

/-- The answer for what was picked. -/
def Resolution.ofPick : Option String → Resolution
  | some address => .endpoint address
  | none => .exhausted

variable {c d : Catalog} {network : Network} {candidates tried other : List String}

/-- That a picked address is known to be an untried one makes no difference to the pick. -/
theorem pickUntried_val (candidates tried : List String) (words : WordSource) :
    ((pickUntried candidates tried words).1.map Subtype.val,
      (pickUntried candidates tried words).2) = words.pick (untried candidates tried) := by
  rw [pickUntried, ← WordSource.pick_map, List.attach_map_subtype_val]

theorem resolve_of_unknown (h : c.addresses? network = none) (tried : List String)
    (words : WordSource) :
    c.resolve network tried words = (.error (.unknownNetwork network.name), words) := by
  simp only [resolve, endpoints, h]

theorem resolve_of_listed (h : c.addresses? network = some candidates) (tried : List String)
    (words : WordSource) :
    c.resolve network tried words =
      (.ok (.ofPick (words.pick (untried candidates tried)).1),
        (words.pick (untried candidates tried)).2) := by
  rw [← pickUntried_val]
  simp only [resolve, endpoints, h]
  rcases pickUntried candidates tried words with ⟨_ | address, rest⟩
  · rfl
  · rfl

/-- A network that is not listed is unknown; one whose addresses were all tried is exhausted; for any
other one of its untried addresses is picked, with at least one random word. -/
theorem resolve_cases (c : Catalog) (network : Network) (tried : List String) (words : WordSource) :
    (c.addresses? network = none ∧
      c.resolve network tried words = (.error (.unknownNetwork network.name), words)) ∨
    ∃ candidates, c.addresses? network = some candidates ∧
      ((untried candidates tried = [] ∧ c.resolve network tried words = (.ok .exhausted, words)) ∨
        ∃ address ∈ untried candidates tried, ∃ taken, 0 < taken ∧
          c.resolve network tried words = (.ok (.endpoint address), words.skip taken)) := by
  cases h : c.addresses? network with
  | none => exact .inl ⟨rfl, resolve_of_unknown h tried words⟩
  | some candidates =>
    refine .inr ⟨candidates, rfl, ?_⟩
    rw [resolve_of_listed h]
    by_cases hnil : untried candidates tried = []
    · rw [hnil, WordSource.pick_nil]
      exact .inl ⟨rfl, rfl⟩
    · obtain ⟨address, ha, taken, htaken, hpick⟩ := WordSource.exists_pick hnil words
      rw [hpick]
      exact .inr ⟨address, ha, taken, htaken, rfl⟩

/-- No address is untried when all were tried. -/
theorem untried_eq_nil_iff : untried candidates tried = [] ↔ ∀ a ∈ candidates, a ∈ tried := by
  simp [untried]

theorem untried_congr (h : ∀ a ∈ candidates, a ∈ tried ↔ a ∈ other) :
    untried candidates tried = untried candidates other := by
  refine List.filter_congr fun a ha => ?_
  rw [List.contains_eq_mem, List.contains_eq_mem, decide_eq_decide.mpr (h a ha)]

/-- The answer depends on the addresses of the network and on which of them were tried. -/
theorem resolve_congr (hcd : d.addresses? network = c.addresses? network)
    (htried : ∀ candidates, c.addresses? network = some candidates →
      ∀ a ∈ candidates, a ∈ other ↔ a ∈ tried) (words : WordSource) :
    d.resolve network other words = c.resolve network tried words := by
  cases h : c.addresses? network with
  | none => rw [resolve_of_unknown h, resolve_of_unknown (hcd.trans h)]
  | some candidates =>
    rw [resolve_of_listed h, resolve_of_listed (hcd.trans h), untried_congr (htried candidates h)]

end Catalog

/-- **An address that was not tried, as long as there is one.** The answer is an address only if it is
one of the network's addresses in the catalog and was not tried. It is that none is left exactly when
the network is listed and all its addresses were tried, and an error exactly when the network is not
listed. A random word at least is taken for an address, and none for the other answers. Other networks'
addresses, and what was tried without being an address of this network, play no part. -/
theorem resolve_is_sound_and_complete (c : Catalog) (network : Network) (tried : List String)
    (words : WordSource) :
    let answer := c.resolve network tried words
    (∀ address, answer.1 = .ok (.endpoint address) →
      (∃ candidates, c.addresses? network = some candidates ∧ address ∈ candidates) ∧
      address ∉ tried ∧ ∃ taken, 0 < taken ∧ answer.2 = words.skip taken) ∧
    (answer.1 = .ok .exhausted ↔
      ∃ candidates, c.addresses? network = some candidates ∧ ∀ a ∈ candidates, a ∈ tried) ∧
    (∀ e, answer.1 = .error e ↔
      e = .unknownNetwork network.name ∧ c.addresses? network = none) ∧
    ((∀ address, answer.1 ≠ .ok (.endpoint address)) → answer.2 = words) ∧
    ∀ (d : Catalog) (other : List String), d.addresses? network = c.addresses? network →
      (∀ candidates, c.addresses? network = some candidates →
        ∀ a ∈ candidates, a ∈ other ↔ a ∈ tried) →
      d.resolve network other words = answer := by
  intro answer
  have hcongr (d : Catalog) (other : List String)
      (hcd : d.addresses? network = c.addresses? network)
      (htried : ∀ candidates, c.addresses? network = some candidates →
        ∀ a ∈ candidates, a ∈ other ↔ a ∈ tried) : d.resolve network other words = answer :=
    Catalog.resolve_congr hcd htried words
  rcases Catalog.resolve_cases c network tried words with
    ⟨hnone, heq⟩ | ⟨candidates, hsome, ⟨hnil, heq⟩ | ⟨address, hmem, taken, htaken, heq⟩⟩
  · have hanswer : answer = (.error (.unknownNetwork network.name), words) := heq
    rw [hanswer] at hcongr ⊢
    refine ⟨by simp, by simp [hnone], fun e => ?_, fun _ => rfl, hcongr⟩
    simp [hnone, eq_comm]
  · have hanswer : answer = (.ok .exhausted, words) := heq
    rw [hanswer] at hcongr ⊢
    refine ⟨by simp, ?_, by simp [hsome], fun _ => rfl, hcongr⟩
    exact iff_of_true rfl ⟨candidates, hsome, Catalog.untried_eq_nil_iff.mp hnil⟩
  · have hanswer : answer = (.ok (.endpoint address), words.skip taken) := heq
    rw [hanswer] at hcongr ⊢
    obtain ⟨hcandidate, huntried⟩ := Catalog.mem_untried.mp hmem
    refine ⟨fun other hother => ?_, ?_, by simp [hsome], fun h => absurd rfl (h address), hcongr⟩
    · cases hother
      exact ⟨⟨candidates, hsome, hcandidate⟩, huntried, taken, htaken, rfl⟩
    · refine iff_of_false (by simp) ?_
      rintro ⟨list, hlist, hall⟩
      cases hsome.symm.trans hlist
      exact huntried (hall address hcandidate)

/-- A catalog in which one of a network's addresses stands twice. -/
def repeatingCatalog : Catalog := ⟨fun _ => some ["c:3", "a:1", "c:3"], by simp⟩

/-- One address is left, and the first random word is refused. That a foreign address was tried makes no
difference. -/
theorem resolve_is_sound_and_complete_of_last :
    let answer := repeatingCatalog.resolve .akira ["c:3"] (.ofList [4294967295])
    answer = (.ok (.endpoint "a:1"), (WordSource.ofList [4294967295]).skip 2) ∧
    "a:1" ∉ ["c:3"] ∧ (∃ taken, 0 < taken ∧ answer.2 = (WordSource.ofList [4294967295]).skip taken) ∧
    (∀ candidates, repeatingCatalog.addresses? .akira = some candidates →
      ∀ a ∈ candidates, a ∈ ["x:9", "c:3"] ↔ a ∈ ["c:3"]) ∧
    repeatingCatalog.resolve .akira ["x:9", "c:3"] (.ofList [4294967295]) = answer := by
  have h := resolve_is_sound_and_complete repeatingCatalog .akira ["c:3"] (.ofList [4294967295])
  have hother : ∀ candidates, repeatingCatalog.addresses? .akira = some candidates →
      ∀ a ∈ candidates, a ∈ ["x:9", "c:3"] ↔ a ∈ ["c:3"] := by
    intro candidates hc
    cases hc
    decide
  have hlast := h.1 "a:1" rfl
  exact ⟨rfl, hlast.2.1, hlast.2.2, hother, h.2.2.2.2 repeatingCatalog _ rfl hother⟩

end LedgerClient
