import LedgerClient.Proofs.Malformed
import LedgerClient.Proofs.MovingChain
import LedgerClient.Proofs.WholeMaps

/-!
# Weights as they are stored

The weights of a peer are stored in two entries, the destinations in one and the weights in the other. A
client that finds neither reads no weights, and one that finds both reads them if both are lists of the
right kind and of one length; all else is reported as malformed data.

One entry without the other is no state that a ledger should be in. It is not looked for as such: the
entry that is absent counts as an empty list, and the lengths are compared then. So half of the weights
is malformed data, unless the half that is there is an empty list.

## The model

`Stores c s uid uids vals` says that the node answers the two reads of a client in time, with these
entries, of which each may be absent or malformed. `listOf` is the list that an entry counts as.

## What is proved

* `Client.result_weights`: a read of weights gives what its two entries come to.
* `weights_of_stored`: when weights are read, when none are, and when the data are malformed.
* `weights_of_lone_empty_list`: half of the weights that is read as weights.
-/

namespace LedgerClient

variable {σ α β : Type}

/-! ### What two entries come to -/

/-- The list that an entry counts as; one that is absent counts as an empty list. -/
def listOf (decode : Value → Except Error (List α)) : Option Value → Except Error (List α)
  | none => .ok []
  | some v => decode v

/-- What two entries come to as weights. -/
def storedWeights (uid : UInt64) (uids vals : Option Value) : Except Error (Option WeightVector) := do
  let dests ← decodeEntry Value.uidList uids
  let values ← decodeEntry Value.weightList vals
  Client.joinWeights uid dests values

namespace WeightVector

variable {uid : UInt64} {dests : List UInt64} {values : List UInt32}

theorem make_eq_ok_iff {w : WeightVector} :
    make uid dests values = .ok w ↔ w.source = uid ∧ w.dests = dests ∧ w.values = values := by
  constructor
  · intro h
    unfold make at h
    split at h
    · cases h
      exact ⟨rfl, rfl, rfl⟩
    · cases h
  · rintro ⟨rfl, rfl, rfl⟩
    rw [make, dif_pos w.length_eq]

theorem make_of_ne (h : dests.length ≠ values.length) :
    make uid dests values =
      .error (.invalidData (.weightLengths uid dests.length values.length)) := by
  rw [make, dif_neg h]

/-- The pairs are the destinations with the weights at the same positions, and nothing is left out. -/
theorem unzip_pairs (w : WeightVector) : w.pairs.unzip = (w.dests, w.values) := by
  rw [pairs]
  exact List.unzip_zip w.length_eq

end WeightVector

section StoredWeights

variable {uid : UInt64} {uids vals : Option Value}

/-- With an entry present, the two count as lists, and their lengths are compared. -/
theorem storedWeights_of_present (h : uids ≠ none ∨ vals ≠ none) :
    storedWeights uid uids vals = (do
      let dests ← listOf Value.uidList uids
      let values ← listOf Value.weightList vals
      (WeightVector.make uid dests values).map some) := by
  rw [storedWeights]
  cases uids with
  | none =>
    cases vals with
    | none => simp at h
    | some v =>
      simp only [decodeEntry, listOf]
      cases v.weightList <;> rfl
  | some u =>
    cases vals with
    | none =>
      simp only [decodeEntry, listOf]
      cases u.uidList <;> rfl
    | some v =>
      simp only [decodeEntry, listOf]
      cases u.uidList with
      | error e => rfl
      | ok dests => cases v.weightList <;> rfl

theorem storedWeights_eq_none_iff :
    storedWeights uid uids vals = .ok none ↔ uids = none ∧ vals = none := by
  constructor
  · intro h
    by_contra hpresent
    rw [storedWeights_of_present (by tauto)] at h
    simp only [bind_eq_ok_iff, map_eq_ok_iff] at h
    obtain ⟨dests, -, values, -, w, -, hw⟩ := h
    cases hw
  · rintro ⟨rfl, rfl⟩
    rfl

theorem storedWeights_eq_some_iff {w : WeightVector} :
    storedWeights uid uids vals = .ok (some w) ↔
      w.source = uid ∧ (uids ≠ none ∨ vals ≠ none) ∧
        listOf Value.uidList uids = .ok w.dests ∧ listOf Value.weightList vals = .ok w.values := by
  by_cases hpresent : uids ≠ none ∨ vals ≠ none
  · rw [storedWeights_of_present hpresent]
    simp only [bind_eq_ok_iff, map_eq_ok_iff, WeightVector.make_eq_ok_iff]
    constructor
    · rintro ⟨dests, hdests, values, hvalues, _, ⟨hsource, rfl, rfl⟩, hw⟩
      cases hw
      exact ⟨hsource, hpresent, hdests, hvalues⟩
    · rintro ⟨hsource, -, hdests, hvalues⟩
      exact ⟨w.dests, hdests, w.values, hvalues, w, ⟨hsource, rfl, rfl⟩, rfl⟩
  · have hnone : storedWeights uid uids vals = .ok none := by
      rw [storedWeights_eq_none_iff]
      tauto
    simp [hnone, hpresent]

theorem storedWeights_of_ne {dests : List UInt64} {values : List UInt32}
    (hdests : listOf Value.uidList uids = .ok dests)
    (hvalues : listOf Value.weightList vals = .ok values) (h : dests.length ≠ values.length) :
    storedWeights uid uids vals =
      .error (.invalidData (.weightLengths uid dests.length values.length)) := by
  have hpresent : uids ≠ none ∨ vals ≠ none := by
    by_contra habsent
    obtain ⟨rfl, rfl⟩ : uids = none ∧ vals = none := by tauto
    cases hdests
    cases hvalues
    exact h rfl
  rw [storedWeights_of_present hpresent, hdests, hvalues]
  simp only [bind, Except.bind]
  rw [WeightVector.make_of_ne h]
  rfl

theorem blamesData_storedWeights (uid : UInt64) (uids vals : Option Value) :
    BlamesData (storedWeights uid uids vals) := by
  by_cases hpresent : uids ≠ none ∨ vals ≠ none
  · rw [storedWeights_of_present hpresent]
    refine BlamesData.bind ?_ fun dests => BlamesData.bind ?_ fun values => ?_
    · cases uids with
      | none => exact .ok []
      | some u => exact u.blamesData_uidList
    · cases vals with
      | none => exact .ok []
      | some v => exact v.blamesData_weightList
    · exact (WeightVector.blamesData_make uid dests values).map some
  · rw [storedWeights_eq_none_iff.mpr (by tauto)]
    exact .ok none

end StoredWeights

/-! ### Reading the two entries -/

section Reading

variable [Node σ]

/-- The node answers the two reads of a peer's weights, one after the other, each in time and with
these entries. -/
def Stores (c : Client) (s : σ) (uid : UInt64) (uids vals : Option Value) : Prop :=
  ∃ link t u, c.link = some link ∧
    Exchange.Answers link c.queryTimeout (.fetch (.weightUids uid) none) s uids t ∧
    Exchange.Answers link c.queryTimeout (.fetch (.weightVals uid) none) t vals u

/-- What is read is what the entries come to. -/
theorem Client.result_weights {c : Client} {s : σ} {uid : UInt64} {uids vals : Option Value}
    (h : Stores c s uid uids vals) :
    (weights uid c s).result = storedWeights uid uids vals := by
  obtain ⟨link, t, u, hc, hfirst, hsecond⟩ := h
  rw [weights, storedWeights]
  cases hd : decodeEntry Value.uidList uids with
  | error e =>
    have hread : (weightUids uid c s).result = .error e := by
      rw [weightUids, result_queryEntry hc hfirst, hd]
    rw [Action.bind_error _ hread]
    rfl
  | ok dests =>
    have hread : (weightUids uid c s).success? = some (dests, t) :=
      queryEntry_iff.mpr ⟨link, hc, uids, hfirst, hd⟩
    have hclient : (weightUids uid c s).client = c := by
      have hobservant : Action.Observant (weightUids (σ := σ) uid) :=
        observant_queryEntry _ Value.harmless_uidList
      exact hobservant.client_of_success hread
    have hvals : (weightVals uid c t).result = decodeEntry Value.weightList vals := by
      rw [weightVals, result_queryEntry hc hsecond]
    rw [Action.bind_of_success _ hread, hclient]
    cases hv : decodeEntry Value.weightList vals with
    | error e =>
      rw [Action.bind_error _ (hvals.trans hv)]
      rfl
    | ok values =>
      rw [Action.bind_ok _ (hvals.trans hv)]
      rfl

end Reading

/-- **Weights as they are stored.** Let a node answer the two reads of a peer's weights in time. No
weights are read exactly when neither entry is there. Weights are read exactly when an entry is there,
the two entries count as lists of the right kinds, and these are of one length; then destinations and
weights are the two lists in full, in pairs by their positions. All else is reported as malformed data,
and lists of different lengths by their lengths. Where one entry is there without the other, that is
malformed data too, unless the entry holds an empty list. -/
theorem weights_of_stored [Node σ] {c : Client} {s : σ} {uid : UInt64} {uids vals : Option Value}
    (h : Stores c s uid uids vals) :
    let result := (Client.weights uid c s).result
    (result = .ok none ↔ uids = none ∧ vals = none) ∧
    (∀ w, result = .ok (some w) ↔ w.source = uid ∧ (uids ≠ none ∨ vals ≠ none) ∧
      listOf Value.uidList uids = .ok w.dests ∧ listOf Value.weightList vals = .ok w.values) ∧
    (∀ w, result = .ok (some w) → w.pairs.unzip = (w.dests, w.values)) ∧
    (∀ e, result = .error e → ∃ fault, e = .invalidData fault) ∧
    (∀ dests values, listOf Value.uidList uids = .ok dests →
      listOf Value.weightList vals = .ok values → dests.length ≠ values.length →
      result = .error (.invalidData (.weightLengths uid dests.length values.length))) ∧
    ((uids = none ↔ vals ≠ none) →
      (∃ fault, result = .error (.invalidData fault)) ∨
        result = .ok (some ⟨uid, [], [], rfl⟩) ∧
          listOf Value.uidList uids = .ok [] ∧ listOf Value.weightList vals = .ok []) := by
  intro result
  have hresult : result = storedWeights uid uids vals := Client.result_weights h
  have hblames : ∀ e, result = .error e → ∃ fault, e = .invalidData fault := by
    rw [hresult]
    exact blamesData_storedWeights uid uids vals
  have hsome : ∀ w, result = .ok (some w) ↔ w.source = uid ∧ (uids ≠ none ∨ vals ≠ none) ∧
      listOf Value.uidList uids = .ok w.dests ∧ listOf Value.weightList vals = .ok w.values := by
    intro w
    rw [hresult, storedWeights_eq_some_iff]
  refine ⟨?_, hsome, fun w _ => w.unzip_pairs, hblames, ?_, ?_⟩
  · rw [hresult, storedWeights_eq_none_iff]
  · intro dests values hdests hvalues hne
    rw [hresult, storedWeights_of_ne hdests hvalues hne]
  · intro hhalf
    cases hr : result with
    | error e =>
      obtain ⟨fault, rfl⟩ := hblames e hr
      exact .inl ⟨fault, rfl⟩
    | ok found =>
      cases found with
      | none =>
        rw [hresult, storedWeights_eq_none_iff] at hr
        simp [hr] at hhalf
      | some w =>
        -- One of the two lists is that of an absent entry, so both are empty.
        right
        obtain ⟨hsource, hpresent, hdests, hvalues⟩ := (hsome w).mp hr
        have hempty : w.dests.length = 0 := by
          cases uids with
          | none =>
            rw [← Except.ok.inj hdests, List.length_nil]
          | some u =>
            obtain rfl : vals = none := by simpa using hhalf
            rw [w.length_eq, ← Except.ok.inj hvalues, List.length_nil]
        obtain ⟨source, dests, values, hlength⟩ := w
        obtain rfl : dests = [] := List.length_eq_zero_iff.mp hempty
        obtain rfl : values = [] := List.length_eq_zero_iff.mp hlength.symm
        obtain rfl : source = uid := hsource
        exact ⟨rfl, hdests, hvalues⟩

/-! ### Half of the weights -/

/-- A node on which a peer has destinations, and no entry for the weights. -/
def loneDestinationsNode : ScriptedNode :=
  ScriptedNode.empty.withEntry (.weightUids 6) (some (.list [.ofNat 1, .ofNat 2]))

/-- Destinations without weights are malformed data. -/
theorem weights_of_stored_of_lone_destinations :
    Stores (linkedClient 0) loneDestinationsNode 6 (some (.list [.ofNat 1, .ofNat 2])) none ∧
    (Client.weights 6 (linkedClient 0) loneDestinationsNode).result =
      .error (.invalidData (.weightLengths 6 2 0)) := by
  have hstores : Stores (linkedClient 0) loneDestinationsNode 6
      (some (.list [.ofNat 1, .ofNat 2])) none :=
    ⟨_, _, _, rfl, ⟨⟨0, rfl, Nat.zero_le _⟩, rfl, rfl⟩, ⟨⟨0, rfl, Nat.zero_le _⟩, rfl, rfl⟩⟩
  obtain ⟨-, -, -, -, hlengths, -⟩ := weights_of_stored hstores
  exact ⟨hstores, hlengths [1, 2] [] (by decide) rfl (by decide)⟩

/-- A node on which a peer has an empty list of weights, and no entry for the destinations. -/
def loneEmptyListNode : ScriptedNode :=
  ScriptedNode.empty.withEntry (.weightVals 6) (some (.list []))

/-- An empty list of weights without destinations is no malformed data: it is read as weights, of which
there are none. -/
theorem weights_of_lone_empty_list :
    loneEmptyListNode.entry (.weightUids 6) = none ∧
    loneEmptyListNode.entry (.weightVals 6) ≠ none ∧
    (Client.weights 6 (linkedClient 0) loneEmptyListNode).result = .ok (some ⟨6, [], [], rfl⟩) ∧
    ∀ fault, (Client.weights 6 (linkedClient 0) loneEmptyListNode).result ≠
      .error (.invalidData fault) := by
  have hread : (Client.weights 6 (linkedClient 0) loneEmptyListNode).result =
      .ok (some ⟨6, [], [], rfl⟩) := by decide
  refine ⟨by decide, by decide, hread, ?_⟩
  intro fault hfault
  rw [hread] at hfault
  cases hfault

end LedgerClient
