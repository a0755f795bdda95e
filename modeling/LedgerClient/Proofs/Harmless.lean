import LedgerClient.Proofs.Action
import LedgerClient.Proofs.Malformed
import LedgerClient.Proofs.Operation

/-!
# Errors that leave the link alone

Only an exchange with the node can end with an error that means a broken link. Decoding cannot make
one up, whatever the stored data are, for it blames the data, and neither can composing a call. There is
one lemma for each decoder.
-/

namespace LedgerClient

variable {α β : Type}

/-! ### Harmless results -/

/-- A result that does not mean that the link is broken. -/
def Harmless (result : Except Error α) : Prop := ¬ BreaksLink result

namespace Harmless

theorem ok (a : α) : Harmless (.ok a) := not_breaksLink_ok a

theorem error_iff {e : Error} :
    Harmless (.error e : Except Error α) ↔ e.isTransport = false := by
  rw [Harmless, breaksLink_error_iff, Bool.not_eq_true]

theorem error {e : Error} (h : e.isTransport = false) : Harmless (.error e : Except Error α) :=
  error_iff.mpr h

/-- An error that is passed on is as harmless as before. -/
theorem rethrow {e : Error} (h : Harmless (.error e : Except Error α)) :
    Harmless (.error e : Except Error β) := error (error_iff.mp h)

theorem map {result : Except Error α} (h : Harmless result) (f : α → β) :
    Harmless (result.map f) := by
  cases result with
  | ok a => exact ok (f a)
  | error e => exact h.rethrow

theorem bind {result : Except Error α} (h : Harmless result) {f : α → Except Error β}
    (hf : ∀ a, Harmless (f a)) : Harmless (result >>= f) := by
  cases result with
  | ok a => exact hf a
  | error e => exact h.rethrow

theorem mapM {f : α → Except Error β} (hf : ∀ a, Harmless (f a)) (list : List α) :
    Harmless (list.mapM f) := by
  induction list with
  | nil => exact ok []
  | cons a rest ih =>
    rw [List.mapM_cons]
    exact (hf a).bind fun b => ih.bind fun bs => ok (b :: bs)

end Harmless

/-! ### Decoding -/

/-- Malformed data do not mean that the link is broken. -/
theorem BlamesData.harmless {result : Except Error α} (h : BlamesData result) : Harmless result := by
  cases result with
  | ok a => exact .ok a
  | error e =>
    obtain ⟨fault, rfl⟩ := h e rfl
    exact .error rfl

theorem Value.harmless_uint64 (what : String) (v : Value) : Harmless (v.uint64 what) :=
  (v.blamesData_uint64 what).harmless

theorem Value.harmless_uidList (v : Value) : Harmless v.uidList := v.blamesData_uidList.harmless

theorem Value.harmless_weightList (v : Value) : Harmless v.weightList :=
  v.blamesData_weightList.harmless

/-- An amount that is out of range is not blamed on the data, but not on the link either. -/
theorem Value.harmless_freeBalance (v : Value) : Harmless v.freeBalance := by
  rw [freeBalance]
  split
  · exact .error rfl
  · next n _ =>
    cases Balance.ofNat n with
    | ok b => exact .ok b
    | error e => exact .error rfl

theorem Value.harmless_stake (v : Value) : Harmless v.stake := (v.harmless_uint64 "stake").map _

theorem PeerRecord.harmless_ofValue (v : Value) : Harmless (ofValue v) :=
  (blamesData_ofValue v).harmless

theorem RawKey.harmless_uid (key : Bytes) : Harmless (uid key) := (blamesData_uid key).harmless

theorem RawKey.harmless_account (key : Bytes) : Harmless (account key) :=
  (blamesData_account key).harmless

theorem harmless_decodeEntry {decode : Value → Except Error α} (h : ∀ v, Harmless (decode v))
    (entry : Option Value) : Harmless (decodeEntry decode entry) := by
  cases entry with
  | none => exact .ok none
  | some v => exact (h v).map some

theorem harmless_decodeEntries {key : Bytes → Except Error α} {decode : Value → Except Error β}
    (hk : ∀ bytes, Harmless (key bytes)) (hd : ∀ v, Harmless (decode v))
    (entries : List (Bytes × Value)) : Harmless (decodeEntries key decode entries) := by
  refine .mapM (fun entry => ?_) entries
  rw [decodePair]
  have hkey := hk entry.1
  split
  · next e he => exact (he ▸ hkey).rethrow
  · exact (hd entry.2).map _

theorem Client.harmless_joinWeights (uid : UInt64) (dests : Option (List UInt64))
    (values : Option (List UInt32)) : Harmless (joinWeights uid dests values) := by
  unfold joinWeights
  split
  · exact .ok none
  · exact (WeightVector.blamesData_make _ _ _).harmless.map some

/-- A write with bad arguments does not blame the link. -/
theorem Write.harmless_call (w : Write) (wallet : Wallet) : Harmless (w.call wallet) := by
  obtain ⟨-, call, h⟩ | ⟨fault, -, h⟩ := w.call_cases wallet
  · rw [h]
    exact .ok call
  · rw [h]
    exact .error rfl

end LedgerClient
