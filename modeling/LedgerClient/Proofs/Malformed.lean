import LedgerClient.Storage.Decode

/-!
# Malformed data

A stored value that does not have the expected shape is malformed data. It is never taken for another
value, and never for a fault of another kind: a decoder gives what is stored, or it blames the data.
There is one lemma for each decoder; a decoder that is put together from others blames the data because
they do.
-/

namespace LedgerClient

variable {α β : Type}

/-! ### Results that blame the data -/

/-- Where a result is an error, it is one of malformed data. -/
def BlamesData (result : Except Error α) : Prop :=
  ∀ e, result = .error e → ∃ fault, e = .invalidData fault

namespace BlamesData

theorem ok (a : α) : BlamesData (.ok a) := by
  intro e he
  cases he

theorem error (fault : DataFault) : BlamesData (.error (.invalidData fault) : Except Error α) := by
  intro e he
  cases he
  exact ⟨fault, rfl⟩

theorem bind {result : Except Error α} (h : BlamesData result) {f : α → Except Error β}
    (hf : ∀ a, BlamesData (f a)) : BlamesData (result >>= f) := by
  cases result with
  | ok a => exact hf a
  | error e =>
    obtain ⟨fault, rfl⟩ := h e rfl
    exact error fault

theorem map {result : Except Error α} (h : BlamesData result) (f : α → β) :
    BlamesData (result.map f) := h.bind fun a => ok (f a)

theorem mapM {f : α → Except Error β} (hf : ∀ a, BlamesData (f a)) (list : List α) :
    BlamesData (list.mapM f) := by
  induction list with
  | nil => exact ok []
  | cons a rest ih =>
    rw [List.mapM_cons]
    exact (hf a).bind fun b => ih.bind fun bs => ok (b :: bs)

end BlamesData

namespace Value

theorem blamesData_uint64 (what : String) (v : Value) : BlamesData (v.uint64 what) := by
  rw [uint64]
  split
  · exact .error _
  · split
    · exact .ok _
    · exact .error _

theorem blamesData_items (what : String) (v : Value) : BlamesData (v.items what) := by
  unfold items
  split
  · exact .ok _
  · exact .error _

theorem blamesData_weight (v : Value) : BlamesData v.weight := by
  have hn := v.blamesData_uint64 "weight value"
  rw [weight]
  split
  · next e he =>
    obtain ⟨fault, rfl⟩ := hn e he
    exact .error fault
  · split
    · exact .ok _
    · exact .error _

theorem blamesData_uidList (v : Value) : BlamesData v.uidList := by
  have hi := v.blamesData_items "weight uids"
  rw [uidList]
  split
  · next e he =>
    obtain ⟨fault, rfl⟩ := hi e he
    exact .error fault
  · exact .mapM (blamesData_uint64 _) _

theorem blamesData_weightList (v : Value) : BlamesData v.weightList := by
  have hi := v.blamesData_items "weight values"
  rw [weightList]
  split
  · next e he =>
    obtain ⟨fault, rfl⟩ := hi e he
    exact .error fault
  · exact .mapM blamesData_weight _

end Value

namespace WeightVector

theorem blamesData_make (uid : UInt64) (dests : List UInt64) (values : List UInt32) :
    BlamesData (make uid dests values) := by
  rw [make]
  split
  · exact .ok _
  · exact .error _

end WeightVector

/-! ### Peers and raw keys -/

namespace PeerRecord

theorem blamesData_field (v : Value) (name : String) : BlamesData (field v name) := by
  rw [field]
  split
  · exact .ok _
  · exact .error _

theorem blamesData_narrow (v : Value) (name : String) (bound : Nat) :
    BlamesData (narrow v name bound) := by
  rw [narrow]
  refine (blamesData_field v name).bind fun f => (f.blamesData_uint64 name).bind fun n => ?_
  split
  · exact .ok _
  · exact .error _

theorem blamesData_account (v : Value) (name : String) : BlamesData (account v name) := by
  rw [account]
  refine (blamesData_field v name).bind fun f => ?_
  split
  · exact .ok _
  · exact .error _

theorem blamesData_address (v : Value) : BlamesData (address v) := by
  rw [address]
  refine (blamesData_field v "ip").bind fun f => ?_
  split
  · exact .ok _
  · exact .error _

theorem blamesData_ofValue (v : Value) : BlamesData (ofValue v) := by
  unfold ofValue
  refine (blamesData_address v).bind fun ip => (blamesData_field v "uid").bind fun f => ?_
  refine (f.blamesData_uint64 "uid").bind fun uid => ?_
  refine (blamesData_narrow v "port" UInt16.size).bind fun port => ?_
  refine (blamesData_narrow v "ip_type" UInt8.size).bind fun ipType => ?_
  refine (blamesData_narrow v "modality" UInt8.size).bind fun modality => ?_
  refine (blamesData_account v "hotkey").bind fun hotkey => ?_
  refine (blamesData_account v "coldkey").bind fun coldkey => ?_
  exact .ok _

end PeerRecord

namespace RawKey

theorem blamesData_uid (key : Bytes) : BlamesData (uid key) := by
  unfold uid
  split
  · exact .error _
  · exact .ok _

theorem blamesData_account (key : Bytes) : BlamesData (account key) := by
  unfold account
  split
  · exact .ok _
  · exact .error _

end RawKey

end LedgerClient
