import LedgerClient.Proofs.ByteOrder
import LedgerClient.Proofs.Result
import LedgerClient.Storage.Decode
import Mathlib.Data.List.Nodup

/-!
# What values are decoded as

Each kind of value has a view: the integer that it is, the account that it is, the field that it has
under a name. A decoder succeeds exactly when its view does, with the number, the account or the record
that is seen there.

## The model

An account is seen through composites of a single field, however many there are: `Wrapped v w` says
that `w` is `v` inside such composites. `PeerRecord.Describes v p` says what a value shows of a peer by
the views of its fields, so it does not depend on their order or on any further fields.

## What is proved

* `Value.uint64_eq_ok_iff`, `stake_eq_ok_iff`, `weight_eq_ok_iff`, `Value.byte?_eq_some_iff`: which values
  are integers of 64 bits, stakes, weights and bytes.
* `Value.uint64_ofNat`, `stake_ofNat`, `weight_ofNat`, `uidList_list`, `weightList_list`: every number
  in range is decoded as itself, and so is every list of them.
* `Value.account?_eq_some_iff`: an account is decoded from its bytes, bare or wrapped, and from nothing
  else.
* `PeerRecord.ofValue_eq_ok_iff`: a value is decoded as the peer that it describes.
-/

namespace LedgerClient

/-! ### Looking up by name -/

/-- Among fields of different names each is found by its own. -/
theorem find?_of_mem {α : Type} {fields : List (String × α)} (hnames : (fields.map Prod.fst).Nodup)
    {f : String × α} (hf : f ∈ fields) : fields.find? (fun g => g.1 == f.1) = some f := by
  induction fields with
  | nil => cases hf
  | cons g rest ih =>
    rw [List.map_cons, List.nodup_cons] at hnames
    rcases List.mem_cons.mp hf with rfl | hf
    · exact List.find?_cons_of_pos (beq_self_eq_true f.1)
    · have hne : g.1 ≠ f.1 := fun heq => hnames.1 (heq ▸ List.mem_map_of_mem hf)
      rw [List.find?_cons_of_neg (by simpa using hne)]
      exact ih hnames.2 hf

theorem Value.at?_record_of_mem {fields : List (String × Value)}
    (hnames : (fields.map Prod.fst).Nodup) {name : String} {v : Value}
    (hf : (name, v) ∈ fields) : (Value.record fields).at? name = some v := by
  have hfind : fields.find? (fun g => g.1 == name) = some (name, v) := find?_of_mem hnames hf
  rw [record, at?, Fields.find?, hfind]
  rfl

/-! ### Integers -/

namespace Value

/-- A number of 64 bits is no larger than the largest integer, so it is held as it is. -/
theorem nat?_ofNat {n : Nat} (h : n < UInt64.size) : (ofNat n).nat? = some n := by
  have hlt : n < 2 ^ 128 := lt_trans h (by decide)
  rw [ofNat, nat?, BitVec.toNat_ofNat, Nat.mod_eq_of_lt hlt]

/-- A value is read as an integer of 64 bits when it is this integer; nothing is cut down. -/
theorem uint64_eq_ok_iff {v : Value} {what : String} {n : UInt64} :
    v.uint64 what = .ok n ↔ v.nat? = some n.toNat := by
  constructor
  · intro h
    rw [uint64] at h
    split at h
    · cases h
    · next m hm =>
      split at h
      · next hlt =>
        cases h
        rw [hm, UInt64.toNat_ofNat_of_lt' hlt]
      · cases h
  · intro h
    rw [uint64, h]
    dsimp only
    rw [if_pos n.toNat_lt, UInt64.ofNat_toNat]

theorem uint64_ofNat (n : UInt64) (what : String) : (ofNat n.toNat).uint64 what = .ok n :=
  uint64_eq_ok_iff.mpr (nat?_ofNat n.toNat_lt)

theorem stake_eq_ok_iff {v : Value} {b : Balance} :
    v.stake = .ok b ↔ v.nat? = some b.rao.toNat := by
  rw [stake, map_eq_ok_iff, ← uint64_eq_ok_iff]
  constructor
  · rintro ⟨n, hn, rfl⟩
    exact hn
  · intro h
    exact ⟨b.rao, h, rfl⟩

theorem stake_ofNat (b : Balance) : (ofNat b.rao.toNat).stake = .ok b :=
  stake_eq_ok_iff.mpr (nat?_ofNat b.rao.toNat_lt)

/-- A weight is read through an integer of 64 bits, which takes nothing away from it. -/
theorem weight_eq_ok_iff {v : Value} {w : UInt32} :
    v.weight = .ok w ↔ v.nat? = some w.toNat := by
  constructor
  · intro h
    rw [weight] at h
    split at h
    · cases h
    · next n hn =>
      split at h
      · next hlt =>
        cases h
        rw [uint64_eq_ok_iff.mp hn, UInt32.toNat_ofNat_of_lt' hlt]
      · cases h
  · intro h
    have hlt : w.toNat < UInt64.size := lt_trans w.toNat_lt (by decide)
    have hn : (UInt64.ofNat w.toNat).toNat = w.toNat := UInt64.toNat_ofNat_of_lt' hlt
    have hread : v.uint64 "weight value" = .ok (UInt64.ofNat w.toNat) :=
      uint64_eq_ok_iff.mpr (by rw [hn, h])
    rw [weight, hread]
    dsimp only
    rw [hn, if_pos w.toNat_lt, UInt32.ofNat_toNat]

theorem weight_ofNat (w : UInt32) : (ofNat w.toNat).weight = .ok w :=
  weight_eq_ok_iff.mpr (nat?_ofNat (lt_trans w.toNat_lt (by decide)))

/-! ### Sequences -/

/-- The items of a value are those of a composite. -/
theorem items_eq_ok_iff {v : Value} {what : String} {list : List Value} :
    v.items what = .ok list ↔ ∃ fields, v = .composite fields ∧ fields.values = list := by
  cases v <;> simp [items]

theorem uidList_list (uids : List UInt64) :
    (list (uids.map fun uid => ofNat uid.toNat)).uidList = .ok uids :=
  mapM_map_of_pure (fun uid => uint64_ofNat uid _) uids

theorem weightList_list (weights : List UInt32) :
    (list (weights.map fun w => ofNat w.toNat)).weightList = .ok weights :=
  mapM_map_of_pure weight_ofNat weights

/-! ### Accounts -/

theorem byte?_ofNat (b : UInt8) : (ofNat b.toNat).byte? = some b := by
  have hlt : b.toNat < 256 := b.toNat_lt
  have hsize : b.toNat < UInt64.size := lt_trans hlt (by decide)
  rw [byte?, nat?_ofNat hsize]
  dsimp only
  rw [if_pos hlt, UInt8.ofNat_toNat]

/-- A value is a byte when it is an integer of one byte, unsigned. -/
theorem byte?_eq_some_iff {v : Value} {b : UInt8} : v.byte? = some b ↔ v = ofNat b.toNat := by
  constructor
  · intro h
    cases v with
    | u128 n =>
      simp only [byte?, nat?] at h
      split at h
      · next hlt =>
        cases h
        rw [ofNat, UInt8.toNat_ofNat_of_lt' hlt, BitVec.ofNat_toNat, BitVec.setWidth_eq]
      · cases h
    | _ => cases h
  · rintro rfl
    exact byte?_ofNat b

/-- Values are the bytes of an account when each is one of these bytes, in order. -/
theorem octets32?_eq_some_iff {items : List Value} {a : AccountId} :
    octets32? items = some a ↔ items = a.toList.map fun b => ofNat b.toNat := by
  constructor
  · intro h
    obtain ⟨bytes, hread, hbytes⟩ := Option.bind_eq_some_iff.mp h
    rw [Octets.ofList?] at hbytes
    split at hbytes
    · cases hbytes
      exact eq_map_of_mapM_eq_some (fun _ _ => byte?_eq_some_iff.mp) hread
    · cases hbytes
  · rintro rfl
    have hbytes : (a.toList.map fun b => ofNat b.toNat).mapM byte? = some a.toList :=
      mapM_map_of_pure byte?_ofNat a.toList
    rw [octets32?, hbytes, Option.bind_some, Octets.ofList?, dif_pos a.length_eq]

/-- A composite of any other number of fields than one is what its bytes are. -/
theorem account?_composite {fields : Fields Value} (h : fields.values.length ≠ 1) :
    (composite fields).account? = octets32? fields.values := by
  unfold account?
  split
  · next heq =>
    cases heq
    exact absurd rfl h
  · next heq =>
    cases heq
    exact absurd rfl h
  · next heq =>
    cases heq
    rfl
  · next hnot => exact absurd rfl (hnot _)

theorem account?_of_bytes {fields : Fields Value} {a : AccountId}
    (h : fields.values = a.toList.map fun b => ofNat b.toNat) :
    (composite fields).account? = some a := by
  have hlength : fields.values.length ≠ 1 := by
    rw [h, List.length_map, a.length_eq]
    decide
  rw [account?_composite hlength, octets32?_eq_some_iff]
  exact h

theorem account?_ofBytes (a : AccountId) : (ofBytes a.toList).account? = some a := by
  rw [ofBytes, list]
  exact account?_of_bytes rfl

/-- `Wrapped v w`: the value `w` is `v`, or holds it inside composites of a single field. -/
inductive Wrapped (v : Value) : Value → Prop where
  /-- The value itself. -/
  | bare : Wrapped v v
  /-- A composite of one field without a name. -/
  | unnamed (w : Value) : Wrapped v w → Wrapped v (.list [w])
  /-- A composite of one field with a name. -/
  | named (name : String) (w : Value) : Wrapped v w → Wrapped v (.record [(name, w)])

variable {v w : Value}

/-- Wrapping does not change which account a value is. -/
theorem Wrapped.account?_eq (h : Wrapped v w) : w.account? = v.account? := by
  induction h with
  | bare => rfl
  | unnamed w _ ih => exact ih
  | named name w _ ih => exact ih

/-- The account of a value is in a composite of its bytes, somewhere inside the value. -/
theorem exists_wrapped_of_account? {a : AccountId} (h : v.account? = some a) :
    ∃ fields, Wrapped (.composite fields) v ∧
      fields.values = a.toList.map fun b => ofNat b.toNat := by
  induction v using account?.induct with
  | case1 inner ih =>
    obtain ⟨fields, hinner, hbytes⟩ := ih h
    exact ⟨fields, .unnamed inner hinner, hbytes⟩
  | case2 name inner ih =>
    obtain ⟨fields, hinner, hbytes⟩ := ih h
    exact ⟨fields, .named name inner hinner, hbytes⟩
  | case3 fields hunnamed hnamed =>
    have hread : (composite fields).account? = octets32? fields.values := by
      rw [account?]
      · exact hunnamed
      · exact hnamed
    exact ⟨fields, .bare, octets32?_eq_some_iff.mp (hread.symm.trans h)⟩
  | case4 v _ _ hnot =>
    cases v with
    | composite fields => exact absurd rfl (hnot fields)
    | _ => cases h

theorem account?_eq_some_iff {a : AccountId} :
    v.account? = some a ↔ ∃ fields, Wrapped (.composite fields) v ∧
      fields.values = a.toList.map fun b => ofNat b.toNat := by
  refine ⟨exists_wrapped_of_account?, ?_⟩
  rintro ⟨fields, hwrapped, hbytes⟩
  rw [hwrapped.account?_eq]
  exact account?_of_bytes hbytes

theorem Wrapped.nat?_eq {a : AccountId} (h : Wrapped (ofBytes a.toList) w) : w.nat? = none := by
  cases h with
  | bare => rfl
  | unnamed w _ => rfl
  | named name w _ => rfl

end Value

/-! ### Peers -/

namespace PeerRecord

/-- `Describes v p`: the fields of the value hold the numbers and the accounts of the peer. -/
structure Describes (v : Value) (p : PeerRecord) : Prop where
  /-- The integer of the address. -/
  ip : (v.at? "ip").bind Value.nat? = some p.ip.toNat
  /-- The uid. -/
  uid : (v.at? "uid").bind Value.nat? = some p.uid.toNat
  /-- The port. -/
  port : (v.at? "port").bind Value.nat? = some p.port.toNat
  /-- The family tag of the address. -/
  ipType : (v.at? "ip_type").bind Value.nat? = some p.ipType.toNat
  /-- The number of the modality. -/
  modality : (v.at? "modality").bind Value.nat? = some p.modality.toNat
  /-- The account of the hotkey. -/
  hotkey : (v.at? "hotkey").bind Value.account? = some p.hotkey
  /-- The account of the coldkey. -/
  coldkey : (v.at? "coldkey").bind Value.account? = some p.coldkey

section Fields

variable {v : Value} {name : String}

theorem field_eq_ok_iff {w : Value} : field v name = .ok w ↔ v.at? name = some w := by
  rw [field]
  split
  · next hw => simp [hw]
  · next hnone => simp [hnone]

theorem narrow_eq_ok_iff {n bound : Nat} (hbound : bound ≤ UInt64.size) :
    narrow v name bound = .ok n ↔ (v.at? name).bind Value.nat? = some n ∧ n < bound := by
  simp only [narrow, bind_eq_ok_iff, field_eq_ok_iff, Value.uint64_eq_ok_iff,
    Option.bind_eq_some_iff]
  constructor
  · rintro ⟨w, hw, m, hm, hread⟩
    split at hread
    · next hlt =>
      cases hread
      exact ⟨⟨w, hw, hm⟩, hlt⟩
    · cases hread
  · rintro ⟨⟨w, hw, hn⟩, hlt⟩
    have hm : (UInt64.ofNat n).toNat = n :=
      UInt64.toNat_ofNat_of_lt' (lt_of_lt_of_le hlt hbound)
    refine ⟨w, hw, UInt64.ofNat n, by rw [hm, hn], ?_⟩
    rw [hm, if_pos hlt]
    rfl

theorem account_eq_ok_iff {a : AccountId} :
    account v name = .ok a ↔ (v.at? name).bind Value.account? = some a := by
  simp only [account, bind_eq_ok_iff, field_eq_ok_iff, Option.bind_eq_some_iff]
  refine exists_congr fun w => and_congr_right fun _ => ?_
  cases w.account? <;> simp [pure, Except.pure, throw, throwThe, MonadExceptOf.throw]

theorem address_eq_ok_iff {n : UInt128} :
    address v = .ok n ↔ (v.at? "ip").bind Value.nat? = some n.toNat := by
  simp only [address, bind_eq_ok_iff, field_eq_ok_iff, Option.bind_eq_some_iff]
  refine exists_congr fun w => and_congr_right fun _ => ?_
  cases w <;> simp [Value.nat?, pure, Except.pure, throw, throwThe, MonadExceptOf.throw, BitVec.toNat_inj]

end Fields

/-- A value is decoded as the peer that it describes, and as no other. -/
theorem ofValue_eq_ok_iff {v : Value} {p : PeerRecord} : ofValue v = .ok p ↔ Describes v p := by
  simp only [ofValue, bind_eq_ok_iff, address_eq_ok_iff, field_eq_ok_iff, Value.uint64_eq_ok_iff,
    narrow_eq_ok_iff (show UInt16.size ≤ UInt64.size by decide),
    narrow_eq_ok_iff (show UInt8.size ≤ UInt64.size by decide), account_eq_ok_iff]
  constructor
  · rintro ⟨ip, hip, w, hw, uid, huid, port, ⟨hport, hport_lt⟩, ipType, ⟨htype, htype_lt⟩, modality,
      ⟨hmodality, hmodality_lt⟩, hotkey, hhotkey, coldkey, hcoldkey, hp⟩
    cases hp
    exact
      { ip := hip
        uid := by simp [hw, huid]
        port := by rw [hport, UInt16.toNat_ofNat_of_lt' hport_lt]
        ipType := by rw [htype, UInt8.toNat_ofNat_of_lt' htype_lt]
        modality := by rw [hmodality, UInt8.toNat_ofNat_of_lt' hmodality_lt]
        hotkey := hhotkey
        coldkey := hcoldkey }
  · intro h
    obtain ⟨w, hw, huid⟩ := Option.bind_eq_some_iff.mp h.uid
    refine ⟨p.ip, h.ip, w, hw, p.uid, huid, p.port.toNat, ⟨h.port, p.port.toNat_lt⟩, p.ipType.toNat,
      ⟨h.ipType, p.ipType.toNat_lt⟩, p.modality.toNat, ⟨h.modality, p.modality.toNat_lt⟩, p.hotkey,
      h.hotkey, p.coldkey, h.coldkey, ?_⟩
    rw [UInt16.ofNat_toNat, UInt8.ofNat_toNat, UInt8.ofNat_toNat]
    rfl

end PeerRecord

theorem Modality.ofUInt8?_toUInt8 (m : Modality) : ofUInt8? m.toUInt8 = some m := by
  cases m <;> rfl

end LedgerClient
