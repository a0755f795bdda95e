import LedgerClient.Proofs.Decoding
import LedgerClient.Proofs.Malformed
import Mathlib.Data.Set.List

/-!
# Which values are accounts and peers

The ledger's values are dynamic, so that anything may stand where an account or a peer is expected. What
is accepted there is exactly what has the expected shape.

An account is 32 integers of one byte each, side by side, inside any number of composites of a single
field. Nothing else is an account: neither a variant that holds one nor 32 integers of which one is
signed or more than a byte.

A peer is any value that has the seven fields of a peer, each with an integer in its range or an account.
Only the first field of each name is looked at, so the order of the fields is free as long as fields of
one name keep theirs, and further fields make no difference. An integer that is out of range is refused
and never cut down. What is refused is malformed data.

## What is proved

* `account_iff_wrapped_bytes`: which values are accounts, and of which bytes.
* `PeerRecord.wellFormed_iff`, `PeerRecord.ofValue_congr`: which values are peers, and on what it depends
  which peer a value is.
* `peer_iff_fields`: the rule in one statement.
-/

namespace LedgerClient

/-! ### Accounts -/

namespace Value

theorem exists_byte_iff {v : Value} :
    (∃ b : UInt8, ofNat b.toNat = v) ↔ ∃ n : UInt128, v = .u128 n ∧ n.toNat ≤ 255 := by
  constructor
  · rintro ⟨b, rfl⟩
    have hb : b.toNat < 256 := b.toNat_lt
    refine ⟨_, rfl, ?_⟩
    rw [BitVec.toNat_ofNat]
    omega
  · rintro ⟨n, rfl, hn⟩
    refine ⟨UInt8.ofNat n.toNat, ?_⟩
    rw [ofNat, UInt8.toNat_ofNat_of_lt' (Nat.lt_succ_of_le hn), BitVec.ofNat_toNat,
      BitVec.setWidth_eq]

/-- Values are the bytes of some account when there are 32 of them, each an integer of one byte. -/
theorem exists_bytes_iff {items : List Value} :
    (∃ a : AccountId, items = a.toList.map fun b => ofNat b.toNat) ↔
      items.length = 32 ∧ ∀ item ∈ items, ∃ n : UInt128, item = .u128 n ∧ n.toNat ≤ 255 := by
  simp only [← exists_byte_iff]
  constructor
  · rintro ⟨a, rfl⟩
    refine ⟨by rw [List.length_map, a.length_eq], fun item hitem => ?_⟩
    obtain ⟨b, -, hb⟩ := List.mem_map.mp hitem
    exact ⟨b, hb⟩
  · rintro ⟨hlength, hitems⟩
    have hrange : items ∈ Set.range (List.map fun b : UInt8 => ofNat b.toNat) := by
      rw [Set.range_list_map]
      exact hitems
    obtain ⟨bytes, rfl⟩ := hrange
    rw [List.length_map] at hlength
    exact ⟨⟨bytes, hlength⟩, rfl⟩

end Value

/-- **An account is 32 bytes, wrapped any number of times.** A value is an account exactly when it is a
composite of the account's bytes, in order, inside composites of a single field. It is none when no
composite in there has 32 fields of which each is an unsigned integer of one byte. So wrapping changes
nothing, whatever it is that is wrapped. -/
theorem account_iff_wrapped_bytes (v : Value) :
    (∀ a : AccountId, v.account? = some a ↔ ∃ fields, Value.Wrapped (.composite fields) v ∧
      fields.values = a.toList.map fun b => Value.ofNat b.toNat) ∧
    (v.account? = none ↔ ∀ fields, Value.Wrapped (.composite fields) v →
      ¬ (fields.values.length = 32 ∧
        ∀ item ∈ fields.values, ∃ n : UInt128, item = .u128 n ∧ n.toNat ≤ 255)) ∧
    ∀ w, Value.Wrapped v w → w.account? = v.account? := by
  refine ⟨fun a => Value.account?_eq_some_iff, ?_, fun w h => h.account?_eq⟩
  simp only [Option.eq_none_iff_forall_ne_some, ne_eq, Value.account?_eq_some_iff,
    ← Value.exists_bytes_iff]
  constructor
  · rintro hnone fields hwrapped ⟨a, ha⟩
    exact hnone a ⟨fields, hwrapped, ha⟩
  · rintro hnone a ⟨fields, hwrapped, ha⟩
    exact hnone fields hwrapped ⟨a, ha⟩

/-- An account of equal bytes, each under a name. -/
def namedBytes : Value := .record (List.replicate 32 ("byte", .ofNat 7))

/-- The same with one byte that does not fit. -/
def unfitBytes : Value := .record (("byte", .ofNat 256) :: List.replicate 31 ("byte", .ofNat 7))

/-- Two wrappings of different kinds leave an account what it is, and make none of what is none. -/
theorem account_iff_wrapped_bytes_of_named :
    Value.Wrapped namedBytes (.record [("id", .list [namedBytes])]) ∧
    (Value.record [("id", .list [namedBytes])]).account? = some (Octets.replicate 32 7) ∧
    Value.Wrapped unfitBytes (.record [("id", .list [unfitBytes])]) ∧
    (Value.record [("id", .list [unfitBytes])]).account? = none := by
  have hwrapped (v : Value) : Value.Wrapped v (.record [("id", .list [v])]) :=
    .named "id" _ (.unnamed v .bare)
  obtain ⟨hsome, -, hwrap⟩ := account_iff_wrapped_bytes namedBytes
  refine ⟨hwrapped _, ?_, hwrapped _, ?_⟩
  · rw [hwrap _ (hwrapped _), hsome]
    exact ⟨_, .bare, rfl⟩
  · rw [(account_iff_wrapped_bytes unfitBytes).2.2 _ (hwrapped _)]
    decide

/-! ### Peers -/

namespace PeerRecord

/-- The names of the fields that a peer is read from. -/
def fieldNames : List String := ["ip", "uid", "port", "ip_type", "modality", "hotkey", "coldkey"]

/-- The first field of a name holds an unsigned integer below a bound. -/
def HoldsBelow (v : Value) (name : String) (bound : Nat) : Prop :=
  ∃ n : UInt128, v.at? name = some (.u128 n) ∧ n.toNat < bound

/-- The first field of a name holds an account. -/
def HoldsAccount (v : Value) (name : String) : Prop :=
  ∃ w a, v.at? name = some w ∧ w.account? = some a

/-- A value has the seven fields of a peer, each with what belongs there. -/
structure WellFormed (v : Value) : Prop where
  /-- The integer of the address has 128 bits. -/
  ip : HoldsBelow v "ip" (2 ^ 128)
  /-- The uid has 64 bits. -/
  uid : HoldsBelow v "uid" (2 ^ 64)
  /-- The port has 16 bits. -/
  port : HoldsBelow v "port" (2 ^ 16)
  /-- The family tag has 8 bits. -/
  ipType : HoldsBelow v "ip_type" (2 ^ 8)
  /-- The number of the modality has 8 bits. -/
  modality : HoldsBelow v "modality" (2 ^ 8)
  /-- The hotkey is an account. -/
  hotkey : HoldsAccount v "hotkey"
  /-- The coldkey is an account. -/
  coldkey : HoldsAccount v "coldkey"

section WellFormed

variable {v w : Value} {name : String}

theorem holdsBelow_of_bind {n bound : Nat} (h : (v.at? name).bind Value.nat? = some n)
    (hn : n < bound) : HoldsBelow v name bound := by
  obtain ⟨f, hf, hread⟩ := Option.bind_eq_some_iff.mp h
  cases f with
  | u128 m =>
    cases hread
    exact ⟨m, hf, hn⟩
  | _ => cases hread

theorem HoldsBelow.bind_eq {bound : Nat} (h : HoldsBelow v name bound) :
    ∃ n < bound, (v.at? name).bind Value.nat? = some n := by
  obtain ⟨n, hfield, hn⟩ := h
  exact ⟨n.toNat, hn, by rw [hfield]; rfl⟩

theorem holdsAccount_iff :
    HoldsAccount v name ↔ ∃ a, (v.at? name).bind Value.account? = some a := by
  simp only [HoldsAccount, Option.bind_eq_some_iff]
  exact exists_comm

/-- A value describes some peer exactly when it has the fields of one. -/
theorem exists_describes_iff : (∃ p, Describes v p) ↔ WellFormed v := by
  constructor
  · rintro ⟨p, h⟩
    exact
      { ip := holdsBelow_of_bind h.ip p.ip.isLt
        uid := holdsBelow_of_bind h.uid p.uid.toNat_lt
        port := holdsBelow_of_bind h.port p.port.toNat_lt
        ipType := holdsBelow_of_bind h.ipType p.ipType.toNat_lt
        modality := holdsBelow_of_bind h.modality p.modality.toNat_lt
        hotkey := holdsAccount_iff.mpr ⟨_, h.hotkey⟩
        coldkey := holdsAccount_iff.mpr ⟨_, h.coldkey⟩ }
  · intro h
    obtain ⟨ip, hip_lt, hip⟩ := h.ip.bind_eq
    obtain ⟨uid, huid_lt, huid⟩ := h.uid.bind_eq
    obtain ⟨port, hport_lt, hport⟩ := h.port.bind_eq
    obtain ⟨ipType, htype_lt, htype⟩ := h.ipType.bind_eq
    obtain ⟨modality, hmodality_lt, hmodality⟩ := h.modality.bind_eq
    obtain ⟨hotkey, hhotkey⟩ := holdsAccount_iff.mp h.hotkey
    obtain ⟨coldkey, hcoldkey⟩ := holdsAccount_iff.mp h.coldkey
    refine ⟨⟨.ofNat uid, .ofNat 128 ip, .ofNat port, .ofNat ipType, .ofNat modality, hotkey,
      coldkey⟩, ?_⟩
    exact
      { ip := by rw [hip, BitVec.toNat_ofNat, Nat.mod_eq_of_lt hip_lt]
        uid := by rw [huid, UInt64.toNat_ofNat_of_lt' huid_lt]
        port := by rw [hport, UInt16.toNat_ofNat_of_lt' hport_lt]
        ipType := by rw [htype, UInt8.toNat_ofNat_of_lt' htype_lt]
        modality := by rw [hmodality, UInt8.toNat_ofNat_of_lt' hmodality_lt]
        hotkey := hhotkey
        coldkey := hcoldkey }

/-- Which peer a value is depends on the first fields of the names of a peer, and an error does too. -/
theorem ofValue_congr (h : ∀ name ∈ fieldNames, w.at? name = v.at? name) :
    ofValue w = ofValue v := by
  have hfield : ∀ name ∈ fieldNames, field w name = field v name := by
    intro name hname
    rw [field, field, h name hname]
  simp only [fieldNames, List.forall_mem_cons] at hfield
  obtain ⟨hip, huid, hport, htype, hmodality, hhotkey, hcoldkey, -⟩ := hfield
  simp only [ofValue, address, narrow, account, hip, huid, hport, htype, hmodality, hhotkey, hcoldkey]

end WellFormed

end PeerRecord

/-- The first field of a name is the first one among the fields of that name. -/
theorem Value.at?_record_congr {fields others : List (String × Value)} {name : String}
    (h : fields.filter (fun f => f.1 == name) = others.filter fun f => f.1 == name) :
    (record fields).at? name = (record others).at? name := by
  simp only [record, at?, Fields.find?, ← List.head?_filter, h]

/-- **A peer is read from its fields, and from nothing else.** A value is read as the peer that it
describes, and as no other. It is a peer exactly when it is well-formed, and malformed data otherwise.
Values that have the same first field of each of the seven names are read alike, errors included. So
are records that hold the same fields of each of these names, in whatever order the names stand and
whatever other fields there are. -/
theorem peer_iff_fields (v : Value) :
    (∀ p, PeerRecord.ofValue v = .ok p ↔ PeerRecord.Describes v p) ∧
    ((∃ p, PeerRecord.ofValue v = .ok p) ↔ PeerRecord.WellFormed v) ∧
    (¬ PeerRecord.WellFormed v → ∃ fault, PeerRecord.ofValue v = .error (.invalidData fault)) ∧
    (∀ w, (∀ name ∈ PeerRecord.fieldNames, w.at? name = v.at? name) →
      PeerRecord.ofValue w = PeerRecord.ofValue v) ∧
    ∀ fields others : List (String × Value),
      (∀ name ∈ PeerRecord.fieldNames,
        fields.filter (fun f => f.1 == name) = others.filter fun f => f.1 == name) →
      PeerRecord.ofValue (.record fields) = PeerRecord.ofValue (.record others) := by
  have hwell : (∃ p, PeerRecord.ofValue v = .ok p) ↔ PeerRecord.WellFormed v := by
    simp only [PeerRecord.ofValue_eq_ok_iff, PeerRecord.exists_describes_iff]
  refine ⟨fun p => PeerRecord.ofValue_eq_ok_iff, hwell, fun hnot => ?_,
    fun w => PeerRecord.ofValue_congr, fun fields others h => ?_⟩
  · cases hread : PeerRecord.ofValue v with
    | ok p => exact absurd (hwell.mp ⟨p, hread⟩) hnot
    | error e =>
      obtain ⟨fault, rfl⟩ := PeerRecord.blamesData_ofValue v e hread
      exact ⟨fault, rfl⟩
  · exact PeerRecord.ofValue_congr fun name hname => Value.at?_record_congr (h name hname)

/-- The fields of a peer whose other numbers are as large as they can be, with a given port. -/
def largePeerFields (port : Nat) : List (String × Value) :=
  [("ip", .ofNat 7), ("uid", .ofNat 18446744073709551615), ("port", .ofNat port),
    ("ip_type", .ofNat 255), ("modality", .ofNat 255), ("hotkey", .ofBytes (List.replicate 32 1)),
    ("coldkey", .list [.ofBytes (List.replicate 32 2)])]

/-- The peer of these fields, with the largest port. -/
def largePeer : PeerRecord :=
  ⟨18446744073709551615, 7, 65535, 255, 255, .replicate 32 1, .replicate 32 2⟩

/-- The order of the fields makes no difference, and neither do another port behind the first one and a
field of another name. A port that is one too large is not cut down. -/
theorem peer_iff_fields_of_large :
    PeerRecord.ofValue (.record (largePeerFields 65535)) = .ok largePeer ∧
    PeerRecord.ofValue (.record (largePeerFields 65535).reverse) = .ok largePeer ∧
    PeerRecord.ofValue (.record (("name", .bool true) :: largePeerFields 65535 ++
      [("port", .ofNat 1)])) = .ok largePeer ∧
    ¬ PeerRecord.WellFormed (.record (largePeerFields 65536)) ∧
    ∃ fault, PeerRecord.ofValue (.record (largePeerFields 65536)) =
      .error (.invalidData fault) := by
  obtain ⟨-, -, -, hsame, horder⟩ := peer_iff_fields (.record (largePeerFields 65535))
  have hread : PeerRecord.ofValue (.record (largePeerFields 65535)) = .ok largePeer := by decide
  have hunfit : ¬ PeerRecord.WellFormed (.record (largePeerFields 65536)) := by
    intro h
    obtain ⟨n, hn, hlt⟩ := h.port
    cases hn
    exact absurd hlt (by decide)
  refine ⟨hread, ?_, ?_, hunfit, (peer_iff_fields _).2.2.1 hunfit⟩
  · rw [horder (largePeerFields 65535).reverse (largePeerFields 65535), hread]
    simp only [PeerRecord.fieldNames, List.forall_mem_cons]
    exact ⟨rfl, rfl, rfl, rfl, rfl, rfl, rfl, by simp⟩
  · rw [hsame, hread]
    simp only [PeerRecord.fieldNames, List.forall_mem_cons]
    exact ⟨rfl, rfl, rfl, rfl, rfl, rfl, rfl, by simp⟩

end LedgerClient
