import LedgerClient.Proofs.Composing
import LedgerClient.Proofs.Decoding
import Mathlib.Data.List.Forall2

/-!
# What is written is read back

The values that go into a call are made in one place, and the values that come out of storage are
decoded in another. Names of fields, widths of integers, the order of bytes and the form of accounts
have to agree between the two. They do: what the client writes is decoded as what it was given.

## The model

The ledger keeps a registration as a record of the fields of its call, with the uid and the hotkey. The
fields may stand in any order, and an account may be wrapped in composites of a single field. `Kept`
says this of one field, and `Registered` of the record.

## What is proved

* `Call.compose_of_params`: a call is composed of exactly its parameters, in order.
* `at?_record_of_kept`: in a record of what is kept every written field is found under its name.
* `Call.ofValue_of_registered`: a registered peer is decoded with everything that was registered.
* `calls_are_read_back`: every call of the client is read back.
-/

namespace LedgerClient

/-! ### Composing -/

/-- A call is composed of exactly its parameters, in order. -/
theorem Call.compose_of_params {module function : String} {kind : CallKind}
    (hkind : CallKind.find? module function = some kind) {given : List (String × Value)}
    (hgiven : given.map Prod.fst = kind.params) :
    compose module function given = .ok ⟨kind, given, hgiven⟩ :=
  compose_eq_ok_iff.mpr ⟨CallKind.find?_eq_some_iff.mp hkind, .refl given⟩

/-! ### Registrations -/

/-- `Kept f g`: what the ledger keeps of a field. An account may be kept wrapped. -/
inductive Kept : String × Value → String × Value → Prop where
  /-- The field itself. -/
  | same (f : String × Value) : Kept f f
  /-- The field of an account, wrapped. -/
  | wrapped (name : String) (a : AccountId) (w : Value) : Value.Wrapped (.ofBytes a.toList) w →
      Kept (name, .ofBytes a.toList) (name, w)

section Kept

variable {f g : String × Value}

theorem Kept.name_eq (h : Kept f g) : g.1 = f.1 := by
  cases h with
  | same => rfl
  | wrapped => rfl

theorem Kept.nat?_eq (h : Kept f g) : g.2.nat? = f.2.nat? := by
  cases h with
  | same => rfl
  | wrapped name a w hw => exact hw.nat?_eq

theorem Kept.account?_eq (h : Kept f g) : g.2.account? = f.2.account? := by
  cases h with
  | same => rfl
  | wrapped name a w hw => exact hw.account?_eq

variable {written kept : List (String × Value)}

theorem names_of_kept (h : List.Forall₂ Kept written kept) :
    kept.map Prod.fst = written.map Prod.fst := by
  induction h with
  | nil => rfl
  | cons hfg _ ih => rw [List.map_cons, List.map_cons, hfg.name_eq, ih]

theorem exists_kept (h : List.Forall₂ Kept written kept) (hf : f ∈ written) :
    ∃ g ∈ kept, Kept f g := by
  induction h with
  | nil => cases hf
  | cons hfg _ ih =>
    rcases List.mem_cons.mp hf with rfl | hf
    · exact ⟨_, List.mem_cons_self, hfg⟩
    · obtain ⟨g, hg, hkept⟩ := ih hf
      exact ⟨g, List.mem_cons_of_mem _ hg, hkept⟩

section Record

variable {fields : List (String × Value)} (h : List.Forall₂ Kept written kept)
  (hnames : (written.map Prod.fst).Nodup) (hperm : fields.Perm kept) {name : String}

include h hnames hperm

/-- In a record of what is kept, in any order, every written field is found under its name. -/
theorem at?_record_of_kept {v : Value} (hv : (name, v) ∈ written) :
    ∃ w, (Value.record fields).at? name = some w ∧ Kept (name, v) (name, w) := by
  obtain ⟨⟨_, w⟩, hw, hkept⟩ := exists_kept h hv
  obtain rfl := hkept.name_eq
  have hdistinct : (fields.map Prod.fst).Nodup := by
    rw [(hperm.map Prod.fst).nodup_iff, names_of_kept h]
    exact hnames
  exact ⟨w, Value.at?_record_of_mem hdistinct (hperm.mem_iff.mpr hw), hkept⟩

theorem nat?_at?_of_kept {v : Value} {n : Nat} (hv : (name, v) ∈ written)
    (hn : v.nat? = some n) : ((Value.record fields).at? name).bind Value.nat? = some n := by
  obtain ⟨w, hw, hkept⟩ := at?_record_of_kept h hnames hperm hv
  rw [hw, ← hn]
  exact hkept.nat?_eq

theorem account?_at?_of_kept {v : Value} {a : AccountId} (hv : (name, v) ∈ written)
    (ha : v.account? = some a) :
    ((Value.record fields).at? name).bind Value.account? = some a := by
  obtain ⟨w, hw, hkept⟩ := at?_record_of_kept h hnames hperm hv
  rw [hw, ← ha]
  exact hkept.account?_eq

end Record

end Kept

/-- `Registered call uid hotkey v`: the value is what the ledger may keep of a registration, a record of
the fields of the call, the uid and the hotkey, in any order. -/
inductive Registered (call : Call) (uid : UInt64) (hotkey : AccountId) : Value → Prop where
  /-- The fields are kept, and put in some order. -/
  | record (kept fields : List (String × Value)) :
      List.Forall₂ Kept
        (call.fields ++ [("uid", .ofNat uid.toNat), ("hotkey", .ofBytes hotkey.toList)]) kept →
      fields.Perm kept → Registered call uid hotkey (.record fields)

namespace Call

theorem exists_subscribe (ip : IpAddress) (port : UInt16) (modality : Modality)
    (coldkey : AccountId) :
    ∃ call, subscribe ip port modality coldkey = .ok call ∧
      call.fields = [("ip", .u128 ip.number), ("port", .ofNat port.toNat),
        ("ip_type", .ofNat ip.tag.toNat), ("modality", .ofNat modality.toUInt8.toNat),
        ("coldkey", .ofBytes coldkey.toList)] :=
  ⟨_, compose_of_params rfl rfl, rfl⟩

/-- The record of a registration describes the peer that was registered. -/
theorem describes_of_registered {ip : IpAddress} {port : UInt16} {modality : Modality}
    {coldkey : AccountId} {call : Call} (hcall : subscribe ip port modality coldkey = .ok call)
    {uid : UInt64} {hotkey : AccountId} {v : Value} (h : Registered call uid hotkey v) :
    PeerRecord.Describes v
      ⟨uid, ip.number, port, ip.tag, modality.toUInt8, hotkey, coldkey⟩ := by
  obtain ⟨call', hcall', hfields⟩ := exists_subscribe ip port modality coldkey
  cases hcall.symm.trans hcall'
  cases h with
  | record kept fields hkept hperm =>
    rw [hfields] at hkept
    have hnames : ["ip", "port", "ip_type", "modality", "coldkey", "uid", "hotkey"].Nodup := by
      decide
    have number {name : String} {n : Nat} (hv : (name, Value.ofNat n) ∈ _)
        (hn : n < UInt64.size) := nat?_at?_of_kept hkept hnames hperm hv (Value.nat?_ofNat hn)
    have account {name : String} {a : AccountId} (hv : (name, Value.ofBytes a.toList) ∈ _) :=
      account?_at?_of_kept hkept hnames hperm hv (Value.account?_ofBytes a)
    exact {
      ip := nat?_at?_of_kept hkept hnames hperm List.mem_cons_self rfl
      uid := number (by simp) uid.toNat_lt
      port := number (by simp) (lt_trans port.toNat_lt (by decide))
      ipType := number (by simp) (lt_trans ip.tag.toNat_lt (by decide))
      modality := number (by simp) (lt_trans modality.toUInt8.toNat_lt (by decide))
      hotkey := account (by simp)
      coldkey := account (by simp) }

/-- A registered peer is decoded with everything that was registered. -/
theorem ofValue_of_registered {ip : IpAddress} {port : UInt16} {modality : Modality}
    {coldkey : AccountId} {call : Call} (hcall : subscribe ip port modality coldkey = .ok call)
    {uid : UInt64} {hotkey : AccountId} {v : Value} (h : Registered call uid hotkey v) :
    ∃ p, PeerRecord.ofValue v = .ok p ∧ p.uid = uid ∧ p.port = port ∧ p.hotkey = hotkey ∧
      p.coldkey = coldkey ∧ p.ipAddress? = some ip ∧ p.modality? = some modality :=
  ⟨_, PeerRecord.ofValue_eq_ok_iff.mpr (describes_of_registered hcall h), rfl, rfl, rfl, rfl,
    ip.ofCode?_number_tag, modality.ofUInt8?_toUInt8⟩

/-! ### Fields of calls -/

/-- `call.Reads name decode a`: the call has a field of the name, which is decoded as `a`. -/
def Reads {α : Type} (call : Call) (name : String) (decode : Value → Except Error α) (a : α) :
    Prop :=
  ∃ v, call.field? name = some v ∧ decode v = .ok a

theorem setWeights_reads {dests : List UInt64} {values : List UInt32}
    (h : dests.length = values.length) :
    ∃ call, setWeights dests values = .ok call ∧ call.Reads "dests" Value.uidList dests ∧
      call.Reads "weights" Value.weightList values := by
  rw [setWeights, if_neg (not_not_intro h)]
  exact ⟨_, compose_of_params rfl rfl, ⟨_, rfl, Value.uidList_list dests⟩,
    _, rfl, Value.weightList_list values⟩

theorem addStake_reads (uid : UInt64) (amount : Balance) :
    ∃ call, addStake uid amount = .ok call ∧
      (∀ what, call.Reads "hotkey" (Value.uint64 what) uid) ∧
      call.Reads "ammount_staked" Value.stake amount :=
  ⟨_, compose_of_params rfl rfl, fun what => ⟨_, rfl, Value.uint64_ofNat uid what⟩,
    _, rfl, Value.stake_ofNat amount⟩

theorem removeStake_reads (uid : UInt64) (amount : Balance) :
    ∃ call, removeStake uid amount = .ok call ∧
      (∀ what, call.Reads "hotkey" (Value.uint64 what) uid) ∧
      call.Reads "ammount_unstaked" Value.stake amount :=
  ⟨_, compose_of_params rfl rfl, fun what => ⟨_, rfl, Value.uint64_ofNat uid what⟩,
    _, rfl, Value.stake_ofNat amount⟩

theorem transfer_reads (dest : AccountId) (amount : Balance) :
    ∃ call, transfer dest amount = .ok call ∧
      (∃ content, call.field? "dest" = some (.variant "Id" (.unnamed [content])) ∧
        content.account? = some dest ∧ (Value.list [content]).account? = some dest) ∧
      call.Reads "value" Value.stake amount := by
  have haccount := Value.account?_ofBytes dest
  have hwrapped : Value.Wrapped (.ofBytes dest.toList) (.list [.ofBytes dest.toList]) :=
    .unnamed _ .bare
  exact ⟨_, compose_of_params rfl rfl, ⟨_, rfl, haccount, hwrapped.account?_eq.trans haccount⟩,
    _, rfl, Value.stake_ofNat amount⟩

end Call

/-- **What the client writes is read back.** Every call is composed. The record of a registration, in
any order and with its accounts bare or wrapped, is decoded as the peer that was registered, and the
fields of the other calls are decoded as the numbers, the balances and the accounts that were given. -/
theorem calls_are_read_back :
    (∀ ip port modality coldkey, ∃ call, Call.subscribe ip port modality coldkey = .ok call ∧
      ∀ uid hotkey v, Registered call uid hotkey v →
        ∃ p, PeerRecord.ofValue v = .ok p ∧ p.uid = uid ∧ p.port = port ∧ p.hotkey = hotkey ∧
          p.coldkey = coldkey ∧ p.ipAddress? = some ip ∧ p.modality? = some modality) ∧
    (∀ dests values, dests.length = values.length →
      ∃ call, Call.setWeights dests values = .ok call ∧ call.Reads "dests" Value.uidList dests ∧
        call.Reads "weights" Value.weightList values) ∧
    (∀ uid amount, ∃ call, Call.addStake uid amount = .ok call ∧
      (∀ what, call.Reads "hotkey" (Value.uint64 what) uid) ∧
      call.Reads "ammount_staked" Value.stake amount) ∧
    (∀ uid amount, ∃ call, Call.removeStake uid amount = .ok call ∧
      (∀ what, call.Reads "hotkey" (Value.uint64 what) uid) ∧
      call.Reads "ammount_unstaked" Value.stake amount) ∧
    (∀ dest amount, ∃ call, Call.transfer dest amount = .ok call ∧
      (∃ content, call.field? "dest" = some (.variant "Id" (.unnamed [content])) ∧
        content.account? = some dest ∧ (Value.list [content]).account? = some dest) ∧
      call.Reads "value" Value.stake amount) := by
  refine ⟨fun ip port modality coldkey => ?_, fun dests values => Call.setWeights_reads,
    Call.addStake_reads, Call.removeStake_reads, Call.transfer_reads⟩
  obtain ⟨call, hcall, -⟩ := Call.exists_subscribe ip port modality coldkey
  exact ⟨call, hcall, fun uid hotkey v => Call.ofValue_of_registered hcall⟩

/-- A record with its fields in reverse order, one account wrapped once and the other twice. -/
theorem calls_are_read_back_of_wrapped :
    (∃ p, PeerRecord.ofValue (.record
        [("hotkey", .list [.ofBytes (List.replicate 32 1)]), ("uid", .ofNat 5),
         ("coldkey", .record [("id", .list [.ofBytes (List.replicate 32 2)])]),
         ("modality", .ofNat 2), ("ip_type", .ofNat 4), ("port", .ofNat 9221),
         ("ip", .ofNat 3229228804)]) = .ok p ∧
      p.uid = 5 ∧ p.port = 9221 ∧ p.hotkey = .replicate 32 1 ∧ p.coldkey = .replicate 32 2 ∧
      p.ipAddress? = some (.v4 ⟨[192, 122, 31, 4], rfl⟩) ∧ p.modality? = some .tensor) ∧
    [(2 : UInt64), 8].length = [(0 : UInt32), 7].length ∧
    ∃ call, Call.setWeights [2, 8] [0, 7] = .ok call ∧
      call.Reads "dests" Value.uidList [2, 8] ∧ call.Reads "weights" Value.weightList [0, 7] := by
  refine ⟨?_, rfl, calls_are_read_back.2.1 _ _ rfl⟩
  obtain ⟨call, hcall, hread⟩ :=
    calls_are_read_back.1 (.v4 ⟨[192, 122, 31, 4], rfl⟩) 9221 .tensor (.replicate 32 2)
  obtain rfl := Except.ok.inj (hcall.symm.trans (Call.compose_of_params rfl rfl))
  refine hread 5 (.replicate 32 1) _ (.record _ _ ?_ (List.reverse_perm _).symm)
  exact .cons (.same _) <| .cons (.same _) <| .cons (.same _) <| .cons (.same _) <|
    .cons (.wrapped _ _ _ (.named _ _ (.unnamed _ .bare))) <| .cons (.same _) <|
    .cons (.wrapped _ _ _ (.unnamed _ .bare)) .nil

end LedgerClient
