import LedgerClient.Proofs.Decoding
import LedgerClient.Proofs.WholeMaps

/-!
# Storage addresses tell entries apart

Module, name and key of an entry are all that a read sends to the node. They are the address of no other
entry: the name tells the map, and the key is decoded to the uid or the account that it was made from, so
that no read answers for another one.

## The model

An entry is the record of an account or else `StorageMap.item map key`, the entry of a map under one of
its keys (`exists_item`). `Value.Denotes` says that a key is decoded to an account or to a uid, by the
decoders that stored values go through.

## What is proved

* `StorageMap.name_injective`: the name tells the map.
* `StorageItem.exists_denotes`: the key of an entry is a single value, which is decoded to its subject.
* `StorageMap.keys_item_injective`: within a map the key tells the entry.
* `storage_addresses_differ`: the rule in one statement.
-/

namespace LedgerClient

/-! ### Keys -/

namespace StorageItem

/-- What an entry is about: an account or a uid. -/
def subject : StorageItem → AccountId ⊕ UInt64
  | account a | active a => .inl a
  | stake uid | neuron uid | weightUids uid | weightVals uid | lastEmit uid => .inr uid

end StorageItem

/-- `Denotes v subject`: the value is decoded to this account or to this uid. -/
inductive Value.Denotes (v : Value) : AccountId ⊕ UInt64 → Prop where
  /-- It is decoded to an account. -/
  | account {a : AccountId} : v.account? = some a → Denotes v (.inl a)
  /-- It is decoded to a uid, whatever it is read as. -/
  | uid {uid : UInt64} : (∀ what, v.uint64 what = .ok uid) → Denotes v (.inr uid)

/-- The key of an entry is a single value, and it is decoded to what the entry is about. -/
theorem StorageItem.exists_denotes (item : StorageItem) :
    ∃ key, item.keys = [key] ∧ key.Denotes item.subject := by
  have haccount : ∀ a : AccountId, (Value.ofBytes a.toList).Denotes (.inl a) := fun a =>
    .account (Value.account?_ofBytes a)
  have huid : ∀ uid : UInt64, (Value.ofNat uid.toNat).Denotes (.inr uid) := fun uid =>
    .uid fun what => Value.uint64_ofNat uid what
  cases item with
  | account a => exact ⟨_, rfl, haccount a⟩
  | active a => exact ⟨_, rfl, haccount a⟩
  | stake uid => exact ⟨_, rfl, huid uid⟩
  | neuron uid => exact ⟨_, rfl, huid uid⟩
  | weightUids uid => exact ⟨_, rfl, huid uid⟩
  | weightVals uid => exact ⟨_, rfl, huid uid⟩
  | lastEmit uid => exact ⟨_, rfl, huid uid⟩

/-- No value is both an account and a uid. -/
theorem Value.account?_of_nat? {v : Value} {n : Nat} (h : v.nat? = some n) : v.account? = none := by
  cases v with
  | u128 n => rfl
  | _ => cases h

/-- A value is decoded to one thing only. -/
theorem Value.Denotes.unique {v : Value} {x y : AccountId ⊕ UInt64} (hx : v.Denotes x)
    (hy : v.Denotes y) : x = y := by
  have hmixed : ∀ {a : AccountId} {uid : UInt64}, v.account? = some a →
      ¬ ∀ what, v.uint64 what = .ok uid := by
    intro a uid ha huid
    rw [Value.account?_of_nat? (Value.uint64_eq_ok_iff.mp (huid ""))] at ha
    cases ha
  cases hx with
  | account ha =>
    cases hy with
    | account hb => exact congrArg Sum.inl (Option.some.inj (ha.symm.trans hb))
    | uid huid => exact absurd huid (hmixed ha)
  | uid hm =>
    cases hy with
    | account hb => exact absurd hm (hmixed hb)
    | uid hn => exact congrArg Sum.inr (Except.ok.inj ((hm "").symm.trans (hn "")))

/-- Entries with the same key are about the same account or uid. -/
theorem StorageItem.subject_eq_of_keys_eq {i j : StorageItem} (h : i.keys = j.keys) :
    i.subject = j.subject := by
  obtain ⟨key, hkey, hi⟩ := i.exists_denotes
  obtain ⟨key', hkey', hj⟩ := j.exists_denotes
  obtain rfl : key = key' := by
    rw [hkey, hkey'] at h
    exact List.head_eq_of_cons_eq h
  exact hi.unique hj

/-! ### Maps -/

namespace StorageMap

/-- The name tells the map. -/
theorem name_injective : Function.Injective StorageMap.name := by
  have hname : ∀ map : StorageMap, ofName? map.name = some map := by
    intro map
    cases map <;> decide
  intro map map' h
  have hread := hname map
  rw [h, hname map'] at hread
  exact (Option.some.inj hread).symm

/-- An entry of a map lies where the whole map does. -/
theorem module_item (map : StorageMap) (key : map.Key) : (map.item key).module = map.module := by
  cases map <;> rfl

theorem name_item (map : StorageMap) (key : map.Key) : (map.item key).name = map.name := by
  cases map <;> rfl

/-- Within a map the key tells the entry. -/
theorem keys_item_injective {map : StorageMap} {key key' : map.Key}
    (h : (map.item key).keys = (map.item key').keys) : key = key' := by
  have hsubject := StorageItem.subject_eq_of_keys_eq h
  cases map with
  | active => exact Sum.inl.inj hsubject
  | _ => exact Sum.inr.inj hsubject

end StorageMap

/-- An entry is the record of an account, or that of a map under a key. -/
theorem StorageItem.exists_item (i : StorageItem) :
    (∃ a, i = .account a) ∨ ∃ map key, i = StorageMap.item map key := by
  cases i with
  | account a => exact .inl ⟨a, rfl⟩
  | stake uid => exact .inr ⟨.stake, uid, rfl⟩
  | neuron uid => exact .inr ⟨.neurons, uid, rfl⟩
  | weightUids uid => exact .inr ⟨.weightUids, uid, rfl⟩
  | weightVals uid => exact .inr ⟨.weightVals, uid, rfl⟩
  | active a => exact .inr ⟨.active, a, rfl⟩
  | lastEmit uid => exact .inr ⟨.lastEmit, uid, rfl⟩

/-- No account's record lies in the module of the maps. -/
theorem StorageItem.module_account_ne (a : AccountId) (map : StorageMap) (key : map.Key) :
    (account a).module ≠ (map.item key).module := by
  rw [StorageMap.module_item]
  exact (by decide : "System" ≠ "SubtensorModule")

/-- **Storage addresses differ.** Two entries with the same module, name and key are the same entry.
An entry other than the record of an account has the module and the name of the map that it is an
entry of, and no two maps have the same name. The key of every entry is a single value, and it is
decoded to the uid or the account that the entry is about. -/
theorem storage_addresses_differ :
    (∀ i j : StorageItem, i.module = j.module → i.name = j.name → i.keys = j.keys → i = j) ∧
    (∀ i : StorageItem, (∃ a, i = .account a) ∨
      ∃ map key, i = StorageMap.item map key ∧ i.module = map.module ∧ i.name = map.name) ∧
    Function.Injective StorageMap.name ∧
    (∀ i : StorageItem, ∃ key, i.keys = [key] ∧ key.Denotes i.subject) := by
  refine ⟨fun i j hmodule hname hkeys => ?_, fun i => ?_, StorageMap.name_injective,
    StorageItem.exists_denotes⟩
  · rcases i.exists_item with ⟨a, rfl⟩ | ⟨map, key, rfl⟩
    · rcases j.exists_item with ⟨b, rfl⟩ | ⟨map', key', rfl⟩
      · have hsubject := StorageItem.subject_eq_of_keys_eq hkeys
        exact congrArg StorageItem.account (Sum.inl.inj hsubject)
      · exact absurd hmodule (StorageItem.module_account_ne a map' key')
    · rcases j.exists_item with ⟨b, rfl⟩ | ⟨map', key', rfl⟩
      · exact absurd hmodule.symm (StorageItem.module_account_ne b map key)
      · -- The name gives the map, and within it the key gives the entry.
        rw [StorageMap.name_item, StorageMap.name_item] at hname
        obtain rfl := StorageMap.name_injective hname
        rw [StorageMap.keys_item_injective hkeys]
  · rcases i.exists_item with ha | ⟨map, key, rfl⟩
    · exact .inl ha
    · exact .inr ⟨map, key, rfl, map.module_item key, map.name_item key⟩

/-- The two halves of a peer's weights share their module and their key, and only the name tells them
apart; the entry of the map is the half of its name. -/
theorem storage_addresses_differ_in_weights :
    (StorageItem.weightUids 42).module = (StorageItem.weightVals 42).module ∧
      (StorageItem.weightUids 42).keys = (StorageItem.weightVals 42).keys ∧
      (StorageItem.weightUids 42).name ≠ (StorageItem.weightVals 42).name ∧
      (StorageItem.weightVals 42).name = (StorageMap.item .weightVals 42).name ∧
      StorageItem.weightVals 42 = StorageMap.item .weightVals 42 := by
  obtain ⟨hsame, -, -, -⟩ := storage_addresses_differ
  refine ⟨rfl, rfl, fun hname => ?_, rfl, hsame _ _ rfl rfl rfl⟩
  have heq : StorageItem.weightUids 42 = StorageItem.weightVals 42 := hsame _ _ rfl hname rfl
  cases heq

end LedgerClient
