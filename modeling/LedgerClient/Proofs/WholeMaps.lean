import LedgerClient.Proofs.ByteOrder
import LedgerClient.Proofs.Deadline
import LedgerClient.Proofs.Result
import Mathlib.Data.List.Nodup

/-!
# Whole maps and single entries

A map can be read whole, or one entry at a time. Both ways show the same: whatever a node stores,
malformed values included, the whole map is what the single reads of its keys give one after the
other, and an error of the whole read is the error of the first single read that fails.

## The model

The six maps are one family: `StorageMap.single` is the read of an entry and `StorageMap.whole` that
of the map. A `Ledger` says what a node stores in each map: entries in some order, each with a raw
key that ends in the key, behind anything. `Ledger.ServedBy` says that a node answers reads from it,
in time. `Agrees` compares a whole read with single reads.

## What is proved

* `StorageMap.readKey_raw`: a key is found at the end of its raw key.
* `Ledger.ServedBy.single_of_mem`, `Ledger.ServedBy.single_of_not_mem`, `Ledger.ServedBy.whole_eq`:
  what the two ways of reading give.
* `whole_maps_agree`: they agree.
* `ScriptedNode.servedBy_ofLedger`: every ledger is served by some node.
-/

namespace LedgerClient

variable {σ α β κ : Type}

/-! ### Keys at the end of raw keys -/

namespace RawKey

theorem uid_append (before : Bytes) (uid : UInt64) :
    RawKey.uid (before ++ Bytes.toLittleEndian 8 uid.toNat) = .ok uid := by
  have hlength : (Bytes.toLittleEndian 8 uid.toNat).length = 8 := Bytes.length_toLittleEndian 8 _
  have hlong : ¬ (before ++ Bytes.toLittleEndian 8 uid.toNat).length < 8 := by
    rw [List.length_append, hlength]
    omega
  have hstart : (before ++ Bytes.toLittleEndian 8 uid.toNat).length - 8 = before.length := by
    rw [List.length_append, hlength]
    omega
  have hlt : uid.toNat < 256 ^ 8 := uid.toNat_lt
  rw [RawKey.uid, if_neg hlong, hstart, List.drop_left, Bytes.ofLittleEndian_toLittleEndian,
    Nat.mod_eq_of_lt hlt, UInt64.ofNat_toNat]

theorem account_append (before : Bytes) (a : AccountId) :
    RawKey.account (before ++ a.toList) = .ok a := by
  have hstart : (before ++ a.toList).length - 32 = before.length := by
    rw [List.length_append, a.length_eq]
    omega
  have hread : Octets.ofList? 32 a.toList = some a := by rw [Octets.ofList?, dif_pos a.length_eq]
  unfold RawKey.account
  rw [hstart, List.drop_left, hread]

end RawKey

/-! ### The maps as a family -/

namespace StorageMap

/-- What the entries of a map are found by: a hotkey, or else a uid. -/
abbrev Key : StorageMap → Type
  | active => AccountId
  | stake => UInt64
  | neurons => UInt64
  | weightUids => UInt64
  | weightVals => UInt64
  | lastEmit => UInt64

instance (map : StorageMap) : DecidableEq map.Key := by
  cases map <;> infer_instance

/-- What the values of a map are decoded to. -/
abbrev Content : StorageMap → Type
  | active => UInt64
  | stake => Balance
  | neurons => PeerRecord
  | weightUids => List UInt64
  | weightVals => List UInt32
  | lastEmit => UInt64

/-- The entry of a map under a key. -/
def item : (map : StorageMap) → map.Key → StorageItem
  | active => .active
  | stake => .stake
  | neurons => .neuron
  | weightUids => .weightUids
  | weightVals => .weightVals
  | lastEmit => .lastEmit

/-- What the raw key of an entry ends in. -/
def keyBytes : (map : StorageMap) → map.Key → Bytes
  | active => fun (account : AccountId) => account.toList
  | stake | neurons | weightUids | weightVals | lastEmit =>
    fun (uid : UInt64) => Bytes.toLittleEndian 8 uid.toNat

/-- How the key is read from a raw key. -/
def readKey : (map : StorageMap) → Bytes → Except Error map.Key
  | active => RawKey.account
  | stake | neurons | weightUids | weightVals | lastEmit => RawKey.uid

/-- How a value is decoded. -/
def decode : (map : StorageMap) → Value → Except Error map.Content
  | active => Value.uint64 "uid"
  | stake => Value.stake
  | neurons => PeerRecord.ofValue
  | weightUids => Value.uidList
  | weightVals => Value.weightList
  | lastEmit => Value.uint64 "last emit"

variable [Node σ]

/-- The read of a single entry. -/
def single : (map : StorageMap) → map.Key → Action σ (Option map.Content)
  | active => Client.uidOf
  | stake => Client.stake
  | neurons => Client.neuron
  | weightUids => Client.weightUids
  | weightVals => Client.weightVals
  | lastEmit => Client.lastEmit

/-- The read of a whole map. -/
def whole : (map : StorageMap) → Option Hash → Action σ (List (map.Key × map.Content))
  | active => Client.activeMap
  | stake => Client.stakeMap
  | neurons => Client.neurons
  | weightUids => Client.weightUidsMap
  | weightVals => Client.weightValsMap
  | lastEmit => Client.lastEmitMap

theorem single_eq (map : StorageMap) (key : map.Key) :
    map.single (σ := σ) key = Client.queryEntry (map.item key) map.decode := by
  cases map <;> rfl

/-- Reading a whole map is reading its entries; the number of peers is noted besides. -/
theorem result_whole (map : StorageMap) (block : Option Hash) (c : Client) (s : σ) :
    (map.whole block c s).result =
      (Client.queryEntries map block map.readKey map.decode c s).result := by
  cases map with
  | neurons =>
    rw [whole, Client.neurons, readKey, decode]
    cases h : (Client.queryEntries .neurons block RawKey.uid PeerRecord.ofValue c s).result with
    | error e => rw [Action.bind_error _ h]
    | ok peers =>
      rw [Action.bind_ok _ h]
      rfl
  | _ => rfl

end StorageMap

/-! ### What a node stores -/

/-- An entry of a map as a node stores it. -/
structure MapEntry (map : StorageMap) where
  /-- What the raw key begins with. -/
  before : Bytes
  /-- The key. -/
  key : map.Key
  /-- The value, which may be malformed. -/
  value : Value

/-- The entry with its raw key. -/
def MapEntry.raw {map : StorageMap} (entry : MapEntry map) : Bytes × Value :=
  (entry.before ++ map.keyBytes entry.key, entry.value)

/-- The key of an entry is found at the end of its raw key. -/
theorem StorageMap.readKey_raw {map : StorageMap} (entry : MapEntry map) :
    map.readKey entry.raw.1 = .ok entry.key := by
  cases map with
  | active => exact RawKey.account_append _ _
  | _ => exact RawKey.uid_append _ _

/-- What a node stores in the maps. -/
structure Ledger where
  /-- The entries of each map, in order. -/
  entries : (map : StorageMap) → List (MapEntry map)
  /-- No key has two entries. -/
  nodup : ∀ map, ((entries map).map MapEntry.key).Nodup

namespace Ledger

/-- The keys of a map, in order. -/
def keys (ledger : Ledger) (map : StorageMap) : List map.Key :=
  (ledger.entries map).map MapEntry.key

/-- The node answers reads of the maps and of their entries from a ledger, each within a time
limit. -/
structure ServedBy [Node σ] (ledger : Ledger) (link : Link) (limit : Millis) (block : Option Hash)
    (s : σ) : Prop where
  /-- The entry of a key is found. -/
  found : ∀ map, ∀ entry ∈ ledger.entries map, ∃ t,
    Exchange.Answers link limit (.fetch (map.item entry.key) none) s (some entry.value) t
  /-- Nothing is found under any other key. -/
  absent : ∀ map, ∀ key ∉ ledger.keys map, ∃ t,
    Exchange.Answers link limit (.fetch (map.item key) none) s none t
  /-- A whole map is listed with its raw keys. -/
  listed : ∀ map, ∃ t,
    Exchange.Answers link limit (.entries map block) s ((ledger.entries map).map MapEntry.raw) t

end Ledger

/-! ### What the reads give -/

namespace Client

variable [Node σ] {c : Client} {link : Link} {s t : σ}

theorem result_queryEntry {item : StorageItem} {v : Option Value} (hc : c.link = some link)
    (h : Exchange.Answers link c.queryTimeout (.fetch item none) s v t)
    (decode : Value → Except Error α) :
    (queryEntry item decode c s).result = decodeEntry decode v := by
  have hquery : (query item none c s).success? = some (v, t) := by
    rw [query, Action.note_bind, Ran.success?_behind, Action.success?_reading _ hc]
    exact Exchange.answers_iff.mp h
  rw [queryEntry, Action.bind_of_success _ hquery]
  rfl

theorem result_queryEntries {map : StorageMap} {block : Option Hash} {list : List (Bytes × Value)}
    (hc : c.link = some link)
    (h : Exchange.Answers link c.queryTimeout (.entries map block) s list t)
    (key : Bytes → Except Error κ) (decode : Value → Except Error α) :
    (queryEntries map block key decode c s).result = decodeEntries key decode list := by
  have hquery : (queryMap map block c s).success? = some (list, t) := by
    rw [queryMap, Action.note_bind, Ran.success?_behind, Action.success?_reading _ hc]
    exact Exchange.answers_iff.mp h
  rw [queryEntries, Action.bind_of_success _ hquery]
  rfl

end Client

namespace Ledger.ServedBy

variable [Node σ] {ledger : Ledger} {c : Client} {link : Link} {block : Option Hash} {s : σ}
  {map : StorageMap}

theorem single_of_mem (h : ledger.ServedBy link c.queryTimeout block s) (hc : c.link = some link)
    {entry : MapEntry map} (hm : entry ∈ ledger.entries map) :
    (map.single entry.key c s).result = (map.decode entry.value).map some := by
  obtain ⟨t, ht⟩ := h.found map entry hm
  rw [StorageMap.single_eq, Client.result_queryEntry hc ht]
  rfl

theorem single_of_not_mem (h : ledger.ServedBy link c.queryTimeout block s)
    (hc : c.link = some link) {key : map.Key} (hm : key ∉ ledger.keys map) :
    (map.single key c s).result = .ok none := by
  obtain ⟨t, ht⟩ := h.absent map key hm
  rw [StorageMap.single_eq, Client.result_queryEntry hc ht]
  rfl

/-- A whole map is read entry by entry; its keys can always be read. -/
theorem whole_eq (h : ledger.ServedBy link c.queryTimeout block s) (hc : c.link = some link) :
    (map.whole block c s).result =
      (ledger.entries map).mapM fun entry =>
        (map.decode entry.value).map fun content => (entry.key, content) := by
  obtain ⟨t, ht⟩ := h.listed map
  have hpair : ∀ entry : MapEntry map, decodePair map.readKey map.decode entry.raw =
      (map.decode entry.value).map fun content => (entry.key, content) := by
    intro entry
    rw [decodePair, StorageMap.readKey_raw]
    rfl
  rw [StorageMap.result_whole, Client.result_queryEntries hc ht, decodeEntries, List.mapM_map]
  exact congrArg (List.mapM · _) (funext hpair)

end Ledger.ServedBy

/-! ### Agreement -/

/-- A whole read agrees with the single reads of these keys. -/
structure Agrees (keys : List κ) (single : κ → Except Error (Option α))
    (whole : Except Error (List (κ × α))) : Prop where
  /-- The whole can be read exactly when everything in it can. -/
  succeeds_iff : (∃ pairs, whole = .ok pairs) ↔ ∀ key ∈ keys, ∃ found, single key = .ok found
  /-- It has all keys, in order, each with the content that its single read gives. -/
  pairs : ∀ pairs, whole = .ok pairs →
    pairs.map Prod.fst = keys ∧ ∀ pair ∈ pairs, single pair.1 = .ok (some pair.2)
  /-- It fails with the error of the first single read that fails. -/
  fails_iff : ∀ e, whole = .error e ↔ ∃ before key after, keys = before ++ key :: after ∧
    (∀ k ∈ before, ∃ found, single k = .ok found) ∧ single key = .error e
  /-- Under any other key nothing is found. -/
  absent : ∀ key, key ∉ keys → single key = .ok none

/-- Reading entries with their keys agrees with reading their values alone. -/
theorem agrees_of_entries {ι : Type} {entries : List ι} {key : ι → κ}
    {decode : ι → Except Error α} {single : κ → Except Error (Option α)}
    (hsingle : ∀ entry ∈ entries, single (key entry) = (decode entry).map some)
    (habsent : ∀ k, k ∉ entries.map key → single k = .ok none) :
    Agrees (entries.map key) single
      (entries.mapM fun entry => (decode entry).map fun content => (key entry, content)) := by
  have hok : ∀ entry pair, ((decode entry).map fun content => (key entry, content)) = .ok pair →
      pair.1 = key entry ∧ decode entry = .ok pair.2 := by
    intro entry pair h
    obtain ⟨content, hdecode, rfl⟩ := map_eq_ok_iff.mp h
    exact ⟨rfl, hdecode⟩
  -- An entry is read with its key exactly when its value is, and fails with the same error.
  have hfound : ∀ entry ∈ entries, (∃ found, single (key entry) = .ok found) ↔
      ∃ pair, ((decode entry).map fun content => (key entry, content)) = .ok pair := by
    intro entry hm
    rw [hsingle entry hm, exists_map_eq_ok_iff, exists_map_eq_ok_iff]
  have herror : ∀ entry ∈ entries, ∀ e, single (key entry) = .error e ↔
      ((decode entry).map fun content => (key entry, content)) = .error e := by
    intro entry hm e
    rw [hsingle entry hm, map_eq_error_iff, map_eq_error_iff]
  constructor
  case succeeds_iff =>
    rw [exists_mapM_eq_ok_iff, List.forall_mem_map]
    exact forall₂_congr fun entry hm => (hfound entry hm).symm
  case pairs =>
    intro pairs h
    refine ⟨map_of_mapM_eq_ok (fun entry pair hp => (hok entry pair hp).1) h, fun pair hm => ?_⟩
    obtain ⟨entry, hentry, hpair⟩ := exists_of_mem_results h hm
    obtain ⟨hkey, hdecode⟩ := hok entry pair hpair
    rw [hkey, hsingle entry hentry, hdecode]
    rfl
  case fails_iff =>
    intro e
    rw [mapM_eq_error_iff]
    constructor
    · rintro ⟨before, entry, after, rfl, hbefore, hfails⟩
      refine ⟨before.map key, key entry, after.map key, by simp, ?_, ?_⟩
      · intro k hk
        obtain ⟨b, hb, rfl⟩ := List.mem_map.mp hk
        exact (hfound b (List.mem_append_left _ hb)).mpr (hbefore b hb)
      · exact (herror entry (by simp) e).mpr hfails
    · rintro ⟨before, k, after, hkeys, hbefore, hfails⟩
      obtain ⟨first, rest, rfl, rfl, hrest⟩ := List.map_eq_append_iff.mp hkeys
      obtain ⟨entry, last, rfl, rfl, rfl⟩ := List.map_eq_cons_iff.mp hrest
      refine ⟨first, entry, last, rfl, fun b hb => ?_, ?_⟩
      · exact (hfound b (List.mem_append_left _ hb)).mp (hbefore _ (List.mem_map_of_mem hb))
      · exact (herror entry (by simp) e).mp hfails
  case absent => exact habsent

/-- **Whole maps agree with single entries.** Take a node that answers from a ledger, whatever it
stores and however long its raw keys begin. For each of the maps, the whole read succeeds exactly when
the single reads of all its keys do, at whichever moments these are made. Then it gives the keys in
the order of the entries, each with the content of its single read; else it fails with the error of
the first single read that fails. Under a key that is not in the map nothing is found. -/
theorem whole_maps_agree [Node σ] {ledger : Ledger} {c : Client} {link : Link}
    (hc : c.link = some link) {block : Option Hash} {s : σ}
    (hs : ledger.ServedBy link c.queryTimeout block s) (map : StorageMap) {moment : map.Key → σ}
    (hmoment : ∀ key, ledger.ServedBy link c.queryTimeout block (moment key)) :
    Agrees (ledger.keys map) (fun key => (map.single key c (moment key)).result)
      (map.whole block c s).result := by
  rw [hs.whole_eq hc]
  refine agrees_of_entries ?_ ?_
  · intro entry hm
    exact (hmoment entry.key).single_of_mem hc hm
  · intro key hm
    exact (hmoment key).single_of_not_mem hc hm

/-! ### A node for every ledger -/

/-- The value under a key, if it has an entry. -/
def Ledger.value? (ledger : Ledger) (map : StorageMap) (key : map.Key) : Option Value :=
  ((ledger.entries map).find? fun entry => entry.key = key).map MapEntry.value

theorem Ledger.value?_of_mem (ledger : Ledger) {map : StorageMap} {entry : MapEntry map}
    (hm : entry ∈ ledger.entries map) : ledger.value? map entry.key = some entry.value := by
  unfold value?
  cases h : (ledger.entries map).find? fun other => other.key = entry.key with
  | none =>
    have hne := List.find?_eq_none.mp h entry hm
    simp at hne
  | some other =>
    have hkey : other.key = entry.key := by simpa using List.find?_some h
    have hsame : other = entry :=
      List.inj_on_of_nodup_map (ledger.nodup map) (List.mem_of_find?_eq_some h) hm hkey
    rw [hsame, Option.map_some]

theorem Ledger.value?_of_not_mem (ledger : Ledger) {map : StorageMap} {key : map.Key}
    (hm : key ∉ ledger.keys map) : ledger.value? map key = none := by
  unfold value?
  rw [Option.map_eq_none_iff, List.find?_eq_none]
  intro entry hentry hkey
  refine hm (List.mem_map.mpr ⟨entry, hentry, ?_⟩)
  simpa using hkey

namespace ScriptedNode

/-- The node that stores a ledger, and nothing else. -/
def ofLedger (ledger : Ledger) : ScriptedNode :=
  { empty with
    entry := fun
      | .account _ => none
      | .stake uid => ledger.value? .stake uid
      | .neuron uid => ledger.value? .neurons uid
      | .weightUids uid => ledger.value? .weightUids uid
      | .weightVals uid => ledger.value? .weightVals uid
      | .active account => ledger.value? .active account
      | .lastEmit uid => ledger.value? .lastEmit uid
    entries := fun map => (ledger.entries map).map MapEntry.raw }

theorem entry_ofLedger (ledger : Ledger) (map : StorageMap) (key : map.Key) :
    (ofLedger ledger).entry (map.item key) = ledger.value? map key := by
  cases map <;> rfl

/-- A node without a script answers a fetch at once. -/
theorem answers_fetch (ledger : Ledger) (link : Link) (limit : Millis) (map : StorageMap)
    (key : map.Key) :
    Exchange.Answers link limit (.fetch (map.item key) none) (ofLedger ledger)
      (ledger.value? map key) (ofLedger ledger) := by
  refine ⟨⟨0, rfl, Nat.zero_le _⟩, ?_, rfl⟩
  rw [← entry_ofLedger]
  rfl

/-- Every ledger is served. -/
theorem servedBy_ofLedger (ledger : Ledger) (link : Link) (limit : Millis) (block : Option Hash) :
    ledger.ServedBy link limit block (ofLedger ledger) := by
  constructor
  case found =>
    intro map entry hm
    rw [← ledger.value?_of_mem hm]
    exact ⟨_, answers_fetch ledger link limit map entry.key⟩
  case absent =>
    intro map key hm
    rw [← ledger.value?_of_not_mem hm]
    exact ⟨_, answers_fetch ledger link limit map key⟩
  case listed =>
    intro map
    exact ⟨ofLedger ledger, ⟨0, rfl, Nat.zero_le _⟩, rfl, rfl⟩

end ScriptedNode

/-- Three stakes, of which the second one is no integer, and no other entries. -/
def blemishedLedger : Ledger where
  entries
    | .stake => [⟨[0xAA], 7, .ofNat 5⟩, ⟨[], 256, .bool true⟩, ⟨[1, 2, 3], 1, .bool false⟩]
    | _ => []
  nodup map := by cases map <;> decide

/-- One malformed stake makes the whole map unreadable, with the error of its single read, though
the stake before it can be read. -/
theorem whole_maps_agree_on_blemished :
    (linkedClient 0).link = some ⟨"ws://a:1", 0⟩ ∧
    blemishedLedger.ServedBy ⟨"ws://a:1", 0⟩ (linkedClient 0).queryTimeout none
      (ScriptedNode.ofLedger blemishedLedger) ∧
    (Client.stake 7 (linkedClient 0) (ScriptedNode.ofLedger blemishedLedger)).result =
      .ok (some ⟨5⟩) ∧
    (Client.stakeMap none (linkedClient 0) (ScriptedNode.ofLedger blemishedLedger)).result =
      .error (.invalidData (.notInteger "stake")) := by
  have hserved := ScriptedNode.servedBy_ofLedger blemishedLedger ⟨"ws://a:1", 0⟩
    (linkedClient 0).queryTimeout none
  have hagrees := whole_maps_agree (c := linkedClient 0) rfl hserved .stake fun _ => hserved
  have hfirst : (Client.stake 7 (linkedClient 0) (ScriptedNode.ofLedger blemishedLedger)).result =
      .ok (some ⟨5⟩) := by decide
  refine ⟨rfl, hserved, hfirst, ?_⟩
  refine (hagrees.fails_iff _).mpr ⟨[7], 256, [1], rfl, ?_, rfl⟩
  intro k hk
  rw [List.mem_singleton.mp hk]
  exact ⟨_, hfirst⟩

end LedgerClient
