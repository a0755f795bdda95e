import LedgerClient.Proofs.Decoding
import LedgerClient.Proofs.StoredWeights

/-!
# Present entries

A present entry shows something, or it is malformed. Reading it gives what it shows, in full, and a
malformed entry is reported as malformed data. It is never read as another value, nor as one that is not
there, and never reported as a fault of another kind.

One decoder does not keep to this. The free balance of an account is an integer of 128 bits, and an
amount that does not fit 64 bits is refused by the balance, not by the decoder. So a record with such an
amount is reported as an amount out of range, while all other integers that are too large are malformed
data.

## The model

`Tells decode shows` says that a decoder gives exactly what its argument shows, and blames the data
otherwise. What an entry of a map shows is `StorageMap.Shows`, and what its raw key shows is
`StorageMap.KeyShows`; `Value.HoldsFree` is what the record of an account shows.

## What is proved

* `Tells.mapM`, `Tells.decodeEntry`, `Tells.decodeEntries`: a decoder that tells what is there does so in
  lists, for entries that may be absent, and for whole maps; `Value.tells_items`: for sequences.
* `StorageMap.tells_decode`, `StorageMap.tells_readKey`: the decoders of the maps and of their keys do.
* `Value.freeBalance_eq_ok_iff`, `Value.freeBalance_eq_error_iff`: what the decoder of free balances does.
* `present_entries_are_told`: what all reads of a node that answers in time come to.
* `present_balance_out_of_range`: a present entry that is not reported as malformed data.
-/

namespace LedgerClient

variable {σ ι κ α β : Type}

/-! ### Telling what is there -/

/-- A decoder gives what its argument shows, and blames the data when it shows nothing. -/
structure Tells (decode : ι → Except Error α) (shows : ι → α → Prop) : Prop where
  /-- What is decoded is what is shown. -/
  ok_iff : ∀ {v a}, decode v = .ok a ↔ shows v a
  /-- An error is one of malformed data. -/
  blames : ∀ v, BlamesData (decode v)

/-- The read of an entry that may be absent finds none when it is absent, gives what it shows when it is
present, and blames the data when it shows nothing. -/
structure TellsEntry (shows : ι → α → Prop) (stored : Option ι)
    (result : Except Error (Option α)) : Prop where
  /-- None is found exactly when the entry is absent. -/
  none_iff : result = .ok none ↔ stored = none
  /-- What is found is what a present entry shows. -/
  some_iff : ∀ {a}, result = .ok (some a) ↔ ∃ v, stored = some v ∧ shows v a
  /-- An error is one of malformed data. -/
  blames : BlamesData result

namespace Tells

variable {decode : ι → Except Error α} {shows : ι → α → Prop}

theorem mapM (h : Tells decode shows) :
    Tells (fun list : List ι => list.mapM decode) (List.Forall₂ shows) where
  ok_iff := by
    intro list results
    have hitems : (fun v a => decode v = .ok a) = shows := by
      funext v a
      exact propext h.ok_iff
    rw [mapM_eq_ok_iff, ← List.forall₂_eq_eq_eq, List.forall₂_map_left_iff,
      List.forall₂_map_right_iff, hitems]
  blames list := .mapM h.blames list

/-- Pairs are told by what tells their parts. -/
theorem decodePair {key : Bytes → Except Error κ} {keyShows : Bytes → κ → Prop}
    {decode : Value → Except Error α} {shows : Value → α → Prop} (hkey : Tells key keyShows)
    (h : Tells decode shows) :
    Tells (LedgerClient.decodePair key decode)
      fun entry pair => keyShows entry.1 pair.1 ∧ shows entry.2 pair.2 where
  ok_iff := by
    intro entry pair
    rw [LedgerClient.decodePair, ← hkey.ok_iff, ← h.ok_iff]
    cases key entry.1 with
    | error e => simp
    | ok k => simp [map_eq_ok_iff, Prod.ext_iff, and_comm]
  blames entry := by
    have hk := hkey.blames entry.1
    rw [LedgerClient.decodePair]
    cases hread : key entry.1 with
    | error e =>
      obtain ⟨fault, rfl⟩ := hk e hread
      exact .error fault
    | ok k => exact (h.blames entry.2).map _

/-- A whole map shows what its entries show, in order. -/
theorem decodeEntries {key : Bytes → Except Error κ} {keyShows : Bytes → κ → Prop}
    {decode : Value → Except Error α} {shows : Value → α → Prop} (hkey : Tells key keyShows)
    (h : Tells decode shows) :
    Tells (LedgerClient.decodeEntries key decode)
      (List.Forall₂ fun entry pair => keyShows entry.1 pair.1 ∧ shows entry.2 pair.2) :=
  (hkey.decodePair h).mapM

theorem decodeEntry {decode : Value → Except Error α} {shows : Value → α → Prop}
    (h : Tells decode shows) (stored : Option Value) :
    TellsEntry shows stored (LedgerClient.decodeEntry decode stored) := by
  cases stored with
  | none =>
    exact
      { none_iff := by simp [LedgerClient.decodeEntry]
        some_iff := by simp [LedgerClient.decodeEntry]
        blames := .ok none }
  | some v =>
    exact
      { none_iff := by simp [LedgerClient.decodeEntry, map_eq_ok_iff]
        some_iff := by simp [LedgerClient.decodeEntry, map_eq_ok_iff, h.ok_iff]
        blames := (h.blames v).map some }

end Tells

/-! ### What values show -/

namespace Value

/-- A value is a sequence of integers, which are the numbers of a list. -/
def Lists (toNat : α → Nat) (v : Value) (list : List α) : Prop :=
  ∃ fields, v = .composite fields ∧
    List.Forall₂ (fun item a => item.nat? = some (toNat a)) fields.values list

theorem tells_uint64 (what : String) :
    Tells (uint64 what) fun v n => v.nat? = some n.toNat where
  ok_iff := uint64_eq_ok_iff
  blames v := v.blamesData_uint64 what

theorem tells_stake : Tells stake fun v b => v.nat? = some b.rao.toNat where
  ok_iff := stake_eq_ok_iff
  blames v := (v.blamesData_uint64 "stake").map Balance.mk

theorem tells_weight : Tells weight fun v w => v.nat? = some w.toNat where
  ok_iff := weight_eq_ok_iff
  blames := blamesData_weight

/-- The items of a sequence are told by what tells an integer. -/
theorem tells_items {decode : Value → Except Error α} {toNat : α → Nat} (what : String)
    (h : Tells decode fun v a => v.nat? = some (toNat a)) :
    Tells (fun v => v.items what >>= List.mapM decode) (Lists toNat) where
  ok_iff := by
    intro v list
    simp only [bind_eq_ok_iff, items_eq_ok_iff, h.mapM.ok_iff, Lists]
    constructor
    · rintro ⟨items, ⟨fields, hv, rfl⟩, hitems⟩
      exact ⟨fields, hv, hitems⟩
    · rintro ⟨fields, hv, hitems⟩
      exact ⟨fields.values, ⟨fields, hv, rfl⟩, hitems⟩
  blames v := (v.blamesData_items what).bind h.mapM.blames

theorem tells_uidList : Tells uidList (Lists UInt64.toNat) := by
  have hbind : uidList = fun v => v.items "weight uids" >>= List.mapM (uint64 "weight uid") := by
    funext v
    rw [uidList]
    cases v.items "weight uids" <;> rfl
  rw [hbind]
  exact tells_items "weight uids" (tells_uint64 "weight uid")

theorem tells_weightList : Tells weightList (Lists UInt32.toNat) := by
  have hbind : weightList = fun v => v.items "weight values" >>= List.mapM weight := by
    funext v
    rw [weightList]
    cases v.items "weight values" <;> rfl
  rw [hbind]
  exact tells_items "weight values" tells_weight

end Value

theorem PeerRecord.tells_ofValue : Tells ofValue Describes where
  ok_iff := ofValue_eq_ok_iff
  blames := blamesData_ofValue

/-! ### What raw keys show -/

namespace RawKey

/-- A uid is read when its eight bytes end the key. -/
theorem tells_uid : Tells uid fun raw n => Bytes.toLittleEndian 8 n.toNat <:+ raw where
  ok_iff := by
    intro raw n
    constructor
    · intro h
      unfold uid at h
      split at h
      · cases h
      · next hlong =>
        have hlength : (raw.drop (raw.length - 8)).length = 8 := by
          rw [List.length_drop]
          omega
        have hlt := Bytes.ofLittleEndian_lt (raw.drop (raw.length - 8))
        have hwritten := Bytes.toLittleEndian_ofLittleEndian (raw.drop (raw.length - 8))
        rw [hlength] at hlt hwritten
        cases h
        rw [UInt64.toNat_ofNat_of_lt' hlt, hwritten]
        exact List.drop_suffix _ _
    · rintro ⟨before, rfl⟩
      exact uid_append before n
  blames := blamesData_uid

/-- An account is read when its bytes end the key. -/
theorem tells_account : Tells account fun raw a => a.toList <:+ raw where
  ok_iff := by
    intro raw a
    constructor
    · intro h
      unfold account Octets.ofList? at h
      split at h
      · next found hfound =>
        split at hfound
        · cases hfound
          cases h
          exact List.drop_suffix _ _
        · cases hfound
      · cases h
    · rintro ⟨before, rfl⟩
      exact account_append before a
  blames := blamesData_account

end RawKey

/-! ### The maps -/

namespace StorageMap

/-- What the value of an entry shows. -/
def Shows : (map : StorageMap) → Value → map.Content → Prop
  | active | lastEmit => fun v (n : UInt64) => v.nat? = some n.toNat
  | stake => fun v (b : Balance) => v.nat? = some b.rao.toNat
  | neurons => PeerRecord.Describes
  | weightUids => Value.Lists UInt64.toNat
  | weightVals => Value.Lists UInt32.toNat

/-- What the raw key of an entry shows: the key whose bytes end it. -/
def KeyShows (map : StorageMap) (raw : Bytes) (key : map.Key) : Prop := map.keyBytes key <:+ raw

theorem tells_decode (map : StorageMap) : Tells map.decode map.Shows := by
  cases map with
  | active => exact Value.tells_uint64 "uid"
  | stake => exact Value.tells_stake
  | neurons => exact PeerRecord.tells_ofValue
  | weightUids => exact Value.tells_uidList
  | weightVals => exact Value.tells_weightList
  | lastEmit => exact Value.tells_uint64 "last emit"

theorem tells_readKey (map : StorageMap) : Tells map.readKey map.KeyShows := by
  cases map with
  | active => exact RawKey.tells_account
  | _ => exact RawKey.tells_uid

end StorageMap

/-! ### Free balances -/

namespace Value

/-- The record of an account holds a free amount. -/
def HoldsFree (v : Value) (n : UInt128) : Prop :=
  ∃ data, v.at? "data" = some data ∧ data.at? "free" = some (.u128 n)

/-- Why the record of an account shows no balance: it holds no free amount, or one that is out of
range. Only the first is reported as malformed data. -/
inductive FreeFault (v : Value) : Error → Prop where
  /-- There is no free amount. -/
  | missing : (∀ n, ¬ v.HoldsFree n) → FreeFault v (.invalidData .noFreeBalance)
  /-- The free amount is too large for a balance. -/
  | outOfRange (n : UInt128) : v.HoldsFree n → UInt64.size ≤ n.toNat →
    FreeFault v (.balance (.overflow (toString n.toNat)))

variable {v : Value}

theorem free_eq_some_iff {n : Nat} :
    ((v.at? "data").bind (at? "free")).bind nat? = some n ↔ ∃ m, v.HoldsFree m ∧ m.toNat = n := by
  constructor
  · intro h
    obtain ⟨free, hfree, hn⟩ := Option.bind_eq_some_iff.mp h
    obtain ⟨data, hdata, hfree⟩ := Option.bind_eq_some_iff.mp hfree
    cases free with
    | u128 m => exact ⟨m, ⟨data, hdata, hfree⟩, Option.some.inj hn⟩
    | _ => cases hn
  · rintro ⟨m, ⟨data, hdata, hfree⟩, rfl⟩
    simp [hdata, hfree, nat?]

/-- A free amount is a balance, or out of range. -/
theorem freeBalance_of_holdsFree {n : UInt128} (h : v.HoldsFree n) :
    v.freeBalance = (Balance.ofNat n.toNat).mapError .balance := by
  rw [freeBalance, free_eq_some_iff.mpr ⟨n, h, rfl⟩]

theorem freeBalance_of_missing (h : ∀ n, ¬ v.HoldsFree n) :
    v.freeBalance = .error (.invalidData .noFreeBalance) := by
  have hnone : ((v.at? "data").bind (at? "free")).bind nat? = none := by
    rw [Option.eq_none_iff_forall_ne_some]
    intro n hn
    obtain ⟨m, hm, -⟩ := free_eq_some_iff.mp hn
    exact h m hm
  rw [freeBalance, hnone]

theorem freeBalance_eq_ok_iff {b : Balance} :
    v.freeBalance = .ok b ↔ ∃ n, v.HoldsFree n ∧ n.toNat = b.rao.toNat := by
  constructor
  · intro h
    by_cases hheld : ∃ n, v.HoldsFree n
    · obtain ⟨n, hn⟩ := hheld
      rw [freeBalance_of_holdsFree hn, Balance.ofNat] at h
      split at h
      · next hlt =>
        cases h
        exact ⟨n, hn, (UInt64.toNat_ofNat_of_lt' hlt).symm⟩
      · cases h
    · rw [freeBalance_of_missing (not_exists.mp hheld)] at h
      cases h
  · rintro ⟨n, hn, hrao⟩
    rw [freeBalance_of_holdsFree hn, hrao, Balance.ofNat, if_pos b.rao.toNat_lt,
      UInt64.ofNat_toNat]
    rfl

theorem freeBalance_eq_error_iff {e : Error} : v.freeBalance = .error e ↔ v.FreeFault e := by
  constructor
  · intro h
    by_cases hheld : ∃ n, v.HoldsFree n
    · obtain ⟨n, hn⟩ := hheld
      rw [freeBalance_of_holdsFree hn, Balance.ofNat] at h
      split at h
      · cases h
      · next hlarge =>
        cases h
        exact .outOfRange n hn (Nat.le_of_not_lt hlarge)
    · have hmissing := not_exists.mp hheld
      rw [freeBalance_of_missing hmissing] at h
      cases h
      exact .missing hmissing
  · intro h
    cases h with
    | missing hmissing => exact freeBalance_of_missing hmissing
    | outOfRange n hn hlarge =>
      rw [freeBalance_of_holdsFree hn, Balance.ofNat, if_neg (Nat.not_lt.mpr hlarge)]
      rfl

end Value

/-! ### Reads -/

namespace Client

variable [Node σ] {c : Client} {link : Link} {s t : σ}

/-- An account is read as its record says, and as nothing without one. -/
theorem result_balance {account : AccountId} {v : Option Value} (hc : c.link = some link)
    (h : Exchange.Answers link c.queryTimeout (.fetch (.account account) none) s v t) :
    (balance account c s).result = v.elim (.ok .zero) Value.freeBalance := by
  have hquery : (query (.account account) none c s).success? = some (v, t) := by
    rw [query, Action.note_bind, Ran.success?_behind, Action.success?_reading _ hc]
    exact Exchange.answers_iff.mp h
  rw [balance, Action.bind_of_success _ hquery]
  cases v <;> rfl

theorem tells_single {map : StorageMap} {key : map.Key} {v : Option Value}
    (hc : c.link = some link)
    (h : Exchange.Answers link c.queryTimeout (.fetch (map.item key) none) s v t) :
    TellsEntry map.Shows v (map.single key c s).result := by
  rw [StorageMap.single_eq, result_queryEntry hc h]
  exact map.tells_decode.decodeEntry v

end Client

/-- What the free balance of an account is read as, by the entry that is stored: an absent record as
nothing, and a present one as the amount that it holds or as its fault. -/
structure TellsBalance (stored : Option Value) (result : Except Error Balance) : Prop where
  /-- What is read is what a present record holds, and nothing without one. -/
  ok_iff : ∀ {b}, result = .ok b ↔ stored = none ∧ b = .zero ∨
    ∃ v n, stored = some v ∧ v.HoldsFree n ∧ n.toNat = b.rao.toNat
  /-- Nothing is read only without a record, or from one that holds nothing. -/
  zero_iff : result = .ok .zero ↔ stored = none ∨ ∃ v, stored = some v ∧ v.HoldsFree 0
  /-- An error is the fault of a present record. -/
  error_iff : ∀ {e}, result = .error e ↔ ∃ v, stored = some v ∧ v.FreeFault e

theorem tellsBalance (stored : Option Value) :
    TellsBalance stored (stored.elim (.ok .zero) Value.freeBalance) := by
  cases stored with
  | none =>
    exact
      { ok_iff := by simp [eq_comm]
        zero_iff := by simp
        error_iff := by simp }
  | some v =>
    have hzero : (∃ n, v.HoldsFree n ∧ n.toNat = Balance.zero.rao.toNat) ↔ v.HoldsFree 0 := by
      constructor
      · rintro ⟨n, hn, hrao⟩
        obtain rfl : n = 0 := BitVec.eq_of_toNat_eq hrao
        exact hn
      · intro h
        exact ⟨0, h, rfl⟩
    exact
      { ok_iff := by simp [Value.freeBalance_eq_ok_iff]
        zero_iff := by simp [Value.freeBalance_eq_ok_iff, hzero]
        error_iff := by simp [Value.freeBalance_eq_error_iff] }

/-- **Present entries are told.** Every decoder of integers, stakes, lists and peers, and every decoder of
raw keys, gives exactly what its argument shows and blames the data otherwise. The free balance of an
account is decoded as the amount that its record holds; a record without an amount is malformed data, and
one whose amount is out of range is refused as that. So it is on a node that answers in time. An account
is read as nothing only without a record, or when its record holds nothing, and fails only by the fault of
its record. Any other entry reads as absent only if it is, and as what it shows otherwise; a whole map reads
as what its entries show, in order; weights read as absent only if both of their entries are. All their
errors blame the data. -/
theorem present_entries_are_told [Node σ] :
    (∀ what, Tells (Value.uint64 what) fun v n => v.nat? = some n.toNat) ∧
    (∀ map : StorageMap, Tells map.decode map.Shows ∧ Tells map.readKey map.KeyShows) ∧
    (∀ v : Value, (∀ b, v.freeBalance = .ok b ↔ ∃ n, v.HoldsFree n ∧ n.toNat = b.rao.toNat) ∧
      ∀ e, v.freeBalance = .error e ↔ v.FreeFault e) ∧
    ∀ (c : Client) (s : σ) (link : Link), c.link = some link →
      (∀ account v t,
        Exchange.Answers link c.queryTimeout (.fetch (.account account) none) s v t →
        TellsBalance v (Client.balance account c s).result) ∧
      (∀ (map : StorageMap) (key : map.Key) v t,
        Exchange.Answers link c.queryTimeout (.fetch (map.item key) none) s v t →
        TellsEntry map.Shows v (map.single key c s).result) ∧
      (∀ (map : StorageMap) block list t,
        Exchange.Answers link c.queryTimeout (.entries map block) s list t →
        (∀ pairs, (map.whole block c s).result = .ok pairs ↔ List.Forall₂
          (fun entry pair => map.KeyShows entry.1 pair.1 ∧ map.Shows entry.2 pair.2) list pairs) ∧
        BlamesData (map.whole block c s).result) ∧
      ∀ uid uids vals, Stores c s uid uids vals →
        ((Client.weights uid c s).result = .ok none ↔ uids = none ∧ vals = none) ∧
        BlamesData (Client.weights uid c s).result := by
  refine ⟨Value.tells_uint64, fun map => ⟨map.tells_decode, map.tells_readKey⟩, fun v => ?_, ?_⟩
  · exact ⟨fun b => Value.freeBalance_eq_ok_iff, fun e => Value.freeBalance_eq_error_iff⟩
  intro c s link hc
  refine ⟨?balance, ?single, ?whole, ?weights⟩
  case balance =>
    intro account v t h
    rw [Client.result_balance hc h]
    exact tellsBalance v
  case single =>
    intro map key v t h
    exact Client.tells_single hc h
  case whole =>
    intro map block list t h
    have htells := map.tells_readKey.decodeEntries map.tells_decode
    rw [StorageMap.result_whole, Client.result_queryEntries hc h]
    exact ⟨fun pairs => htells.ok_iff, htells.blames list⟩
  case weights =>
    intro uid uids vals h
    rw [Client.result_weights h]
    exact ⟨storedWeights_eq_none_iff, blamesData_storedWeights uid uids vals⟩

/-- The record of an account with a free amount. -/
def accountRecord (free : UInt128) : Value :=
  .record [("nonce", .ofNat 3), ("data", .record [("free", .u128 free), ("reserved", .ofNat 0)])]

/-- A node with an account that has seven rao, and with a stake that is no integer. -/
def patchyNode : ScriptedNode :=
  ((ScriptedNode.empty.withEntry (.account (.replicate 32 4)) (some (accountRecord 7))).withEntry
    (.stake 3) (some (.str "three"))).withEntries .stake [([3, 0, 0, 0, 0, 0, 0, 0], .str "three")]

/-- The seven rao are read; the stake is reported as malformed data, alone and in the whole map. -/
theorem present_entries_are_told_of_patchy :
    (linkedClient 0).link = some ⟨"ws://a:1", 0⟩ ∧
    Exchange.Answers ⟨"ws://a:1", 0⟩ (linkedClient 0).queryTimeout
      (.fetch (.account (.replicate 32 4)) none) patchyNode (some (accountRecord 7)) patchyNode ∧
    Exchange.Answers ⟨"ws://a:1", 0⟩ (linkedClient 0).queryTimeout (.fetch (.stake 3) none) patchyNode
      (some (.str "three")) patchyNode ∧
    (Client.balance (.replicate 32 4) (linkedClient 0) patchyNode).result = .ok ⟨7⟩ ∧
    (∃ fault, (Client.stake 3 (linkedClient 0) patchyNode).result = .error (.invalidData fault)) ∧
    ∃ fault, (Client.stakeMap none (linkedClient 0) patchyNode).result =
      .error (.invalidData fault) := by
  have haccount : Exchange.Answers ⟨"ws://a:1", 0⟩ (linkedClient 0).queryTimeout
      (.fetch (.account (.replicate 32 4)) none) patchyNode (some (accountRecord 7)) patchyNode :=
    ⟨⟨0, rfl, Nat.zero_le _⟩, rfl, rfl⟩
  have hstake : Exchange.Answers ⟨"ws://a:1", 0⟩ (linkedClient 0).queryTimeout
      (.fetch (.stake 3) none) patchyNode (some (.str "three")) patchyNode :=
    ⟨⟨0, rfl, Nat.zero_le _⟩, rfl, rfl⟩
  have hmap : Exchange.Answers ⟨"ws://a:1", 0⟩ (linkedClient 0).queryTimeout
      (.entries .stake none) patchyNode [([3, 0, 0, 0, 0, 0, 0, 0], .str "three")] patchyNode :=
    ⟨⟨0, rfl, Nat.zero_le _⟩, rfl, rfl⟩
  obtain ⟨-, -, -, hreads⟩ := present_entries_are_told (σ := ScriptedNode)
  obtain ⟨hbalance, hsingle, hwhole, -⟩ := hreads (linkedClient 0) patchyNode ⟨"ws://a:1", 0⟩ rfl
  refine ⟨rfl, haccount, hstake, ?_, ?_, ?_⟩
  · refine (hbalance _ _ _ haccount).ok_iff.mpr (.inr ⟨_, 7, rfl, ?_, rfl⟩)
    exact ⟨_, rfl, rfl⟩
  · have htells := hsingle .stake 3 _ _ hstake
    cases hread : (Client.stake 3 (linkedClient 0) patchyNode).result with
    | error e =>
      obtain ⟨fault, rfl⟩ := htells.blames e hread
      exact ⟨fault, rfl⟩
    | ok found =>
      cases found with
      | none => cases htells.none_iff.mp hread
      | some b =>
        obtain ⟨v, hv, hshows⟩ := htells.some_iff.mp hread
        cases hv
        cases hshows
  · obtain ⟨hpairs, hblames⟩ := hwhole .stake none _ _ hmap
    cases hread : (Client.stakeMap none (linkedClient 0) patchyNode).result with
    | error e =>
      obtain ⟨fault, rfl⟩ := hblames e hread
      exact ⟨fault, rfl⟩
    | ok pairs =>
      cases (hpairs pairs).mp hread with
      | cons hfirst _ => cases hfirst.2

/-! ### An amount out of range -/

/-- A node with an account that has `2 ^ 64` rao. -/
def boundlessNode : ScriptedNode :=
  ScriptedNode.empty.withEntry (.account (.replicate 32 4))
    (some (accountRecord 18446744073709551616))

/-- A free amount of `2 ^ 64` rao is present and is no balance, and it is not reported as malformed
data. -/
theorem present_balance_out_of_range :
    let refused : Error := .balance (.overflow "18446744073709551616")
    boundlessNode.entry (.account (.replicate 32 4)) = some (accountRecord 18446744073709551616) ∧
    (accountRecord 18446744073709551616).freeBalance = .error refused ∧
    (Client.balance (.replicate 32 4) (linkedClient 0) boundlessNode).result = .error refused ∧
    ∀ fault, refused ≠ .invalidData fault := by
  refine ⟨rfl, by decide, by decide, ?_⟩
  intro fault h
  cases h

end LedgerClient
