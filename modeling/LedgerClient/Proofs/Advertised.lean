import LedgerClient.Proofs.ByteOrder
import LedgerClient.Proofs.Conversation

/-!
# Which records make a registration needless

A registration is needless when the record of the wallet's hotkey shows the requested address and
port. An address is stored as an integer and a family tag, but only the integer and the port are
compared. So a record counts as showing an address whenever its integer is that of the address, also
when its tag says that the integer is an address of the other family, or none.

## The model

`Records` says which uid and which record the client reads for a hotkey.

## What is proved

* `Client.registeredAs_iff`: what the look-up finds.
* `already_subscribed_iff`: when a registration is needless, and when its record has the address.
* `already_subscribed_at_other_family`: a record of the other family that makes one needless.
-/

namespace LedgerClient

variable {σ α : Type}

/-! ### Looking up a record -/

section Records

variable [Node σ]

/-- The uid of a hotkey and the record of the uid, as a client reads them from state `s` of the node
on, one after the other. -/
def Records (c : Client) (s : σ) (hotkey : AccountId) (uid : UInt64) (peer : PeerRecord) : Prop :=
  ∃ link t u, c.link = some link ∧
    Reads link c.queryTimeout (.active hotkey) (Value.uint64 "uid") s (some uid) t ∧
    Reads link c.queryTimeout (.neuron uid) PeerRecord.ofValue t (some peer) u

namespace Client

variable {c : Client} {s : σ} {wallet : Wallet} {ip : IpAddress} {port : UInt16} {uid : UInt64}

/-- Reading an entry succeeds only over a link, and gives what is read. -/
theorem queryEntry_iff {item : StorageItem} {decode : Value → Except Error α} {a : Option α} {t : σ} :
    (queryEntry item decode c s).success? = some (a, t) ↔
      ∃ link, c.link = some link ∧ Reads link c.queryTimeout item decode s a t := by
  rcases hc : c.link with _ | link
  · obtain ⟨notices, hrun⟩ := needsLink_queryEntry item decode c s hc
    simp [hrun, Ran.success?]
  · simp [(queryEntry_spec hc item decode s).2]

/-- The look-up finds a uid when the record of the uid has the integer and the port. -/
theorem registeredAs_iff :
    (registeredAs wallet ip port c s).result = .ok (some uid) ↔
      ∃ peer, Records c s wallet.hotkey.account uid peer ∧ peer.ip = ip.number ∧
        peer.port = port := by
  have hserves : ∀ peer : PeerRecord,
      peer.serves ip.number port = true ↔ peer.ip = ip.number ∧ peer.port = port := fun peer => by
    simp [PeerRecord.serves]
  rw [Ran.result_eq_ok_iff]
  constructor
  · rintro ⟨v, h⟩
    obtain ⟨found, t, hfound, hrest⟩ := Action.success?_bind_iff.mp h
    rw [(observant_uidOf _).client_of_success hfound] at hrest
    obtain ⟨link, hc, huid⟩ := queryEntry_iff.mp hfound
    cases found with
    | none => cases hrest
    | some number =>
      obtain ⟨record, u, hrecord, hanswer⟩ := Action.success?_bind_iff.mp hrest
      obtain ⟨link', hc', hpeer⟩ := queryEntry_iff.mp hrecord
      cases hc.symm.trans hc'
      cases record with
      | none => cases hanswer
      | some peer =>
        by_cases hp : peer.serves ip.number port = true
        · simp only [hp, if_true] at hanswer
          cases hanswer
          exact ⟨peer, ⟨link, t, _, hc, huid, hpeer⟩, (hserves peer).mp hp⟩
        · simp only [hp, Bool.false_eq_true, if_false] at hanswer
          cases hanswer
  · rintro ⟨peer, ⟨link, t, u, hc, huid, hpeer⟩, hshown⟩
    have hfound : (uidOf wallet.hotkey.account c s).success? = some (some uid, t) :=
      queryEntry_iff.mpr ⟨link, hc, huid⟩
    have hrecord : (neuron uid c t).success? = some (some peer, u) :=
      queryEntry_iff.mpr ⟨link, hc, hpeer⟩
    refine ⟨u, Action.success?_bind_iff.mpr ⟨some uid, t, hfound, ?_⟩⟩
    rw [(observant_uidOf _).client_of_success hfound]
    refine Action.success?_bind_iff.mpr ⟨some peer, u, hrecord, ?_⟩
    simp only [(hserves peer).mpr hshown, if_true]
    rfl

/-- The wallet's hotkey counts as registered when the look-up finds a uid. -/
theorem isSubscribed_iff :
    (isSubscribed wallet ip port c s).result = .ok true ↔
      ∃ uid, (registeredAs wallet ip port c s).result = .ok (some uid) := by
  rw [isSubscribed_eq, Ran.result_eq_ok_iff]
  constructor
  · rintro ⟨v, h⟩
    obtain ⟨found, t, hfound, hanswer⟩ := Action.success?_bind_iff.mp h
    cases found with
    | none => cases hanswer
    | some uid => exact ⟨uid, Ran.result_eq_ok_iff.mpr ⟨t, hfound⟩⟩
  · rintro ⟨uid, h⟩
    obtain ⟨t, hfound⟩ := Ran.result_eq_ok_iff.mp h
    exact ⟨t, Action.success?_bind_iff.mpr ⟨some uid, t, hfound, rfl⟩⟩

/-- A registration is needless when the look-up finds the uid. -/
theorem subscribe_iff {modality : Modality} {policy : Policy} :
    (subscribe wallet ip port modality policy c s).result = .ok (.alreadySubscribed uid) ↔
      (registeredAs wallet ip port c s).result = .ok (some uid) := by
  obtain ⟨call, hcall⟩ : ∃ call, Call.subscribe ip port modality wallet.coldkey.account = .ok call :=
    ⟨_, rfl⟩
  simp only [Ran.result_eq_ok_iff]
  rcases hr : (registeredAs wallet ip port c s).success? with _ | ⟨_ | found, t⟩
  · simp [(subscribe_of_failed hcall hr policy).2]
  · -- what is handed over ends in an outcome or in an error
    have hsent := (subscribe_of_notFound hcall hr policy).2
    constructor
    · rintro ⟨u, hu⟩
      obtain ⟨outcome, hanswer, -⟩ := hsent _ u hu
      cases hanswer
    · rintro ⟨u, hu⟩
      cases hu
  · simp [(subscribe_of_found hcall hr policy).2]

end Client

end Records

/-- **When a registration is needless.** It is, and nothing is sent, exactly when the record of the
hotkey's uid has the integer of the requested address and the requested port; in the same case the
hotkey counts as registered there. Such a record shows the requested address only if it also has the
address's family tag, which is not looked at. -/
theorem already_subscribed_iff [Node σ] (wallet : Wallet) (ip : IpAddress) (port : UInt16)
    (modality : Modality) (policy : Policy) (c : Client) (s : σ) :
    (∀ uid, (Client.subscribe wallet ip port modality policy c s).result =
        .ok (.alreadySubscribed uid) ↔
      ∃ peer, Records c s wallet.hotkey.account uid peer ∧ peer.ip = ip.number ∧
        peer.port = port) ∧
    ((Client.isSubscribed wallet ip port c s).result = .ok true ↔
      ∃ uid peer, Records c s wallet.hotkey.account uid peer ∧ peer.ip = ip.number ∧
        peer.port = port) ∧
    ∀ peer : PeerRecord,
      peer.ip = ip.number → (peer.ipAddress? = some ip ↔ peer.ipType = ip.tag) := by
  refine ⟨fun uid => ?_, ?_, fun peer hip => ?_⟩
  · rw [Client.subscribe_iff, Client.registeredAs_iff]
  · simp only [Client.isSubscribed_iff, Client.registeredAs_iff]
  · rw [PeerRecord.ipAddress?, hip]
    exact ip.ofCode?_number_iff peer.ipType

/-! ### A record of the other family -/

/-- A wallet of two different keys. -/
def registeredWallet : Wallet := ⟨⟨.replicate 32 1⟩, ⟨.replicate 32 2⟩⟩

/-- The record of a peer with this wallet at the version 4 address 192.122.31.4 and port 9221. -/
def recordV4 : PeerRecord :=
  ⟨8, 3229228804, 9221, IpAddress.tagV4, 0, .replicate 32 1, .replicate 32 2⟩

/-- A node on which the wallet's hotkey has that record. -/
def registeredNode : ScriptedNode :=
  let account (a : AccountId) : Value := .list [.ofBytes a.toList]
  let value : Value := .composite (.named
    [("uid", .u128 8), ("ip", .u128 3229228804), ("port", .u128 9221), ("ip_type", .u128 4),
     ("modality", .u128 0), ("hotkey", account (.replicate 32 1)),
     ("coldkey", account (.replicate 32 2))])
  (ScriptedNode.empty.withEntry (.active (.replicate 32 1)) (some (.u128 8))).withEntry (.neuron 8)
    (some value)

/-- The version 6 address `::192.122.31.4`, which has the same integer. -/
def sameNumberV6 : IpAddress := .v6 ⟨[0, 0, 0, 0, 0, 0, 0, 0, 0, 0, 0, 0, 192, 122, 31, 4], rfl⟩

theorem records_registeredNode {limit : Millis} {peer : PeerRecord}
    (h : Records (linkedClient limit) registeredNode (.replicate 32 1) 8 peer) :
    peer = recordV4 := by
  obtain ⟨link, t, u, -, ⟨v, ⟨-, hv, rfl⟩, -⟩, w, ⟨-, hw, -⟩, hpeer⟩ := h
  cases hv
  cases hw
  have hrecord : decodeEntry PeerRecord.ofValue (registeredNode.entry (.neuron 8)) =
      .ok (some recordV4) := rfl
  cases hrecord.symm.trans hpeer
  rfl

/-- With the address of another family a registration counts as needless, and the hotkey as
registered, though no record shows that address. -/
theorem already_subscribed_at_other_family :
    (Client.subscribe registeredWallet sameNumberV6 9221 .text .finalization (linkedClient 0)
      registeredNode).result = .ok (.alreadySubscribed 8) ∧
    (Client.isSubscribed registeredWallet sameNumberV6 9221 (linkedClient 0)
      registeredNode).result = .ok true ∧
    ∀ peer, Records (linkedClient 0) registeredNode registeredWallet.hotkey.account 8 peer →
      peer.ipAddress? ≠ some sameNumberV6 := by
  refine ⟨rfl, rfl, fun peer hpeer => ?_⟩
  rw [records_registeredNode hpeer]
  decide

end LedgerClient
