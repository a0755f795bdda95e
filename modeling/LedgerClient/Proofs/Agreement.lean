import LedgerClient.Proofs.Advertised

/-!
# The check and the registration agree

Whether a hotkey is registered at an address can be asked for by itself, and it is asked before a
registration is sent. The two go through the same entries on their own: the uid of the hotkey, then
the record of the uid, each of which can be absent, malformed, late or refused. They come to the same
decision in every case: the check tells what a registration in its place would do.

## The model

Both are run from the same client and the same state of the node. Nothing more is assumed of the
node: what it answers to a request follows from its state, so that it gives the registration the
answers that it would give the check.

## What is proved

* `Client.isSubscribed_run`, `Client.subscribe_of_ok_none` and its two siblings: both ends in terms
  of the look-up.
* `Client.fetches_registeredAs`: a look-up does nothing but read.
* `subscribe_agrees_with_isSubscribed`: what a registration does, given what the check says.
-/

namespace LedgerClient

variable {σ : Type} [Node σ]

/-! ### What is read -/

/-- A look-up asks for single entries of the latest block, and for nothing else. -/
theorem Lookup.fetches {link : Link} {limit : Millis} {hotkey : AccountId} {ip : IpAddress}
    {port : UInt16} {s : σ} {requests : List Request} {next : Option σ}
    (h : Lookup link limit hotkey ip port s requests next) :
    ∀ request ∈ requests, ∃ item, request = .fetch item none := by
  obtain ⟨uid, hsub⟩ := h.sublist
  intro request hm
  rcases List.mem_cons.mp (hsub.subset hm) with rfl | hrest
  · exact ⟨_, rfl⟩
  · exact ⟨_, List.mem_singleton.mp hrest⟩

namespace Client

variable {wallet : Wallet} {ip : IpAddress} {port : UInt16} {modality : Modality} {c : Client}
  {s : σ}

theorem fetches_registeredAs (wallet : Wallet) (ip : IpAddress) (port : UInt16) (c : Client)
    (s : σ) : ∀ call ∈ (registeredAs wallet ip port c s).journal.calls,
      ∃ item, call.2 = .fetch item none := by
  rcases hc : c.link with _ | link
  · obtain ⟨notices, hrun⟩ := needsLink_registeredAs wallet ip port c s hc
    rw [hrun, (Journal.Waits.noted notices).calls]
    simp
  · obtain ⟨requests, hlookup, hcalls⟩ := lookup_registeredAs hc wallet ip port s
    rw [hcalls]
    intro call hm
    obtain ⟨request, hr, rfl⟩ := List.mem_map.mp hm
    exact hlookup.fetches request hr

/-- A uid that is found is the uid of the hotkey. -/
theorem uidOf_of_registeredAs {uid : UInt64}
    (h : (registeredAs wallet ip port c s).result = .ok (some uid)) :
    (uidOf wallet.hotkey.account c s).result = .ok (some uid) := by
  obtain ⟨peer, ⟨link, t, u, hc, huid, -⟩, -⟩ := registeredAs_iff.mp h
  exact Ran.result_eq_ok_iff.mpr ⟨t, queryEntry_iff.mpr ⟨link, hc, huid⟩⟩

/-- Nothing is found when the hotkey has no uid, when the uid has no record, and when the record has
another integer or another port. -/
theorem registeredAs_none_iff :
    (registeredAs wallet ip port c s).result = .ok none ↔
      (uidOf wallet.hotkey.account c s).result = .ok none ∨
      ∃ uid t, (uidOf wallet.hotkey.account c s).success? = some (some uid, t) ∧
        ((neuron uid c t).result = .ok none ∨
          ∃ peer, (neuron uid c t).result = .ok (some peer) ∧
            peer.serves ip.number port = false) := by
  simp only [Ran.result_eq_ok_iff]
  constructor
  · rintro ⟨v, h⟩
    obtain ⟨found, t, hfound, hrest⟩ := Action.success?_bind_iff.mp h
    rw [(observant_uidOf _).client_of_success hfound] at hrest
    cases found with
    | none => exact .inl ⟨t, hfound⟩
    | some uid =>
      obtain ⟨record, u, hrecord, hanswer⟩ := Action.success?_bind_iff.mp hrest
      refine .inr ⟨uid, t, hfound, ?_⟩
      cases record with
      | none => exact .inl ⟨u, hrecord⟩
      | some peer =>
        cases hserves : peer.serves ip.number port with
        | false => exact .inr ⟨peer, ⟨u, hrecord⟩, hserves⟩
        | true =>
          simp only [hserves, if_true] at hanswer
          cases hanswer
  · rintro (⟨t, hfound⟩ | ⟨uid, t, hfound, hrest⟩)
    · exact ⟨t, Action.success?_bind_iff.mpr ⟨none, t, hfound, rfl⟩⟩
    · have hclient := (observant_uidOf _).client_of_success hfound
      rcases hrest with ⟨u, hrecord⟩ | ⟨peer, ⟨u, hrecord⟩, hserves⟩
      · refine ⟨u, Action.success?_bind_iff.mpr ⟨some uid, t, hfound, ?_⟩⟩
        rw [hclient]
        exact Action.success?_bind_iff.mpr ⟨none, u, hrecord, rfl⟩
      · refine ⟨u, Action.success?_bind_iff.mpr ⟨some uid, t, hfound, ?_⟩⟩
        rw [hclient]
        refine Action.success?_bind_iff.mpr ⟨some peer, u, hrecord, ?_⟩
        simp only [hserves, Bool.false_eq_true, if_false]
        rfl

/-! ### The check -/

/-- The check goes as the look-up does, and says whether a uid was found. -/
theorem isSubscribed_run (wallet : Wallet) (ip : IpAddress) (port : UInt16) (c : Client) (s : σ) :
    let found := registeredAs wallet ip port c s
    isSubscribed wallet ip port c s =
      ⟨found.result.map Option.isSome, found.client, found.node, found.elapsed, found.journal⟩ := by
  intro found
  rw [isSubscribed_eq]
  cases h : found.result with
  | error e => rw [Action.bind_error _ h, Except.map]
  | ok uid? =>
    rw [Action.bind_ok _ h, Except.map]
    simp [Ran.behind, pure, Action.finish, found]

theorem isSubscribed_error_iff {e : Error} :
    (isSubscribed wallet ip port c s).result = .error e ↔
      (registeredAs wallet ip port c s).result = .error e := by
  rw [isSubscribed_run]
  cases (registeredAs wallet ip port c s).result with
  | error e' => simp [Except.map]
  | ok found => simp [Except.map]

theorem isSubscribed_false_iff :
    (isSubscribed wallet ip port c s).result = .ok false ↔
      (registeredAs wallet ip port c s).result = .ok none := by
  rw [isSubscribed_run]
  cases (registeredAs wallet ip port c s).result with
  | error e => simp [Except.map]
  | ok found => simp [Except.map]

/-! ### The registration -/

/-- The notice on how a registration ended that was sent. -/
def registrationNotice (wallet : Wallet) (ip : IpAddress) (port : UInt16) (modality : Modality) :
    Except Error Outcome → Notice
  | .ok _ => .subscribed ip port modality wallet.hotkey.account wallet.coldkey.account
  | .error e => .subscribeFailed e

section Subscribe

variable {call : Call}
  (hcall : Call.subscribe ip port modality wallet.coldkey.account = .ok call) (policy : Policy)
include hcall

/-- A registration whose look-up fails goes as the look-up does. -/
theorem subscribe_of_error {e : Error} (h : (registeredAs wallet ip port c s).result = .error e) :
    let found := registeredAs wallet ip port c s
    subscribe wallet ip port modality policy c s =
      ⟨.error e, found.client, found.node, found.elapsed, found.journal⟩ := by
  rw [subscribe, hcall, Action.finish_ok_bind, Action.bind_error _ h]

/-- A registration whose look-up finds a uid goes as the look-up does, and says so. -/
theorem subscribe_of_ok_some {uid : UInt64}
    (h : (registeredAs wallet ip port c s).result = .ok (some uid)) :
    let found := registeredAs wallet ip port c s
    subscribe wallet ip port modality policy c s =
      ⟨.ok (.alreadySubscribed uid), found.client, found.node, found.elapsed,
        found.journal ++ [.noted (.alreadySubscribed uid ip port wallet.hotkey.account)]⟩ := by
  rw [subscribe, hcall, Action.finish_ok_bind, Action.bind_ok _ h]
  dsimp only
  rw [Action.note_bind]
  simp [Ran.behind, pure, Action.finish]

/-- A registration whose look-up finds nothing sends the call from there on. -/
theorem subscribe_of_ok_none (h : (registeredAs wallet ip port c s).result = .ok none) :
    let found := registeredAs wallet ip port c s
    let sent := signAndSubmit call wallet policy found.client found.node
    subscribe wallet ip port modality policy c s =
      ⟨sent.result.map .submitted, sent.client, sent.node, found.elapsed + sent.elapsed,
        found.journal ++ sent.journal ++
          [.noted (registrationNotice wallet ip port modality sent.result)]⟩ := by
  rw [subscribe, hcall, Action.finish_ok_bind, Action.bind_ok _ h]
  dsimp only
  rw [Action.outcome_bind]
  rcases signAndSubmit call wallet policy _ _ with ⟨result, c', t, elapsed, journal⟩
  cases result with
  | ok outcome =>
    dsimp only
    rw [Action.note_bind]
    simp [Ran.behind, pure, Action.finish, Except.map, registrationNotice]
  | error e =>
    dsimp only
    rw [Action.note_bind]
    simp [Ran.behind, Action.fail, Action.finish, Except.map, registrationNotice]

end Subscribe

end Client

/-! ### Agreement -/

/-- **A registration does what the check says.** The check does nothing but read entries. Where it
fails, the registration fails with the same error and has done the same; where the hotkey is
registered, the registration has done the same too, and answers with the uid that the hotkey has.
Where it is not, the call that registers it is built from the arguments, and from the state in which
the check ends the registration goes as sending that call does; its outcome is the answer, or its
error. That is so when the hotkey has no uid, the uid no record, or the record another integer or
port. -/
theorem subscribe_agrees_with_isSubscribed (wallet : Wallet) (ip : IpAddress) (port : UInt16)
    (modality : Modality) (policy : Policy) (c : Client) (s : σ) :
    let check := Client.isSubscribed wallet ip port c s
    let ran := Client.subscribe wallet ip port modality policy c s
    (∀ call ∈ check.journal.calls, ∃ item, call.2 = .fetch item none) ∧
    (∀ e, check.result = .error e →
      ran = ⟨.error e, check.client, check.node, check.elapsed, check.journal⟩) ∧
    (check.result = .ok true →
      ∃ uid, (Client.uidOf wallet.hotkey.account c s).result = .ok (some uid) ∧
        ran = ⟨.ok (.alreadySubscribed uid), check.client, check.node, check.elapsed,
          check.journal ++ [.noted (.alreadySubscribed uid ip port wallet.hotkey.account)]⟩) ∧
    (check.result = .ok false →
      ∃ call, Call.subscribe ip port modality wallet.coldkey.account = .ok call ∧
        let sent := Client.signAndSubmit call wallet policy check.client check.node
        ran = ⟨sent.result.map .submitted, sent.client, sent.node, check.elapsed + sent.elapsed,
          check.journal ++ sent.journal ++
            [.noted (Client.registrationNotice wallet ip port modality sent.result)]⟩) ∧
    (check.result = .ok false ↔
      (Client.uidOf wallet.hotkey.account c s).result = .ok none ∨
      ∃ uid t, (Client.uidOf wallet.hotkey.account c s).success? = some (some uid, t) ∧
        ((Client.neuron uid c t).result = .ok none ∨
          ∃ peer, (Client.neuron uid c t).result = .ok (some peer) ∧
            peer.serves ip.number port = false)) := by
  obtain ⟨call, hcall⟩ : ∃ call, Call.subscribe ip port modality wallet.coldkey.account = .ok call :=
    ⟨_, rfl⟩
  intro check ran
  have hcheck : check = _ := Client.isSubscribed_run wallet ip port c s
  refine ⟨?_, fun e he => ?_, fun htrue => ?_, fun hfalse => ⟨call, hcall, ?_⟩, ?_⟩
  · rw [hcheck]
    exact Client.fetches_registeredAs wallet ip port c s
  · rw [hcheck]
    exact Client.subscribe_of_error hcall policy (Client.isSubscribed_error_iff.mp he)
  · obtain ⟨uid, huid⟩ := Client.isSubscribed_iff.mp htrue
    refine ⟨uid, Client.uidOf_of_registeredAs huid, ?_⟩
    rw [hcheck]
    exact Client.subscribe_of_ok_some hcall policy huid
  · rw [hcheck]
    exact Client.subscribe_of_ok_none hcall policy (Client.isSubscribed_false_iff.mp hfalse)
  · exact Client.isSubscribed_false_iff.trans Client.registeredAs_none_iff

end LedgerClient
