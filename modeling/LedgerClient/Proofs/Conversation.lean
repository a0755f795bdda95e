import LedgerClient.Proofs.LinkDrop

/-!
# What a write asks of the node

A write asks for a nonce, signs with it and hands over what signing gave; a registration looks
first whether it is needed. Each step is taken once, and only when the one before it succeeded in
its time. No extrinsic is handed over twice, whatever goes wrong.

## The model

`Write.Trace` describes the requests of a write beside the code of the client, from what the node
answers: a write is refused, stops at its look-up, stops while signing, or hands over the bytes that
were signed. The pieces are `Lookup`, `Signing` and `Sending`; each relates the requests that are
made to what they lead to, which is nothing when a request has no answer.

## What is proved

* `Extrinsic.signing_build`, `Client.lookup_registeredAs`, `Client.sending_signAndSubmit`: the
  pieces are what the client does.
* `Write.Trace.nodup`, `Write.Trace.submissions`: no trace repeats a request.
* `write_sends_at_most_once`: the client does what the trace says.
-/

namespace LedgerClient

variable {σ α : Type}

/-! ### Signing and handing over -/

section Signing

variable [Node σ]

/-- `Signing link limit call key s requests signed`: signing a call with a freshly read nonce, from
state `s` of the node on, makes these requests; if it succeeds, it gives bytes and a new state. -/
inductive Signing (link : Link) (limit : Millis) (call : Call) (key : SigningKey) (s : σ) :
    List Request → Option (Bytes × σ) → Prop where
  /-- The nonce does not come in time, or there is an error instead. -/
  | noNonce : (∀ nonce t, ¬ Exchange.Answers link limit (.nonce key.account) s nonce t) →
      Signing link limit call key s [.nonce key.account] none
  /-- Signing with that nonce fails. -/
  | notSigned {nonce : UInt64} {t : σ} :
      Exchange.Answers link limit (.nonce key.account) s nonce t →
      (∀ encoded u, ¬ Exchange.Signs link call key nonce t encoded u) →
      Signing link limit call key s [.nonce key.account, .sign call key nonce] none
  /-- Signing with that nonce succeeds. -/
  | signed {nonce : UInt64} {t : σ} {encoded : Bytes} {u : σ} :
      Exchange.Answers link limit (.nonce key.account) s nonce t →
      Exchange.Signs link call key nonce t encoded u →
      Signing link limit call key s [.nonce key.account, .sign call key nonce] (some (encoded, u))

/-- `Sending link limit call key s requests sent`: signing a call and handing it over makes these
requests; the bytes are those that are handed over, if any are. -/
inductive Sending (link : Link) (limit : Millis) (call : Call) (key : SigningKey) (s : σ) :
    List Request → Option Bytes → Prop where
  /-- There is nothing to hand over. -/
  | stopped {requests : List Request} : Signing link limit call key s requests none →
      Sending link limit call key s requests none
  /-- What was signed is handed over. -/
  | sent {requests : List Request} {encoded : Bytes} {t : σ} :
      Signing link limit call key s requests (some (encoded, t)) →
      Sending link limit call key s (requests ++ [.submit encoded]) (some encoded)

/-! ### Looking whether a registration is needed -/

/-- An entry of the latest block is read in time and decoded to `a`. -/
def Reads (link : Link) (limit : Millis) (item : StorageItem) (decode : Value → Except Error α)
    (s : σ) (a : Option α) (t : σ) : Prop :=
  ∃ v, Exchange.Answers link limit (.fetch item none) s v t ∧ decodeEntry decode v = .ok a

/-- `Lookup link limit hotkey ip port s requests next`: looking whether a hotkey is registered with a
record of this address and port makes these requests; if it turns out that it is not, `next` is the
state of the node from which to go on. -/
inductive Lookup (link : Link) (limit : Millis) (hotkey : AccountId) (ip : IpAddress)
    (port : UInt16) (s : σ) : List Request → Option σ → Prop where
  /-- The uid cannot be read. -/
  | noUid : (∀ found t,
        ¬ Reads link limit (.active hotkey) (Value.uint64 "uid") s found t) →
      Lookup link limit hotkey ip port s [.fetch (.active hotkey) none] none
  /-- There is no uid, and then no record is looked for. -/
  | unknown {t : σ} : Reads link limit (.active hotkey) (Value.uint64 "uid") s none t →
      Lookup link limit hotkey ip port s [.fetch (.active hotkey) none] (some t)
  /-- The record of the uid cannot be read. -/
  | noRecord {uid : UInt64} {t : σ} :
      Reads link limit (.active hotkey) (Value.uint64 "uid") s (some uid) t →
      (∀ record u, ¬ Reads link limit (.neuron uid) PeerRecord.ofValue t record u) →
      Lookup link limit hotkey ip port s
        [.fetch (.active hotkey) none, .fetch (.neuron uid) none] none
  /-- The record shows the address and the port. -/
  | registered {uid : UInt64} {t u : σ} {peer : PeerRecord} :
      Reads link limit (.active hotkey) (Value.uint64 "uid") s (some uid) t →
      Reads link limit (.neuron uid) PeerRecord.ofValue t (some peer) u →
      peer.serves ip.number port = true →
      Lookup link limit hotkey ip port s
        [.fetch (.active hotkey) none, .fetch (.neuron uid) none] none
  /-- There is no record, or it shows another address or port. -/
  | stale {uid : UInt64} {t u : σ} {record : Option PeerRecord} :
      Reads link limit (.active hotkey) (Value.uint64 "uid") s (some uid) t →
      Reads link limit (.neuron uid) PeerRecord.ofValue t record u →
      (∀ peer, record = some peer → peer.serves ip.number port = false) →
      Lookup link limit hotkey ip port s
        [.fetch (.active hotkey) none, .fetch (.neuron uid) none] (some u)

/-! ### Writes -/

namespace Write

/-- What a write asks before it signs: only a registration asks anything. -/
def LooksUp (link : Link) (limit : Millis) (wallet : Wallet) (s : σ) :
    Write → List Request → Option σ → Prop
  | subscribe ip port _, requests, next =>
    Lookup link limit wallet.hotkey.account ip port s requests next
  | _, requests, next => requests = [] ∧ next = some s

/-- `w.Trace link limit wallet s requests sent`: the write makes these requests, in this order, and
hands over these bytes, if any. -/
inductive Trace (w : Write) (link : Link) (limit : Millis) (wallet : Wallet) (s : σ) :
    List Request → Option Bytes → Prop where
  /-- The arguments make no call. -/
  | refused {e : Error} : w.call wallet = .error e → Trace w link limit wallet s [] none
  /-- The look-up fails, or finds that nothing is to be done. -/
  | stopped {call : Call} {requests : List Request} : w.call wallet = .ok call →
      w.LooksUp link limit wallet s requests none → Trace w link limit wallet s requests none
  /-- The call is signed with the key that it asks for, and what was signed is handed over. -/
  | sending {call : Call} {first requests : List Request} {t : σ} {sent : Option Bytes} :
      w.call wallet = .ok call → w.LooksUp link limit wallet s first (some t) →
      Sending link limit call (wallet.key call.kind.signer) t requests sent →
      Trace w link limit wallet s (first ++ requests) sent

end Write

/-! ### The client does what the pieces say -/

theorem Extrinsic.signing_build (link : Link) (call : Call) (key : SigningKey) (limit : Millis)
    (s : σ) :
    ∃ requests, Signing link limit call key s requests
        ((build link call key limit s).success?.map fun built => (built.1.encoded, built.2)) ∧
      (build link call key limit s).journal.calls = requests.map (Prod.mk link) := by
  rw [build]
  match hn : (Exchange.ask link (.nonce key.account) limit s).success? with
  | none =>
    obtain ⟨hs, hj⟩ := Exchange.bind_of_no_success _ hn
    refine ⟨[.nonce key.account], ?_, ?_⟩
    · rw [hs]
      refine .noNonce fun nonce t ha => ?_
      rw [Exchange.answers_iff, hn] at ha
      cases ha
    · rw [hj, Exchange.journal_ask]
      rfl
  | some (nonce, t) =>
    have ha := Exchange.answers_iff.mpr hn
    rw [Exchange.bind_of_success _ hn, Exchange.journal_ask]
    match he : (Exchange.askLocal link (.sign call key nonce) (limit -
        (Exchange.ask link (.nonce key.account) limit s).elapsed) t).success? with
    | none =>
      obtain ⟨hs, hj⟩ := Exchange.bind_of_no_success _ he
      refine ⟨[.nonce key.account, .sign call key nonce], ?_, ?_⟩
      · rw [Talk.success?_behind, hs]
        refine .notSigned ha fun encoded u h => ?_
        rw [Exchange.signs_iff, he] at h
        cases h
      · rw [Talk.behind, hj]
        rfl
    | some (encoded, u) =>
      rw [Exchange.bind_of_success _ he]
      exact ⟨_, .signed ha (Exchange.signs_iff.mpr he), rfl⟩

namespace Client

variable {c : Client} {link : Link}

theorem signing_build (h : c.link = some link) (call : Call) (key : SigningKey) (s : σ) :
    ∃ requests, Signing link c.queryTimeout call key s requests
        ((build call key c s).success?.map fun built => (built.1.encoded, built.2)) ∧
      (build call key c s).journal.calls = requests.map (Prod.mk link) := by
  rw [build, Action.success?_reading _ h, Action.calls_reading _ h]
  exact Extrinsic.signing_build link call key c.queryTimeout s

theorem calls_submit (h : c.link = some link) (x : Extrinsic) (policy : Policy) (s : σ) :
    (submit x policy c s).journal.calls = [(link, .submit x.encoded)] := by
  obtain ⟨journal, hw, hx⟩ := Extrinsic.journal_submit link x policy c.submissionTimeout s
  rw [submit_of_some x policy h, hx]
  simp [hw.calls, calls_aftermath]

theorem extrinsic_of_submit (h : c.link = some link) {x : Extrinsic} {policy : Policy} {s t : σ}
    {o : Outcome} (ho : (submit x policy c s).success? = some (o, t)) : o.extrinsic = x.hash := by
  rw [submit_of_some x policy h] at ho
  obtain ⟨hr, -⟩ := Ran.success?_eq_some_iff.mp ho
  simp only [submitResult] at hr
  cases htalk : (Extrinsic.submit link x policy c.submissionTimeout s).result with
  | none =>
    rw [htalk] at hr
    cases hr
  | some result =>
    rw [htalk] at hr
    subst hr
    exact Extrinsic.extrinsic_of_submit htalk

/-- A call is signed and what was signed is handed over once; an outcome is that of these bytes. -/
theorem sending_signAndSubmit (h : c.link = some link) (call : Call) (wallet : Wallet)
    (policy : Policy) (s : σ) :
    ∃ requests sent,
      Sending link c.queryTimeout call (wallet.key call.kind.signer) s requests sent ∧
      (signAndSubmit call wallet policy c s).journal.calls = requests.map (Prod.mk link) ∧
      ∀ o t, (signAndSubmit call wallet policy c s).success? = some (o, t) →
        ∃ encoded, sent = some encoded ∧ o.extrinsic = Blake2b.digest256 encoded := by
  obtain ⟨requests, hs, hcalls⟩ := signing_build h call (wallet.key call.kind.signer) s
  rw [signAndSubmit]
  match hb : (build call (wallet.key call.kind.signer) c s).success? with
  | none =>
    obtain ⟨hnone, hj⟩ := Action.bind_of_no_success (fun x => submit x policy) hb
    rw [hb] at hs
    refine ⟨requests, none, .stopped hs, by rw [hj, hcalls], fun o t ho => ?_⟩
    rw [hnone] at ho
    cases ho
  | some (x, t) =>
    have hclient := (Action.Observant.build call (wallet.key call.kind.signer)).client_of_success hb
    rw [hb] at hs
    rw [Action.bind_of_success _ hb, hclient]
    refine ⟨requests ++ [.submit x.encoded], some x.encoded, .sent hs, ?_, fun o u ho => ?_⟩
    · rw [Ran.calls_behind, hcalls, calls_submit h, List.map_append]
      rfl
    · exact ⟨x.encoded, rfl, extrinsic_of_submit h ho⟩

/-! ### Looking up -/

/-- Reading an entry is one request, and it succeeds when the entry is read and decoded. -/
theorem queryEntry_spec (h : c.link = some link) (item : StorageItem)
    (decode : Value → Except Error α) (s : σ) :
    (queryEntry item decode c s).journal.calls = [(link, .fetch item none)] ∧
      ∀ a t, (queryEntry item decode c s).success? = some (a, t) ↔
        Reads link c.queryTimeout item decode s a t := by
  have hq : (query item none c s).journal.calls = [(link, .fetch item none)] := by
    rw [query, Action.note_bind, Ran.calls_behind, Action.calls_reading _ h,
      Exchange.journal_ask]
    rfl
  have hs : (query item none c s).success? =
      (Exchange.ask link (.fetch item none) c.queryTimeout s).success? := by
    rw [query, Action.note_bind, Ran.success?_behind, Action.success?_reading _ h]
  rw [queryEntry]
  match hv : (query item none c s).success? with
  | none =>
    obtain ⟨hnone, hj⟩ := Action.bind_of_no_success
      (fun v => Action.finish (decodeEntry decode v)) hv
    refine ⟨by rw [hj, hq], fun a t => ⟨fun ha => ?_, fun ⟨v, ha, _⟩ => ?_⟩⟩
    · rw [hnone] at ha
      cases ha
    · rw [Exchange.answers_iff, ← hs, hv] at ha
      cases ha
  | some (v, t) =>
    rw [Action.bind_of_success _ hv]
    refine ⟨by rw [Ran.calls_behind, hq]; rfl, fun a u => ?_⟩
    rw [Ran.success?_behind, Ran.success?_eq_some_iff]
    constructor
    · rintro ⟨ha, rfl⟩
      exact ⟨v, Exchange.answers_iff.mpr (hs ▸ hv), ha⟩
    · rintro ⟨w, hw, ha⟩
      rw [Exchange.answers_iff, ← hs, hv] at hw
      cases hw
      exact ⟨ha, rfl⟩

/-- The state of the node from which to go on after a look-up that found nothing. -/
def notFound? : Option (Option UInt64 × σ) → Option σ
  | some (none, t) => some t
  | _ => none

theorem lookup_registeredAs (h : c.link = some link) (wallet : Wallet) (ip : IpAddress)
    (port : UInt16) (s : σ) :
    ∃ requests, Lookup link c.queryTimeout wallet.hotkey.account ip port s requests
        (notFound? (registeredAs wallet ip port c s).success?) ∧
      (registeredAs wallet ip port c s).journal.calls = requests.map (Prod.mk link) := by
  obtain ⟨hcalls, hreads⟩ :=
    queryEntry_spec h (.active wallet.hotkey.account) (Value.uint64 "uid") s
  rw [← uidOf] at hcalls hreads
  rw [registeredAs]
  rcases hu : (uidOf wallet.hotkey.account c s).success? with _ | ⟨_ | uid, t⟩
  · obtain ⟨hnone, hj⟩ := Action.bind_of_no_success _ hu
    refine ⟨[.fetch (.active wallet.hotkey.account) none], ?_, by rw [hj, hcalls]; rfl⟩
    rw [hnone]
    refine .noUid fun found t hr => ?_
    rw [← hreads, hu] at hr
    cases hr
  · rw [Action.bind_of_success _ hu, Ran.success?_behind, Ran.calls_behind, hcalls]
    exact ⟨_, .unknown ((hreads _ _).mp hu), rfl⟩
  · have hclient := (observant_uidOf wallet.hotkey.account).client_of_success hu
    have huid := (hreads _ _).mp hu
    obtain ⟨hcalls', hreads'⟩ := queryEntry_spec h (.neuron uid) PeerRecord.ofValue t
    rw [← neuron] at hcalls' hreads'
    rw [Action.bind_of_success _ hu, hclient, Ran.success?_behind, Ran.calls_behind, hcalls]
    dsimp only
    rcases hp : (neuron uid c t).success? with _ | ⟨_ | peer, u⟩
    · obtain ⟨hnone, hj⟩ := Action.bind_of_no_success _ hp
      refine ⟨[.fetch (.active wallet.hotkey.account) none, .fetch (.neuron uid) none], ?_, ?_⟩
      · rw [hnone]
        refine .noRecord huid fun record u hr => ?_
        rw [← hreads', hp] at hr
        cases hr
      · rw [hj, hcalls']
        rfl
    · rw [Action.bind_of_success _ hp, Ran.success?_behind, Ran.calls_behind, hcalls']
      exact ⟨_, .stale huid ((hreads' _ _).mp hp) (fun peer hpeer => by cases hpeer), rfl⟩
    · rw [Action.bind_of_success _ hp, Ran.success?_behind, Ran.calls_behind, hcalls']
      dsimp only
      have hpeer := (hreads' _ _).mp hp
      cases hserves : peer.serves ip.number port with
      | true => exact ⟨_, .registered huid hpeer hserves, rfl⟩
      | false =>
        refine ⟨_, .stale huid hpeer fun p hp => ?_, rfl⟩
        cases hp
        exact hserves

/-! ### Registering -/

section Subscribe

variable {wallet : Wallet} {ip : IpAddress} {port : UInt16} {modality : Modality} {call : Call}
  {s t : σ}

/-- After a look-up that fails a registration does nothing. -/
theorem subscribe_of_failed
    (hcall : Call.subscribe ip port modality wallet.coldkey.account = .ok call)
    (hr : (registeredAs wallet ip port c s).success? = none) (policy : Policy) :
    (subscribe wallet ip port modality policy c s).journal.calls =
        (registeredAs wallet ip port c s).journal.calls ∧
      (subscribe wallet ip port modality policy c s).success? = none := by
  rw [subscribe, hcall, Action.finish_ok_bind]
  obtain ⟨hnone, hj⟩ := Action.bind_of_no_success _ hr
  exact ⟨by rw [hj], hnone⟩

/-- A hotkey that is registered already is not registered again. -/
theorem subscribe_of_found {uid : UInt64}
    (hcall : Call.subscribe ip port modality wallet.coldkey.account = .ok call)
    (hr : (registeredAs wallet ip port c s).success? = some (some uid, t)) (policy : Policy) :
    (subscribe wallet ip port modality policy c s).journal.calls =
        (registeredAs wallet ip port c s).journal.calls ∧
      (subscribe wallet ip port modality policy c s).success? =
        some (.alreadySubscribed uid, t) := by
  rw [subscribe, hcall, Action.finish_ok_bind, Action.bind_of_success _ hr, Ran.calls_behind]
  exact ⟨List.append_nil _, rfl⟩

/-- A hotkey that is not registered is registered by sending the call. -/
theorem subscribe_of_notFound
    (hcall : Call.subscribe ip port modality wallet.coldkey.account = .ok call)
    (hr : (registeredAs wallet ip port c s).success? = some (none, t)) (policy : Policy) :
    (subscribe wallet ip port modality policy c s).journal.calls =
        (registeredAs wallet ip port c s).journal.calls ++
          (signAndSubmit call wallet policy c t).journal.calls ∧
      ∀ answer u, (subscribe wallet ip port modality policy c s).success? = some (answer, u) →
        ∃ outcome, answer = .submitted outcome ∧
          ∃ v, (signAndSubmit call wallet policy c t).success? = some (outcome, v) := by
  have hclient := (observant_registeredAs wallet ip port).client_of_success hr
  rw [subscribe, hcall, Action.finish_ok_bind, Action.bind_of_success _ hr, hclient,
    Ran.calls_behind, Ran.success?_behind]
  dsimp only
  rw [Action.outcome_bind, Ran.calls_behind, Ran.success?_behind]
  match hres : (signAndSubmit call wallet policy c t).result with
  | .ok outcome =>
    refine ⟨congrArg _ (List.append_nil _), fun answer u ha => ?_⟩
    cases ha
    exact ⟨outcome, rfl, _, Ran.success?_eq_some_iff.mpr ⟨hres, rfl⟩⟩
  | .error e => exact ⟨congrArg _ (List.append_nil _), fun answer u ha => by cases ha⟩

end Subscribe

end Client

/-! ### Whole writes -/

namespace Write

/-- What an action did keeps to a trace of the write: the trace's requests are those that it made
over the link, and an outcome is that of the bytes that the trace hands over. -/
def Keeps (w : Write) (link : Link) (limit : Millis) (wallet : Wallet) (s : σ) (ran : Ran σ α)
    (outcome? : α → Option Outcome) : Prop :=
  ∃ requests sent, w.Trace link limit wallet s requests sent ∧
    ran.journal.calls = requests.map (Prod.mk link) ∧
    ∀ answer t, ran.success? = some (answer, t) → ∀ outcome, outcome? answer = some outcome →
      ∃ encoded, sent = some encoded ∧ outcome.extrinsic = Blake2b.digest256 encoded

variable {w : Write} {c : Client} {link : Link} {wallet : Wallet} {call : Call} {policy : Policy}
  {s : σ}

theorem keeps_of_refused {e : Error} {limit : Millis} (hcall : w.call wallet = .error e)
    {m : Call → Action σ α} {outcome? : α → Option Outcome} :
    w.Keeps link limit wallet s ((Action.finish (w.call wallet) >>= m) c s) outcome? := by
  rw [hcall, Action.finish_error_bind]
  exact ⟨[], none, .refused hcall, rfl, fun answer t h => by cases h⟩

theorem keeps_signAndSubmit (h : c.link = some link) (hcall : w.call wallet = .ok call)
    (hl : w.LooksUp link c.queryTimeout wallet s [] (some s)) :
    w.Keeps link c.queryTimeout wallet s (Client.signAndSubmit call wallet policy c s) some := by
  obtain ⟨requests, sent, hs, hcalls, hout⟩ :=
    Client.sending_signAndSubmit h call wallet policy s
  refine ⟨requests, sent, .sending hcall hl hs, hcalls, fun answer t ha outcome ho => ?_⟩
  cases ho
  exact hout _ _ ha

theorem keeps_announced (w : Write) (h : c.link = some link)
    (hl : w.LooksUp link c.queryTimeout wallet s [] (some s)) (notice : Notice) :
    w.Keeps link c.queryTimeout wallet s
      (Client.announced (w.call wallet) notice wallet policy c s) some := by
  match hcall : w.call wallet with
  | .error e =>
    rw [Client.announced, ← hcall]
    exact keeps_of_refused hcall
  | .ok call =>
    rw [Client.announced, Action.finish_ok_bind, Action.note_bind]
    exact keeps_signAndSubmit h hcall hl

theorem keeps_subscribe (h : c.link = some link) (ip : IpAddress) (port : UInt16)
    (modality : Modality) :
    (subscribe ip port modality).Keeps link c.queryTimeout wallet s
      (Client.subscribe wallet ip port modality policy c s)
      (subscribe ip port modality).outcome? := by
  match hcall : (subscribe ip port modality).call wallet with
  | .error e => exact keeps_of_refused hcall
  | .ok call =>
    obtain ⟨first, hl, hfirst⟩ := Client.lookup_registeredAs h wallet ip port s
    match hr : (Client.registeredAs wallet ip port c s).success? with
    | none =>
      rw [hr] at hl
      obtain ⟨hcalls, hnone⟩ := Client.subscribe_of_failed hcall hr policy
      refine ⟨first, none, .stopped hcall hl, by rw [hcalls, hfirst], fun answer t ha => ?_⟩
      rw [hnone] at ha
      cases ha
    | some (some uid, t) =>
      rw [hr] at hl
      obtain ⟨hcalls, hsome⟩ := Client.subscribe_of_found hcall hr policy
      refine ⟨first, none, .stopped hcall hl, by rw [hcalls, hfirst], fun answer u ha o ho => ?_⟩
      rw [hsome] at ha
      cases ha
      cases ho
    | some (none, t) =>
      rw [hr] at hl
      obtain ⟨hcalls, hanswer⟩ := Client.subscribe_of_notFound hcall hr policy
      obtain ⟨requests, sent, hs, hrest, hout⟩ :=
        Client.sending_signAndSubmit h call wallet policy t
      refine ⟨first ++ requests, sent, .sending hcall hl hs, ?_, fun answer u ha o ho => ?_⟩
      · rw [hcalls, hfirst, hrest, List.map_append]
      · obtain ⟨outcome, rfl, v, hv⟩ := hanswer answer u ha
        cases ho
        exact hout _ v hv

/-- Every write keeps to its trace. -/
theorem keeps_run (w : Write) (h : c.link = some link) (wallet : Wallet) (policy : Policy) (s : σ) :
    w.Keeps link c.queryTimeout wallet s (w.run wallet policy c s) w.outcome? := by
  cases w with
  | send call => exact keeps_signAndSubmit h rfl ⟨rfl, rfl⟩
  | subscribe ip port modality => exact keeps_subscribe h ip port modality
  | addStake amount uid => exact (addStake amount uid).keeps_announced h ⟨rfl, rfl⟩ _
  | unstake amount uid => exact (unstake amount uid).keeps_announced h ⟨rfl, rfl⟩ _
  | transfer dest amount => exact (transfer dest amount).keeps_announced h ⟨rfl, rfl⟩ _
  | setWeights dests values => exact (setWeights dests values).keeps_announced h ⟨rfl, rfl⟩ _

end Write

/-! ### Nothing twice -/

omit [Node σ] in
/-- Whether a request hands over an extrinsic. -/
def Request.isSubmit : Request → Bool
  | .submit _ => true
  | _ => false

omit [Node σ] in
/-- All that can be asked to get a call signed and handed over, in order. -/
def Write.script (hotkey : AccountId) (uid : UInt64) (call : Call) (key : SigningKey)
    (nonce : UInt64) (encoded : Bytes) : List Request :=
  [.fetch (.active hotkey) none, .fetch (.neuron uid) none] ++
    [.nonce key.account, .sign call key nonce, .submit encoded]

theorem Sending.sublist {link : Link} {limit : Millis} {call : Call} {key : SigningKey} {s : σ}
    {requests : List Request} {sent : Option Bytes}
    (h : Sending link limit call key s requests sent) :
    ∃ nonce encoded,
      requests.Sublist [.nonce key.account, .sign call key nonce, .submit encoded] := by
  cases h with
  | stopped h =>
    cases h with
    | noNonce _ => exact ⟨0, [], .cons_cons _ (List.nil_sublist _)⟩
    | @notSigned nonce _ _ _ => exact ⟨nonce, [], .cons_cons _ (.cons_cons _ (List.nil_sublist _))⟩
  | sent h =>
    cases h with
    | signed _ _ => exact ⟨_, _, List.Sublist.refl _⟩

theorem Lookup.sublist {link : Link} {limit : Millis} {hotkey : AccountId} {ip : IpAddress}
    {port : UInt16} {s : σ} {requests : List Request} {next : Option σ}
    (h : Lookup link limit hotkey ip port s requests next) :
    ∃ uid, requests.Sublist [.fetch (.active hotkey) none, .fetch (.neuron uid) none] := by
  cases h with
  | noUid _ => exact ⟨0, .cons_cons _ (List.nil_sublist _)⟩
  | unknown _ => exact ⟨0, .cons_cons _ (List.nil_sublist _)⟩
  | noRecord _ _ => exact ⟨_, List.Sublist.refl _⟩
  | registered _ _ _ => exact ⟨_, List.Sublist.refl _⟩
  | stale _ _ _ => exact ⟨_, List.Sublist.refl _⟩

namespace Write

variable {w : Write} {link : Link} {limit : Millis} {wallet : Wallet} {s : σ}
  {requests : List Request}

theorem LooksUp.sublist {next : Option σ} (h : w.LooksUp link limit wallet s requests next) :
    ∃ uid, requests.Sublist
      [.fetch (.active wallet.hotkey.account) none, .fetch (.neuron uid) none] := by
  cases w with
  | subscribe ip port modality => exact Lookup.sublist h
  | _ => exact ⟨0, h.1 ▸ List.nil_sublist _⟩

/-- A trace follows the script, and may leave out steps. -/
theorem Trace.sublist {sent : Option Bytes} (h : w.Trace link limit wallet s requests sent) :
    requests = [] ∨ ∃ uid call key nonce encoded,
      requests.Sublist (script wallet.hotkey.account uid call key nonce encoded) := by
  cases h with
  | refused _ => exact .inl rfl
  | @stopped call _ _ hl =>
    obtain ⟨uid, h⟩ := hl.sublist
    exact .inr ⟨uid, call, wallet.hotkey, 0, [], List.sublist_append_of_sublist_left h⟩
  | sending _ hl hs =>
    obtain ⟨uid, hfirst⟩ := hl.sublist
    obtain ⟨nonce, encoded, hrest⟩ := hs.sublist
    exact .inr ⟨uid, _, _, nonce, encoded, hfirst.append hrest⟩

/-- No trace repeats a request. -/
theorem Trace.nodup {sent : Option Bytes} (h : w.Trace link limit wallet s requests sent) :
    requests.Nodup := by
  obtain rfl | ⟨uid, call, key, nonce, encoded, hsub⟩ := h.sublist
  · exact List.nodup_nil
  · refine hsub.nodup ?_
    simp [script]

/-- No trace hands over two extrinsics. -/
theorem Trace.countP_isSubmit_le {sent : Option Bytes}
    (h : w.Trace link limit wallet s requests sent) : requests.countP Request.isSubmit ≤ 1 := by
  obtain rfl | ⟨uid, call, key, nonce, encoded, hsub⟩ := h.sublist
  · exact Nat.zero_le 1
  · exact hsub.countP_le

end Write

/-! ### The client -/

/-- **A write sends at most once.** Without a link a write asks nothing. With a link, its requests
are those of its trace: a registration looks first whether the hotkey is registered at the address,
then a nonce is read, the call is signed with it, and what was signed is handed over, each step only
after the success of the one before it. No request is repeated, and at most one is a hand-over. An
outcome that is returned carries the hash of the bytes that were handed over. -/
theorem write_sends_at_most_once (w : Write) (wallet : Wallet) (policy : Policy) (c : Client)
    (s : σ) :
    (c.link = none → (w.run wallet policy c s).journal.calls = []) ∧
    ∀ link, c.link = some link → ∃ requests sent,
      w.Trace link c.queryTimeout wallet s requests sent ∧
      (w.run wallet policy c s).journal.calls = requests.map (Prod.mk link) ∧
      requests.Nodup ∧ requests.countP Request.isSubmit ≤ 1 ∧
      ∀ answer, (w.run wallet policy c s).result = .ok answer →
        ∀ outcome, w.outcome? answer = some outcome →
          ∃ encoded, sent = some encoded ∧ outcome.extrinsic = Blake2b.digest256 encoded := by
  constructor
  · intro h
    obtain ⟨notices, hrun⟩ := w.needsLink_run wallet policy c s h
    rw [hrun]
    exact (Journal.Waits.noted notices).calls
  · intro link h
    obtain ⟨requests, sent, ht, hcalls, hout⟩ := w.keeps_run h wallet policy s
    exact ⟨requests, sent, ht, hcalls, ht.nodup, ht.countP_isSubmit_le, fun answer ha =>
      hout answer _ (Ran.success?_eq_some_iff.mpr ⟨ha, rfl⟩)⟩

end Signing

end LedgerClient
