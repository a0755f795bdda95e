import LedgerClient.Proofs.Composing
import LedgerClient.Proofs.Conversation
import LedgerClient.Proofs.Deadline
import LedgerClient.Proofs.Session

/-!
# What keys are used for

A call is signed with the key that its kind asks for: the coldkey for money and stake, the hotkey for
everything else. Whatever else a client does, it does without a key.

## The model

`KeyRole.calls` lists the calls of a key by module and function, and `Write.role` says for each write
which key it needs. An entry of a journal is *keyed* if a key has a part in it: a nonce is read, a
call is signed, or an extrinsic is built. `SignsOnly allowed` says that keyed entries are about
allowed pairs of a call and a key. It is closed under sequence, and what an operation does with keys
is then a matter of which pairs it starts from.

## What is proved

* `Call.signer_of_compose`: a composed call is signed with the key that lists it.
* `Write.signsOnly_run`, `Operation.signsOnly_run`, `Step.signsOnly_run`, `Session.signsOnly_run`: keys
  are used only as the writes and the requests to build ask for it, in every operation and over whole
  sessions.
-/

namespace LedgerClient

variable {σ α β : Type}

/-! ### The two keys -/

namespace KeyRole

/-- The calls that a key signs, by module and function. -/
def calls : KeyRole → List (String × String)
  | hotkey => [("SubtensorModule", "subscribe"), ("SubtensorModule", "set_weights")]
  | coldkey => [("Balances", "transfer"), ("SubtensorModule", "add_stake"),
      ("SubtensorModule", "remove_stake")]

/-- The other one of the two keys. -/
def other : KeyRole → KeyRole
  | hotkey => coldkey
  | coldkey => hotkey

end KeyRole

/-- A call is signed with the key that lists it, and with no other. -/
theorem CallKind.signer_eq_iff (kind : CallKind) (role : KeyRole) :
    kind.signer = role ↔ (kind.module, kind.function) ∈ role.calls := by
  cases role <;> cases kind <;> decide

/-- What is composed is a call of the module and function that were asked for. -/
theorem Call.of_compose {module function : String} {given : List (String × Value)} {call : Call}
    (h : compose module function given = .ok call) :
    call.kind.module = module ∧ call.kind.function = function := (compose_eq_ok_iff.mp h).1

/-- What is composed is signed with the key that lists its module and function. -/
theorem Call.signer_of_compose {module function : String} {given : List (String × Value)}
    {call : Call} (h : compose module function given = .ok call) (role : KeyRole)
    (hrole : (module, function) ∈ role.calls) : call.kind.signer = role := by
  obtain ⟨rfl, rfl⟩ := of_compose h
  exact (CallKind.signer_eq_iff _ _).mpr hrole

/-- Different keys stay different when their roles are exchanged. -/
theorem Wallet.key_other_ne {wallet : Wallet} (h : wallet.hotkey ≠ wallet.coldkey)
    (role : KeyRole) : wallet.key role.other ≠ wallet.key role := by
  cases role with
  | hotkey => exact h.symm
  | coldkey => exact h

/-- A key is known by its account. -/
theorem SigningKey.eq_of_account {key key' : SigningKey} (h : key.account = key'.account) :
    key = key' := by
  cases key
  cases key'
  cases h
  rfl

namespace Write

/-- The key that a write needs. -/
def role : Write → KeyRole
  | send call => call.kind.signer
  | subscribe _ _ _ | setWeights _ _ => .hotkey
  | addStake _ _ | unstake _ _ | transfer _ _ => .coldkey

/-- The call that a write sends asks for the key that the write needs. -/
theorem signer_eq_role {w : Write} {wallet : Wallet} {call : Call} (h : w.call wallet = .ok call) :
    call.kind.signer = w.role := by
  cases w with
  | send call =>
    cases h
    rfl
  | setWeights dests values =>
    simp only [Write.call, Call.setWeights] at h
    split at h
    · cases h
    · exact Call.signer_of_compose h .hotkey (by decide)
  | subscribe ip port modality =>
    rw [Write.call, Call.subscribe] at h
    exact Call.signer_of_compose h .hotkey (by decide)
  | _ =>
    simp only [Write.call, Call.addStake, Call.removeStake, Call.transfer] at h
    exact Call.signer_of_compose h .coldkey (by decide)

end Write

/-! ### Keyed entries -/

namespace Entry

/-- Whether an entry shows a key at work: the nonce of its account is read, a call is signed with it,
or an extrinsic is built that bears its account as signer. -/
def Uses (key : SigningKey) : Entry → Prop
  | .asked _ (.nonce account) => account = key.account
  | .asked _ (.sign _ signer _) => signer = key
  | .noted (.built x) => x.signer = key.account
  | _ => False

/-- If a key has a part in an entry, then an allowed key, and for an allowed call. -/
def SignsOnly (allowed : Call → SigningKey → Prop) : Entry → Prop
  | .asked _ (.nonce account) => ∃ call key, allowed call key ∧ account = key.account
  | .asked _ (.sign call key _) => allowed call key
  | .noted (.built x) => ∃ key, allowed x.call key ∧ x.signer = key.account
  | _ => True

theorem SignsOnly.of_isLookup {allowed : Call → SigningKey → Prop} {link : Link} {request : Request}
    (h : request.isLookup = true) : Entry.SignsOnly allowed (.asked link request) := by
  cases request <;> trivial

theorem SignsOnly.of_not_isBuilt {allowed : Call → SigningKey → Prop} {notice : Notice}
    (h : notice.isBuilt = false) : Entry.SignsOnly allowed (.noted notice) := by
  cases notice <;> trivial

/-- An entry shows no key at work but allowed ones. -/
theorem SignsOnly.of_uses {allowed : Call → SigningKey → Prop} {entry : Entry} {key : SigningKey}
    (h : entry.SignsOnly allowed) (huses : entry.Uses key) : ∃ call, allowed call key := by
  cases entry with
  | asked link request =>
    cases request with
    | nonce account =>
      obtain ⟨call, signer, hallowed, haccount⟩ := h
      cases SigningKey.eq_of_account (haccount.symm.trans huses)
      exact ⟨call, hallowed⟩
    | sign call signer nonce =>
      cases huses
      exact ⟨call, h⟩
    | _ => exact huses.elim
  | noted notice =>
    cases notice with
    | built x =>
      obtain ⟨signer, hallowed, hsigner⟩ := h
      cases SigningKey.eq_of_account (hsigner.symm.trans huses)
      exact ⟨x.call, hallowed⟩
    | _ => exact huses.elim
  | _ => exact huses.elim

end Entry

/-- Keys are used only as allowed. -/
def Journal.SignsOnly (allowed : Call → SigningKey → Prop) (journal : Journal) : Prop :=
  ∀ entry ∈ journal, entry.SignsOnly allowed

namespace Journal.SignsOnly

variable {allowed : Call → SigningKey → Prop} {entry : Entry} {j k : Journal}

theorem nil : Journal.SignsOnly allowed [] := fun _ hm => by cases hm

theorem cons (he : entry.SignsOnly allowed) (hj : j.SignsOnly allowed) :
    Journal.SignsOnly allowed (entry :: j) := by
  intro e hm
  rcases List.mem_cons.mp hm with rfl | hm
  · exact he
  · exact hj e hm

theorem append (hj : j.SignsOnly allowed) (hk : k.SignsOnly allowed) :
    Journal.SignsOnly allowed (j ++ k) :=
  fun e hm => (List.mem_append.mp hm).elim (hj e) (hk e)

/-- What is allowed may be allowed for weaker reasons. -/
theorem mono {allowed' : Call → SigningKey → Prop} (hj : j.SignsOnly allowed)
    (h : ∀ call key, allowed call key → allowed' call key) : j.SignsOnly allowed' := by
  intro e hm
  have he := hj e hm
  unfold Entry.SignsOnly at he ⊢
  split
  · obtain ⟨call, key, ha, haccount⟩ := he
    exact ⟨call, key, h call key ha, haccount⟩
  · exact h _ _ he
  · obtain ⟨key, ha, hsigner⟩ := he
    exact ⟨key, h _ key ha, hsigner⟩
  · trivial

/-- What an observer sees of a broken link being given up has nothing to do with keys. -/
theorem aftermath (c : Client) (result : Except Error α) :
    Journal.SignsOnly allowed (c.aftermath result) := by
  unfold Client.aftermath
  split
  · exact nil
  · split
    · split
      · exact .cons trivial (.cons trivial (.cons trivial nil))
      · exact nil
    · exact nil

end Journal.SignsOnly

/-! ### Exchanges -/

section Keys

variable {allowed : Call → SigningKey → Prop}

namespace Exchange

/-- An exchange uses keys only as allowed. -/
def SignsOnly (allowed : Call → SigningKey → Prop) (x : Exchange σ α) : Prop :=
  ∀ limit s, (x limit s).journal.SignsOnly allowed

namespace SignsOnly

theorem finish (result : Except Error α) : SignsOnly allowed (Exchange.finish (σ := σ) result) :=
  fun _ _ => .nil

theorem record {entry : Entry} (h : entry.SignsOnly allowed) :
    SignsOnly allowed (Exchange.record (σ := σ) entry) := fun _ _ => .cons h .nil

theorem wait (delay : Millis) : SignsOnly allowed (Exchange.wait (σ := σ) delay) := by
  intro limit s
  rw [Exchange.wait]
  split
  · exact .nil
  · exact .nil

theorem silence : SignsOnly allowed (Exchange.silence : Exchange σ α) := fun _ _ => .nil

theorem unending : SignsOnly allowed (Exchange.unending : Exchange σ α) :=
  fun _ _ => .cons trivial .nil

theorem bind {x : Exchange σ α} {f : α → Exchange σ β} (hx : SignsOnly allowed x)
    (hf : ∀ a, SignsOnly allowed (f a)) : SignsOnly allowed (x >>= f) := by
  intro limit s
  rcases h : (x limit s).result with _ | e | a
  · rw [bind_late f h]
    exact hx limit s
  · rw [bind_error f h]
    exact hx limit s
  · rw [bind_ok f h]
    exact (hx limit s).append (hf a _ _)

/-- Waiting for reports uses no key. -/
theorem waiting : WaitingLaw (σ := σ) fun _ x => SignsOnly allowed x where
  finish := finish
  silence := silence
  unending := unending
  wait := wait
  polled := record trivial
  inPool _ := record trivial
  inBlock _ _ := record trivial
  bind := bind
  limits h := by
    intro limit s
    obtain ⟨y, hy, hxy⟩ := h limit
    rw [hxy]
    exact hy limit s

variable [Node σ]

theorem ask {link : Link} {request : Request} (h : Entry.SignsOnly allowed (.asked link request)) :
    SignsOnly allowed (Exchange.ask (σ := σ) link request) := by
  intro limit s
  rw [journal_ask]
  exact .cons h .nil

theorem askLocal {link : Link} {request : Request}
    (h : Entry.SignsOnly allowed (.asked link request)) :
    SignsOnly allowed (Exchange.askLocal (σ := σ) link request) := fun _ _ => .cons h .nil

/-- Building reads the nonce of the key's account, signs with the key, and names the account. -/
theorem build {link : Link} {call : Call} {key : SigningKey} (h : allowed call key) :
    SignsOnly allowed (Extrinsic.build (σ := σ) link call key) := by
  unfold Extrinsic.build
  refine bind (ask ⟨call, key, h, rfl⟩) fun nonce => ?_
  refine bind (askLocal h) fun encoded => ?_
  exact bind (record ⟨key, h, rfl⟩) fun _ => finish _

theorem submit (link : Link) (x : Extrinsic) (policy : Policy) :
    SignsOnly allowed (Extrinsic.submit (σ := σ) link x policy) :=
  bind (ask trivial) fun w => waiting.outcome w policy x.hash

end SignsOnly

end Exchange

/-! ### Actions -/

namespace Action

/-- An action uses keys only as allowed. -/
def SignsOnly (allowed : Call → SigningKey → Prop) (m : Action σ α) : Prop :=
  ∀ c s, (m c s).journal.SignsOnly allowed

namespace SignsOnly

theorem finish (result : Except Error α) : SignsOnly allowed (Action.finish (σ := σ) result) :=
  fun _ _ => .nil

theorem pure (a : α) : SignsOnly allowed (pure a : Action σ α) := finish (.ok a)

theorem outcome {m : Action σ α} (hm : SignsOnly allowed m) : SignsOnly allowed m.outcome := hm

theorem bind {m : Action σ α} {f : α → Action σ β} (hm : SignsOnly allowed m)
    (hf : ∀ a, SignsOnly allowed (f a)) : SignsOnly allowed (m >>= f) := by
  intro c s
  rcases h : (m c s).result with e | a
  · rw [bind_error f h]
    exact hm c s
  · rw [bind_ok f h]
    exact (hm c s).append (hf a _ _)

theorem note_bind {notice : Notice} {f : Unit → Action σ β}
    (h : Entry.SignsOnly allowed (.noted notice)) (hf : SignsOnly allowed (f ())) :
    SignsOnly allowed (Action.note notice >>= f) :=
  bind (m := Action.note notice) (fun _ _ => .cons h .nil) fun _ => hf

/-- A step that makes no entry does with keys what the steps after it do. -/
theorem bind_of_nil {m : Action σ α} {f : α → Action σ β} (hm : ∀ c s, (m c s).journal = [])
    (hf : ∀ a, SignsOnly allowed (f a)) : SignsOnly allowed (m >>= f) := by
  refine bind (fun c s => ?_) hf
  rw [hm c s]
  exact .nil

theorem reading {x : Link → Exchange σ α} (hx : ∀ link, Exchange.SignsOnly allowed (x link)) :
    SignsOnly allowed (Action.reading x) := by
  intro c s
  rcases h : c.link with _ | link
  · rw [reading_of_none x h]
    exact .nil
  · rw [reading_of_some x h]
    exact (hx link _ s).append (.aftermath c _)

variable [Node σ]

theorem submit (x : Extrinsic) (policy : Policy) :
    SignsOnly allowed (Client.submit (σ := σ) x policy) := by
  intro c s
  rcases h : c.link with _ | link
  · rw [Client.submit_of_none x policy h]
    exact .nil
  · have hx : Exchange.SignsOnly allowed (Extrinsic.submit (σ := σ) link x policy) :=
      .submit link x policy
    have houtcome : ∀ result, Entry.SignsOnly allowed (.noted (Client.outcomeNotice x result)) := by
      intro result
      cases result <;> trivial
    rw [Client.submit_of_some x policy h]
    exact .cons trivial ((hx _ s).append (.cons (houtcome _) (.aftermath c _)))

/-- Looking up uses no key. -/
theorem lookupLaw : LookupLaw (σ := σ) fun _ _ m => SignsOnly allowed m where
  finish _ := finish _
  note _ h := fun _ _ => .cons (.of_not_isBuilt h) .nil
  bind := bind
  mono _ hm := hm
  ask _ h := reading fun _ => .ask (.of_isLookup h)

end SignsOnly

end Action

/-! ### Operations -/

variable [Node σ]

namespace Client

open LedgerClient.Action

theorem signsOnly_build {call : Call} {key : SigningKey} (h : allowed call key) :
    SignsOnly allowed (build (σ := σ) call key) := .reading fun _ => .build h

/-- A call is signed with the key of the wallet that its kind asks for. -/
theorem signsOnly_signAndSubmit {call : Call} {wallet : Wallet}
    (h : allowed call (wallet.key call.kind.signer)) (policy : Policy) :
    SignsOnly allowed (signAndSubmit (σ := σ) call wallet policy) :=
  (signsOnly_build h).bind fun x => .submit x policy

theorem signsOnly_announced {call : Except Error Call} {notice : Notice} {wallet : Wallet}
    (h : ∀ c, call = .ok c → allowed c (wallet.key c.kind.signer))
    (hnotice : Entry.SignsOnly allowed (.noted notice)) (policy : Policy) :
    SignsOnly allowed (announced (σ := σ) call notice wallet policy) := by
  unfold announced
  cases hcall : call with
  | error e =>
    rw [finish_error_bind]
    exact .finish _
  | ok c =>
    rw [finish_ok_bind]
    exact .note_bind hnotice (signsOnly_signAndSubmit (h c hcall) policy)

theorem signsOnly_subscribe {wallet : Wallet} {ip : IpAddress} {port : UInt16}
    {modality : Modality}
    (h : ∀ c, Call.subscribe ip port modality wallet.coldkey.account = .ok c →
      allowed c (wallet.key c.kind.signer)) (policy : Policy) :
    SignsOnly allowed (subscribe (σ := σ) wallet ip port modality policy) := by
  unfold subscribe
  cases hcall : Call.subscribe ip port modality wallet.coldkey.account with
  | error e =>
    rw [finish_error_bind]
    exact .finish _
  | ok call =>
    rw [finish_ok_bind]
    refine (SignsOnly.lookupLaw.registeredAs wallet ip port).bind fun registered => ?_
    cases registered with
    | some uid => exact .note_bind trivial (.pure _)
    | none =>
      refine (signsOnly_signAndSubmit (h call hcall) policy).outcome.bind fun result => ?_
      cases result with
      | ok outcome => exact .note_bind trivial (.pure _)
      | error e => exact .note_bind trivial (.finish _)

/-! ### Connecting -/

theorem signsOnly_attempt (address : String) : SignsOnly allowed (attempt (σ := σ) address) := by
  intro c s
  rw [journal_attempt]
  exact .cons trivial .nil

theorem signsOnly_failover (network : Network) (candidates tried : List String) :
    SignsOnly allowed (failover (σ := σ) network candidates tried) := by
  induction tried using failover.induct candidates with
  | case1 tried ih =>
    rw [failover]
    refine .note_bind trivial ?_
    refine SignsOnly.bind_of_nil (fun _ _ => rfl) fun drawn => ?_
    cases drawn with
    | none => exact .note_bind trivial (.finish _)
    | some item =>
      obtain ⟨address, ha⟩ := item
      refine .note_bind trivial ?_
      refine (signsOnly_attempt address).outcome.bind fun result => ?_
      cases result with
      | ok link => exact .pure link
      | error e => exact .note_bind trivial (ih address ha)

theorem signsOnly_dialTarget : SignsOnly allowed (dialTarget (σ := σ)) := by
  intro c s
  cases h : c.target with
  | endpoint address =>
    rw [dialTarget_of_endpoint h]
    exact signsOnly_attempt address c s
  | network network =>
    cases hn : c.catalog.addresses? network with
    | none =>
      rw [dialTarget_of_unknown h hn]
      exact .nil
    | some candidates =>
      rw [dialTarget_of_listed h hn]
      exact signsOnly_failover network candidates [] c s

theorem signsOnly_connect : SignsOnly allowed (connect (σ := σ)) := by
  intro c s
  have hreleased : Journal.SignsOnly allowed c.releaseEntries := by
    unfold releaseEntries
    split
    · exact .cons trivial .nil
    · exact .nil
  have hsettled : ∀ (c : Client) (result : Except Error Link),
      Journal.SignsOnly allowed (c.settlement result) := by
    intro c result
    cases result with
    | ok link => exact .cons trivial (.cons trivial .nil)
    | error e => exact .cons trivial .nil
  rw [connect_eq]
  refine hreleased.append (.cons trivial ?_)
  exact (signsOnly_dialTarget c.connecting s).append (hsettled _ _)

omit [Node σ] in
theorem signsOnly_disconnect : SignsOnly allowed (disconnect (σ := σ)) := by
  intro c s
  rw [disconnect_eq]
  unfold farewell
  split
  · exact .cons trivial (.cons trivial (.cons trivial .nil))
  · exact .cons trivial .nil

end Client

/-! ### Writes, operations and steps -/

/-- A write signs its own call, with the key that the call asks for. -/
theorem Write.signsOnly_run (w : Write) (wallet : Wallet) (policy : Policy) :
    Action.SignsOnly (fun call key => w.call wallet = .ok call ∧ key = wallet.key w.role)
      (w.run (σ := σ) wallet policy) := by
  have hcall : ∀ call, w.call wallet = .ok call →
      w.call wallet = .ok call ∧ wallet.key call.kind.signer = wallet.key w.role :=
    fun call h => ⟨h, by rw [signer_eq_role h]⟩
  cases w with
  | send call => exact Client.signsOnly_signAndSubmit (hcall call rfl) policy
  | subscribe ip port modality =>
    refine Client.signsOnly_subscribe ?_ policy
    exact hcall
  | _ =>
    refine Client.signsOnly_announced ?_ ?_ policy
    · exact hcall
    · trivial

namespace Operation

/-- The calls that an operation signs, with the keys that it signs them with. -/
def Signs : Operation → Call → SigningKey → Prop
  | build call key, call', key' => call' = call ∧ key' = key
  | write w wallet _, call, key => w.call wallet = .ok call ∧ key = wallet.key w.role
  | _, _, _ => False

/-- Every operation uses keys only for what it signs. -/
theorem signsOnly_run (op : Operation) : Action.SignsOnly op.Signs (op.run (σ := σ)) := by
  cases op with
  | build call key => exact Client.signsOnly_build ⟨rfl, rfl⟩
  | submit x policy => exact .submit x policy
  | write w wallet policy => exact w.signsOnly_run wallet policy
  | _ => exact Action.SignsOnly.lookupLaw.operation rfl

end Operation

namespace Step

/-- The calls that a step signs, with the keys that it signs them with. -/
def Signs : Step → Call → SigningKey → Prop
  | operate op => op.Signs
  | _ => fun _ _ => False

/-- Every step uses keys only for what it signs. -/
theorem signsOnly_run (step : Step) : Action.SignsOnly step.Signs (step.run (σ := σ)) := by
  cases step with
  | connect => exact Client.signsOnly_connect
  | reconnect => exact Client.signsOnly_disconnect.bind fun _ => Client.signsOnly_connect
  | disconnect => exact Client.signsOnly_disconnect
  | operate op => exact op.signsOnly_run
  | adjust setting => exact fun _ _ => .nil
  | receive => exact fun _ _ => .nil
  | hangUp => exact fun _ _ => .nil

end Step

/-- In a session keys are used only for what its steps sign. -/
theorem Session.signsOnly_run (steps : List Step) (c : Client) (s : σ) :
    (Session.run steps c s).journal.SignsOnly fun call key =>
      ∃ step ∈ steps, step.Signs call key := by
  refine run_induction (motive := fun session =>
    session.journal.SignsOnly fun call key => ∃ step ∈ steps, step.Signs call key) .nil ?_
  intro session step hmem hsession
  have hstep := step.signsOnly_run session.client session.node
  exact hsession.append (hstep.mono fun call key h => ⟨step, hmem, h⟩)

end Keys

end LedgerClient
