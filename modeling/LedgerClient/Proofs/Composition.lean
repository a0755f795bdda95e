import LedgerClient.Proofs.Harmless

/-!
# How operations are composed

All operations are put together from steps of a few kinds: a result, a notice, one request, the
building of an extrinsic, and its submission. A property of actions that these steps have, and that
putting actions together keeps, is a property of every operation.

## The model

A request and the building of an extrinsic are reads: each has the time limit of reads for itself. A
submission has a time limit of its own. `Operation.reads` and `Operation.submissions` say how many of
them an operation makes at most. The properties are of actions on such a budget and with any result,
since the steps of an operation have results of their own.

* `LookupLaw P` is for operations that only look up entries and blocks. Of the results it asks nothing
  but what decoders give, and of the notices nothing that tells of an extrinsic.
* `Budgeted allowed P` is for all operations whose policy is allowed. A property of this kind has more
  to say of the steps, and of a submission perhaps only for some policies.
* `Compositional P` is the same of a property that does not depend on the budget.
* `Relaying allowed P` is for properties that say how an operation ends. The one place where an operation
  looks at an error of one of its steps is a registration, which reports the error and passes it on.

## What is proved

* `LookupLaw.operation`: a property of look-ups, by an induction over the operations that only look up.
* `Budgeted.operation`, `Compositional.operation`, `Relaying.operation`: a property of all operations.
-/

namespace LedgerClient

open LedgerClient.Action

variable {σ α β : Type}

/-! ### Budgets -/

/-- The number of reads that a write makes at most: a registration is looked up with two, and an
extrinsic is built with one. -/
def Write.reads : Write → Nat
  | subscribe _ _ _ => 3
  | _ => 1

namespace Operation

/-- The number of reads that an operation makes at most, one after the other. -/
def reads : Operation → Nat
  | weights _ | isSubscribed _ _ _ => 2
  | submit _ _ => 0
  | write w _ _ => w.reads
  | _ => 1

/-- The number of submissions that an operation makes at most. -/
def submissions : Operation → Nat
  | submit _ _ | write _ _ _ => 1
  | _ => 0

/-- The policy of the submission of an operation, if it may make one. -/
def policy? : Operation → Option Policy
  | submit _ policy | write _ _ policy => some policy
  | _ => none

end Operation

/-! ### Look-ups -/

/-- Whether a request is for entries or blocks. -/
def Request.isLookup : Request → Bool
  | .fetch _ _ | .entries _ _ | .blockNumber _ | .blockHash _ => true
  | .nonce _ | .sign _ _ _ | .submit _ => false

/-- Whether a notice tells of an extrinsic that was built. -/
def Notice.isBuilt : Notice → Bool
  | .built _ => true
  | _ => false

/-- Whether an operation only looks up entries or blocks. -/
def Operation.isLookup : Operation → Bool
  | build _ _ | submit _ _ | write _ _ _ => false
  | _ => true

/-- A property of actions on a budget of reads that the steps of look-ups have on theirs, and that
actions put together have on the sum of their budgets. -/
structure LookupLaw [Node σ] (P : (reads : Nat) → (α : Type) → Action σ α → Prop) : Prop where
  /-- A result that does not mean that the link is broken. -/
  finish : ∀ {α} {result : Except Error α}, Harmless result → P 0 α (.finish result)
  /-- A notice that tells of no extrinsic that was built. -/
  note : ∀ notice : Notice, notice.isBuilt = false → P 0 Unit (.note notice)
  /-- One step, then another. -/
  bind : ∀ {α β m k} {x : Action σ α} {f : α → Action σ β}, P m α x → (∀ a, P k β (f a)) →
    P (m + k) β (x >>= f)
  /-- A step that could make more reads than it does. -/
  mono : ∀ {α m k} {x : Action σ α}, m ≤ k → P m α x → P k α x
  /-- One request. -/
  ask : ∀ request : Request, request.isLookup = true →
    P 1 _ (.reading fun link => .ask link request)

namespace LookupLaw

variable [Node σ] {P : (reads : Nat) → (α : Type) → Action σ α → Prop}

theorem pure (h : LookupLaw P) (a : α) : P 0 α (Pure.pure a) := h.finish (.ok a)

theorem note_bind (h : LookupLaw P) {notice : Notice} (hn : notice.isBuilt = false)
    {f : Unit → Action σ β} {m : Nat} (hf : P m β (f ())) : P m β (Action.note notice >>= f) := by
  simpa using h.bind (h.note notice hn) fun _ => hf

theorem query (h : LookupLaw P) (item : StorageItem) (block : Option Hash) :
    P 1 _ (Client.query item block) := h.note_bind rfl (h.ask (.fetch item block) rfl)

theorem queryMap (h : LookupLaw P) (map : StorageMap) (block : Option Hash) :
    P 1 _ (Client.queryMap map block) := h.note_bind rfl (h.ask (.entries map block) rfl)

theorem queryEntry (h : LookupLaw P) (item : StorageItem) {decode : Value → Except Error α}
    (hd : ∀ v, Harmless (decode v)) : P 1 _ (Client.queryEntry item decode) :=
  h.bind (h.query item none) fun _ => h.finish (harmless_decodeEntry hd _)

theorem queryEntries (h : LookupLaw P) (map : StorageMap) (block : Option Hash)
    {key : Bytes → Except Error α} {decode : Value → Except Error β}
    (hk : ∀ bytes, Harmless (key bytes)) (hd : ∀ v, Harmless (decode v)) :
    P 1 _ (Client.queryEntries map block key decode) :=
  h.bind (h.queryMap map block) fun _ => h.finish (harmless_decodeEntries hk hd _)

theorem balance (h : LookupLaw P) (account : AccountId) : P 1 _ (Client.balance account) := by
  refine h.bind (k := 0) (h.query _ none) fun v => ?_
  cases v with
  | none => exact h.note_bind rfl (h.pure _)
  | some v => exact h.finish v.harmless_freeBalance

theorem uidOf (h : LookupLaw P) (hotkey : AccountId) : P 1 _ (Client.uidOf hotkey) :=
  h.queryEntry _ (Value.harmless_uint64 _)

theorem neuron (h : LookupLaw P) (uid : UInt64) : P 1 _ (Client.neuron uid) :=
  h.queryEntry _ PeerRecord.harmless_ofValue

theorem weights (h : LookupLaw P) (uid : UInt64) : P 2 _ (Client.weights uid) := by
  refine h.bind (k := 1) (h.queryEntry _ Value.harmless_uidList) fun dests => ?_
  refine h.bind (k := 0) (h.queryEntry _ Value.harmless_weightList) fun values => ?_
  exact h.finish (Client.harmless_joinWeights uid dests values)

theorem neurons (h : LookupLaw P) (block : Option Hash) : P 1 _ (Client.neurons block) := by
  refine h.bind (k := 0) (h.queryEntries _ block RawKey.harmless_uid PeerRecord.harmless_ofValue)
    fun peers => ?_
  exact h.note_bind rfl (h.pure peers)

theorem registeredAs (h : LookupLaw P) (wallet : Wallet) (ip : IpAddress) (port : UInt16) :
    P 2 _ (Client.registeredAs wallet ip port) := by
  refine h.bind (k := 1) (h.uidOf _) fun found => ?_
  cases found with
  | none => exact h.mono (Nat.zero_le 1) (h.pure none)
  | some uid =>
    refine h.bind (k := 0) (h.neuron uid) fun record => ?_
    cases record with
    | none => exact h.pure none
    | some peer => exact h.pure _

theorem isSubscribed (h : LookupLaw P) (wallet : Wallet) (ip : IpAddress) (port : UInt16) :
    P 2 _ (Client.isSubscribed wallet ip port) := by
  rw [Client.isSubscribed_eq]
  exact h.bind (h.registeredAs wallet ip port) fun _ => h.pure _

/-- Every operation that only looks up has the property on its budget. -/
theorem operation (h : LookupLaw P) {op : Operation} (hop : op.isLookup = true) :
    P op.reads _ op.run := by
  cases op with
  | query item block => exact h.query item block
  | queryMap map block => exact h.queryMap map block
  | currentBlock => exact h.ask (.blockNumber none) rfl
  | blockNumber hash => exact h.ask (.blockNumber (some hash)) rfl
  | blockHash number => exact h.ask (.blockHash number) rfl
  | balance account => exact h.balance account
  | uidOf hotkey => exact h.uidOf hotkey
  | neuron uid => exact h.neuron uid
  | stake uid => exact h.queryEntry _ Value.harmless_stake
  | weightUids uid => exact h.queryEntry _ Value.harmless_uidList
  | weightVals uid => exact h.queryEntry _ Value.harmless_weightList
  | weights uid => exact h.weights uid
  | lastEmit uid => exact h.queryEntry _ (Value.harmless_uint64 _)
  | activeMap block => exact h.queryEntries _ block RawKey.harmless_account (Value.harmless_uint64 _)
  | stakeMap block => exact h.queryEntries _ block RawKey.harmless_uid Value.harmless_stake
  | lastEmitMap block => exact h.queryEntries _ block RawKey.harmless_uid (Value.harmless_uint64 _)
  | weightUidsMap block => exact h.queryEntries _ block RawKey.harmless_uid Value.harmless_uidList
  | weightValsMap block => exact h.queryEntries _ block RawKey.harmless_uid Value.harmless_weightList
  | neurons block => exact h.neurons block
  | isSubscribed wallet ip port => exact h.isSubscribed wallet ip port
  | build _ _ | submit _ _ | write _ _ _ => cases hop

end LookupLaw

/-! ### All operations -/

/-- A property of actions on a budget of reads and submissions that the steps of operations have on
theirs if their policy is allowed, and that actions put together have on the sum of their budgets. -/
structure Budgeted [Node σ] (allowed : Policy → Prop)
    (P : (reads submissions : Nat) → (α : Type) → Action σ α → Prop) : Prop where
  /-- A result. -/
  finish : ∀ {α} (result : Except Error α), P 0 0 α (.finish result)
  /-- A notice. -/
  note : ∀ notice, P 0 0 Unit (.note notice)
  /-- One step, then another. -/
  bind : ∀ {α β m n k l} {x : Action σ α} {f : α → Action σ β}, P m n α x →
    (∀ a, P k l β (f a)) → P (m + k) (n + l) β (x >>= f)
  /-- A step whose errors are looked at. -/
  outcome : ∀ {α m n} {x : Action σ α}, P m n α x → P m n (Except Error α) x.outcome
  /-- A step that could make more reads and submissions than it does. -/
  mono : ∀ {α m n k l} {x : Action σ α}, m ≤ k → n ≤ l → P m n α x → P k l α x
  /-- One request for entries or blocks. -/
  ask : ∀ request : Request, request.isLookup = true →
    P 1 0 _ (.reading fun link => .ask link request)
  /-- Building an extrinsic. -/
  build : ∀ call key, P 1 0 Extrinsic (Client.build call key)
  /-- Submitting an extrinsic. -/
  submit : ∀ x policy, allowed policy → P 0 1 Outcome (Client.submit x policy)

namespace Budgeted

variable [Node σ] {allowed : Policy → Prop}
  {P : (reads submissions : Nat) → (α : Type) → Action σ α → Prop} {policy : Policy}

/-- Nothing is submitted by looking up. -/
theorem lookupLaw (h : Budgeted allowed P) : LookupLaw fun m => P m 0 where
  finish _ := h.finish _
  note notice _ := h.note notice
  bind := h.bind
  mono hm := h.mono hm (Nat.le_refl 0)
  ask := h.ask

theorem finish_bind (h : Budgeted allowed P) {result : Except Error α} {f : α → Action σ β}
    {m n : Nat} (hf : ∀ a, P m n β (f a)) : P m n β (Action.finish result >>= f) := by
  simpa using h.bind (h.finish result) hf

theorem note_bind (h : Budgeted allowed P) {notice : Notice} {f : Unit → Action σ β} {m n : Nat}
    (hf : P m n β (f ())) : P m n β (Action.note notice >>= f) := by
  simpa using h.bind (h.note notice) fun _ => hf

theorem signAndSubmit (h : Budgeted allowed P) (hp : allowed policy) (call : Call)
    (wallet : Wallet) : P 1 1 _ (Client.signAndSubmit call wallet policy) :=
  h.bind (h.build _ _) fun x => h.submit x policy hp

theorem announced (h : Budgeted allowed P) (hp : allowed policy) (call : Except Error Call)
    (notice : Notice) (wallet : Wallet) : P 1 1 _ (Client.announced call notice wallet policy) :=
  h.finish_bind fun call => h.note_bind (h.signAndSubmit hp call wallet)

theorem subscribe (h : Budgeted allowed P) (hp : allowed policy) (wallet : Wallet) (ip : IpAddress)
    (port : UInt16) (modality : Modality) :
    P 3 1 _ (Client.subscribe wallet ip port modality policy) := by
  refine h.finish_bind fun call => ?_
  refine h.bind (k := 1) (l := 1) (h.lookupLaw.registeredAs wallet ip port) fun registered => ?_
  cases registered with
  | some uid => exact h.mono (Nat.zero_le 1) (Nat.zero_le 1) (h.note_bind (h.finish (.ok _)))
  | none =>
    refine h.bind (k := 0) (l := 0) (h.outcome (h.signAndSubmit hp call wallet))
      fun result => ?_
    cases result with
    | ok outcome => exact h.note_bind (h.finish (.ok _))
    | error e => exact h.note_bind (h.finish _)

theorem write (h : Budgeted allowed P) (hp : allowed policy) (w : Write) (wallet : Wallet) :
    P w.reads 1 _ (w.run wallet policy) := by
  cases w with
  | send call => exact h.signAndSubmit hp call wallet
  | subscribe ip port modality => exact h.subscribe hp wallet ip port modality
  | addStake amount uid => exact h.announced hp _ _ wallet
  | unstake amount uid => exact h.announced hp _ _ wallet
  | transfer dest amount => exact h.announced hp _ _ wallet
  | setWeights dests values => exact h.announced hp _ _ wallet

/-- Every operation with an allowed policy has the property on its budget. -/
theorem operation (h : Budgeted allowed P) (op : Operation)
    (hop : ∀ policy, op.policy? = some policy → allowed policy) :
    P op.reads op.submissions _ op.run := by
  cases op with
  | build call key => exact h.build call key
  | submit x policy => exact h.submit x policy (hop policy rfl)
  | write w wallet policy => exact h.write (hop policy rfl) w wallet
  | _ => exact h.lookupLaw.operation rfl

end Budgeted

/-- A property that the steps of operations have, and that actions put together have if their parts
do. -/
structure Compositional [Node σ] (P : (α : Type) → Action σ α → Prop) : Prop where
  /-- A result. -/
  finish : ∀ {α} (result : Except Error α), P α (.finish result)
  /-- A notice. -/
  note : ∀ notice, P Unit (.note notice)
  /-- One step, then another. -/
  bind : ∀ {α β} {m : Action σ α} {f : α → Action σ β}, P α m → (∀ a, P β (f a)) → P β (m >>= f)
  /-- A step whose errors are looked at. -/
  outcome : ∀ {α} {m : Action σ α}, P α m → P (Except Error α) m.outcome
  /-- One request. -/
  ask : ∀ request, P _ (.reading fun link => .ask link request)
  /-- Building an extrinsic. -/
  build : ∀ call key, P Extrinsic (Client.build call key)
  /-- Submitting an extrinsic. -/
  submit : ∀ x policy, P Outcome (Client.submit x policy)

namespace Compositional

variable [Node σ] {P : (α : Type) → Action σ α → Prop}

/-- A property that does not depend on the budget. -/
theorem budgeted (h : Compositional P) : Budgeted (fun _ => True) fun _ _ => P where
  finish := h.finish
  note := h.note
  bind := h.bind
  outcome := h.outcome
  mono _ _ hx := hx
  ask request _ := h.ask request
  build := h.build
  submit x policy _ := h.submit x policy

/-- Every operation has the property. -/
theorem operation (h : Compositional P) (op : Operation) : P _ op.run :=
  h.budgeted.operation op fun _ _ => trivial

end Compositional

/-! ### Errors that are passed on -/

/-- A property that the steps of operations have if their policy is allowed, and that actions put
together have if their parts do. An error is looked at only to write a notice and to pass it on. -/
structure Relaying [Node σ] (allowed : Policy → Prop) (P : (α : Type) → Action σ α → Prop) :
    Prop where
  /-- A result that does not mean that the link is broken. -/
  finish : ∀ {α} {result : Except Error α}, Harmless result → P α (.finish result)
  /-- A notice. -/
  note : ∀ notice, P Unit (.note notice)
  /-- One step, then another. -/
  bind : ∀ {α β} {m : Action σ α} {f : α → Action σ β}, P α m → (∀ a, P β (f a)) → P β (m >>= f)
  /-- A step whose error is reported and passed on. -/
  outcome_bind : ∀ {α β} {m : Action σ α} {f : Except Error α → Action σ β}, P α m →
    (∀ a, P β (f (.ok a))) →
    (∀ e, ∃ notice, f (.error e) = .note notice >>= fun _ => .finish (.error e)) →
    P β (m.outcome >>= f)
  /-- One request for entries or blocks. -/
  ask : ∀ request : Request, request.isLookup = true →
    P _ (.reading fun link => .ask link request)
  /-- Building an extrinsic. -/
  build : ∀ call key, P Extrinsic (Client.build call key)
  /-- Submitting an extrinsic. -/
  submit : ∀ x policy, allowed policy → P Outcome (Client.submit x policy)

namespace Relaying

variable [Node σ] {allowed : Policy → Prop} {P : (α : Type) → Action σ α → Prop} {policy : Policy}

theorem lookupLaw (h : Relaying allowed P) : LookupLaw fun _ => P where
  finish := h.finish
  note notice _ := h.note notice
  bind := h.bind
  mono _ hx := hx
  ask := h.ask

theorem signAndSubmit (h : Relaying allowed P) (hp : allowed policy) (call : Call)
    (wallet : Wallet) : P _ (Client.signAndSubmit call wallet policy) :=
  h.bind (h.build _ _) fun x => h.submit x policy hp

theorem announced (h : Relaying allowed P) (hp : allowed policy) {call : Except Error Call}
    (hcall : Harmless call) (notice : Notice) (wallet : Wallet) :
    P _ (Client.announced call notice wallet policy) :=
  h.bind (h.finish hcall) fun call => h.bind (h.note notice) fun _ => h.signAndSubmit hp call wallet

theorem subscribe (h : Relaying allowed P) (hp : allowed policy) (wallet : Wallet) (ip : IpAddress)
    (port : UInt16) (modality : Modality) :
    P _ (Client.subscribe wallet ip port modality policy) := by
  refine h.bind (h.finish ((Write.subscribe ip port modality).harmless_call wallet)) fun call => ?_
  refine h.bind (h.lookupLaw.registeredAs wallet ip port) fun registered => ?_
  cases registered with
  | some uid => exact h.bind (h.note _) fun _ => h.finish (.ok _)
  | none =>
    refine h.outcome_bind (h.signAndSubmit hp call wallet) (fun outcome => ?_) fun e => ⟨_, rfl⟩
    exact h.bind (h.note _) fun _ => h.finish (.ok _)

theorem write (h : Relaying allowed P) (hp : allowed policy) (w : Write) (wallet : Wallet) :
    P _ (w.run wallet policy) := by
  have hcall := w.harmless_call wallet
  cases w with
  | send call => exact h.signAndSubmit hp call wallet
  | subscribe ip port modality => exact h.subscribe hp wallet ip port modality
  | addStake amount uid => exact h.announced hp hcall _ wallet
  | unstake amount uid => exact h.announced hp hcall _ wallet
  | transfer dest amount => exact h.announced hp hcall _ wallet
  | setWeights dests values => exact h.announced hp hcall _ wallet

/-- Every operation with an allowed policy has the property. -/
theorem operation (h : Relaying allowed P) (op : Operation)
    (hop : ∀ policy, op.policy? = some policy → allowed policy) : P _ op.run := by
  cases op with
  | build call key => exact h.build call key
  | submit x policy => exact h.submit x policy (hop policy rfl)
  | write w wallet policy => exact h.write (hop policy rfl) w wallet
  | _ => exact h.lookupLaw.operation rfl

end Relaying

end LedgerClient
