import LedgerClient.Proofs.ByteOrder
import LedgerClient.Proofs.Conversation
import LedgerClient.Proofs.Session

/-!
# Nonces in order

A write reads the nonce of the account that signs right before it signs, and hands over what was
signed before anything else is read. So with a node whose nonces count the extrinsics that it has
taken, no nonce is used twice, whatever comes between the writes.

## The model

A `Tally` is a view of a node: which extrinsics it has taken so far, each as the account and the nonce
that it is signed with. An extrinsic of which the node says that it was accepted is in the tally, and
the nonces that the node gives out count it. Where there is an error or no answer in time, an extrinsic
may be in the tally or not; the node is the only one that knows, and its next nonce tells.

`Tally.TakesAtOnce` is a condition on such a node. It takes an extrinsic while it is handed over, or
never: what the client has given up, the node does not take afterwards. Nothing that the client does
can make up for the lack of it. A node that takes an extrinsic after it has given out the next nonce
takes two with the same one.

`InOrder` says of a tally that the nonces of each account count up from zero without a gap.

## What is proved

* `Tally.TakesAtOnce.keeps_signAndSubmit`: signing and handing over keeps a tally in order.
* `Tally.TakesAtOnce.keeps_step`: so does every step but the submission of an extrinsic that was signed
  before.
* `accepted_nonces_in_order`: the nonces of each account are in order after every session.
* `same_nonce_taken_twice`: with a node that takes what was given up, they need not be.
-/

namespace LedgerClient

variable {σ α β : Type}

/-! ### Tallies in order -/

/-- The nonces of the extrinsics of an account, in order. -/
def noncesOf (account : AccountId) (taken : List (AccountId × UInt64)) : List Nat :=
  (taken.filter fun signature => signature.1 = account).map fun signature => signature.2.toNat

/-- The nonces of each account are 0, 1, 2 and so on. -/
def InOrder (taken : List (AccountId × UInt64)) : Prop :=
  ∀ account, noncesOf account taken = List.range (noncesOf account taken).length

theorem InOrder.nil : InOrder [] := fun _ => rfl

theorem noncesOf_append (account : AccountId) (taken : List (AccountId × UInt64)) (owner : AccountId)
    (nonce : UInt64) :
    noncesOf account (taken ++ [(owner, nonce)]) =
      noncesOf account taken ++ if owner = account then [nonce.toNat] else [] := by
  by_cases h : owner = account <;> simp [noncesOf, h]

/-- An extrinsic whose nonce is the number of those before it comes next. -/
theorem InOrder.append {taken : List (AccountId × UInt64)} (h : InOrder taken) {owner : AccountId}
    {nonce : UInt64} (hn : nonce.toNat = (noncesOf owner taken).length) :
    InOrder (taken ++ [(owner, nonce)]) := by
  intro account
  rw [noncesOf_append]
  by_cases hsame : owner = account
  · subst hsame
    rw [if_pos rfl, List.length_append, List.length_singleton, List.range_succ, ← h owner, hn]
  · rw [if_neg hsame, List.append_nil]
    exact h account

/-! ### Nodes that count -/

/-- A view of a node: the extrinsics that it has taken, by account and nonce. -/
structure Tally (σ : Type) [Node σ] where
  /-- The account and the nonce that an encoded extrinsic is signed with. -/
  signature : Bytes → AccountId × UInt64
  /-- The extrinsics taken so far, in order. -/
  taken : σ → List (AccountId × UInt64)
  /-- An extrinsic that is accepted is taken. -/
  of_accepted : ∀ {link : Link} {encoded : Bytes} {s : σ} {w : Watch},
    (Node.ask link (.submit encoded) s).result = .ok w →
      taken (Node.ask link (.submit encoded) s).answered = taken s ++ [signature encoded]
  /-- The nonce of an account is the number of its extrinsics taken so far. -/
  of_nonce : ∀ {link : Link} {account : AccountId} {s : σ} {nonce : UInt64},
    (Node.ask link (.nonce account) s).result = .ok nonce →
      nonce.toNat = (noncesOf account (taken s)).length
  /-- An extrinsic is signed with the account of the key and with the given nonce. -/
  of_signed : ∀ {link : Link} {call : Call} {key : SigningKey} {nonce : UInt64} {s : σ}
    {encoded : Bytes}, (Node.ask link (.sign call key nonce) s).result = .ok encoded →
      signature encoded = (key.account, nonce)

namespace Tally

variable [Node σ]

/-- The node takes an extrinsic while it is handed over, or never. One whose submission fails or is
given up may be taken by then, but not later. -/
structure TakesAtOnce (tally : Tally σ) : Prop where
  /-- Making no link takes no extrinsic. -/
  of_declined : ∀ {url : String} {s t : σ}, Declines url s t → tally.taken t = tally.taken s
  /-- Making a link takes no extrinsic. -/
  of_made : ∀ {url : String} {s : σ} {link : Link}, (Node.dial url s).result = .ok link →
    tally.taken (Node.dial url s).answered = tally.taken s
  /-- A request that hands over no extrinsic takes none. -/
  of_handled : ∀ {link : Link} {request : Request} {s t : σ},
    (∀ encoded, request ≠ .submit encoded) → Handles link request s t →
      tally.taken t = tally.taken s
  /-- An extrinsic that is handed over is the only one that may be taken. -/
  of_submitted : ∀ {link : Link} {encoded : Bytes} {s t : σ},
    Handles link (.submit encoded) s t →
      tally.taken t = tally.taken s ∨
        tally.taken t = tally.taken s ++ [tally.signature encoded]

/-- An action keeps a tally in order if it is in order before. -/
def Keeps (tally : Tally σ) (m : Action σ α) : Prop :=
  ∀ c s, InOrder (tally.taken s) → InOrder (tally.taken (m c s).node)

variable {tally : Tally σ}

/-! ### Actions that keep a tally in order -/

theorem keeps_finish (result : Except Error α) : tally.Keeps (Action.finish result) :=
  fun _ _ hs => hs

theorem keeps_note (notice : Notice) : tally.Keeps (Action.note notice) := fun _ _ hs => hs

theorem Keeps.bind {m : Action σ α} {f : α → Action σ β} (hm : tally.Keeps m)
    (hf : ∀ a, tally.Keeps (f a)) : tally.Keeps (m >>= f) := by
  intro c s hs
  rcases h : (m c s).result with e | a
  · rw [Action.bind_error f h]
    exact hm c s hs
  · rw [Action.bind_ok f h]
    exact hf a _ _ (hm c s hs)

theorem Keeps.outcome {m : Action σ α} (hm : tally.Keeps m) : tally.Keeps m.outcome := hm

/-- Signing a call reads the nonce that the signature has, and takes nothing. -/
theorem signature_of_build {call : Call} {key : SigningKey} {c : Client} {s : σ} {x : Extrinsic}
    (h : (Client.build call key c s).result = .ok x) :
    ∃ nonce, tally.signature x.encoded = (key.account, nonce) ∧
      nonce.toNat = (noncesOf key.account (tally.taken s)).length := by
  rcases hc : c.link with _ | link
  · rw [Client.build, Action.reading_of_none _ hc] at h
    cases h
  · obtain ⟨requests, hsigning, -⟩ := Client.signing_build hc call key s
    rw [Ran.success?_eq_some_iff.mpr ⟨h, rfl⟩] at hsigning
    cases hsigning with
    | @signed nonce t _ _ hanswers hsigns =>
      obtain ⟨-, hnonce, -⟩ := hanswers
      obtain ⟨hsigned, -⟩ := hsigns
      exact ⟨nonce, tally.of_signed hsigned, tally.of_nonce hnonce⟩

namespace TakesAtOnce

variable (h : tally.TakesAtOnce)
include h

/-- Where nothing is handed over, nothing is taken. -/
theorem taken_of_course {live live' : Option Link} {s t : σ} {journal : Journal}
    (hcourse : Course live s journal live' t) (hsubmits : journal.SubmitsOnlyIf False) :
    tally.taken t = tally.taken s := by
  induction hcourse with
  | done => rfl
  | remark _ _ ih => exact ih hsubmits.of_cons
  | declined hd _ ih => rw [ih hsubmits.of_cons, h.of_declined hd]
  | made hr _ ih => rw [ih hsubmits.of_cons, h.of_made hr]
  | asked ha _ ih =>
    rw [ih hsubmits.of_cons, h.of_handled ?_ ha]
    rintro encoded rfl
    exact hsubmits _ encoded List.mem_cons_self
  | released _ ih => exact ih hsubmits.of_cons

/-- An action that may not hand over anything takes nothing. -/
theorem keeps_of_orderly {allowed : Prop} {m : Action σ α} (hm : Action.Orderly allowed m)
    (hallowed : ¬ allowed) : tally.Keeps m := by
  intro c s hs
  have hsubmits : (m c s).journal.SubmitsOnlyIf False := fun link encoded hmem =>
    hallowed (hm.submits c s link encoded hmem)
  rw [h.taken_of_course (hm.course c s) hsubmits]
  exact hs

/-- Submitting takes the extrinsic that is handed over, or none. -/
theorem taken_submit {c : Client} {link : Link} (hc : c.link = some link) (x : Extrinsic)
    (policy : Policy) (s : σ) :
    tally.taken (Client.submit x policy c s).node = tally.taken s ∨
      tally.taken (Client.submit x policy c s).node =
        tally.taken s ++ [tally.signature x.encoded] := by
  obtain ⟨journal, hwaits, hj⟩ := Extrinsic.journal_submit link x policy c.submissionTimeout s
  have horderly : Exchange.Orderly link True (Extrinsic.submit (σ := σ) link x policy) :=
    .submit x policy
  have hcourse := horderly.course c.submissionTimeout s
  rw [hj] at hcourse
  rw [Client.submit_of_some x policy hc]
  cases hcourse with
  | remark he _ => cases he
  | asked ha hrest =>
    rw [h.taken_of_course hrest hwaits.submits]
    exact h.of_submitted ha

/-- Signing a call and handing it over keeps a tally in order: nothing is taken between the two. -/
theorem keeps_signAndSubmit (call : Call) (wallet : Wallet) (policy : Policy) :
    tally.Keeps (Client.signAndSubmit call wallet policy) := by
  intro c s hs
  have hbuild : Action.Orderly False
      (Client.build (σ := σ) call (wallet.key call.kind.signer)) := .build _ _
  have hkept := h.taken_of_course (hbuild.course c s) (hbuild.submits c s)
  rw [Client.signAndSubmit]
  rcases hr : (Client.build call (wallet.key call.kind.signer) c s).result with e | x
  · rw [Action.bind_error _ hr, hkept]
    exact hs
  · obtain ⟨nonce, hsignature, hnonce⟩ := tally.signature_of_build hr
    have hclient := (Action.Observant.build call (wallet.key call.kind.signer)).client_of_success
      (Ran.success?_eq_some_iff.mpr ⟨hr, rfl⟩)
    rw [Action.bind_ok _ hr, hclient]
    rcases hc : c.link with _ | link
    · rw [Client.submit_of_none x policy hc, Ran.behind, hkept]
      exact hs
    · rcases h.taken_submit hc x policy (Client.build call _ c s).node with htaken | htaken
      · rw [Ran.behind, htaken, hkept]
        exact hs
      · rw [Ran.behind, htaken, hkept, hsignature]
        exact hs.append hnonce

theorem keeps_announced (call : Except Error Call) (notice : Notice) (wallet : Wallet)
    (policy : Policy) : tally.Keeps (Client.announced call notice wallet policy) := by
  refine (keeps_finish call).bind fun call => ?_
  refine (keeps_note notice).bind fun _ => ?_
  exact h.keeps_signAndSubmit call wallet policy

theorem keeps_subscribe (wallet : Wallet) (ip : IpAddress) (port : UInt16) (modality : Modality)
    (policy : Policy) : tally.Keeps (Client.subscribe wallet ip port modality policy) := by
  have hlookup : Action.Orderly False (Client.registeredAs (σ := σ) wallet ip port) :=
    Client.orderly_registeredAs wallet ip port
  refine (keeps_finish _).bind fun call => ?_
  refine (h.keeps_of_orderly hlookup not_false).bind fun registered => ?_
  cases registered with
  | some uid => exact (keeps_note _).bind fun _ => keeps_finish _
  | none =>
    refine (h.keeps_signAndSubmit call wallet policy).outcome.bind fun result => ?_
    cases result with
    | ok outcome => exact (keeps_note _).bind fun _ => keeps_finish _
    | error e => exact (keeps_note _).bind fun _ => keeps_finish _

theorem keeps_write (w : Write) (wallet : Wallet) (policy : Policy) :
    tally.Keeps (w.run wallet policy) := by
  cases w with
  | send call => exact h.keeps_signAndSubmit call wallet policy
  | subscribe ip port modality => exact h.keeps_subscribe wallet ip port modality policy
  | _ => exact h.keeps_announced _ _ wallet policy

/-- Every operation keeps a tally in order, unless it submits what was signed before. -/
theorem keeps_operation {op : Operation} (hop : ∀ x policy, op ≠ .submit x policy) :
    tally.Keeps (op.run (σ := σ)) := by
  by_cases hmay : op.MaySubmit
  · cases op with
    | submit x policy => exact absurd rfl (hop x policy)
    | write w wallet policy => exact h.keeps_write w wallet policy
    | _ => exact hmay.elim
  · exact h.keeps_of_orderly op.orderly_run hmay

theorem keeps_step {step : Step} (hstep : ∀ x policy, step ≠ .operate (.submit x policy)) :
    tally.Keeps (step.run (σ := σ)) := by
  by_cases hmay : step.MaySubmit
  · cases step with
    | operate op => exact h.keeps_operation fun x policy hop => hstep x policy (by rw [hop])
    | _ => exact hmay.elim
  · exact h.keeps_of_orderly step.orderly_run hmay

end TakesAtOnce

end Tally

/-- **No nonce is used twice.** With a node whose nonces count the extrinsics that it has taken, from
none on, and which takes an extrinsic at once or not at all, let a client do anything in any order, with
any wallets and whatever goes wrong: writes, reads, signing, connecting and disconnecting, but not the
submission of what it did not sign for that purpose. Then the nonces of the extrinsics taken of each
account are 0, 1, 2 and so on, in the order in which they were taken. -/
theorem accepted_nonces_in_order [Node σ] (tally : Tally σ) (hatonce : tally.TakesAtOnce)
    {steps : List Step} (hsteps : ∀ step ∈ steps, ∀ x policy, step ≠ .operate (.submit x policy))
    (c : Client) {s : σ} (hs : tally.taken s = []) (account : AccountId) :
    let nonces := noncesOf account (tally.taken (Session.run steps c s).node)
    nonces = List.range nonces.length := by
  intro nonces
  have horder : InOrder (tally.taken (Session.run steps c s).node) := by
    refine Session.run_induction (motive := fun session => InOrder (tally.taken session.node)) ?_ ?_
    · rw [Session.start, hs]
      exact .nil
    · intro session step hmem hsession
      exact hatonce.keeps_step (hsteps step hmem) session.client session.node hsession
  exact horder account

/-! ### A node that counts -/

/-- A node that takes every extrinsic, and knows them by account and nonce. -/
structure CountingNode where
  /-- The extrinsics taken so far, in order. -/
  taken : List (AccountId × UInt64)

namespace CountingNode

/-- An extrinsic in this node's encoding: the account, then the nonce. -/
def encode (account : AccountId) (nonce : UInt64) : Bytes :=
  account.toList ++ Bytes.toLittleEndian 8 nonce.toNat

/-- The account and the nonce of an encoded extrinsic. -/
def signature (encoded : Bytes) : AccountId × UInt64 :=
  ((Octets.ofList? 32 (encoded.take 32)).getD (.replicate 32 0),
    UInt64.ofNat (Bytes.ofLittleEndian (encoded.drop 32)))

theorem signature_encode (account : AccountId) (nonce : UInt64) :
    signature (encode account nonce) = (account, nonce) := by
  have htake : (encode account nonce).take 32 = account.toList := by
    rw [encode, List.take_left' account.length_eq]
  have hdrop : (encode account nonce).drop 32 = Bytes.toLittleEndian 8 nonce.toNat := by
    rw [encode, List.drop_left' account.length_eq]
  have howner : Octets.ofList? 32 account.toList = some account := by
    rw [Octets.ofList?, dif_pos account.length_eq]
  have hlt : nonce.toNat < 256 ^ 8 := nonce.toNat_lt
  have hnonce : UInt64.ofNat (Bytes.ofLittleEndian (Bytes.toLittleEndian 8 nonce.toNat)) = nonce := by
    rw [Bytes.ofLittleEndian_toLittleEndian, Nat.mod_eq_of_lt hlt, UInt64.ofNat_toNat]
  rw [signature, htake, hdrop, howner, hnonce, Option.getD_some]

/-- The next nonce of an account, as long as it has 64 bits. -/
def nextNonce (node : CountingNode) (account : AccountId) : Except Error UInt64 :=
  let count := (noncesOf account node.taken).length
  if count < UInt64.size then .ok (.ofNat count) else .error (.transport "nonce overflow")

theorem toNat_of_nextNonce {node : CountingNode} {account : AccountId} {nonce : UInt64}
    (h : node.nextNonce account = .ok nonce) :
    nonce.toNat = (noncesOf account node.taken).length := by
  rw [nextNonce] at h
  split at h
  · next hlt =>
    cases h
    exact UInt64.toNat_ofNat_of_lt' hlt
  · cases h

/-- The answer to a request, and the node after it. -/
def answer (node : CountingNode) :
    (request : Request) → Except Error request.Answer × CountingNode
  | .fetch _ _ => (.ok none, node)
  | .entries _ _ => (.ok [], node)
  | .blockNumber _ => (.ok 0, node)
  | .blockHash _ => (.ok none, node)
  | .nonce account => (node.nextNonce account, node)
  | .sign _ key nonce => (.ok (encode key.account nonce), node)
  | .submit encoded => (.ok (.ofList []), ⟨node.taken ++ [signature encoded]⟩)

instance : Node CountingNode where
  dial url node := ⟨some 0, .ok ⟨url, 0⟩, node, node⟩
  ask _ request node := ⟨some 0, (node.answer request).1, (node.answer request).2, node⟩

/-- The node's own record is a tally of it. -/
def tally : Tally CountingNode where
  signature := signature
  taken := CountingNode.taken
  of_accepted := fun _ => rfl
  of_nonce := toNat_of_nextNonce
  of_signed := by
    intro link call key nonce s encoded h
    cases h
    exact signature_encode _ _

theorem takesAtOnce : tally.TakesAtOnce where
  of_declined := by
    rintro url s t (⟨e, -, rfl⟩ | rfl) <;> rfl
  of_made := fun _ => rfl
  of_handled := by
    rintro link request s t h (rfl | rfl)
    · cases request with
      | submit encoded => exact absurd rfl (h encoded)
      | _ => rfl
    · rfl
  of_submitted := by
    rintro link encoded s t (rfl | rfl)
    · exact .inr rfl
    · exact .inl rfl

end CountingNode

/-- A wallet whose two keys are the same. -/
def sharedKeyWallet : Wallet := ⟨⟨.replicate 32 1⟩, ⟨.replicate 32 1⟩⟩

/-- A write with each of the keys, the second one after a reconnection. -/
def sharedKeySteps : List Step :=
  [.connect, .operate (.write (.setWeights [] []) sharedKeyWallet .fireAndForget), .reconnect,
    .operate (.write (.transfer (.replicate 32 2) .zero) sharedKeyWallet .finalization)]

/-- A key that signs for both roles has one sequence of nonces. -/
theorem accepted_nonces_in_order_of_shared_key :
    CountingNode.tally.TakesAtOnce ∧
    (∀ step ∈ sharedKeySteps, ∀ x policy, step ≠ .operate (.submit x policy)) ∧
    CountingNode.tally.taken ⟨[]⟩ = [] ∧
    noncesOf (.replicate 32 1) (CountingNode.tally.taken
      (Session.run sharedKeySteps (.start (.endpoint "a:1") (.ofList [])) ⟨[]⟩).node) = [0, 1] := by
  have hsteps : ∀ step ∈ sharedKeySteps, ∀ x policy, step ≠ .operate (.submit x policy) := by
    simp [sharedKeySteps]
  have horder := accepted_nonces_in_order CountingNode.tally CountingNode.takesAtOnce hsteps
    (.start (.endpoint "a:1") (.ofList [])) (s := ⟨[]⟩) rfl (.replicate 32 1)
  exact ⟨CountingNode.takesAtOnce, hsteps, rfl, horder⟩

/-! ### A node that takes what was given up -/

/-- A counting node that is slow with the first extrinsic: it gives no answer, keeps the extrinsic, and
takes it when it is asked for the latest block. -/
structure LateNode where
  /-- What the node is apart from that. -/
  counting : CountingNode
  /-- The first extrinsic was handed over. -/
  warm : Bool
  /-- The extrinsics that are kept. -/
  kept : List Bytes

namespace LateNode

/-- The node takes what it keeps. -/
def settled (node : LateNode) : LateNode :=
  { node with
    counting := ⟨node.counting.taken ++ node.kept.map CountingNode.signature⟩
    kept := [] }

/-- The answer to a request, and the node after it. -/
def answer (node : LateNode) : (request : Request) → Except Error request.Answer × LateNode
  | .blockNumber _ => (.ok 0, node.settled)
  | request =>
    ((node.counting.answer request).1, { node with counting := (node.counting.answer request).2 })

/-- The node after a request that was given up. -/
def abandoned (node : LateNode) : Request → LateNode
  | .submit encoded => { node with warm := true, kept := node.kept ++ [encoded] }
  | _ => node

/-- The time until the answer to a request. -/
def delay (node : LateNode) : Request → Option Millis
  | .submit _ => if node.warm then some 0 else none
  | _ => some 0

instance : Node LateNode where
  dial url node := ⟨some 0, .ok ⟨url, 0⟩, node, node⟩
  ask _ request node :=
    ⟨node.delay request, (node.answer request).1, (node.answer request).2, node.abandoned request⟩

/-- What it has taken counts. -/
def tally : Tally LateNode where
  signature := CountingNode.signature
  taken node := node.counting.taken
  of_accepted := fun _ => rfl
  of_nonce := CountingNode.toNat_of_nextNonce
  of_signed := by
    intro link call key nonce s encoded h
    cases h
    exact CountingNode.signature_encode _ _

end LateNode

/-- Two writes of one key, the second one after the first has run out of time, and then a look at the
latest block. -/
def lateSteps : List Step :=
  [.connect, .operate (.write (.setWeights [] []) sharedKeyWallet .fireAndForget),
    .operate (.write (.transfer (.replicate 32 2) .zero) sharedKeyWallet .fireAndForget),
    .operate .currentBlock]

/-- A node takes an extrinsic that the client has given up, and after it has taken the next one: both
have the same nonce. -/
theorem same_nonce_taken_twice :
    (∀ step ∈ lateSteps, ∀ x policy, step ≠ .operate (.submit x policy)) ∧
    LateNode.tally.taken ⟨⟨[]⟩, false, []⟩ = [] ∧
    noncesOf (.replicate 32 1) (LateNode.tally.taken
      (Session.run lateSteps (.start (.endpoint "a:1") (.ofList [])) ⟨⟨[]⟩, false, []⟩).node) =
        [0, 0] :=
  ⟨by simp [lateSteps], rfl, by decide +kernel⟩

end LedgerClient
