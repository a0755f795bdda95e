import LedgerClient.Proofs.KeyUse

/-!
# Which key signs

The nonce that a write reads is that of its key's account, the call is signed with this key and this
nonce, and the extrinsic that is built bears the account as its signer. The other key has no part in
the operation, whatever becomes of it.

## What is proved

* `Write.Trace.keyed`: the nonce of the key is read, and then the call is signed.
* `Write.employs_run`, `Write.keyed_ne_nil`: what the journal of a write shows of its key.
* `wrong_key_never_signs`: the rule in one statement.
-/

namespace LedgerClient

variable {σ : Type}

/-! ### What a write does with its key -/

/-- Whether a key has a part in a request: a nonce is read, or a call is signed. -/
def Request.isKeyed : Request → Bool
  | .nonce _ | .sign _ _ _ => true
  | _ => false

/-- The requests in which a key has a part, in order. -/
def Journal.keyed (journal : Journal) : List Request := journal.requests.filter Request.isKeyed

theorem Journal.requests_eq_map_calls (journal : Journal) :
    journal.requests = journal.calls.map Prod.snd := by
  unfold requests calls
  rw [List.map_filterMap]
  refine List.filterMap_congr fun entry _ => ?_
  cases entry <;> rfl

/-- Requests that are all made over one link. -/
theorem Journal.requests_of_calls {journal : Journal} {link : Link} {requests : List Request}
    (h : journal.calls = requests.map (Prod.mk link)) : journal.requests = requests := by
  rw [requests_eq_map_calls, h, List.map_map]
  exact List.map_id _

section Trace

variable [Node σ] {link : Link} {limit : Millis} {wallet : Wallet} {s : σ}
  {requests : List Request}

/-- Looking up involves no key. -/
theorem Write.LooksUp.keyed {w : Write} {next : Option σ}
    (h : w.LooksUp link limit wallet s requests next) : requests.filter Request.isKeyed = [] := by
  obtain ⟨uid, hsub⟩ := h.sublist
  have hkeyed := hsub.filter Request.isKeyed
  exact List.sublist_nil.mp hkeyed

/-- The nonce of the key's account is read, then the call is signed with the key and the nonce; and
nothing is handed over before both are done. -/
theorem Sending.keyed {call : Call} {key : SigningKey} {sent : Option Bytes}
    (h : Sending link limit call key s requests sent) :
    ∃ nonce, requests.filter Request.isKeyed <+: [.nonce key.account, .sign call key nonce] ∧
      requests.filter Request.isKeyed ≠ [] ∧
      ∀ encoded, .submit encoded ∈ requests →
        requests.filter Request.isKeyed = [.nonce key.account, .sign call key nonce] := by
  cases h with
  | stopped h =>
    cases h with
    | noNonce _ =>
      refine ⟨0, ⟨[.sign call key 0], rfl⟩, by simp [Request.isKeyed], fun encoded hm => ?_⟩
      simp at hm
    | @notSigned nonce _ _ _ =>
      exact ⟨nonce, List.prefix_rfl, by simp [Request.isKeyed], fun _ _ => rfl⟩
  | sent h =>
    cases h with
    | @signed nonce _ encoded _ _ _ =>
      exact ⟨nonce, List.prefix_rfl, by simp [Request.isKeyed], fun _ _ => rfl⟩

/-- A write that sends a call uses one key only, in this order; and only a registration may find that
there is nothing to sign. -/
theorem Write.Trace.keyed {w : Write} {sent : Option Bytes} {call : Call}
    (h : w.Trace link limit wallet s requests sent) (hcall : w.call wallet = .ok call) :
    ∃ nonce, requests.filter Request.isKeyed <+:
        [.nonce (wallet.key w.role).account, .sign call (wallet.key w.role) nonce] ∧
      (∀ encoded, .submit encoded ∈ requests → requests.filter Request.isKeyed =
        [.nonce (wallet.key w.role).account, .sign call (wallet.key w.role) nonce]) ∧
      ((∀ ip port modality, w ≠ .subscribe ip port modality) →
        requests.filter Request.isKeyed ≠ []) := by
  cases h with
  | refused herror =>
    rw [hcall] at herror
    cases herror
  | stopped _ hl =>
    obtain ⟨uid, hsub⟩ := hl.sublist
    rw [hl.keyed]
    refine ⟨0, List.nil_prefix, fun encoded hm => ?_, fun hw => ?_⟩
    · have hfetch := hsub.subset hm
      simp at hfetch
    · cases w with
      | subscribe ip port modality => exact absurd rfl (hw ip port modality)
      | _ => cases hl.2
  | @sending call' first rest _ _ hcall' hl hs =>
    obtain ⟨uid, hsub⟩ := hl.sublist
    obtain ⟨nonce, hprefix, hsome, hall⟩ := hs.keyed
    rw [hcall] at hcall'
    cases hcall'
    rw [signer_eq_role hcall] at hprefix hall
    rw [List.filter_append, hl.keyed, List.nil_append]
    refine ⟨nonce, hprefix, fun encoded hm => ?_, fun _ => hsome⟩
    rcases List.mem_append.mp hm with hfirst | hrest
    · have hfetch := hsub.subset hfirst
      simp at hfetch
    · exact hall encoded hrest

end Trace

/-- What is built is the call, and the account of the key is its signer. -/
theorem Extrinsic.of_build [Node σ] {link : Link} {call : Call} {key : SigningKey} {limit : Millis}
    {s t : σ} {x : Extrinsic} (h : (build link call key limit s).success? = some (x, t)) :
    x.call = call ∧ x.signer = key.account := by
  unfold build at h
  rcases hn : (Exchange.ask link (.nonce key.account) limit s).success? with _ | ⟨nonce, u⟩
  · rw [(Exchange.bind_of_no_success _ hn).1] at h
    cases h
  · rw [Exchange.bind_of_success _ hn, Talk.success?_behind] at h
    rcases he : (Exchange.askLocal link (.sign call key nonce) (limit -
        (Exchange.ask link (.nonce key.account) limit s).elapsed) u).success? with _ | ⟨encoded, v⟩
    · rw [(Exchange.bind_of_no_success _ he).1] at h
      cases h
    · rw [Exchange.bind_of_success _ he, Talk.success?_behind] at h
      cases h
      exact ⟨rfl, rfl⟩

theorem Client.of_build [Node σ] {call : Call} {key : SigningKey} {c : Client} {s : σ}
    {x : Extrinsic} (h : (build call key c s).result = .ok x) :
    x.call = call ∧ x.signer = key.account := by
  obtain ⟨t, hsuccess⟩ := Ran.result_eq_ok_iff.mp h
  rcases hc : c.link with _ | link
  · rw [build, Action.reading_of_none _ hc] at hsuccess
    cases hsuccess
  · rw [build, Action.success?_reading _ hc] at hsuccess
    exact Extrinsic.of_build hsuccess

/-- How the journal of a write that sends a call shows the key that is meant for it. -/
structure Journal.Employs (call : Call) (key : SigningKey) (journal : Journal) : Prop where
  /-- The nonce of the key's account is read, and then the call is signed with the key and this
  nonce; no other request has to do with a key. -/
  requests : ∃ nonce, journal.keyed <+: [.nonce key.account, .sign call key nonce]
  /-- Both have been done when an extrinsic is handed over. -/
  submits : ∀ encoded, .submit encoded ∈ journal.requests →
    ∃ nonce, journal.keyed = [.nonce key.account, .sign call key nonce]
  /-- What is built is the call, and the account of the key is its signer. -/
  builds : ∀ x, .noted (.built x) ∈ journal → x.call = call ∧ x.signer = key.account

namespace Write

variable [Node σ] {w : Write} {wallet : Wallet} {call : Call}

/-- A write employs the key that its call asks for. -/
theorem employs_run (h : w.call wallet = .ok call) (policy : Policy) (c : Client) (s : σ) :
    (w.run wallet policy c s).journal.Employs call (wallet.key w.role) := by
  have hbuilds : ∀ x, .noted (.built x) ∈ (w.run wallet policy c s).journal →
      x.call = call ∧ x.signer = (wallet.key w.role).account := by
    intro x hm
    obtain ⟨key, ⟨hcall, rfl⟩, hsigner⟩ := w.signsOnly_run wallet policy c s _ hm
    rw [h] at hcall
    cases hcall
    exact ⟨rfl, hsigner⟩
  -- Without a link nothing is asked at all; with one, the trace of the write says what is.
  rcases hc : c.link with _ | link
  · obtain ⟨notices, hrun⟩ := w.needsLink_run wallet policy c s hc
    have hnone : (w.run wallet policy c s).journal.requests = [] := by
      rw [Journal.requests_eq_map_calls, hrun, (Journal.Waits.noted notices).calls]
      rfl
    refine ⟨⟨0, ?_⟩, fun encoded hm => ?_, hbuilds⟩
    · rw [Journal.keyed, hnone]
      exact List.nil_prefix
    · rw [hnone] at hm
      cases hm
  · obtain ⟨requests, sent, ht, hcalls, -⟩ := w.keeps_run hc wallet policy s
    obtain ⟨nonce, hprefix, hall, -⟩ := ht.keyed h
    have hrequests := Journal.requests_of_calls hcalls
    refine ⟨⟨nonce, ?_⟩, fun encoded hm => ⟨nonce, ?_⟩, hbuilds⟩
    · rw [Journal.keyed, hrequests]
      exact hprefix
    · rw [hrequests] at hm
      rw [Journal.keyed, hrequests]
      exact hall encoded hm

/-- With a link, a write other than a registration reads the nonce of its key. -/
theorem keyed_ne_nil (h : w.call wallet = .ok call) {c : Client} {link : Link}
    (hc : c.link = some link) (hw : ∀ ip port modality, w ≠ .subscribe ip port modality)
    (policy : Policy) (s : σ) : (w.run wallet policy c s).journal.keyed ≠ [] := by
  obtain ⟨requests, sent, ht, hcalls, -⟩ := w.keeps_run hc wallet policy s
  obtain ⟨nonce, -, -, hsome⟩ := ht.keyed h
  rw [Journal.keyed, Journal.requests_of_calls hcalls]
  exact hsome hw

end Write

/-- **The wrong key never signs.** A composed call is signed with the key that lists its module and
function. In a write, whatever becomes of it, the nonce that is read is that of this key's account,
the call is signed with this key, and what is built names its account; where the wallet's keys
differ, the other one has no part in anything. A write other than a registration that makes a call
does read the nonce when there is a link. Over a whole session, keys are used only as its steps ask
for it. -/
theorem wrong_key_never_signs [Node σ] :
    (∀ module function given call, Call.compose module function given = .ok call →
      ∀ role, call.kind.signer = role ↔ (module, function) ∈ role.calls) ∧
    (∀ call key (c : Client) (s : σ) x, (Client.build call key c s).result = .ok x →
      x.call = call ∧ x.signer = key.account) ∧
    (∀ (w : Write) (wallet : Wallet) (policy : Policy) (c : Client) (s : σ),
      let journal := (w.run wallet policy c s).journal
      (∀ call, w.call wallet = .ok call →
        call.kind.signer = w.role ∧ journal.Employs call (wallet.key w.role) ∧
        (c.link ≠ none → (∀ ip port modality, w ≠ .subscribe ip port modality) →
          journal.keyed ≠ [])) ∧
      (∀ entry ∈ journal, ∀ key, entry.Uses key →
        key = wallet.key w.role ∧ ∃ call, w.call wallet = .ok call) ∧
      (wallet.hotkey ≠ wallet.coldkey →
        ∀ entry ∈ journal, ¬ entry.Uses (wallet.key w.role.other))) ∧
    (∀ steps c (s : σ), ∀ entry ∈ (Session.run steps c s).journal, ∀ key, entry.Uses key →
      ∃ step ∈ steps, ∃ call, step.Signs call key) := by
  refine ⟨?_, fun call key c s x h => Client.of_build h, ?_, ?_⟩
  · intro module function given call h role
    obtain ⟨rfl, rfl⟩ := Call.of_compose h
    exact CallKind.signer_eq_iff _ role
  · intro w wallet policy c s journal
    have huses : ∀ entry ∈ journal, ∀ key, entry.Uses key →
        key = wallet.key w.role ∧ ∃ call, w.call wallet = .ok call := by
      intro entry hm key hkey
      obtain ⟨call, hcall, hsame⟩ := (w.signsOnly_run wallet policy c s entry hm).of_uses hkey
      exact ⟨hsame, call, hcall⟩
    refine ⟨fun call hcall => ?_, huses, fun hne entry hm hother => ?_⟩
    · refine ⟨Write.signer_eq_role hcall, Write.employs_run hcall policy c s, fun hc hw => ?_⟩
      obtain ⟨link, hlink⟩ := Option.ne_none_iff_exists'.mp hc
      exact Write.keyed_ne_nil hcall hlink hw policy s
    · obtain ⟨hsame, -⟩ := huses entry hm _ hother
      exact Wallet.key_other_ne hne w.role hsame
  · intro steps c s entry hm key hkey
    obtain ⟨call, step, hstep, hsigns⟩ :=
      (Session.signsOnly_run steps c s entry hm).of_uses hkey
    exact ⟨step, hstep, call, hsigns⟩

/-- A wallet with two different keys. -/
def twoKeyWallet : Wallet := ⟨⟨.replicate 32 1⟩, ⟨.replicate 32 2⟩⟩

/-- Sending money reads the coldkey's nonce and signs with the coldkey, and leaves the hotkey out. -/
theorem wrong_key_never_signs_in_transfer :
    let w := Write.transfer (.replicate 32 3) .zero
    let journal := (w.run twoKeyWallet .fireAndForget (linkedClient 0) ScriptedNode.empty).journal
    twoKeyWallet.hotkey ≠ twoKeyWallet.coldkey ∧
    (∃ call, w.call twoKeyWallet = .ok call ∧
      journal.keyed = [.nonce (.replicate 32 2), .sign call ⟨.replicate 32 2⟩ 0]) ∧
    ∀ entry ∈ journal, ¬ entry.Uses ⟨.replicate 32 1⟩ := by
  intro w journal
  have hne : twoKeyWallet.hotkey ≠ twoKeyWallet.coldkey := by decide
  obtain ⟨-, -, hwrites, -⟩ := wrong_key_never_signs (σ := ScriptedNode)
  obtain ⟨-, -, hother⟩ :=
    hwrites w twoKeyWallet .fireAndForget (linkedClient 0) ScriptedNode.empty
  exact ⟨hne, ⟨_, rfl, rfl⟩, hother hne⟩

end LedgerClient
