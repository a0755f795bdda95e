import LedgerClient.Proofs.Exchange

/-!
# Waiting for the report that decides

A submission that waits is decided by the first report that its policy counts as decisive, and by
nothing else: reports before it only say that the wait goes on, and reports behind it are not
asked for.

## The model

`Report.Settles` says of a single report what it decides under a policy, if it decides anything:
an error is passed on, a final block is one for every policy, a block is one for those who wait for
inclusion, and a dropped, invalid or failed extrinsic and the end of the reports are errors. A
sequence of arrivals is settled at a position (`SettledAt`) if the report there is the first one
that decides. A sequence that falls silent before that is settled nowhere.

A wait with a time limit is over where a report decides, where there is silence, or where a report
comes too late (`Arrival.Concludes`). It need not be over anywhere: the reports may come one after the
other within the limit and decide nothing. Such a wait has no result, and its time does not run out
either.

## What is proved

* `Arrival.follow_of_settled`, `Arrival.follow_of_overdue`, `Arrival.follow_of_endless`: what waiting
  for a sequence of arrivals gives, and how long it takes, for any bound on the number of reports.
* `Watch.exists_of_arrival`: every sequence of arrivals is that of a watch.
* `Watch.outcome_of_settled`, `Watch.outcome_of_overdue`, `Watch.outcome_of_endless`: for a watch the
  bound plays no part, since whatever ends a wait within its time does so within the horizon.
* `outcome_is_first_decisive`: the rule in one statement, for all sequences of arrivals, also those
  that give infinitely many reports at one moment.
-/

namespace LedgerClient

variable {σ : Type} {policy : Policy} {x : Hash}

/-! ### Decisive reports -/

/-- `Settles policy x report result`: the report decides a submission of the extrinsic `x` that
waits as the policy asks, and this is its result. -/
inductive Report.Settles (policy : Policy) (x : Hash) : Report → Except Error Outcome → Prop where
  /-- The node can no longer tell. -/
  | lost {e : Error} : Settles policy x (.failed e) (.error e)
  /-- The extrinsic is in a final block. -/
  | finalized {block : Hash} :
      Settles policy x (.progress (.finalized block)) (.ok (.finalized x block))
  /-- The extrinsic is in a block, which is all that the policy asks for. -/
  | included {block : Hash} : policy = .inclusion →
      Settles policy x (.progress (.inBlock block)) (.ok (.inBlock x block))
  /-- The extrinsic was dropped. -/
  | dropped {reason : String} :
      Settles policy x (.progress (.dropped reason)) (.error (.rejected ("dropped: " ++ reason)))
  /-- The extrinsic was not valid. -/
  | invalid {reason : String} :
      Settles policy x (.progress (.invalid reason)) (.error (.rejected ("invalid: " ++ reason)))
  /-- The extrinsic failed in its block. -/
  | failed {reason : String} :
      Settles policy x (.progress (.failed reason)) (.error (.rejected reason))
  /-- The reports ended. -/
  | closed : Settles policy x .closed (.error (.transport "transaction status stream closed"))

/-- The verdict on a report decides just what the report settles. -/
theorem verdict_decided_iff {report : Report} {result : Except Error Outcome} :
    verdict policy x report = .decided result ↔ report.Settles policy x result := by
  constructor
  · intro h
    match report with
    | .failed e => cases h; exact .lost
    | .closed => cases h; exact .closed
    | .progress .inPool => simp [verdict] at h
    | .progress (.inBlock block) =>
      rw [verdict] at h
      split at h
      · next hp => cases h; exact .included hp
      · cases h
    | .progress (.finalized block) => cases h; exact .finalized
    | .progress (.dropped reason) => cases h; exact .dropped
    | .progress (.invalid reason) => cases h; exact .invalid
    | .progress (.failed reason) => cases h; exact .failed
  · intro h
    cases h with
    | included hp => rw [verdict, if_pos hp]
    | _ => rfl

/-- A report that decides settles something, and only such a report does. -/
theorem Report.decides_iff (policy : Policy) (x : Hash) {report : Report} :
    report.decides policy = true ↔ ∃ result, report.Settles policy x result := by
  constructor
  · intro h
    match report with
    | .failed e => exact ⟨_, .lost⟩
    | .closed => exact ⟨_, .closed⟩
    | .progress .inPool => cases h
    | .progress (.inBlock block) => exact ⟨_, .included (eq_of_beq h)⟩
    | .progress (.finalized block) => exact ⟨_, .finalized⟩
    | .progress (.dropped reason) => exact ⟨_, .dropped⟩
    | .progress (.invalid reason) => exact ⟨_, .invalid⟩
    | .progress (.failed reason) => exact ⟨_, .failed⟩
  · rintro ⟨result, h⟩
    cases h with
    | included hp => exact beq_of_eq hp
    | _ => rfl

/-- A settled success is a block: the one that the report names. -/
theorem Report.Settles.block {report : Report} {o : Outcome} (h : report.Settles policy x (.ok o)) :
    ∃ block, (policy = .inclusion ∧ report = .progress (.inBlock block) ∧ o = .inBlock x block) ∨
      (report = .progress (.finalized block) ∧ o = .finalized x block) := by
  cases h with
  | finalized => exact ⟨_, .inr ⟨rfl, rfl⟩⟩
  | included hp => exact ⟨_, .inl ⟨hp, rfl, rfl⟩⟩

/-! ### The first decisive position -/

/-- `SettledAt policy x arrival k result`: of the arrivals in the sequence, the one at position `k`
is the first to decide a submission of `x`, and this is the result. -/
structure SettledAt (policy : Policy) (x : Hash) (arrival : Nat → Arrival) (k : Nat)
    (result : Except Error Outcome) : Prop where
  /-- What comes before is a report that decides nothing. -/
  before : ∀ j < k, ∃ delay report, arrival j = .after delay report ∧
    ∀ r, ¬ report.Settles policy x r
  /-- What comes at the position is a report that decides. -/
  settles : ∃ delay report, arrival k = .after delay report ∧ report.Settles policy x result

namespace Arrival

/-- A sequence of arrivals without its first one. -/
def later (arrival : Nat → Arrival) : Nat → Arrival := fun n => arrival (n + 1)

theorem total_later (arrival : Nat → Arrival) (n : Nat) :
    total arrival (n + 1) = (arrival 0).delay + total (later arrival) n := by
  induction n with
  | zero => simp [total]
  | succ n ih =>
    rw [total, ih]
    exact Nat.add_assoc ..

theorem total_mono (arrival : Nat → Arrival) {m n : Nat} (h : m ≤ n) :
    total arrival m ≤ total arrival n := by
  induction h with
  | refl => exact Nat.le_refl _
  | step _ ih => exact Nat.le_trans ih (Nat.le_add_right _ _)

/-- From the second position on, a sequence is followed as the rest of it is from the start. -/
theorem follow_later (arrival : Nat → Arrival) (policy : Policy) (x : Hash) (bound position : Nat) :
    follow (σ := σ) arrival policy x bound (position + 1) =
      follow (later arrival) policy x bound position := by
  induction bound generalizing position with
  | zero => rfl
  | succ bound ih => simp only [follow, ih, later]

end Arrival

open Arrival

theorem settledAt_zero_iff {arrival : Nat → Arrival} {result : Except Error Outcome} :
    SettledAt policy x arrival 0 result ↔
      ∃ delay report, arrival 0 = .after delay report ∧ report.Settles policy x result :=
  ⟨fun h => h.settles, fun h => ⟨fun j hj => absurd hj (Nat.not_lt_zero j), h⟩⟩

theorem settledAt_succ_iff {arrival : Nat → Arrival} {k : Nat} {result : Except Error Outcome} :
    SettledAt policy x arrival (k + 1) result ↔
      (∃ delay report, arrival 0 = .after delay report ∧ ∀ r, ¬ report.Settles policy x r) ∧
        SettledAt policy x (later arrival) k result := by
  constructor
  · intro h
    exact ⟨h.before 0 (Nat.succ_pos k), fun j hj => h.before (j + 1) (Nat.succ_lt_succ hj), h.settles⟩
  · rintro ⟨h0, h⟩
    refine ⟨fun j hj => ?_, h.settles⟩
    cases j with
    | zero => exact h0
    | succ j => exact h.before j (Nat.lt_of_succ_lt_succ hj)

/-- Where a sequence is settled, a wait is over. -/
theorem SettledAt.concludes {arrival : Nat → Arrival} {k : Nat} {result : Except Error Outcome}
    (h : SettledAt policy x arrival k result) (span : Millis) : Concludes arrival policy span k := by
  obtain ⟨delay, report, ha, hs⟩ := h.settles
  refine .inl ?_
  rw [ha]
  exact (report.decides_iff policy x).mpr ⟨result, hs⟩

/-- Before a sequence is settled, a wait is over only because its time is. -/
theorem SettledAt.late_of_concludes {arrival : Nat → Arrival} {k n : Nat}
    {result : Except Error Outcome} {span : Millis} (h : SettledAt policy x arrival k result)
    (hn : n < k) (hc : Concludes arrival policy span n) : span < total arrival (n + 1) := by
  rcases hc with hends | hlate
  · obtain ⟨delay, report, ha, ho⟩ := h.before n hn
    rw [ha] at hends
    obtain ⟨r, hr⟩ := (report.decides_iff policy x).mp hends
    exact absurd hr (ho r)
  · exact hlate

/-- A wait is over at the first report if the report decides, or comes too late. -/
theorem concludes_zero_iff {arrival : Nat → Arrival} {delay span : Millis} {report : Report}
    (ha : arrival 0 = .after delay report) (x : Hash) :
    Concludes arrival policy span 0 ↔ (∃ r, report.Settles policy x r) ∨ span < delay := by
  simp only [Concludes, total, ha, Arrival.ends, Arrival.delay, Nat.zero_add,
    report.decides_iff policy x]

/-- Whether a wait is over at a later position is a question about the rest of the sequence and the
rest of the time. -/
theorem concludes_succ_iff {arrival : Nat → Arrival} {delay span : Millis} {report : Report}
    {n : Nat} (ha : arrival 0 = .after delay report) (hd : delay ≤ span) :
    Concludes arrival policy span (n + 1) ↔ Concludes (later arrival) policy (span - delay) n := by
  rw [Concludes, Concludes, total_later, ha, Arrival.delay, Nat.sub_lt_iff_lt_add' hd]
  exact Iff.rfl

/-- A sequence is settled once. -/
theorem SettledAt.unique {arrival : Nat → Arrival} {k l : Nat} {r r' : Except Error Outcome}
    (h : SettledAt policy x arrival k r) (h' : SettledAt policy x arrival l r') :
    k = l ∧ r = r' := by
  obtain ⟨d, report, ha, hs⟩ := h.settles
  obtain ⟨d', report', ha', hs'⟩ := h'.settles
  have hkl : k = l := by
    rcases Nat.lt_trichotomy k l with hlt | heq | hgt
    · obtain ⟨_, _, hb, hno⟩ := h'.before k hlt
      rw [ha, Arrival.after.injEq] at hb
      exact absurd (hb.2 ▸ hs) (hno r)
    · exact heq
    · obtain ⟨_, _, hb, hno⟩ := h.before l hgt
      rw [ha', Arrival.after.injEq] at hb
      exact absurd (hb.2 ▸ hs') (hno r')
  subst hkl
  rw [ha, Arrival.after.injEq] at ha'
  rw [← ha'.2, ← verdict_decided_iff] at hs'
  rw [← verdict_decided_iff, hs', Verdict.decided.injEq] at hs
  exact ⟨rfl, hs.symm⟩

/-! ### Following a sequence -/

namespace Arrival

/-- A first report that decides is the end. -/
theorem follow_of_settles {arrival : Nat → Arrival} {delay limit : Millis} {report : Report}
    {result : Except Error Outcome} (ha : arrival 0 = .after delay report)
    (hs : report.Settles policy x result) (hd : delay ≤ limit) (bound : Nat) (s : σ) :
    follow arrival policy x (bound + 1) 0 limit s = ⟨some result, delay, s, [.polled]⟩ := by
  rw [follow, Exchange.record_bind]
  simp only [ha]
  rw [Exchange.wait_bind hd]
  simp only [verdict_decided_iff.mpr hs]
  simp [Exchange.finish, Talk.behind]

/-- A first report that decides nothing leaves the rest of the time to the rest of the sequence. -/
theorem follow_of_open {arrival : Nat → Arrival} {delay limit : Millis} {report : Report}
    (ha : arrival 0 = .after delay report) (ho : ∀ r, ¬ report.Settles policy x r)
    (hd : delay ≤ limit) (bound : Nat) (s : σ) :
    ∃ notice, follow arrival policy x (bound + 1) 0 limit s =
      (follow (later arrival) policy x bound 0 (limit - delay) s).behind delay
        [.polled, .noted notice] := by
  rw [follow, Exchange.record_bind]
  simp only [ha]
  rw [Exchange.wait_bind hd]
  cases hv : verdict policy x report with
  | decided result => exact absurd (verdict_decided_iff.mp hv) (ho result)
  | stillInPool =>
    refine ⟨.inPool x, ?_⟩
    simp [Exchange.note_bind, follow_later]
  | stillInBlock block =>
    refine ⟨.inBlock x block, ?_⟩
    simp [Exchange.note_bind, follow_later]

/-- A first report that is late, or never comes, is waited for until the limit. -/
theorem follow_of_late {arrival : Nat → Arrival} {limit : Millis}
    (h : arrival 0 = .never ∨ ∃ delay report, arrival 0 = .after delay report ∧ limit < delay)
    (policy : Policy) (x : Hash) (bound : Nat) (s : σ) :
    follow arrival policy x (bound + 1) 0 limit s = ⟨none, limit, s, [.polled]⟩ := by
  rw [follow, Exchange.record_bind]
  rcases h with ha | ⟨delay, report, ha, hd⟩
  · simp [ha, Exchange.silence, Talk.behind]
  · simp only [ha]
    rw [Exchange.wait_bind_late hd]
    simp [Talk.behind]

/-- A sequence that is settled in time is followed up to the report that decides. -/
theorem follow_of_settled {arrival : Nat → Arrival} {k bound : Nat} {result : Except Error Outcome}
    {limit : Millis} (h : SettledAt policy x arrival k result) (hb : k < bound)
    (hl : total arrival (k + 1) ≤ limit) (s : σ) :
    ∃ journal : Journal, journal.polls = k + 1 ∧ journal.Waits ∧ journal.isUnending = false ∧
      follow arrival policy x bound 0 limit s = ⟨some result, total arrival (k + 1), s, journal⟩ := by
  induction k generalizing arrival bound limit with
  | zero =>
    obtain ⟨delay, report, ha, hs⟩ := h.settles
    obtain ⟨bound, rfl⟩ := Nat.exists_eq_add_of_lt hb
    have ht : total arrival 1 = delay := by simp [total, ha, Arrival.delay]
    rw [ht] at hl ⊢
    refine ⟨[.polled], rfl, by simp [Journal.Waits], rfl, ?_⟩
    rw [Nat.zero_add]
    exact follow_of_settles ha hs hl bound s
  | succ k ih =>
    obtain ⟨⟨delay, report, ha, ho⟩, hk⟩ := settledAt_succ_iff.mp h
    obtain ⟨bound, rfl⟩ : ∃ b, bound = b + 1 := ⟨bound - 1, by omega⟩
    rw [total_later, ha, Arrival.delay] at hl ⊢
    obtain ⟨journal, hp, hw, hu, hf⟩ :=
      ih hk (Nat.lt_of_succ_lt_succ hb) (Nat.le_sub_of_add_le' hl)
    obtain ⟨notice, hn⟩ := follow_of_open ha ho (Nat.le_trans (Nat.le_add_right _ _) hl) bound s
    refine ⟨[.polled, .noted notice] ++ journal, ?_, Journal.Waits.append ?_ hw, by simpa using hu, ?_⟩
    · rw [Journal.polls_append, hp, Nat.add_comm]
      rfl
    · simp [Journal.Waits]
    · rw [hn, hf, Talk.behind]

/-- A sequence that is not settled in time, or only beyond the bound, is followed until the limit if
the wait is over at one of the positions that are looked at. -/
theorem follow_of_overdue {arrival : Nat → Arrival} {bound : Nat} {limit : Millis}
    (h : ∀ k result, SettledAt policy x arrival k result →
      bound ≤ k ∨ limit < total arrival (k + 1))
    (hc : ∃ n < bound, Concludes arrival policy limit n) (s : σ) :
    ∃ journal : Journal, journal.Waits ∧ journal.isUnending = false ∧
      follow arrival policy x bound 0 limit s = ⟨none, limit, s, journal⟩ := by
  induction bound generalizing arrival limit with
  | zero =>
    obtain ⟨n, hn, -⟩ := hc
    exact absurd hn (Nat.not_lt_zero n)
  | succ bound ih =>
    have late (hla : arrival 0 = .never ∨
          ∃ delay report, arrival 0 = .after delay report ∧ limit < delay) :
        ∃ journal : Journal, journal.Waits ∧ journal.isUnending = false ∧
          follow arrival policy x (bound + 1) 0 limit s = ⟨none, limit, s, journal⟩ :=
      ⟨[.polled], by simp [Journal.Waits], rfl, follow_of_late hla policy x bound s⟩
    match ha : arrival 0 with
    | .never => exact late (.inl ha)
    | .after delay report =>
      by_cases hd : delay ≤ limit
      · have ho (r) : ¬ report.Settles policy x r := by
          intro hs
          rcases h 0 r (settledAt_zero_iff.mpr ⟨delay, report, ha, hs⟩) with h0 | h0
          · exact Nat.not_succ_le_zero bound h0
          · rw [total, total, ha, Nat.zero_add] at h0
            exact Nat.not_lt_of_le hd h0
        have hlater : ∀ k result, SettledAt policy x (later arrival) k result →
            bound ≤ k ∨ limit - delay < total (later arrival) (k + 1) := by
          intro k result hk
          have hk' := h (k + 1) result (settledAt_succ_iff.mpr ⟨⟨delay, report, ha, ho⟩, hk⟩)
          rw [total_later, ha, Arrival.delay] at hk'
          exact hk'.imp Nat.le_of_succ_le_succ (Nat.sub_lt_left_of_lt_add hd)
        have hover : ∃ n < bound, Concludes (later arrival) policy (limit - delay) n := by
          obtain ⟨n, hn, hcn⟩ := hc
          cases n with
          | zero =>
            rcases (concludes_zero_iff ha x).mp hcn with ⟨r, hr⟩ | hlate
            · exact absurd hr (ho r)
            · exact absurd hlate (Nat.not_lt_of_le hd)
          | succ n => exact ⟨n, Nat.lt_of_succ_lt_succ hn, (concludes_succ_iff ha hd).mp hcn⟩
        obtain ⟨journal, hw, hu, hf⟩ := ih hlater hover
        obtain ⟨notice, hn⟩ := follow_of_open ha ho hd bound s
        refine ⟨[.polled, .noted notice] ++ journal, Journal.Waits.append ?_ hw, by simpa using hu, ?_⟩
        · simp [Journal.Waits]
        · rw [hn, hf, Talk.behind, Nat.add_sub_cancel' hd]
      · exact late (.inr ⟨delay, report, ha, Nat.lt_of_not_le hd⟩)

/-- A sequence of which no position that is looked at ends the wait is followed up to the bound, and
the wait is still open there. -/
theorem follow_of_endless {arrival : Nat → Arrival} {bound : Nat} {limit : Millis}
    (h : ∀ n < bound, ¬ Concludes arrival policy limit n) (x : Hash) (s : σ) :
    ∃ journal : Journal, journal.Waits ∧ journal.polls = bound ∧ journal.isUnending = true ∧
      follow arrival policy x bound 0 limit s = ⟨none, total arrival bound, s, journal⟩ := by
  induction bound generalizing arrival limit with
  | zero => exact ⟨[.unending], by simp [Journal.Waits], rfl, rfl, rfl⟩
  | succ bound ih =>
    have hfirst := h 0 (Nat.succ_pos bound)
    match ha : arrival 0 with
    | .never => exact absurd (.inl (by rw [ha]; rfl)) hfirst
    | .after delay report =>
      rw [concludes_zero_iff ha x, not_or, not_exists] at hfirst
      obtain ⟨ho, hd⟩ := hfirst
      rw [Nat.not_lt] at hd
      have hlater : ∀ n < bound, ¬ Concludes (later arrival) policy (limit - delay) n :=
        fun n hn hcn => h (n + 1) (Nat.succ_lt_succ hn) ((concludes_succ_iff ha hd).mpr hcn)
      obtain ⟨journal, hw, hp, hu, hf⟩ := ih hlater
      obtain ⟨notice, hn⟩ := follow_of_open ha ho hd bound s
      refine ⟨[.polled, .noted notice] ++ journal, Journal.Waits.append ?_ hw, ?_, by simpa using hu, ?_⟩
      · simp [Journal.Waits]
      · rw [Journal.polls_append, hp, Nat.add_comm]
        rfl
      · rw [hn, hf, Talk.behind, total_later, ha]
        rfl

/-- Without a decisive report in time there is no result, be the wait over or not. -/
theorem result_follow_of_unsettled {arrival : Nat → Arrival} {bound : Nat} {limit : Millis}
    (h : ∀ k result, SettledAt policy x arrival k result →
      bound ≤ k ∨ limit < total arrival (k + 1)) (s : σ) :
    (follow arrival policy x bound 0 limit s).result = none := by
  by_cases hc : ∃ n < bound, Concludes arrival policy limit n
  · obtain ⟨journal, -, -, hf⟩ := follow_of_overdue h hc s
    rw [hf]
  · obtain ⟨journal, -, -, -, hf⟩ := follow_of_endless (fun n hn hcn => hc ⟨n, hn, hcn⟩) x s
    rw [hf]

theorem outcome_fireAndForget (arrival : Nat → Arrival) (x : Hash) (bound : Nat) (limit : Millis)
    (s : σ) :
    Arrival.outcome arrival .fireAndForget x bound limit s = ⟨some (.ok (.accepted x)), 0, s, []⟩ :=
  rfl

theorem outcome_waiting {policy : Policy} (hp : policy ≠ .fireAndForget) (arrival : Nat → Arrival)
    (x : Hash) (bound : Nat) :
    Arrival.outcome (σ := σ) arrival policy x bound = follow arrival policy x bound 0 := by
  rw [Arrival.outcome, if_neg hp]

end Arrival

/-! ### Watches -/

namespace Watch

/-- Every sequence of arrivals is that of a watch: nothing is asked of those who report. -/
theorem exists_of_arrival (arrival : Nat → Arrival) : ∃ w : Watch, w.arrival = arrival := by
  have one (span : Millis) (policy : Policy) : ∃ bound, ∀ n, Concludes arrival policy span n →
      ∃ m < bound, Concludes arrival policy span m := by
    by_cases h : ∃ n, Concludes arrival policy span n
    · obtain ⟨n, hn⟩ := h
      exact ⟨n + 1, fun _ _ => ⟨n, Nat.lt_succ_self n, hn⟩⟩
    · exact ⟨0, fun n hn => absurd ⟨n, hn⟩ h⟩
  have all (span : Millis) : ∃ bound, ∀ policy n, Concludes arrival policy span n →
      ∃ m < bound, Concludes arrival policy span m := by
    obtain ⟨bound, hbound⟩ := Classical.skolem.mp (one span)
    refine ⟨bound .fireAndForget + bound .inclusion + bound .finalization, fun policy n hn => ?_⟩
    obtain ⟨m, hm, hcm⟩ := hbound policy n hn
    refine ⟨m, Nat.lt_of_lt_of_le hm ?_, hcm⟩
    cases policy <;> omega
  obtain ⟨horizon, h⟩ := Classical.skolem.mp all
  exact ⟨⟨arrival, horizon, fun policy span => h span policy⟩, rfl⟩

/-- A wait for the arrivals of a list is over behind the last one, where the watch closes. -/
theorem concludes_ofList (arrivals : List Arrival) (policy : Policy) (span : Millis) :
    Concludes (ofList arrivals).arrival policy span arrivals.length :=
  .inl (by simp [ofList, Arrival.ends, Report.decides])

/-- What settles within the time limit lies within the horizon. -/
theorem lt_horizon {w : Watch} {k : Nat} {result : Except Error Outcome} {limit : Millis}
    (h : SettledAt policy x w.arrival k result) (hl : total w.arrival (k + 1) ≤ limit) :
    k < w.horizon limit := by
  obtain ⟨m, hm, hcm⟩ := w.concludes_within policy limit k (h.concludes limit)
  refine Nat.lt_of_le_of_lt (Nat.le_of_not_lt fun hmk => Nat.lt_irrefl limit ?_) hm
  calc
    limit < total w.arrival (m + 1) := h.late_of_concludes hmk hcm
    _ ≤ total w.arrival (k + 1) := total_mono w.arrival (Nat.le_succ_of_le hmk)
    _ ≤ limit := hl

theorem outcome_of_settled {w : Watch} (hp : policy ≠ .fireAndForget) {k : Nat}
    {result : Except Error Outcome} {limit : Millis} (h : SettledAt policy x w.arrival k result)
    (hl : total w.arrival (k + 1) ≤ limit) (s : σ) :
    ∃ journal : Journal, journal.polls = k + 1 ∧ journal.Waits ∧ journal.isUnending = false ∧
      w.outcome policy x limit s = ⟨some result, total w.arrival (k + 1), s, journal⟩ := by
  rw [Watch.outcome, outcome_waiting hp]
  exact follow_of_settled h (lt_horizon h hl) hl s

theorem outcome_of_overdue {w : Watch} (hp : policy ≠ .fireAndForget) {limit : Millis}
    (h : ∀ k result, SettledAt policy x w.arrival k result → limit < total w.arrival (k + 1))
    (hc : ∃ n, Concludes w.arrival policy limit n) (s : σ) :
    ∃ journal : Journal, journal.Waits ∧ journal.isUnending = false ∧
      w.outcome policy x limit s = ⟨none, limit, s, journal⟩ := by
  rw [Watch.outcome, outcome_waiting hp]
  obtain ⟨n, hn⟩ := hc
  exact follow_of_overdue (fun k result hk => .inr (h k result hk))
    (w.concludes_within policy limit n hn) s

theorem outcome_of_endless {w : Watch} (hp : policy ≠ .fireAndForget) {limit : Millis}
    (h : ∀ n, ¬ Concludes w.arrival policy limit n) (x : Hash) (s : σ) :
    ∃ (elapsed : Millis) (journal : Journal), journal.Waits ∧ journal.isUnending = true ∧
      w.outcome policy x limit s = ⟨none, elapsed, s, journal⟩ := by
  have hopen : ∀ n < w.horizon limit, ¬ Concludes w.arrival policy limit n := fun n _ => h n
  rw [Watch.outcome, outcome_waiting hp]
  obtain ⟨journal, hw, -, hu, hf⟩ := follow_of_endless hopen x s
  exact ⟨_, journal, hw, hu, hf⟩

end Watch

/-! ### The rule -/

/-- What a success reports is what the report that decided names, never an earlier block. -/
theorem SettledAt.success {arrival : Nat → Arrival} {k : Nat} {o : Outcome}
    (h : SettledAt policy x arrival k (.ok o)) :
    ∃ delay block, (policy = .inclusion ∧ arrival k = .after delay (.progress (.inBlock block)) ∧
        o = .inBlock x block) ∨
      (arrival k = .after delay (.progress (.finalized block)) ∧ o = .finalized x block) := by
  obtain ⟨delay, report, ha, hs⟩ := h.settles
  obtain ⟨block, ⟨hp, rfl, rfl⟩ | ⟨rfl, rfl⟩⟩ := hs.block
  · exact ⟨delay, block, .inl ⟨hp, ha, rfl⟩⟩
  · exact ⟨delay, block, .inr ⟨ha, rfl⟩⟩

/-- Whatever waiting gives was settled at some position. -/
theorem settledAt_of_outcome (hp : policy ≠ .fireAndForget) {arrival : Nat → Arrival} {bound : Nat}
    {limit : Millis} {s : σ} {result : Except Error Outcome}
    (h : (Arrival.outcome arrival policy x bound limit s).result = some result) :
    ∃ k, SettledAt policy x arrival k result := by
  rw [outcome_waiting hp] at h
  by_cases hk : ∃ k r, SettledAt policy x arrival k r ∧ k < bound ∧ total arrival (k + 1) ≤ limit
  · obtain ⟨k, r, hr, hb, hl⟩ := hk
    obtain ⟨journal, -, -, -, hf⟩ := follow_of_settled hr hb hl s
    rw [hf, Option.some.injEq] at h
    exact ⟨k, h ▸ hr⟩
  · have hno := result_follow_of_unsettled (fun k r hr => by
      rcases Nat.lt_or_ge k bound with hb | hb
      · exact .inr (Nat.lt_of_not_le fun hl => hk ⟨k, r, hr, hb, hl⟩)
      · exact .inl hb) s
    rw [hno] at h
    cases h

/-- **The first decisive report decides, and nothing else.** One who does not wait is told at once
that the extrinsic was accepted, and no report is asked for. One who waits gets the result that is
settled at the first decisive position, with exactly the reports up to there asked for, given the
time they take; when no position decides, nothing comes however long the wait. A success names the
block of the report that decided: a block that is not final only for those who wait for inclusion.
A watch is followed with a bound behind whatever can decide in time. -/
theorem outcome_is_first_decisive (policy : Policy) (x : Hash) (arrival : Nat → Arrival) :
    (policy = .fireAndForget → ∀ bound limit (s : σ),
      Arrival.outcome arrival policy x bound limit s = ⟨some (.ok (.accepted x)), 0, s, []⟩) ∧
    (policy ≠ .fireAndForget →
      (∀ k result, SettledAt policy x arrival k result →
        ∀ bound limit (s : σ), k < bound → total arrival (k + 1) ≤ limit →
          (Arrival.outcome arrival policy x bound limit s).result = some result ∧
          (Arrival.outcome arrival policy x bound limit s).journal.polls = k + 1) ∧
      ((∀ k result, ¬ SettledAt policy x arrival k result) →
        ∀ bound limit (s : σ), (Arrival.outcome arrival policy x bound limit s).result = none) ∧
      (∀ bound limit (s : σ) o,
        (Arrival.outcome arrival policy x bound limit s).result = some (.ok o) →
          (∀ y, o ≠ .accepted y) ∧ (policy = .finalization → ∀ y block, o ≠ .inBlock y block) ∧
          ∃ k delay block, SettledAt policy x arrival k (.ok o) ∧
            ((arrival k = .after delay (.progress (.inBlock block)) ∧ o = .inBlock x block) ∨
              (arrival k = .after delay (.progress (.finalized block)) ∧ o = .finalized x block))) ∧
      (∀ w : Watch, w.arrival = arrival → ∀ limit, ∃ bound,
        (∀ s : σ, w.outcome policy x limit s =
          Arrival.outcome arrival policy x bound limit s) ∧
        ∀ k result, SettledAt policy x arrival k result → total arrival (k + 1) ≤ limit →
          k < bound)) := by
  refine ⟨?_, fun hp => ⟨?_, ?_, ?_, ?_⟩⟩
  · rintro rfl bound limit s
    exact outcome_fireAndForget arrival x bound limit s
  · intro k result h bound limit s hb hl
    obtain ⟨journal, hpolls, -, -, hf⟩ := follow_of_settled h hb hl s
    rw [outcome_waiting hp, hf]
    exact ⟨rfl, hpolls⟩
  · intro h bound limit s
    rw [outcome_waiting hp]
    exact result_follow_of_unsettled (fun k result hk => absurd hk (h k result)) s
  · intro bound limit s o ho
    obtain ⟨k, hk⟩ := settledAt_of_outcome hp ho
    obtain ⟨delay, block, ⟨hi, ha, rfl⟩ | ⟨ha, rfl⟩⟩ := hk.success
    · exact ⟨by simp, by simp [hi], k, delay, block, hk, .inl ⟨ha, rfl⟩⟩
    · exact ⟨by simp, by simp, k, delay, block, hk, .inr ⟨ha, rfl⟩⟩
  · rintro w rfl limit
    exact ⟨w.horizon limit, fun s => rfl, fun k result h hl => Watch.lt_horizon h hl⟩

/-- Two blocks that did not last, and then no block at all. -/
example (x a b : Hash) :
    let talk := (Watch.ofList [.after 1 (.progress (.inBlock a)), .after 1 (.progress .inPool),
      .after 1 (.progress (.inBlock b)), .after 1 (.progress (.dropped "stale"))]).outcome
        .finalization x 10 ()
    talk.result = some (.error (.rejected ("dropped: " ++ "stale"))) ∧ talk.journal.polls = 4 := by
  exact ⟨rfl, rfl⟩

end LedgerClient
