import LedgerClient.Proofs.Waiting

/-!
# Waiting for finality after waiting for inclusion

Two submissions of one extrinsic may see the same reports and wait for different things. The one
that waits for finality does what the one that waits for inclusion does, report by report, until
the other is content with a block; from there on it is alone. So it can never take back a verdict
against the extrinsic, nor find a final block that the other had to do without.

## The model

`Outlasts x i f` relates two ways for waiting to end: `f` is `i` itself, or `i` ended with a block
and `f` went on behind it. Something that comes before both, such as a report that decides for
neither, changes nothing about that (`Outlasts.behind`).

## What is proved

* `Arrival.outcome_outlasts`: waiting for finality outlasts waiting for inclusion, for all
  sequences of arrivals, whatever they say behind a block.
* `finalization_agrees_with_inclusion`: what that means for successes, errors and silence.
-/

namespace LedgerClient

variable {σ : Type} {x : Hash} {i f : Talk σ Outcome}

/-! ### Going on behind a block -/

/-- `Outlasts x i f`: the wait `f` for the extrinsic `x` ends as the wait `i` does, or it goes on
where `i` is content with a block. -/
inductive Outlasts (x : Hash) (i : Talk σ Outcome) : Talk σ Outcome → Prop where
  /-- The two end alike. -/
  | alike : Outlasts x i i
  /-- One ends with a block; the other notes the block and goes on. -/
  | onward {block : Hash} {rest : Talk σ Outcome} : i.result = some (.ok (.inBlock x block)) →
      Outlasts x i (rest.behind i.elapsed (i.journal ++ [.noted (.inBlock x block)]))

namespace Outlasts

/-- What comes before both of two waits does not come between them. -/
theorem behind (h : Outlasts x i f) (elapsed : Millis) (journal : Journal) :
    Outlasts x (i.behind elapsed journal) (f.behind elapsed journal) := by
  cases h with
  | alike => exact .alike
  | @onward block rest hi =>
    rw [Talk.behind_behind, ← List.append_assoc]
    exact .onward (i := i.behind elapsed journal) hi

/-- Who goes on behind a block asks for no fewer reports and takes no less time. -/
theorem polls_le_and_elapsed_le (h : Outlasts x i f) :
    i.journal.polls ≤ f.journal.polls ∧ i.elapsed ≤ f.elapsed := by
  cases h with
  | alike => exact ⟨Nat.le_refl _, Nat.le_refl _⟩
  | onward hi =>
    refine ⟨?_, Nat.le_add_right _ _⟩
    rw [Talk.behind, Journal.polls_append, Journal.polls_append, Nat.add_assoc]
    exact Nat.le_add_right _ _

/-- Only a block is gone on behind. -/
theorem eq_of_no_block (h : Outlasts x i f) (hi : ∀ block, i.result ≠ some (.ok (.inBlock x block))) :
    f = i := by
  cases h with
  | alike => rfl
  | onward hb => exact absurd hb (hi _)

/-- When the one who may go on succeeds, the other has succeeded. -/
theorem exists_ok (h : Outlasts x i f) {o : Outcome} (hf : f.result = some (.ok o)) :
    ∃ o', i.result = some (.ok o') := by
  cases h with
  | alike => exact ⟨o, hf⟩
  | onward hi => exact ⟨_, hi⟩

end Outlasts

/-! ### The two runs -/

namespace Arrival

/-- From any position on and in any time, one who waits for finality outlasts one who waits for
inclusion. The induction is on the bound: one arrival is either the end of both, the end of neither,
or a block. -/
theorem follow_outlasts (arrival : Nat → Arrival) (x : Hash) (bound position : Nat) (limit : Millis)
    (s : σ) :
    Outlasts x (follow arrival .inclusion x bound position limit s)
      (follow arrival .finalization x bound position limit s) := by
  induction bound generalizing position limit with
  | zero => exact .alike
  | succ bound ih =>
    rw [follow, follow, Exchange.record_bind, Exchange.record_bind]
    refine Outlasts.behind ?_ 0 [.polled]
    cases arrival position with
    | never => exact .alike
    | after delay report =>
      rcases Nat.lt_or_ge limit delay with hd | hd
      · simp only [Exchange.wait_bind_late hd]
        exact .alike
      · simp only [Exchange.wait_bind hd]
        refine Outlasts.behind ?_ delay []
        cases report with
        | failed e => exact .alike
        | closed => exact .alike
        | progress p =>
          cases p with
          | inPool =>
            simp only [verdict, Exchange.note_bind]
            exact (ih (position + 1) (limit - delay)).behind 0 _
          | inBlock block =>
            simp only [verdict, if_pos, reduceCtorEq, if_false, Exchange.note_bind]
            exact .onward rfl
          | finalized block => exact .alike
          | dropped reason => exact .alike
          | invalid reason => exact .alike
          | failed reason => exact .alike

theorem outcome_outlasts (arrival : Nat → Arrival) (x : Hash) (bound : Nat) (limit : Millis)
    (s : σ) :
    Outlasts x (Arrival.outcome arrival .inclusion x bound limit s)
      (Arrival.outcome arrival .finalization x bound limit s) := by
  rw [outcome_waiting (by decide), outcome_waiting (by decide)]
  exact follow_outlasts arrival x bound 0 limit s

/-- Who waits for finality is content with a final block only. -/
theorem finalized_of_outcome {arrival : Nat → Arrival} {bound : Nat} {limit : Millis} {s : σ}
    {o : Outcome}
    (h : (Arrival.outcome arrival .finalization x bound limit s).result = some (.ok o)) :
    ∃ block, o = .finalized x block := by
  obtain ⟨k, hk⟩ := settledAt_of_outcome (by decide) h
  obtain ⟨delay, block, ⟨hp, -, -⟩ | ⟨-, rfl⟩⟩ := hk.success
  · cases hp
  · exact ⟨block, rfl⟩

end Arrival

/-- **Waiting for more does not change the verdict on less.** Of two who wait for the fate of one
extrinsic over the same arrivals, one for inclusion and one for finality: when the second succeeds,
which it does with a final block, the first succeeds too, without asking for more reports or taking
more time; when the first ends with an error, the second ends with that error after as many reports;
when nothing ever comes for the first, nothing comes for the second; and a final block that the
first is told of is what the second is told of, the two waits being the same. The bound and the time
limit are any, and a watch gives the two the same ones. -/
theorem finalization_agrees_with_inclusion (arrival : Nat → Arrival) (x : Hash) :
    (∀ bound limit (s : σ) o,
      (Arrival.outcome arrival .finalization x bound limit s).result = some (.ok o) →
        (∃ block, o = .finalized x block) ∧
        (∃ o', (Arrival.outcome arrival .inclusion x bound limit s).result = some (.ok o')) ∧
        (Arrival.outcome arrival .inclusion x bound limit s).journal.polls ≤
          (Arrival.outcome arrival .finalization x bound limit s).journal.polls ∧
        (Arrival.outcome arrival .inclusion x bound limit s).elapsed ≤
          (Arrival.outcome arrival .finalization x bound limit s).elapsed) ∧
    (∀ bound limit (s : σ) e,
      (Arrival.outcome arrival .inclusion x bound limit s).result = some (.error e) →
        (Arrival.outcome arrival .finalization x bound limit s).result = some (.error e) ∧
        (Arrival.outcome arrival .finalization x bound limit s).journal.polls =
          (Arrival.outcome arrival .inclusion x bound limit s).journal.polls) ∧
    (∀ bound limit (s : σ),
      (Arrival.outcome arrival .inclusion x bound limit s).result = none →
        (Arrival.outcome arrival .finalization x bound limit s).result = none) ∧
    (∀ bound limit (s : σ) block,
      (Arrival.outcome arrival .inclusion x bound limit s).result =
          some (.ok (.finalized x block)) →
        Arrival.outcome arrival .finalization x bound limit s =
          Arrival.outcome arrival .inclusion x bound limit s) ∧
    (∀ w : Watch, w.arrival = arrival → ∀ limit, ∃ bound, ∀ policy (s : σ),
      w.outcome policy x limit s = Arrival.outcome arrival policy x bound limit s) := by
  have outlasts := fun bound limit (s : σ) => Arrival.outcome_outlasts arrival x bound limit s
  refine ⟨?_, ?_, ?_, ?_, ?_⟩
  · intro bound limit s o h
    exact ⟨Arrival.finalized_of_outcome h, (outlasts bound limit s).exists_ok h,
      (outlasts bound limit s).polls_le_and_elapsed_le⟩
  · intro bound limit s e h
    have same := (outlasts bound limit s).eq_of_no_block (by simp [h])
    exact ⟨same ▸ h, by rw [same]⟩
  · intro bound limit s h
    have same := (outlasts bound limit s).eq_of_no_block (by simp [h])
    exact same ▸ h
  · intro bound limit s block h
    exact (outlasts bound limit s).eq_of_no_block (by simp [h])
  · rintro w rfl limit
    exact ⟨w.horizon limit, fun policy s => rfl⟩

/-! ### Two waits over one watch -/

/-- A watch that gives one report each millisecond, and then closes. -/
def steadyWatch (reports : List Report) : Watch := Watch.ofList (reports.map (.after 1))

/-- A block that does not last, and a second one that becomes final. -/
def twoBlocks : Watch :=
  steadyWatch [.progress .inPool, .progress (.inBlock (.replicate 32 1)), .progress .inPool,
    .progress (.inBlock (.replicate 32 2)), .progress (.finalized (.replicate 32 2))]

/-- Over the two blocks, the one who waits for finality succeeds, and so does the other. An extrinsic
that is dropped and a node that falls silent are the same for both, and so is a final block that no
report of a block preceded. -/
theorem finalization_agrees_with_inclusion_of_two_blocks :
    (∃ o, (Arrival.outcome twoBlocks.arrival .inclusion (.replicate 32 7) 9 9 ()).result =
      some (.ok o)) ∧
    (Arrival.outcome (steadyWatch [.progress .inPool, .progress (.dropped "stale")]).arrival
        .finalization (.replicate 32 7) 9 9 ()).result =
      some (.error (.rejected ("dropped: " ++ "stale"))) ∧
    (Arrival.outcome (fun _ => .never) .finalization (.replicate 32 7) 9 9 ()).result = none ∧
    Arrival.outcome (steadyWatch [.progress (.finalized (.replicate 32 2))]).arrival
        .finalization (.replicate 32 7) 9 9 () =
      Arrival.outcome (steadyWatch [.progress (.finalized (.replicate 32 2))]).arrival
        .inclusion (.replicate 32 7) 9 9 () := by
  have lasting := (finalization_agrees_with_inclusion twoBlocks.arrival (.replicate 32 7)).1
    9 9 () (.finalized (.replicate 32 7) (.replicate 32 2)) rfl
  have dropped := (finalization_agrees_with_inclusion
    (steadyWatch [.progress .inPool, .progress (.dropped "stale")]).arrival
    (.replicate 32 7)).2.1 9 9 () (.rejected ("dropped: " ++ "stale")) rfl
  have silent := (finalization_agrees_with_inclusion (fun _ => .never)
    (.replicate 32 7)).2.2.1 9 9 () rfl
  have final := (finalization_agrees_with_inclusion
    (steadyWatch [.progress (.finalized (.replicate 32 2))]).arrival
    (.replicate 32 7)).2.2.2.1 9 9 () (.replicate 32 2) rfl
  exact ⟨lasting.2.1, dropped.1, silent, final⟩

end LedgerClient
