import LedgerClient.Catalog

/-!
# Choosing a candidate

A draw among `n` candidates gives an index below `n`, whatever the words are, so that a choice
among candidates gives one of them whenever there is one. A draw uses up the words that it refuses
and the one that it takes; a choice uses up no word when there is no candidate, and one at least
when there is (`WordSource.exists_pick`).

This also holds of a source in which a draw finds no acceptable word within its reach: such a draw
gives the first candidate.
-/

namespace LedgerClient

/-! ### Draws -/

namespace WordSource

/-- A word stands for one of the candidates. -/
theorem index_lt {n : Nat} (hn : 0 < n) (w : UInt32) : index n w < n := by
  have hw : w.toNat < UInt32.size := w.toNat_lt
  rw [index]
  refine Nat.div_lt_of_lt_mul ?_
  exact Nat.mul_lt_mul_of_pos_right hw hn

/-- The source after a number of words were taken from it. -/
def skip (source : WordSource) (taken : Nat) : WordSource :=
  { source with position := source.position + taken }

/-- The word that comes some places ahead. -/
def ahead (source : WordSource) (j : Nat) : UInt32 := source.word (source.position + j)

theorem skip_one_skip (source : WordSource) (k : Nat) :
    (source.skip 1).skip k = source.skip (k + 1) := by
  simp only [skip, Nat.add_assoc, Nat.add_comm 1 k]

theorem ahead_skip_one (source : WordSource) (j : Nat) :
    (source.skip 1).ahead j = source.ahead (j + 1) := by
  simp only [ahead, skip, Nat.add_assoc, Nat.add_comm 1 j]

/-- A draw refuses words up to the first acceptable one, which it takes, or it refuses all within its
reach. -/
theorem drawWithin_cases (n fuel : Nat) (source : WordSource) :
    (∃ k < fuel, (∀ j < k, accepts n (source.ahead j) = false) ∧
      accepts n (source.ahead k) = true ∧
      drawWithin n fuel source = (index n (source.ahead k), source.skip (k + 1))) ∨
    ((∀ j < fuel, accepts n (source.ahead j) = false) ∧
      drawWithin n fuel source = (0, source.skip fuel)) := by
  induction fuel generalizing source with
  | zero => exact .inr ⟨fun j hj => absurd hj (Nat.not_lt_zero j), rfl⟩
  | succ fuel ih =>
    have hdraw : drawWithin n (fuel + 1) source = if accepts n (source.ahead 0) then
        (index n (source.ahead 0), source.skip 1) else drawWithin n fuel (source.skip 1) := rfl
    rw [hdraw]
    cases hzero : accepts n (source.ahead 0) with
    | true => exact .inl ⟨0, Nat.succ_pos fuel, fun j hj => absurd hj (Nat.not_lt_zero j), hzero, rfl⟩
    | false =>
      have hrefused {k : Nat} (h : ∀ j < k, accepts n (source.ahead (j + 1)) = false) :
          ∀ j < k + 1, accepts n (source.ahead j) = false := by
        intro j hj
        cases j with
        | zero => exact hzero
        | succ j => exact h j (Nat.lt_of_succ_lt_succ hj)
      have hrest := ih (source.skip 1)
      simp only [ahead_skip_one, skip_one_skip] at hrest
      rcases hrest with ⟨k, hk, hbefore, hacc, heq⟩ | ⟨hall, heq⟩
      · exact .inl ⟨k + 1, Nat.succ_lt_succ hk, hrefused hbefore, hacc, heq⟩
      · exact .inr ⟨hrefused hall, heq⟩

/-- A draw gives one of the indices, and takes a word at least. -/
theorem draw_spec {n : Nat} (hn : 0 < n) (source : WordSource) :
    ∃ i < n, ∃ taken, 0 < taken ∧ source.draw n = (i, source.skip taken) := by
  rw [draw]
  rcases drawWithin_cases n source.reach source with ⟨k, -, -, -, heq⟩ | ⟨-, heq⟩
  · exact ⟨_, index_lt hn _, k + 1, Nat.succ_pos k, heq⟩
  · exact ⟨0, hn, source.reach, source.reach_pos, heq⟩

variable {α β : Type}

/-- Without items nothing is picked, and the source stays as it is. -/
theorem pick_nil (source : WordSource) : pick ([] : List α) source = (none, source) := rfl

/-- What is picked is the item at the index that is drawn. -/
theorem pick_of_ne_nil {items : List α} (h : items ≠ []) (source : WordSource) :
    pick items source =
      (items[(source.draw items.length).1]?, (source.draw items.length).2) := by
  rw [pick, if_neg (by simp [h])]

/-- From some items one is picked, and a word at least is taken for it. -/
theorem exists_pick {items : List α} (h : items ≠ []) (source : WordSource) :
    ∃ item ∈ items, ∃ taken, 0 < taken ∧ pick items source = (some item, source.skip taken) := by
  obtain ⟨i, hi, taken, htaken, hdraw⟩ := draw_spec (List.length_pos_iff.mpr h) source
  refine ⟨items[i], List.getElem_mem hi, taken, htaken, ?_⟩
  rw [pick_of_ne_nil h, hdraw, List.getElem?_eq_getElem hi]

/-- Which item is picked depends on its place alone. -/
theorem pick_map (f : α → β) (items : List α) (source : WordSource) :
    pick (items.map f) source = ((pick items source).1.map f, (pick items source).2) := by
  simp only [pick, List.isEmpty_map, List.length_map]
  cases items.isEmpty with
  | true => rfl
  | false => simp only [Bool.false_eq_true, if_false, List.getElem?_map]

end WordSource

/-! ### Untried candidates -/

namespace Catalog

variable {candidates tried : List String} {address : String}

theorem mem_untried :
    address ∈ untried candidates tried ↔ address ∈ candidates ∧ address ∉ tried := by
  simp [untried]

/-- When every candidate has been tried, nothing is picked. -/
theorem pickUntried_of_untried_nil (h : untried candidates tried = []) (words : WordSource) :
    pickUntried candidates tried words = (none, words) := by
  have hnil : (untried candidates tried).attach = [] := by simp [h]
  rw [pickUntried, hnil, WordSource.pick_nil]

/-- While there is an untried candidate, one is picked. -/
theorem exists_pickUntried (h : untried candidates tried ≠ []) (words : WordSource) :
    ∃ item rest, pickUntried candidates tried words = (some item, rest) := by
  have hne : (untried candidates tried).attach ≠ [] := by simp [h]
  obtain ⟨item, -, taken, -, hp⟩ := WordSource.exists_pick hne words
  exact ⟨item, words.skip taken, hp⟩

end Catalog

end LedgerClient
