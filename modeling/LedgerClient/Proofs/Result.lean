/-!
# Where a result comes from

A result of several steps is a success when all of them are, and otherwise the error of the first one
that fails. A list that is read item by item gives what its items give, in order.
-/

namespace LedgerClient

/-! ### Step by step -/

section Steps

variable {ε α β : Type}

theorem map_eq_ok_iff {result : Except ε α} {f : α → β} {b : β} :
    result.map f = .ok b ↔ ∃ a, result = .ok a ∧ f a = b := by
  cases result <;> simp [Except.map]

theorem exists_map_eq_ok_iff {result : Except ε α} {f : α → β} :
    (∃ b, result.map f = .ok b) ↔ ∃ a, result = .ok a := by
  cases result <;> simp [Except.map]

theorem map_eq_error_iff {result : Except ε α} {f : α → β} {e : ε} :
    result.map f = .error e ↔ result = .error e := by
  cases result <;> simp [Except.map]

theorem bind_eq_ok_iff {result : Except ε α} {f : α → Except ε β} {b : β} :
    result >>= f = .ok b ↔ ∃ a, result = .ok a ∧ f a = .ok b := by
  cases result <;> simp [bind, Except.bind]

end Steps

/-! ### Item by item -/

section ItemByItem

variable {ε α β : Type} {f : α → Except ε β}

/-- A list is read when each of its items is. -/
theorem mapM_eq_ok_iff {list : List α} {results : List β} :
    list.mapM f = .ok results ↔ list.map f = results.map .ok := by
  induction list generalizing results with
  | nil => cases results <;> simp [pure, Except.pure]
  | cons a rest ih =>
    rw [List.mapM_cons, List.map_cons]
    cases ha : f a with
    | error e => cases results <;> simp [bind, Except.bind]
    | ok b =>
      cases hrest : rest.mapM f with
      | error e => cases results <;> simp [bind, Except.bind, ← ih, hrest]
      | ok bs => cases results <;> simp [bind, Except.bind, pure, Except.pure, ← ih, hrest]

/-- Everything that was read was read from one of the items. -/
theorem exists_of_mem_results {list : List α} {results : List β} (h : list.mapM f = .ok results)
    {b : β} (hb : b ∈ results) : ∃ a ∈ list, f a = .ok b := by
  have hread : .ok b ∈ list.map f := by
    rw [mapM_eq_ok_iff.mp h]
    exact List.mem_map_of_mem hb
  exact List.mem_map.mp hread

/-- What every item keeps when it is read is kept by the list. -/
theorem map_of_mapM_eq_ok {γ : Type} {before : α → γ} {after : β → γ}
    (hf : ∀ a b, f a = .ok b → after b = before a) {list : List α} {results : List β}
    (h : list.mapM f = .ok results) : results.map after = list.map before := by
  rw [mapM_eq_ok_iff] at h
  induction list generalizing results with
  | nil =>
    cases results with
    | nil => rfl
    | cons b bs => cases h
  | cons a rest ih =>
    cases results with
    | nil => cases h
    | cons b bs =>
      rw [List.map_cons, List.map_cons, List.cons.injEq] at h
      rw [List.map_cons, List.map_cons, hf a b h.1, ih h.2]

/-- The error is that of the first item that cannot be read. -/
theorem mapM_eq_error_iff {list : List α} {e : ε} :
    list.mapM f = .error e ↔ ∃ before a after, list = before ++ a :: after ∧
      (∀ b ∈ before, ∃ result, f b = .ok result) ∧ f a = .error e := by
  induction list with
  | nil => simp [pure, Except.pure]
  | cons a rest ih =>
    rw [List.mapM_cons]
    cases ha : f a with
    | error e' =>
      simp only [bind, Except.bind]
      constructor
      · intro h
        cases h
        exact ⟨[], a, rest, rfl, by simp, ha⟩
      · rintro ⟨before, a', after, hlist, hbefore, ha'⟩
        cases before with
        | nil =>
          cases hlist
          rw [ha] at ha'
          cases ha'
          rfl
        | cons b before =>
          cases hlist
          obtain ⟨result, hb⟩ := hbefore a List.mem_cons_self
          rw [ha] at hb
          cases hb
    | ok b =>
      -- The first item can be read, so the list fails exactly as its rest does.
      have hstep : (do let bs ← rest.mapM f; pure (b :: bs)) = .error e ↔
          rest.mapM f = .error e := by
        cases rest.mapM f <;> simp [bind, Except.bind, pure, Except.pure]
      refine hstep.trans (ih.trans ?_)
      constructor
      · rintro ⟨before, a', after, rfl, hbefore, ha'⟩
        refine ⟨a :: before, a', after, rfl, ?_, ha'⟩
        rw [List.forall_mem_cons]
        exact ⟨⟨b, ha⟩, hbefore⟩
      · rintro ⟨before, a', after, hlist, hbefore, ha'⟩
        cases before with
        | nil =>
          cases hlist
          rw [ha] at ha'
          cases ha'
        | cons b' before =>
          cases hlist
          rw [List.forall_mem_cons] at hbefore
          exact ⟨before, a', after, rfl, hbefore.2, ha'⟩

theorem exists_mapM_eq_ok_iff {list : List α} :
    (∃ results, list.mapM f = .ok results) ↔ ∀ a ∈ list, ∃ b, f a = .ok b := by
  constructor
  · rintro ⟨results, h⟩ a ha
    have hread : f a ∈ results.map .ok := by
      rw [← mapM_eq_ok_iff.mp h]
      exact List.mem_map_of_mem ha
    obtain ⟨b, -, hb⟩ := List.mem_map.mp hread
    exact ⟨b, hb.symm⟩
  · intro hall
    cases h : list.mapM f with
    | ok results => exact ⟨results, rfl⟩
    | error e =>
      obtain ⟨before, a, after, rfl, -, hfails⟩ := mapM_eq_error_iff.mp h
      obtain ⟨b, hb⟩ := hall a (by simp)
      rw [hb] at hfails
      cases hfails

/-- What is read back one by one is read back as a whole. -/
theorem mapM_map_of_pure {m : Type → Type} [Monad m] [LawfulMonad m] {write : α → β}
    {read : β → m α} (h : ∀ a, read (write a) = pure a) (list : List α) :
    (list.map write).mapM read = pure list := by
  induction list with
  | nil => rfl
  | cons a rest ih => rw [List.map_cons, List.mapM_cons, h, pure_bind, ih, pure_bind]

/-- Where each item is what is written for its result, the list is what is written for the results. -/
theorem eq_map_of_mapM_eq_some {read : α → Option β} {write : β → α}
    (h : ∀ a b, read a = some b → a = write b) {list : List α} {results : List β}
    (hread : list.mapM read = some results) : list = results.map write := by
  induction list generalizing results with
  | nil =>
    cases hread
    rfl
  | cons a rest ih =>
    rw [List.mapM_cons] at hread
    obtain ⟨b, hb, hrest⟩ := Option.bind_eq_some_iff.mp hread
    obtain ⟨bs, hbs, hresults⟩ := Option.bind_eq_some_iff.mp hrest
    cases hresults
    rw [List.map_cons, ← h a b hb, ← ih hbs]

end ItemByItem

end LedgerClient
