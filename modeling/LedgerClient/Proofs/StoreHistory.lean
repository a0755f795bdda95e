import LedgerClient.Proofs.ConfigText

/-!
# The configuration file over time

Configurations are saved and loaded, and in between anything may be done to the file from outside: it is
written, removed, replaced by a directory, or its parent directory by a plain file. What a load answers
follows from the last change alone, however long the history before it is. A load changes nothing, and
neither does a save that fails.

## The model

`Store.Changes` says whether a step changes what stands at the path; for a save that depends on what
stands there before. `Store.LastChange` picks the last change of a history, and `Store.Shows` says what
loads answer after a change.

## What is proved

* `Store.after_of_not_changes`, `Store.afterAll_of_quiet`: what is no change leaves all as it was.
* `Store.shows_after`: what a load answers right after a change.
* `Store.quiet_or_exists_lastChange`: a history without a last change has no change.
* `store_follows_last_change`: the answers of loads over any history.
-/

namespace LedgerClient

namespace Store

/-! ### Changes -/

/-- A step changes what stands at the path: it is one from outside, or a save that succeeds. -/
def Changes (store : Store) : Step → Prop
  | .save c => ∃ saved, store.save c = .ok saved
  | .load => False
  | .write _ | .remove | .makeDirectory | .blockParent => True

/-- No step changes what stands at the path: there are only loads, and saves that fail there. -/
def Quiet (store : Store) (steps : List Step) : Prop := ∀ step ∈ steps, ¬ store.Changes step

/-- A step of a history is the last one that changed what stands at the path. -/
def LastChange (start : Store) (steps : List Step) (change : Step) : Prop :=
  ∃ before later, steps = before ++ change :: later ∧
    (start.afterAll before).Changes change ∧ (start.afterAll (before ++ [change])).Quiet later

/-- `Shows change answer`: this is what loads answer after a change, until the next one. -/
inductive Shows : Step → Except ConfigError ClientConfig → Prop where
  /-- A configuration that was saved is loaded. -/
  | saved {c : ClientConfig} : Shows (.save c) (.ok c)
  /-- A text that is a configuration is loaded. -/
  | read {content : ByteArray} {text : String} {c : ClientConfig} :
      String.fromUTF8? content = some text → ClientConfig.ofText? text = some c →
      Shows (.write content) (.ok c)
  /-- A text that is no configuration cannot be. -/
  | malformed {content : ByteArray} {text reason : String} :
      String.fromUTF8? content = some text → ClientConfig.ofText? text = none →
      Shows (.write content) (.error (.json reason))
  /-- Bytes that are no text cannot be read. -/
  | notText {content : ByteArray} {reason : String} :
      String.fromUTF8? content = none → Shows (.write content) (.error (.io reason))
  /-- A directory cannot be read. -/
  | directory {reason : String} : Shows .makeDirectory (.error (.io reason))
  /-- Where the file was removed, the standard configuration is loaded. -/
  | removed : Shows .remove (.ok .standard)
  /-- So it is where there cannot be a file. -/
  | blocked : Shows .blockParent (.ok .standard)

variable {store : Store} {step change : Step} {steps later : List Step}

theorem afterAll_append (store : Store) (steps later : List Step) :
    store.afterAll (steps ++ later) = (store.afterAll steps).afterAll later := by
  simp only [afterAll, List.foldl_append]

theorem afterAll_cons (store : Store) (step : Step) (later : List Step) :
    store.afterAll (step :: later) = (store.after step).afterAll later := rfl

/-- A step that changes nothing leaves what stands at the path. -/
theorem after_of_not_changes (h : ¬ store.Changes step) : store.after step = store := by
  cases step with
  | save c =>
    cases hs : store.save c with
    | ok saved => exact absurd ⟨saved, hs⟩ h
    | error e => simp only [after, hs]
  | load => rfl
  | write content => exact absurd trivial h
  | remove => exact absurd trivial h
  | makeDirectory => exact absurd trivial h
  | blockParent => exact absurd trivial h

theorem afterAll_of_quiet (h : store.Quiet later) : store.afterAll later = store := by
  induction later with
  | nil => rfl
  | cons step rest ih =>
    have hstep : store.after step = store := after_of_not_changes (h step List.mem_cons_self)
    rw [afterAll_cons, hstep]
    apply ih
    intro other hm
    exact h other (List.mem_cons_of_mem _ hm)

/-- A save that fails changes nothing. -/
theorem not_changes_of_save_error {c : ClientConfig} {e : ConfigError}
    (h : store.save c = .error e) : ¬ store.Changes (.save c) := by
  rintro ⟨saved, hs⟩
  rw [h] at hs
  cases hs

theorem after_of_save_ok {c : ClientConfig} {saved : Store} (h : store.save c = .ok saved) :
    store.after (.save c) = saved := by
  simp only [after, h]

/-- Right after a change a load answers what the change shows. -/
theorem shows_after (h : store.Changes change) : Shows change (store.after change).load := by
  cases change with
  | save c =>
    obtain ⟨saved, hs⟩ := h
    rw [after_of_save_ok hs, load_of_save hs]
    exact .saved
  | load => exact absurd h id
  | write content =>
    show Shows (.write content) (file content).load
    rw [load]
    split
    · next ht => exact .notText ht
    · next text ht =>
      split
      · next c hc => exact .read ht hc
      · next hc => exact .malformed ht hc
  | remove =>
    have hload : (store.after .remove).load = .ok .standard := by cases store <;> rfl
    rw [hload]
    exact .removed
  | makeDirectory => exact .directory
  | blockParent => exact .blocked

/-! ### Histories -/

/-- The last change of a history decides what loads answer at its end. -/
theorem shows_of_lastChange {start : Store} (h : start.LastChange steps change) :
    Shows change (start.afterAll steps).load := by
  obtain ⟨before, later, rfl, hchange, hquiet⟩ := h
  have hend : start.afterAll (before ++ change :: later) =
      (start.afterAll before).after change := by
    rw [afterAll_append] at hquiet
    rw [afterAll_append, afterAll_cons]
    exact afterAll_of_quiet hquiet
  rw [hend]
  exact shows_after hchange

/-- A history has a last change, or no change at all. -/
theorem quiet_or_exists_lastChange (start : Store) (steps : List Step) :
    start.Quiet steps ∨ ∃ change, start.LastChange steps change := by
  induction steps generalizing start with
  | nil => exact .inl fun _ hm => by cases hm
  | cons step rest ih =>
    rcases ih (start.after step) with hquiet | ⟨change, before, later, rfl, hlast⟩
    · by_cases hchange : start.Changes step
      · exact .inr ⟨step, [], rest, rfl, hchange, hquiet⟩
      · -- The first step changes nothing either, so the rest is quiet from the start on.
        rw [after_of_not_changes hchange] at hquiet
        left
        intro other hm
        rcases List.mem_cons.mp hm with rfl | hm
        · exact hchange
        · exact hquiet other hm
    · exact .inr ⟨change, step :: before, later, rfl, hlast⟩

end Store

/-- **A load answers by the last change.** Let any steps be taken from an empty place on. If there was a
change, a load answers what the last one shows: the configuration that was saved, the one that the
written text denotes or an error of its kind, an error of reading for a directory and for bytes that
are no text, and the standard configuration where nothing is left. If there was none, it answers the
standard configuration. After a save that succeeds, loads answer the saved configuration until the next
change. Whatever comes later, it comes out as it would without the load before it, and as it would
without the save that failed before it. -/
theorem store_follows_last_change (steps : List Store.Step) :
    let store := Store.absent.afterAll steps
    (∀ change, Store.absent.LastChange steps change → Store.Shows change store.load) ∧
    ((∀ change, ¬ Store.absent.LastChange steps change) → store.load = .ok .standard) ∧
    (∀ later, Store.absent.afterAll (steps ++ .load :: later) =
      Store.absent.afterAll (steps ++ later)) ∧
    (∀ c saved, store.save c = .ok saved → ∀ later, saved.Quiet later →
      (Store.absent.afterAll (steps ++ .save c :: later)).load = .ok c) ∧
    (∀ c e, store.save c = .error e → ∀ later,
      Store.absent.afterAll (steps ++ .save c :: later) = Store.absent.afterAll (steps ++ later)) := by
  intro store
  refine ⟨?_, ?_, ?_, ?_, ?_⟩
  · intro change hlast
    exact Store.shows_of_lastChange hlast
  · intro hnone
    rcases Store.quiet_or_exists_lastChange .absent steps with hquiet | ⟨change, hlast⟩
    · have hstore : store = .absent := Store.afterAll_of_quiet hquiet
      rw [hstore]
      rfl
    · exact absurd hlast (hnone change)
  · intro later
    rw [Store.afterAll_append, Store.afterAll_append]
    rfl
  · intro c saved hsaved later hquiet
    rw [Store.afterAll_append, Store.afterAll_cons, Store.after_of_save_ok hsaved,
      Store.afterAll_of_quiet hquiet]
    exact Store.load_of_save hsaved
  · intro c e hfailed later
    rw [Store.afterAll_append, Store.afterAll_append, Store.afterAll_cons,
      Store.after_of_not_changes (Store.not_changes_of_save_error hfailed)]

/-- A save that fails is not made up for when the file can be written again. -/
example : (Store.absent.afterAll
    [.blockParent, .save (.forNetwork .akira), .makeDirectory, .remove]).load = .ok .standard := rfl

end LedgerClient
