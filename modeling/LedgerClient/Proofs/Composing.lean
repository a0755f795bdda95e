import LedgerClient.Call
import Mathlib.Data.List.Nodup
import Mathlib.Data.List.Perm.Basic

/-!
# Composing calls

A call is composed of named values. They may be given in any order, but each parameter of the call has
to be given once, and nothing else may be given. What comes out holds the values in the order of the
parameters, so that it does not depend on the order in which they were given.

## The model

The values are matched with the parameters one parameter after the other, and each match takes a value
out of a list in which the last value then fills the gap. So the order of what is left changes with
every step. What does not change is what the matched and the remaining values are together, up to
order: `arrange_cases` carries this through the match, and with it that the remaining names decide as
the given ones do about the parameters that are still to come.

`Call.Refused module function given e` says without the match what is wrong with an input that is not
accepted, and by which error it is refused; of several faults the first one counts.

## What is proved

* `Call.compose_eq_ok_iff`, `Call.compose_eq_error_iff`: what is composed, and what is refused.
* `compose_accepts_permutations`: the rule in one statement.
-/

namespace LedgerClient

/-! ### Known calls -/

namespace CallKind

/-- No two known calls have module and function in common. -/
theorem find?_eq_some_iff {module function : String} {kind : CallKind} :
    find? module function = some kind ↔ kind.module = module ∧ kind.function = function := by
  constructor
  · intro h
    have hfound := List.find?_some h
    rw [Bool.and_eq_true, beq_iff_eq, beq_iff_eq] at hfound
    exact hfound
  · rintro ⟨rfl, rfl⟩
    cases kind <;> decide

theorem find?_eq_none_iff {module function : String} :
    find? module function = none ↔
      ∀ kind : CallKind, ¬ (kind.module = module ∧ kind.function = function) := by
  simp only [← find?_eq_some_iff, Option.eq_none_iff_forall_ne_some, ne_eq]

theorem nodup_params (kind : CallKind) : kind.params.Nodup := by cases kind <;> decide

end CallKind

/-! ### The first of several items -/

/-- `First P items a`: the item `a` is the first one with the property `P`. -/
def First {α : Type} (P : α → Prop) (items : List α) (a : α) : Prop :=
  P a ∧ ∃ before after, items = before ++ a :: after ∧ ∀ b ∈ before, ¬ P b

section First

variable {α : Type} {P : α → Prop} {items : List α} {a b : α}

theorem First.mem (h : First P items a) : a ∈ items := by
  obtain ⟨-, before, after, rfl, -⟩ := h
  exact List.mem_append_right before List.mem_cons_self

theorem First.head (h : P a) : First P (a :: items) a := ⟨h, [], items, rfl, by simp⟩

theorem First.cons (hb : ¬ P b) (h : First P items a) : First P (b :: items) a := by
  obtain ⟨ha, before, after, rfl, hbefore⟩ := h
  exact ⟨ha, b :: before, after, rfl, List.forall_mem_cons.mpr ⟨hb, hbefore⟩⟩

theorem First.congr {Q : α → Prop} (hPQ : ∀ b ∈ items, P b ↔ Q b) (h : First P items a) :
    First Q items a := by
  obtain ⟨ha, before, after, rfl, hbefore⟩ := h
  refine ⟨(hPQ a (by simp)).mp ha, before, after, rfl, fun b hb => ?_⟩
  exact mt (hPQ b (List.mem_append_left _ hb)).mpr (hbefore b hb)

/-- The first item with a property is the one that a search for it finds. -/
theorem first_iff_find? [DecidablePred P] :
    First P items a ↔ items.find? (fun b => decide (P b)) = some a := by
  simp [First, List.find?_eq_some_iff_append]

theorem exists_first_or (P : α → Prop) (items : List α) :
    (∃ a, First P items a) ∨ ∀ b ∈ items, ¬ P b := by
  classical
  cases h : items.find? (fun b => decide (P b)) with
  | some a => exact .inl ⟨a, first_iff_find?.mpr h⟩
  | none => exact .inr fun b hb => by simpa using List.find?_eq_none.mp h b hb

end First

namespace Call

/-! ### Taking values out -/

section TakeOut

variable {fields rest : List (String × Value)} {name : String} {v : Value}

/-- The field that is removed and those that are left are what there was. -/
theorem cons_removeAt_perm {i : Nat} (h : i < fields.length) :
    (fields[i] :: removeAt fields i).Perm fields := by
  rcases List.eq_nil_or_concat' fields with rfl | ⟨init, last, rfl⟩
  · cases h
  · have hremove : removeAt (init ++ [last]) i = init.set i last := by simp [removeAt]
    rw [hremove]
    by_cases hi : i < init.length
    · rw [List.getElem_append_left hi]
      calc
        (init[i] :: init.set i last).Perm (init[i] :: last :: init.eraseIdx i) :=
          (List.set_perm_cons_eraseIdx hi last).cons _
        List.Perm _ (last :: init[i] :: init.eraseIdx i) := .swap ..
        List.Perm _ (last :: init) := (List.getElem_cons_eraseIdx_perm hi).cons _
        List.Perm _ (init ++ [last]) := (List.perm_append_singleton last init).symm
    · have hlength : i = init.length := by
        rw [List.length_append, List.length_singleton] at h
        omega
      subst hlength
      rw [List.set_eq_of_length_le (Nat.le_refl _), List.getElem_concat_length rfl]
      exact (List.perm_append_singleton last init).symm

theorem takeOut?_eq_none_iff : takeOut? name fields = none ↔ name ∉ fields.map Prod.fst := by
  rw [takeOut?]
  split
  · next h =>
    refine iff_of_true rfl fun hmem => ?_
    obtain ⟨f, hf, hname⟩ := List.mem_map.mp hmem
    exact List.findFinIdx?_eq_none_iff.mp h f hf (beq_iff_eq.mpr hname)
  · next i h =>
    simp only [reduceCtorEq, false_iff, Classical.not_not]
    obtain ⟨hname, -⟩ := List.findFinIdx?_eq_some_iff.mp h
    exact List.mem_map.mpr ⟨fields[i], List.getElem_mem _, beq_iff_eq.mp hname⟩

/-- What is taken out and what is left are what there was. -/
theorem perm_of_takeOut? (h : takeOut? name fields = some (v, rest)) :
    ((name, v) :: rest).Perm fields := by
  rw [takeOut?] at h
  split at h
  · cases h
  · next i hi =>
    cases h
    obtain ⟨hname, -⟩ := List.findFinIdx?_eq_some_iff.mp hi
    obtain rfl : fields[i].1 = name := beq_iff_eq.mp hname
    exact cons_removeAt_perm i.isLt

end TakeOut

/-! ### Matching values with parameters -/

/-- Matching fails at the first parameter that is not given. If all are given it succeeds, and what is
arranged and what is left are what was given. -/
theorem arrange_cases (missing : String → Error) {params : List String} (hparams : params.Nodup)
    (given : List (String × Value)) :
    (∃ p, First (· ∉ given.map Prod.fst) params p ∧
      arrange missing params given = .error (missing p)) ∨
    ((∀ p ∈ params, p ∈ given.map Prod.fst) ∧ ∃ fields left,
      arrange missing params given = .ok (fields, left) ∧ (fields.val ++ left).Perm given) := by
  induction params generalizing given with
  | nil => exact .inr ⟨by simp, ⟨[], rfl⟩, given, rfl, .refl given⟩
  | cons p ps ih =>
    obtain ⟨hp, hps⟩ := List.nodup_cons.mp hparams
    cases htake : takeOut? p given with
    | none =>
      have hmissing : p ∉ given.map Prod.fst := takeOut?_eq_none_iff.mp htake
      exact .inl ⟨p, .head hmissing, by rw [arrange, htake]⟩
    | some taken =>
      obtain ⟨v, rest⟩ := taken
      have hperm : ((p, v) :: rest).Perm given := perm_of_takeOut? htake
      have hnames : ∀ q, q ∈ given.map Prod.fst ↔ q = p ∨ q ∈ rest.map Prod.fst := fun q => by
        rw [← (hperm.map Prod.fst).mem_iff, List.map_cons, List.mem_cons]
      rcases ih hps rest with ⟨q, hfirst, hrest⟩ | ⟨hall, fields, left, hrest, hleft⟩
      · have harrange : arrange missing (p :: ps) given = .error (missing q) := by
          rw [arrange, htake]
          dsimp only
          rw [hrest]
        refine .inl ⟨q, ?_, harrange⟩
        -- the names that are left decide about the other parameters as the given ones do
        have hgiven : ∀ r ∈ ps, r ∉ rest.map Prod.fst ↔ r ∉ given.map Prod.fst := by
          intro r hr
          have hne : r ≠ p := fun heq => hp (heq ▸ hr)
          rw [hnames, or_iff_right hne]
        have hin : p ∈ given.map Prod.fst := (hnames p).mpr (.inl rfl)
        exact (hfirst.congr hgiven).cons (not_not_intro hin)
      · refine .inr ⟨?_, ⟨(p, v) :: fields.val, by simp [fields.property]⟩, left, ?_, ?_⟩
        · refine List.forall_mem_cons.mpr ⟨(hnames p).mpr (.inl rfl), fun q hq => ?_⟩
          exact (hnames q).mpr (.inr (hall q hq))
        · rw [arrange, htake]
          dsimp only
          rw [hrest]
        · exact (hleft.cons (p, v)).trans hperm

/-! ### Composing -/

/-- Two lists of fields that are the same up to order are the same if they have the same different
names in the same order. -/
theorem eq_of_perm_of_names {fields other : List (String × Value)}
    (hnames : fields.map Prod.fst = other.map Prod.fst) (hnodup : (other.map Prod.fst).Nodup)
    (h : fields.Perm other) : fields = other := by
  refine List.ext_getElem h.length_eq fun i hi ho => ?_
  have hname : fields[i].1 = other[i].1 := by
    rw [← List.getElem_map Prod.fst (h := by simpa using hi), List.getElem_of_eq hnames,
      List.getElem_map]
  exact List.inj_on_of_nodup_map hnodup (h.mem_iff.mp (List.getElem_mem hi)) (List.getElem_mem ho)
    hname

/-- `Refused module function given e`: no call of the module and function is composed of the given
values, and the error says why. -/
inductive Refused (module function : String) (given : List (String × Value)) : Error → Prop where
  /-- There is no such call. -/
  | unknown : (∀ kind : CallKind, ¬ (kind.module = module ∧ kind.function = function)) →
      Refused module function given (.noSuchCall module function)
  /-- A value is given for what is no parameter of the call. -/
  | extra {kind : CallKind} {name : String} : kind.module = module → kind.function = function →
      First (· ∉ kind.params) (given.map Prod.fst) name →
      Refused module function given (.invalidArgument (.noParameter module function name))
  /-- No value is given for a parameter. -/
  | missing {kind : CallKind} {name : String} : kind.module = module → kind.function = function →
      (∀ n ∈ given.map Prod.fst, n ∈ kind.params) → First (· ∉ given.map Prod.fst) kind.params name →
      Refused module function given (.invalidArgument (.missingParameter module function name))
  /-- Several values are given for a parameter. -/
  | repeated {kind : CallKind} : kind.module = module → kind.function = function →
      (∀ n ∈ given.map Prod.fst, n ∈ kind.params) → (∀ p ∈ kind.params, p ∈ given.map Prod.fst) →
      ¬ (given.map Prod.fst).Nodup →
      Refused module function given (.invalidArgument (.repeatedParameter module function))

section Compose

variable {module function : String} {given : List (String × Value)} {kind : CallKind}

/-- When all names are parameters, composing is matching. -/
theorem compose_of_subset (hkind : CallKind.find? module function = some kind)
    (hnames : ∀ name ∈ given.map Prod.fst, name ∈ kind.params) :
    compose module function given =
      arrange (fun p => .invalidArgument (.missingParameter module function p)) kind.params given >>=
        ofArranged kind (.invalidArgument (.repeatedParameter module function)) := by
  have hfind : given.find? (fun f => !kind.params.contains f.1) = none := by
    rw [List.find?_eq_none]
    intro f hf
    simpa using hnames f.1 (List.mem_map_of_mem hf)
  rw [compose, hkind]
  dsimp only
  rw [hfind]

/-- Values whose names are the parameters in some order are composed. -/
theorem exists_compose_of_perm (hkind : CallKind.find? module function = some kind)
    (h : (given.map Prod.fst).Perm kind.params) :
    ∃ fields names, compose module function given = .ok ⟨kind, fields, names⟩ ∧
      fields.Perm given := by
  rw [compose_of_subset hkind fun _ hname => h.mem_iff.mp hname]
  rcases arrange_cases (fun p => .invalidArgument (.missingParameter module function p))
    kind.nodup_params given with ⟨p, hfirst, -⟩ | ⟨-, fields, left, harrange, hleft⟩
  · exact absurd (h.mem_iff.mpr hfirst.mem) hfirst.1
  · have hlength : fields.val.length = given.length := by
      rw [← List.length_map (f := Prod.fst), fields.property, ← h.length_eq, List.length_map]
    obtain rfl : left = [] := by
      have hboth := hleft.length_eq
      rw [List.length_append] at hboth
      exact List.length_eq_zero_iff.mp (by omega)
    rw [harrange]
    exact ⟨fields.val, fields.property, rfl, by simpa using hleft⟩

/-- Values that are refused are not composed. -/
theorem Refused.compose_eq {e : Error} (h : Refused module function given e) :
    compose module function given = .error e := by
  cases h with
  | unknown hkind => rw [compose, CallKind.find?_eq_none_iff.mpr hkind]
  | @extra kind name hm hf hfirst =>
    have hfind := first_iff_find?.mp hfirst
    rw [List.find?_map, Option.map_eq_some_iff] at hfind
    obtain ⟨f, hfind, rfl⟩ := hfind
    have hextra : given.find? (fun f => !kind.params.contains f.1) = some f := by
      simpa [Function.comp_def] using hfind
    rw [compose, CallKind.find?_eq_some_iff.mpr ⟨hm, hf⟩]
    dsimp only
    rw [hextra]
  | @missing kind name hm hf hsub hfirst =>
    rw [compose_of_subset (CallKind.find?_eq_some_iff.mpr ⟨hm, hf⟩) hsub]
    rcases arrange_cases (fun p => .invalidArgument (.missingParameter module function p))
      kind.nodup_params given with ⟨p, hp, harrange⟩ | ⟨hall, -⟩
    · obtain rfl : p = name := by
        rw [← Option.some.injEq, ← first_iff_find?.mp hp, first_iff_find?.mp hfirst]
      rw [harrange]
      rfl
    · exact absurd (hall name hfirst.mem) hfirst.1
  | @repeated kind hm hf hsub hsup hrepeat =>
    rw [compose_of_subset (CallKind.find?_eq_some_iff.mpr ⟨hm, hf⟩) hsub]
    rcases arrange_cases (fun p => .invalidArgument (.missingParameter module function p))
      kind.nodup_params given with ⟨p, hp, -⟩ | ⟨-, fields, left, harrange, hleft⟩
    · exact absurd (hsup p hp.mem) hp.1
    · have hne : left ≠ [] := by
        rintro rfl
        rw [List.append_nil] at hleft
        refine hrepeat ((hleft.map Prod.fst).nodup_iff.mp ?_)
        rw [fields.property]
        exact kind.nodup_params
      rw [harrange]
      exact if_neg (by simpa using hne)

/-- The names that are given are the parameters of a known call in some order, or else something is
wrong. -/
theorem perm_or_refused (module function : String) (given : List (String × Value)) :
    (∃ kind, CallKind.find? module function = some kind ∧
      (given.map Prod.fst).Perm kind.params) ∨ ∃ e, Refused module function given e := by
  cases hkind : CallKind.find? module function with
  | none => exact .inr ⟨_, .unknown (CallKind.find?_eq_none_iff.mp hkind)⟩
  | some kind =>
    obtain ⟨hm, hf⟩ := CallKind.find?_eq_some_iff.mp hkind
    rcases exists_first_or (· ∉ kind.params) (given.map Prod.fst) with ⟨name, hextra⟩ | hsub
    · exact .inr ⟨_, .extra hm hf hextra⟩
    simp only [Classical.not_not] at hsub
    rcases exists_first_or (· ∉ given.map Prod.fst) kind.params with ⟨name, hmissing⟩ | hsup
    · exact .inr ⟨_, .missing hm hf hsub hmissing⟩
    simp only [Classical.not_not] at hsup
    by_cases hnodup : (given.map Prod.fst).Nodup
    · refine .inl ⟨kind, rfl, (List.perm_ext_iff_of_nodup hnodup kind.nodup_params).mpr ?_⟩
      exact fun name => ⟨hsub name, hsup name⟩
    · exact .inr ⟨_, .repeated hm hf hsub hsup hnodup⟩

/-- A call is composed of its own fields in any order, and of nothing else. -/
theorem compose_eq_ok_iff {call : Call} :
    compose module function given = .ok call ↔
      (call.kind.module = module ∧ call.kind.function = function) ∧ call.fields.Perm given := by
  constructor
  · intro h
    rcases perm_or_refused module function given with ⟨kind, hkind, hperm⟩ | ⟨e, he⟩
    · obtain ⟨fields, names, hcompose, hfields⟩ := exists_compose_of_perm hkind hperm
      cases hcompose.symm.trans h
      exact ⟨CallKind.find?_eq_some_iff.mp hkind, hfields⟩
    · cases he.compose_eq.symm.trans h
  · rintro ⟨hkind, hperm⟩
    have hparams : (given.map Prod.fst).Perm call.kind.params := by
      rw [← call.names_eq]
      exact (hperm.map Prod.fst).symm
    obtain ⟨fields, names, hcompose, hfields⟩ :=
      exists_compose_of_perm (CallKind.find?_eq_some_iff.mpr hkind) hparams
    have hnodup : (call.fields.map Prod.fst).Nodup := call.names_eq ▸ call.kind.nodup_params
    obtain rfl : fields = call.fields :=
      eq_of_perm_of_names (names.trans call.names_eq.symm) hnodup (hfields.trans hperm.symm)
    exact hcompose

/-- What is not composed is refused, with the error that says why. -/
theorem compose_eq_error_iff {e : Error} :
    compose module function given = .error e ↔ Refused module function given e := by
  refine ⟨fun h => ?_, Refused.compose_eq⟩
  rcases perm_or_refused module function given with ⟨kind, hkind, hperm⟩ | ⟨e', he⟩
  · obtain ⟨fields, names, hcompose, -⟩ := exists_compose_of_perm hkind hperm
    cases hcompose.symm.trans h
  · cases he.compose_eq.symm.trans h
    exact he

end Compose

end Call

/-- **Composing accepts the permutations of a known call's parameters, and nothing else.** It succeeds
when the call is known and the given names are its parameters in some order, each of them once. Then
the fields are the parameters in their own order, each with the value that was given under its name, so
that every other order of the same values gives the same call. Otherwise it fails: because the call is
not known; else because of the first given name that is no parameter; else because of the first
parameter that is not given; else because a parameter is given more than once. -/
theorem compose_accepts_permutations (module function : String) (given : List (String × Value)) :
    ((∃ call, Call.compose module function given = .ok call) ↔
      ∃ kind ∈ CallKind.all, kind.module = module ∧ kind.function = function ∧
        (given.map Prod.fst).Perm kind.params) ∧
    (∀ call, Call.compose module function given = .ok call →
      (call.kind.module = module ∧ call.kind.function = function ∧
        call.fields.map Prod.fst = call.kind.params ∧
        ∀ name v, (name, v) ∈ call.fields ↔ (name, v) ∈ given) ∧
      ∀ other, other.Perm given → Call.compose module function other = .ok call) ∧
    ∀ e, Call.compose module function given = .error e ↔ Call.Refused module function given e := by
  refine ⟨⟨?_, ?_⟩, fun call h => ?_, fun e => Call.compose_eq_error_iff⟩
  · rintro ⟨call, h⟩
    obtain ⟨⟨hm, hf⟩, hperm⟩ := Call.compose_eq_ok_iff.mp h
    refine ⟨call.kind, call.kind.mem_all, hm, hf, ?_⟩
    rw [← call.names_eq]
    exact (hperm.map Prod.fst).symm
  · rintro ⟨kind, -, hm, hf, hperm⟩
    obtain ⟨fields, names, hcompose, -⟩ :=
      Call.exists_compose_of_perm (CallKind.find?_eq_some_iff.mpr ⟨hm, hf⟩) hperm
    exact ⟨_, hcompose⟩
  · obtain ⟨⟨hm, hf⟩, hperm⟩ := Call.compose_eq_ok_iff.mp h
    refine ⟨⟨hm, hf, call.names_eq, fun name v => hperm.mem_iff⟩, fun other hother => ?_⟩
    exact Call.compose_eq_ok_iff.mpr ⟨⟨hm, hf⟩, hperm.trans hother.symm⟩

/-- The values of a call, given in their own order and in another one. -/
theorem compose_accepts_permutations_of_swapped :
    Call.compose "SubtensorModule" "remove_stake"
        [("hotkey", .ofNat 3), ("ammount_unstaked", .ofNat 10)] =
      .ok ⟨.removeStake, [("hotkey", .ofNat 3), ("ammount_unstaked", .ofNat 10)], rfl⟩ ∧
    [("ammount_unstaked", Value.ofNat 10), ("hotkey", .ofNat 3)].Perm
      [("hotkey", .ofNat 3), ("ammount_unstaked", .ofNat 10)] ∧
    Call.compose "SubtensorModule" "remove_stake"
        [("ammount_unstaked", .ofNat 10), ("hotkey", .ofNat 3)] =
      .ok ⟨.removeStake, [("hotkey", .ofNat 3), ("ammount_unstaked", .ofNat 10)], rfl⟩ :=
  ⟨rfl, .swap .., ((compose_accepts_permutations _ _ _).2.1 _ rfl).2 _ (.swap ..)⟩

/-- Of several faults the first one counts: a name that is no parameter before a parameter that is
missing and one that is given twice. -/
example (v w : Value) :
    Call.compose "Balances" "transfer" [("dest", v), ("tip", v), ("dest", w), ("fee", w)] =
      .error (.invalidArgument (.noParameter "Balances" "transfer" "tip")) := rfl

end LedgerClient
