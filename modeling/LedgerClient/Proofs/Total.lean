import LedgerClient.Balance
import Mathlib.Algebra.GroupWithZero.Nat
import Mathlib.Data.List.Basic

/-!
# Sums of balances

A list of balances is added up from its first one on, and the sum is given up as soon as it is out of
range. What comes out is nevertheless a matter of the whole list alone: the sum of all the amounts, where
this is below `2 ^ 64`, and nothing else. No beginning of a list has more than the whole of it, so nothing
is given up too early; and what is added up to start with, or in how many parts, makes no difference.

## What is proved

* `add?_eq_some_iff`: two balances are added exactly, or not at all.
* `foldlM_add?_eq_some_iff`: so is a list to a balance, by induction along the list.
* `sum?_eq_some_iff`, `sum?_eq_none_iff`: the sum of a list is its total, if a balance can hold it.
* `sum?_append`: the sums of two parts are added up to the sum of the whole.
* `sum_is_exact`: the rule in one statement.
-/

namespace LedgerClient.Balance

/-- The amounts of a list, added up without any bound. -/
def total (balances : List Balance) : Nat := (balances.map fun b => b.rao.toNat).sum

variable {a b c : Balance} {xs ys : List Balance}

@[simp] theorem total_nil : total [] = 0 := rfl

@[simp] theorem total_cons (b : Balance) (xs : List Balance) :
    total (b :: xs) = b.rao.toNat + total xs := by
  rw [total, List.map_cons, List.sum_cons, total]

theorem total_append (xs ys : List Balance) : total (xs ++ ys) = total xs + total ys := by
  rw [total, List.map_append, List.sum_append, total, total]

theorem total_perm (h : xs.Perm ys) : total xs = total ys := (h.map _).sum_nat

/-- Balances are equal when their amounts are. -/
theorem eq_of_toNat_eq (h : a.rao.toNat = b.rao.toNat) : a = b := by
  cases a
  cases b
  exact congrArg mk (UInt64.toNat_inj.mp h)

/-- There is a balance of every amount in range. -/
theorem exists_toNat_eq {n : Nat} (h : n < UInt64.size) : ∃ b : Balance, b.rao.toNat = n :=
  ⟨⟨.ofNat n⟩, UInt64.toNat_ofNat_of_lt' h⟩

/-! ### Two balances -/

/-- Two balances are added when there is a balance of both amounts together. -/
theorem add?_eq_some_iff : a.add? b = some c ↔ c.rao.toNat = a.rao.toNat + b.rao.toNat := by
  rw [add?]
  split
  · next hlt =>
    have hsum : (a.rao + b.rao).toNat = a.rao.toNat + b.rao.toNat := by
      rw [UInt64.toNat_add]
      exact Nat.mod_eq_of_lt hlt
    constructor
    · intro h
      cases h
      exact hsum
    · intro h
      exact congrArg some (eq_of_toNat_eq (hsum.trans h.symm))
  · next hge =>
    constructor
    · intro h
      cases h
    · intro h
      exact absurd (h ▸ c.rao.toNat_lt) hge

/-! ### Lists -/

/-- A list is added to a balance when there is a balance of all the amounts together. -/
theorem foldlM_add?_eq_some_iff :
    xs.foldlM add? a = some c ↔ c.rao.toNat = a.rao.toNat + total xs := by
  induction xs generalizing a with
  | nil =>
    rw [List.foldlM_nil, total_nil, Nat.add_zero]
    constructor
    · intro h
      cases h
      rfl
    · intro h
      exact congrArg some (eq_of_toNat_eq h.symm)
  | cons b xs ih =>
    rw [List.foldlM_cons, total_cons]
    simp only [Option.bind_eq_bind, Option.bind_eq_some_iff, add?_eq_some_iff, ih]
    constructor
    · rintro ⟨d, hd, hc⟩
      omega
    · intro hc
      -- What is added up so far has no more than the whole, which is in range.
      have hlt : a.rao.toNat + b.rao.toNat < UInt64.size := by
        have hc_lt : c.rao.toNat < UInt64.size := c.rao.toNat_lt
        omega
      obtain ⟨d, hd⟩ := exists_toNat_eq hlt
      exact ⟨d, hd, by omega⟩

/-- The sum of a list is the balance of all its amounts together. -/
theorem sum?_eq_some_iff : sum? xs = some c ↔ c.rao.toNat = total xs := by
  rw [sum?, foldlM_add?_eq_some_iff]
  have hzero : zero.rao.toNat = 0 := rfl
  rw [hzero, Nat.zero_add]

theorem sum?_eq_none_iff : sum? xs = none ↔ UInt64.size ≤ total xs := by
  constructor
  · intro h
    by_contra hlt
    obtain ⟨c, hc⟩ := exists_toNat_eq (Nat.lt_of_not_le hlt)
    have hsum : sum? xs = some c := sum?_eq_some_iff.mpr hc
    rw [h] at hsum
    cases hsum
  · intro hge
    rw [Option.eq_none_iff_forall_ne_some]
    intro c hc
    have hlt : c.rao.toNat < UInt64.size := c.rao.toNat_lt
    rw [sum?_eq_some_iff] at hc
    omega

/-- Lists of the same total have the same sum, or both have none. -/
theorem sum?_congr (h : total xs = total ys) : sum? xs = sum? ys := by
  apply Option.ext
  intro c
  rw [sum?_eq_some_iff, sum?_eq_some_iff, h]

/-- The sums of two parts are added up to the sum of the whole. -/
theorem sum?_append (xs ys : List Balance) :
    sum? (xs ++ ys) = (sum? xs).bind fun a => (sum? ys).bind fun b => a.add? b := by
  apply Option.ext
  intro c
  simp only [Option.bind_eq_some_iff, sum?_eq_some_iff, add?_eq_some_iff, total_append]
  constructor
  · intro hc
    have hlt : c.rao.toNat < UInt64.size := c.rao.toNat_lt
    obtain ⟨a, ha⟩ := exists_toNat_eq (n := total xs) (by omega)
    obtain ⟨b, hb⟩ := exists_toNat_eq (n := total ys) (by omega)
    exact ⟨a, ha, b, hb, by rw [ha, hb, hc]⟩
  · rintro ⟨a, ha, b, hb, hc⟩
    rw [hc, ha, hb]

/-- **Sums are exact.** The sum of a list is the balance of all its amounts together, and there is one
exactly when they are below `2 ^ 64` together. So it is the same in every order of the list, and
it is what the sums of any two parts of the list come to, also where there is none. -/
theorem sum_is_exact :
    (∀ xs b, sum? xs = some b ↔ total xs < UInt64.size ∧ b.rao.toNat = total xs) ∧
    (∀ xs, (∃ b, sum? xs = some b) ↔ total xs < UInt64.size) ∧
    (∀ xs ys, xs.Perm ys → sum? xs = sum? ys) ∧
    (∀ xs ys, ((sum? xs).bind fun a => (sum? ys).bind fun b => a.add? b) = sum? (xs ++ ys)) := by
  refine ⟨fun xs b => ?_, fun xs => ?_, fun xs ys h => ?_, fun xs ys => ?_⟩
  · rw [sum?_eq_some_iff]
    constructor
    · intro hb
      exact ⟨hb ▸ b.rao.toNat_lt, hb⟩
    · intro h
      exact h.2
  · rw [← Option.ne_none_iff_exists', Ne, sum?_eq_none_iff, Nat.not_le]
  · exact sum?_congr (total_perm h)
  · exact (sum?_append xs ys).symm

/-- Amounts that come to the largest balance. -/
def brim : List Balance := [⟨18446744073709551610⟩, ⟨3⟩, ⟨2⟩]

/-- They have a sum, from either end, and with one rao more they have none, from either end. -/
theorem sum_is_exact_of_brim :
    brim.Perm brim.reverse ∧ sum? brim = sum? brim.reverse ∧
      sum? brim = some ⟨18446744073709551615⟩ ∧
      (⟨1⟩ :: brim).Perm (brim ++ [⟨1⟩]) ∧ sum? (⟨1⟩ :: brim) = sum? (brim ++ [⟨1⟩]) ∧
      sum? (brim ++ [⟨1⟩]) = none := by
  obtain ⟨hsum, hsome, hperm, -⟩ := sum_is_exact
  have hbrim : brim.Perm brim.reverse := (List.reverse_perm brim).symm
  have hmore : ((⟨1⟩ : Balance) :: brim).Perm (brim ++ [⟨1⟩]) :=
    (List.perm_append_singleton ⟨1⟩ brim).symm
  have hnone : sum? (brim ++ [⟨1⟩]) = none := by
    rw [Option.eq_none_iff_forall_ne_some]
    intro b hb
    exact absurd ((hsome _).mp ⟨b, hb⟩) (by decide)
  exact ⟨hbrim, hperm _ _ hbrim, (hsum _ _).mpr ⟨by decide, by decide⟩, hmore, hperm _ _ hmore,
    hnone⟩

end LedgerClient.Balance
