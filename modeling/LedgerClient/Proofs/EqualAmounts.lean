import LedgerClient.Proofs.RoundTrip
import Mathlib.Algebra.Order.Field.Basic
import Mathlib.Tactic.NormNum

/-!
# Amounts of one number

One number has many amounts: there may be more zeros at the end of the digits or fewer, and zero has
two signs. What an amount comes to is decided by its number alone. Two amounts of one number come to one
balance, or both are refused, for the same reason; all that a refusal keeps of the amount is its text.
The balances stand in the order of the numbers, and the display amount of a balance is again an amount
of the number that it came from.

## What is proved

* `Balance.Converts.congr`: amounts of one number come to the same, but for the text of a refusal.
* `Balance.value_lt_value_iff`: balances are ordered as their numbers.
* `ofTao_by_value`: what this comes to for amounts.
-/

namespace LedgerClient

/-- The same refusal, of an amount with another text. -/
def BalanceError.about (amount : String) : BalanceError → BalanceError
  | .negative _ => .negative amount
  | .tooPrecise _ => .tooPrecise amount
  | .overflow _ => .overflow amount
  | .malformed _ => .malformed amount

namespace Balance

variable {d d' : Decimal} {b b' : Balance}

/-- What an amount comes to, another one of the same number comes to as well. -/
theorem Converts.congr {result : Except BalanceError Balance} (h : Converts d result)
    (hvalue : d'.value = d.value) : Converts d' (result.mapError (.about d'.text)) := by
  cases h with
  | exact b hb => exact .exact b (hvalue.trans hb)
  | negative hneg => exact .negative (hvalue ▸ hneg)
  | tooPrecise hpos hnot => exact .tooPrecise (hvalue ▸ hpos) fun rao => hvalue ▸ hnot rao
  | overflow rao hrao hsize => exact .overflow rao (hvalue.trans hrao) hsize

theorem ofTao_congr (hvalue : d'.value = d.value) :
    ofTao d' = (ofTao d).mapError (.about d'.text) :=
  ofTao_eq_iff.mpr ((converts_ofTao d).congr hvalue)

/-- An amount is converted to the balance of its number, and to nothing else. -/
theorem ofTao_eq_ok_iff : ofTao d = .ok b ↔ d.value = b.value := ofTao_eq_iff.trans converts_ok_iff

/-- Some balance is converted to when the amount is a number of rao in range. -/
theorem exists_ofTao_eq_ok_iff {rao : ℕ} :
    (∃ b, ofTao d = .ok b ∧ b.rao.toNat = rao) ↔
      0 ≤ d.value ∧ d.value = rao / 10 ^ taoDecimals ∧ rao < UInt64.size := by
  constructor
  · rintro ⟨b, hb, rfl⟩
    have hvalue : d.value = b.rao.toNat / 10 ^ taoDecimals := ofTao_eq_ok_iff.mp hb
    exact ⟨hvalue ▸ value_nonneg _, hvalue, b.rao.toNat_lt⟩
  · rintro ⟨-, hvalue, hsize⟩
    have hrao : (UInt64.ofNat rao).toNat = rao := UInt64.toNat_ofNat_of_lt' hsize
    refine ⟨⟨UInt64.ofNat rao⟩, ofTao_eq_ok_iff.mpr ?_, hrao⟩
    rw [hvalue, value, hrao]

theorem value_lt_value_iff : b.value < b'.value ↔ b.rao < b'.rao := by
  have htao : (0 : ℚ) < 10 ^ taoDecimals := by positivity
  rw [value, value, div_lt_div_iff_of_pos_right htao, Nat.cast_lt, UInt64.lt_iff_toNat_lt]

/-- **What an amount comes to is decided by its number.** It comes to a number of rao exactly when it is
this number, not below zero, and in range. Amounts of one number come to the same balance or to the same
refusal, which differs in the text of the amount only. Of two amounts that come to balances the lower
one comes to the lower balance. The display amount of the balance is the number of the amount. -/
theorem ofTao_by_value (d : Decimal) :
    (∀ rao : ℕ, (∃ b, ofTao d = .ok b ∧ b.rao.toNat = rao) ↔
      0 ≤ d.value ∧ d.value = rao / 10 ^ taoDecimals ∧ rao < UInt64.size) ∧
    (∀ d', d'.value = d.value → ofTao d' = (ofTao d).mapError (.about d'.text)) ∧
    (∀ b d' b', ofTao d = .ok b → ofTao d' = .ok b' → (d.value < d'.value ↔ b.rao < b'.rao)) ∧
    (∀ b, ofTao d = .ok b → b.toTao.value = d.value) := by
  refine ⟨fun rao => exists_ofTao_eq_ok_iff, fun d' => ofTao_congr, ?_, ?_⟩
  · intro b d' b' hb hb'
    rw [ofTao_eq_ok_iff.mp hb, ofTao_eq_ok_iff.mp hb', value_lt_value_iff]
  · intro b hb
    rw [value_toTao, ofTao_eq_ok_iff.mp hb]

/-- An amount below zero. -/
def minusHalf : Decimal := ⟨true, 5, 1, by decide, by decide⟩

/-- The same number, with a zero at the end. -/
def minusHalfInFull : Decimal := ⟨true, 50, 2, by decide, by decide⟩

/-- Zero with the sign below zero. -/
def minusZero : Decimal := (toTao zero).negated

/-- A zero at the end shows in the text of the refusal and nowhere else. Zero is no amount below zero,
whatever its sign, and its balance is below all others. -/
theorem ofTao_by_value_of_signs :
    minusHalfInFull.value = minusHalf.value ∧
    ofTao minusHalf = .error (.negative "-0.5") ∧
    ofTao minusHalfInFull = .error (.negative "-0.50") ∧
    ofTao minusZero = .ok zero ∧ (toTao zero).value = minusZero.value ∧
    ofTao (toTao ⟨1⟩) = .ok ⟨1⟩ ∧ minusZero.value < (toTao ⟨1⟩).value := by
  have hvalue : minusHalfInFull.value = minusHalf.value := by
    norm_num [Decimal.value, minusHalf, minusHalfInFull]
  have hzero : ofTao minusZero = .ok zero := by decide
  have hone : ofTao (toTao ⟨1⟩) = .ok ⟨1⟩ := by decide
  obtain ⟨-, hforms, -, -⟩ := ofTao_by_value minusHalf
  obtain ⟨-, -, horder, hback⟩ := ofTao_by_value minusZero
  refine ⟨hvalue, by decide, hforms _ hvalue, hzero, hback _ hzero, hone, ?_⟩
  exact (horder _ _ _ hzero hone).mpr (by decide)

end Balance

end LedgerClient
