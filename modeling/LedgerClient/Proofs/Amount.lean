import LedgerClient.Balance
import LedgerClient.Proofs.Numeral
import Mathlib.Algebra.Order.Field.Rat
import Mathlib.Tactic.Positivity

/-!
# What an amount comes to

An amount denotes a rational number of tao, and so does a balance. An amount is taken for the balance
that denotes the same number, if there is one, and is refused otherwise. So nothing is ever rounded,
and which of its forms an amount has makes no difference to its balance.

## The refusals

A text in which no amount is written is malformed. An amount is looked at in a fixed order: it is
below zero, or finer than one rao, or too large. So an amount that is too fine and too large as well is
refused as too fine. Zero counts as zero with either sign.

## What is proved

* `Balance.converts_ofTao`, `Balance.Converts.unique`: every amount comes to a balance or to one of the
  refusals, and to one of them only.
* `Balance.converts_ok_iff` and its siblings: what each of these results says of the number.
* `parse_exact`: what a text comes to.
-/

namespace LedgerClient

/-! ### Rational numbers -/

/-- The number of tao that an amount denotes. -/
def Decimal.value (d : Decimal) : ℚ := (if d.negative then -1 else 1) * d.mantissa / 10 ^ d.scale

/-- The number of tao that a balance denotes. -/
def Balance.value (b : Balance) : ℚ := b.rao.toNat / 10 ^ Balance.taoDecimals

namespace Decimal

theorem unit_pos (scale : Nat) : 0 < unit scale := Nat.pow_pos (by decide)

theorem cast_unit (scale : Nat) : (unit scale : ℚ) = 10 ^ scale := Nat.cast_pow 10 scale

theorem value_of_zero {d : Decimal} (h : d.mantissa = 0) : d.value = 0 := by
  rw [value, h, Nat.cast_zero, mul_zero, zero_div]

theorem value_of_negative {d : Decimal} (h : d.negative = true) :
    d.value = -(d.mantissa / unit d.scale) := by
  rw [value, if_pos h, cast_unit, neg_one_mul, neg_div]

theorem value_of_not_negative {d : Decimal} (h : ¬ d.negative = true) :
    d.value = d.mantissa / unit d.scale := by
  rw [value, if_neg h, cast_unit, one_mul]

end Decimal

namespace Balance

/-- A number of rao is a number of tao when the two mantissas, brought to the same scale, agree. -/
theorem div_unit_eq_iff (mantissa scale rao : Nat) :
    (mantissa / Decimal.unit scale : ℚ) = rao / 10 ^ taoDecimals ↔
      mantissa * Decimal.unit taoDecimals = rao * Decimal.unit scale := by
  have hscale : (Decimal.unit scale : ℚ) ≠ 0 := Nat.cast_ne_zero.mpr (Decimal.unit_pos scale).ne'
  have htao : (10 ^ taoDecimals : ℚ) ≠ 0 := by positivity
  rw [div_eq_div_iff hscale htao, ← Decimal.cast_unit]
  exact_mod_cast Iff.rfl

/-! ### From an amount to a balance -/

/-- `Converts d result`: what an amount comes to as a balance. -/
inductive Converts (d : Decimal) : Except BalanceError Balance → Prop where
  /-- The amount is the balance. -/
  | exact (b : Balance) : d.value = b.value → Converts d (.ok b)
  /-- The amount is below zero. -/
  | negative : d.value < 0 → Converts d (.error (.negative d.text))
  /-- The amount is no whole number of rao. -/
  | tooPrecise : 0 ≤ d.value → (∀ rao : ℕ, d.value ≠ rao / 10 ^ taoDecimals) →
      Converts d (.error (.tooPrecise d.text))
  /-- The amount is a whole number of rao that no balance has. -/
  | overflow (rao : ℕ) : d.value = rao / 10 ^ taoDecimals → UInt64.size ≤ rao →
      Converts d (.error (.overflow d.text))

theorem converts_ofTao (d : Decimal) : Converts d (ofTao d) := by
  rw [ofTao]
  by_cases hzero : d.mantissa = 0
  · rw [if_pos hzero]
    refine .exact _ ?_
    rw [Decimal.value_of_zero hzero, value]
    simp [zero]
  · rw [if_neg hzero]
    have hpos : (0 : ℚ) < d.mantissa / Decimal.unit d.scale :=
      div_pos (Nat.cast_pos.mpr (Nat.pos_of_ne_zero hzero))
        (Nat.cast_pos.mpr (Decimal.unit_pos d.scale))
    by_cases hneg : d.negative = true
    · rw [if_pos hneg]
      refine .negative ?_
      rw [Decimal.value_of_negative hneg]
      exact neg_neg_of_pos hpos
    · rw [if_neg hneg]
      have hvalue := Decimal.value_of_not_negative hneg
      have hwhole : ∀ rao : ℕ, d.value = rao / 10 ^ taoDecimals ↔
          d.mantissa * Decimal.unit taoDecimals = rao * Decimal.unit d.scale := fun rao => by
        rw [hvalue, div_unit_eq_iff]
      dsimp only
      by_cases hmod : d.mantissa * Decimal.unit taoDecimals % Decimal.unit d.scale = 0
      · rw [if_neg (not_not_intro hmod)]
        -- the quotient is the number of rao
        have hrao := (hwhole _).mpr (Nat.div_mul_cancel (Nat.dvd_of_mod_eq_zero hmod)).symm
        by_cases hsize :
            d.mantissa * Decimal.unit taoDecimals / Decimal.unit d.scale < UInt64.size
        · rw [if_pos hsize]
          refine .exact _ ?_
          rw [hrao, value, UInt64.toNat_ofNat', Nat.mod_eq_of_lt hsize]
        · rw [if_neg hsize]
          exact .overflow _ hrao (Nat.not_lt.mp hsize)
      · rw [if_pos hmod]
        refine .tooPrecise (hvalue ▸ hpos.le) fun rao hrao => hmod ?_
        rw [(hwhole rao).mp hrao]
        exact Nat.mul_mod_left ..

theorem value_nonneg (rao : ℕ) : (0 : ℚ) ≤ rao / 10 ^ taoDecimals := by positivity

theorem div_tao_inj {m n : ℕ} (h : (m / 10 ^ taoDecimals : ℚ) = n / 10 ^ taoDecimals) : m = n := by
  have htao : (10 ^ taoDecimals : ℚ) ≠ 0 := by positivity
  exact_mod_cast (div_left_inj' htao).mp h

/-- Balances that denote one number are one balance. -/
theorem value_injective {b b' : Balance} (h : b.value = b'.value) : b = b' := by
  have hrao : b.rao = b'.rao := UInt64.toNat_inj.mp (div_tao_inj h)
  cases b
  cases b'
  exact congrArg mk hrao

/-- A number of rao that some balance has is in range. -/
theorem lt_size_of_value {d : Decimal} {b : Balance} (hb : d.value = b.value) {rao : ℕ}
    (hrao : d.value = rao / 10 ^ taoDecimals) : rao < UInt64.size := by
  rw [← div_tao_inj (hb.symm.trans hrao)]
  exact b.rao.toNat_lt

/-- An amount comes to one thing only. -/
theorem Converts.unique {d : Decimal} {r r' : Except BalanceError Balance} (h : Converts d r)
    (h' : Converts d r') : r = r' := by
  cases h with
  | exact b hb =>
    cases h' with
    | exact b' hb' => rw [value_injective (hb.symm.trans hb')]
    | negative hneg => exact absurd (hb ▸ value_nonneg _) hneg.not_ge
    | tooPrecise _ hnot => exact absurd hb (hnot _)
    | overflow rao hrao hsize => exact absurd (lt_size_of_value hb hrao) hsize.not_gt
  | negative hneg =>
    cases h' with
    | exact b hb => exact absurd (hb ▸ value_nonneg _) hneg.not_ge
    | negative _ => rfl
    | tooPrecise hpos _ => exact absurd hpos hneg.not_ge
    | overflow rao hrao _ => exact absurd (hrao ▸ value_nonneg _) hneg.not_ge
  | tooPrecise hpos hnot =>
    cases h' with
    | exact b hb => exact absurd hb (hnot _)
    | negative hneg => exact absurd hpos hneg.not_ge
    | tooPrecise _ _ => rfl
    | overflow rao hrao _ => exact absurd hrao (hnot _)
  | overflow rao hrao hsize =>
    cases h' with
    | exact b hb => exact absurd (lt_size_of_value hb hrao) hsize.not_gt
    | negative hneg => exact absurd (hrao ▸ value_nonneg _) hneg.not_ge
    | tooPrecise _ hnot => exact absurd hrao (hnot _)
    | overflow _ _ _ => rfl

theorem ofTao_eq_iff {d : Decimal} {r : Except BalanceError Balance} :
    ofTao d = r ↔ Converts d r :=
  ⟨fun h => h ▸ converts_ofTao d, (converts_ofTao d).unique⟩

section Inversion

variable {d : Decimal} {text : String}

theorem converts_ok_iff {b : Balance} : Converts d (.ok b) ↔ d.value = b.value := by
  refine ⟨fun h => ?_, .exact b⟩
  cases h with
  | exact _ hvalue => exact hvalue

theorem converts_negative_iff :
    Converts d (.error (.negative text)) ↔ d.value < 0 ∧ text = d.text := by
  constructor
  · intro h
    cases h with
    | negative hneg => exact ⟨hneg, rfl⟩
  · rintro ⟨hneg, rfl⟩
    exact .negative hneg

theorem converts_tooPrecise_iff :
    Converts d (.error (.tooPrecise text)) ↔
      0 ≤ d.value ∧ (∀ rao : ℕ, d.value ≠ rao / 10 ^ taoDecimals) ∧ text = d.text := by
  constructor
  · intro h
    cases h with
    | tooPrecise hpos hnot => exact ⟨hpos, hnot, rfl⟩
  · rintro ⟨hpos, hnot, rfl⟩
    exact .tooPrecise hpos hnot

theorem converts_overflow_iff :
    Converts d (.error (.overflow text)) ↔
      (∃ rao : ℕ, d.value = rao / 10 ^ taoDecimals ∧ UInt64.size ≤ rao) ∧ text = d.text := by
  constructor
  · intro h
    cases h with
    | overflow rao hrao hsize => exact ⟨⟨rao, hrao, hsize⟩, rfl⟩
  · rintro ⟨⟨rao, hrao, hsize⟩, rfl⟩
    exact .overflow rao hrao hsize

theorem not_converts_malformed {detail : String} :
    ¬ Converts d (.error (.malformed detail)) := by
  rintro ⟨⟩

end Inversion

/-! ### From a text to a balance -/

section Text

variable {s : String} {d : Decimal}

/-- A text in which an amount is written comes to what the amount comes to. -/
theorem parse_of_written (h : Decimal.Written (bareDigits s) d) : parse s = ofTao d := by
  rw [parse, Decimal.read_eq_ok_iff.mpr h]

/-- A text in which no amount is written is malformed. -/
theorem parse_of_not_written (h : ¬ ∃ d, Decimal.Written (bareDigits s) d) :
    ∃ detail, parse s = .error (.malformed detail) := by
  rw [parse]
  cases hread : Decimal.read (bareDigits s) with
  | error fault => exact ⟨_, rfl⟩
  | ok d => exact absurd ⟨d, Decimal.read_eq_ok_iff.mp hread⟩ h

/-- A result that is no refusal of the text comes from the amount that is written. -/
theorem parse_eq_iff {r : Except BalanceError Balance}
    (hr : ∀ detail, r ≠ .error (.malformed detail)) :
    parse s = r ↔ ∃ d, Decimal.Written (bareDigits s) d ∧ Converts d r := by
  constructor
  · intro h
    by_cases hwritten : ∃ d, Decimal.Written (bareDigits s) d
    · obtain ⟨d, hd⟩ := hwritten
      rw [parse_of_written hd] at h
      exact ⟨d, hd, ofTao_eq_iff.mp h⟩
    · obtain ⟨detail, hparse⟩ := parse_of_not_written hwritten
      exact absurd (h.symm.trans hparse) (hr detail)
  · rintro ⟨d, hd, hresult⟩
    rw [parse_of_written hd]
    exact ofTao_eq_iff.mpr hresult

end Text

/-- **Reading a text is exact.** It gives the balance that denotes the same number as the amount
written in the text, blanks and a symbol taken off. It is malformed when no amount is written there,
and otherwise refused when the number is below zero, else when it is no whole number of rao, else when
it is too many; then the refusal shows the amount. -/
theorem parse_exact (s : String) :
    (∀ b, parse s = .ok b ↔ ∃ d, Decimal.Written (bareDigits s) d ∧ d.value = b.value) ∧
    ((∃ detail, parse s = .error (.malformed detail)) ↔
      ¬ ∃ d, Decimal.Written (bareDigits s) d) ∧
    (∀ text, parse s = .error (.negative text) ↔
      ∃ d, Decimal.Written (bareDigits s) d ∧ d.value < 0 ∧ text = d.text) ∧
    (∀ text, parse s = .error (.tooPrecise text) ↔
      ∃ d, Decimal.Written (bareDigits s) d ∧ 0 ≤ d.value ∧
        (∀ rao : ℕ, d.value ≠ rao / 10 ^ taoDecimals) ∧ text = d.text) ∧
    (∀ text, parse s = .error (.overflow text) ↔
      ∃ d, Decimal.Written (bareDigits s) d ∧
        (∃ rao : ℕ, d.value = rao / 10 ^ taoDecimals ∧ UInt64.size ≤ rao) ∧ text = d.text) := by
  refine ⟨fun b => ?_, ⟨?_, parse_of_not_written⟩, fun text => ?_, fun text => ?_, fun text => ?_⟩
  · simp only [← converts_ok_iff]
    exact parse_eq_iff fun detail h => by cases h
  · rintro ⟨detail, hparse⟩ ⟨d, hd⟩
    rw [parse_of_written hd, ofTao_eq_iff] at hparse
    exact not_converts_malformed hparse
  · simp only [← converts_negative_iff]
    exact parse_eq_iff fun detail h => by cases h
  · simp only [← converts_tooPrecise_iff]
    exact parse_eq_iff fun detail h => by cases h
  · simp only [← converts_overflow_iff]
    exact parse_eq_iff fun detail h => by cases h

/-- Underscores and a zero at the end are no part of the number. -/
example : parse " τ+1_000.50_ " = .ok ⟨1000500000000⟩ := by decide

/-- An amount that is both too fine and too large is refused as too fine. -/
example : parse "99999999999.0000000001" = .error (.tooPrecise "99999999999.0000000001") := by decide

end Balance

end LedgerClient
