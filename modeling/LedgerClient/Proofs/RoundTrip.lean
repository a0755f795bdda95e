import LedgerClient.Proofs.Amount

/-!
# Reading back what is shown

An amount is shown by its digits, with a point before as many of them as its scale says, and a balance
by the symbol of the display unit and its amount. Every amount is read back as itself, in its form and
with its sign. So a balance is read back from its text, and what a person may do to the text on the
way, to put blanks around it or to leave out the symbol, makes no difference.

## What is proved

* `Text.trimChars_append`, `Text.trim_eq_empty_iff`: trimming takes off blanks and nothing else.
* `Decimal.digitsOf_digits`, `Decimal.places_digits`: what the digits of an amount show.
* `Decimal.written_text`, `Decimal.read_text`: every amount is read back.
* `Balance.parse_text`: every balance is read back.
-/

namespace LedgerClient

/-! ### Blanks around a text -/

namespace Text

/-- There is nothing but blanks. -/
def Blanks (cs : List Char) : Prop := ∀ c ∈ cs, isBlank c = true

instance (cs : List Char) : Decidable (Blanks cs) :=
  List.decidableBAll (fun c => isBlank c = true) cs

theorem Blanks.nil : Blanks [] := by simp [Blanks]

theorem isBlank_of_isDigit {c : Char} (h : c.isDigit = true) : isBlank c = false := by
  have hlow : 48 ≤ c.toNat := (Char.isDigit_iff_toNat.mp h).1
  have hhigh : c.toNat ≤ 57 := (Char.isDigit_iff_toNat.mp h).2
  simp only [isBlank, Bool.or_eq_false_iff, Bool.and_eq_false_iff, decide_eq_false_iff_not,
    beq_eq_false_iff_ne]
  omega

/-- A text that starts and ends with something to be seen. -/
structure Trimmed (cs : List Char) : Prop where
  /-- The first character is no blank. -/
  head : ∃ c, cs.head? = some c ∧ isBlank c = false
  /-- The last character is no blank. -/
  last : ∃ c, cs.getLast? = some c ∧ isBlank c = false

theorem dropWhile_append {blanks cs : List Char} (hblanks : Blanks blanks)
    (hcs : ∃ c, cs.head? = some c ∧ isBlank c = false) :
    (blanks ++ cs).dropWhile isBlank = cs := by
  obtain ⟨c, hhead, hc⟩ := hcs
  obtain ⟨rest, rfl⟩ := List.head?_eq_some_iff.mp hhead
  rw [List.dropWhile_append_of_pos hblanks, List.dropWhile_cons_of_neg (by simp [hc])]

/-- Trimming takes the blanks off at both ends, and nothing else. -/
theorem trimChars_append {before cs after : List Char} (hbefore : Blanks before)
    (hcs : Trimmed cs) (hafter : Blanks after) : trimChars (before ++ cs ++ after) = cs := by
  have hfront : (before ++ cs ++ after).dropWhile isBlank = cs ++ after := by
    obtain ⟨c, hhead, hc⟩ := hcs.head
    rw [List.append_assoc]
    exact dropWhile_append hbefore ⟨c, by rw [List.head?_append, hhead]; rfl, hc⟩
  have hback : (cs ++ after).reverse.dropWhile isBlank = cs.reverse := by
    rw [List.reverse_append]
    refine dropWhile_append (fun c hc => hafter c (List.mem_reverse.mp hc)) ?_
    rw [List.head?_reverse]
    exact hcs.last
  rw [trimChars, hfront, hback, List.reverse_reverse]

theorem Trimmed.trimChars_eq {cs : List Char} (h : Trimmed cs) : trimChars cs = cs := by
  simpa using trimChars_append Blanks.nil h Blanks.nil

/-- A text is trimmed to nothing when there is nothing but blanks in it. -/
theorem trim_eq_empty_iff {text : String} : trim text = "" ↔ Blanks text.toList := by
  rw [trim, String.ofList_eq_empty_iff, trimChars, List.reverse_eq_nil_iff,
    List.dropWhile_eq_nil_iff]
  simp only [List.mem_reverse]
  constructor
  · intro h
    by_contra hblanks
    obtain ⟨c, hc, hbare⟩ : ∃ c ∈ text.toList, isBlank c = false := by simpa [Blanks] using hblanks
    have hne : text.toList.dropWhile isBlank ≠ [] := fun hnil => by
      rw [List.dropWhile_eq_nil_iff.mp hnil c hc] at hbare
      cases hbare
    -- what is left begins with a character that is no blank
    have hhead := List.head_dropWhile_not isBlank hne
    rw [h _ (List.head_mem hne)] at hhead
    cases hhead
  · intro h c hc
    exact h c ((List.dropWhile_sublist _).subset hc)

end Text

/-! ### The digits of an amount -/

namespace Decimal

section LowDigits

variable {k n : Nat}

@[simp] theorem length_lowDigits (k n : Nat) : (lowDigits k n).length = k := by
  induction k generalizing n with
  | zero => rfl
  | succ k ih => rw [lowDigits, List.length_append, ih, List.length_singleton]

theorem isDigit_digitChar_mod (n : Nat) : (Nat.digitChar (n % 10)).isDigit = true := by
  rw [Nat.isDigit_digitChar]
  exact decide_eq_true (Nat.mod_lt n (by decide))

theorem isDigit_of_mem_lowDigits {c : Char} (h : c ∈ lowDigits k n) : c.isDigit = true := by
  induction k generalizing n with
  | zero => cases h
  | succ k ih =>
    rw [lowDigits, List.mem_append, List.mem_singleton] at h
    obtain h | rfl := h
    · exact ih h
    · exact isDigit_digitChar_mod n

/-- The lowest digits of a number are those of its remainder. -/
theorem ofDigitChars_lowDigits (k n : Nat) : Nat.ofDigitChars 10 (lowDigits k n) 0 = n % unit k := by
  induction k generalizing n with
  | zero => exact (Nat.mod_one n).symm
  | succ k ih =>
    have hlt : n % 10 < 10 := Nat.mod_lt n (by decide)
    have hunit : unit (k + 1) = 10 * unit k := Nat.mul_comm ..
    calc Nat.ofDigitChars 10 (lowDigits (k + 1) n) 0
        = 10 * (n / 10 % unit k) + n % 10 := by
          rw [lowDigits, Nat.ofDigitChars_append, ih,
            Nat.ofDigitChars_cons_digitChar_of_lt_ten hlt, Nat.ofDigitChars_nil]
      _ = n % unit (k + 1) := by rw [hunit, Nat.mod_mul, Nat.add_comm]

theorem isDigit_of_mem_toDigits {c : Char} (h : c ∈ Nat.toDigits 10 n) : c.isDigit = true :=
  Nat.isDigit_of_mem_toDigits (by decide) (by decide) h

theorem digitsOf_append (front back : List Char) :
    digitsOf (front ++ back) = digitsOf front ++ digitsOf back := List.filter_append ..

theorem digitsOf_lowDigits : digitsOf (lowDigits k n) = lowDigits k n :=
  List.filter_eq_self.mpr fun _ h => isDigit_of_mem_lowDigits h

theorem digitsOf_toDigits : digitsOf (Nat.toDigits 10 n) = Nat.toDigits 10 n :=
  List.filter_eq_self.mpr fun _ h => isDigit_of_mem_toDigits h

theorem point_not_mem_lowDigits : '.' ∉ lowDigits k n := fun h => by
  cases isDigit_of_mem_lowDigits h

theorem point_not_mem_toDigits : '.' ∉ Nat.toDigits 10 n := fun h => by
  cases isDigit_of_mem_toDigits h

end LowDigits

section Digits

variable {mantissa scale : Nat}

theorem digits_of_ne_zero (h : scale ≠ 0) :
    digits mantissa scale =
      Nat.toDigits 10 (mantissa / unit scale) ++ '.' :: lowDigits scale mantissa := by
  rw [digits, if_neg h]

theorem digits_zero : digits mantissa 0 = Nat.toDigits 10 mantissa := by
  simp [digits, unit]

theorem digitsOf_digits :
    digitsOf (digits mantissa scale) =
      Nat.toDigits 10 (mantissa / unit scale) ++ lowDigits scale mantissa := by
  rw [digits, digitsOf_append, digitsOf_toDigits]
  split
  · next hzero =>
    rw [hzero]
    rfl
  · exact congrArg _ digitsOf_lowDigits

theorem number_digits : number (digits mantissa scale) = mantissa := by
  rw [number, digitsOf_digits, Nat.ofDigitChars_append, Nat.ofDigitChars_ten_toDigits,
    Nat.ofDigitChars_eq_ofDigitChars_zero, length_lowDigits, ofDigitChars_lowDigits]
  exact Nat.div_add_mod mantissa (unit scale)

theorem places_digits : places (digits mantissa scale) = scale := by
  by_cases hscale : scale = 0
  · rw [hscale, digits_zero, places_of_not_mem point_not_mem_toDigits]
  · have hdrop : (digits mantissa scale).dropWhile (· ≠ '.') = '.' :: lowDigits scale mantissa := by
      rw [digits_of_ne_zero hscale, dropWhile_of_not_mem point_not_mem_toDigits]
      rfl
    have hlow : digitsOf ('.' :: lowDigits scale mantissa) = lowDigits scale mantissa :=
      digitsOf_lowDigits
    rw [places, hdrop, hlow, length_lowDigits]

theorem mem_digits {c : Char} (h : c ∈ digits mantissa scale) : c.isDigit = true ∨ c = '.' := by
  rw [digits, List.mem_append] at h
  obtain h | h := h
  · exact .inl (isDigit_of_mem_toDigits h)
  · split at h
    · cases h
    · obtain rfl | h := List.mem_cons.mp h
      · exact .inr rfl
      · exact .inl (isDigit_of_mem_lowDigits h)

variable (mantissa scale)

/-- The digits start with one. -/
theorem head_digits : ∃ c, (digits mantissa scale).head? = some c ∧ c.isDigit = true := by
  obtain ⟨c, rest, hwhole⟩ : ∃ c rest, Nat.toDigits 10 (mantissa / unit scale) = c :: rest :=
    List.exists_cons_of_ne_nil Nat.toDigits_ne_nil
  have hc : c ∈ Nat.toDigits 10 (mantissa / unit scale) := hwhole ▸ List.mem_cons_self
  exact ⟨c, by rw [digits, hwhole]; rfl, isDigit_of_mem_toDigits hc⟩

/-- The digits end with one. -/
theorem last_digits : ∃ c, (digits mantissa scale).getLast? = some c ∧ c.isDigit = true := by
  cases scale with
  | zero =>
    rw [digits_zero, List.getLast?_eq_some_getLast Nat.toDigits_ne_nil]
    exact ⟨_, rfl, isDigit_of_mem_toDigits (List.getLast_mem _)⟩
  | succ k =>
    have hlast : digits mantissa (k + 1) =
        (Nat.toDigits 10 (mantissa / unit (k + 1)) ++ '.' :: lowDigits k (mantissa / 10)) ++
          [Nat.digitChar (mantissa % 10)] := by
      rw [digits_of_ne_zero k.succ_ne_zero, lowDigits, List.append_assoc, List.cons_append]
    rw [hlast, List.getLast?_concat]
    exact ⟨_, rfl, isDigit_digitChar_mod mantissa⟩

end Digits

/-- The digits of a number of 96 bits, at most 28 of them behind a point, are a numeral. -/
theorem numeral_digits {mantissa scale : Nat} (hmantissa : mantissa < mantissaBound)
    (hscale : scale ≤ 28) : Numeral (digits mantissa scale) where
  chars c hc := (mem_digits hc).imp_right .inl
  points := by
    rw [digits, List.count_append, List.count_eq_zero.mpr point_not_mem_toDigits]
    split
    · decide
    · rw [List.count_cons_self, List.count_eq_zero.mpr point_not_mem_lowDigits]
  underscores before after heq := by
    have hunder : '_' ∈ digits mantissa scale := by simp [heq]
    obtain h | h := mem_digits hunder <;> cases h
  number_lt := by rwa [number_digits]
  places_le := by rwa [places_digits]
  full _ := last_digits mantissa scale
  digit := by
    obtain ⟨c, hhead, hc⟩ := head_digits mantissa scale
    exact ⟨c, List.mem_of_head? hhead, hc⟩

/-- The text of an amount is one in which this amount is written. -/
theorem written_text (d : Decimal) : Written d.text.toList d := by
  refine ⟨digits d.mantissa d.scale, ?_, numeral_digits d.mantissa_lt d.scale_le,
    number_digits.symm, places_digits.symm⟩
  rw [text, String.toList_ofList]
  cases d.negative with
  | false => exact .unsigned _
  | true => exact .minus _

/-- **Every amount is read back,** in its form and with its sign. -/
theorem read_text (d : Decimal) : read d.text.toList = .ok d := read_eq_ok_iff.mpr (written_text d)

end Decimal

/-! ### Balances -/

namespace Balance

/-- `Shows b s`: the text shows the balance by its amount, with or without the symbol before it. There
may be blanks around the amount. -/
inductive Shows (b : Balance) : String → Prop where
  /-- The symbol stands before the amount. -/
  | symbol (before between after : List Char) :
      Text.Blanks before → Text.Blanks between → Text.Blanks after →
      Shows b (String.ofList
        (before ++ taoSymbol :: (between ++ b.toTao.text.toList) ++ after))
  /-- The amount stands alone. -/
  | bare (before after : List Char) : Text.Blanks before → Text.Blanks after →
      Shows b (String.ofList (before ++ b.toTao.text.toList ++ after))

section Text

variable (b : Balance)

theorem value_toTao : b.toTao.value = b.value := by
  rw [Decimal.value_of_not_negative Bool.false_ne_true, Decimal.cast_unit]
  rfl

/-- The display amount of a balance comes back to it. -/
theorem ofTao_toTao : ofTao b.toTao = .ok b := ofTao_eq_iff.mpr (.exact b b.value_toTao)

theorem toList_text_toTao : b.toTao.text.toList = Decimal.digits b.rao.toNat taoDecimals :=
  String.toList_ofList

theorem toList_text : b.text.toList = taoSymbol :: b.toTao.text.toList := by
  rw [text, String.toList_append]
  rfl

/-- The text of a balance shows it. -/
theorem shows_text : b.Shows b.text := by
  have h : b.Shows _ := .symbol [] [] [] Text.Blanks.nil Text.Blanks.nil Text.Blanks.nil
  simpa [← b.toList_text] using h

/-- An amount has a digit at both ends, so there is nothing to be taken off. -/
theorem trimmed_toTao : Text.Trimmed b.toTao.text.toList := by
  rw [toList_text_toTao]
  obtain ⟨c, hhead, hc⟩ := Decimal.head_digits b.rao.toNat taoDecimals
  obtain ⟨d, hlast, hd⟩ := Decimal.last_digits b.rao.toNat taoDecimals
  exact ⟨⟨c, hhead, Text.isBlank_of_isDigit hc⟩, ⟨d, hlast, Text.isBlank_of_isDigit hd⟩⟩

theorem dropSymbol_toTao : dropSymbol b.toTao.text.toList = b.toTao.text.toList := by
  rw [toList_text_toTao]
  obtain ⟨c, hhead, hc⟩ := Decimal.head_digits b.rao.toNat taoDecimals
  obtain ⟨rest, hdigits⟩ := List.head?_eq_some_iff.mp hhead
  have hne : c ≠ taoSymbol := by
    rintro rfl
    cases hc
  rw [hdigits, dropSymbol, if_neg hne]

variable {b} {s : String}

/-- What is left of a text that shows a balance are the digits of the amount. -/
theorem Shows.bareDigits_eq (h : b.Shows s) : bareDigits s = b.toTao.text.toList := by
  have hdigits := b.trimmed_toTao
  rw [bareDigits]
  cases h with
  | symbol before between after hbefore hbetween hafter =>
    have hwhole : Text.Trimmed (taoSymbol :: (between ++ b.toTao.text.toList)) := by
      obtain ⟨d, hlast, hd⟩ := hdigits.last
      refine ⟨⟨taoSymbol, rfl, by decide⟩, d, ?_, hd⟩
      rw [← List.cons_append, List.getLast?_append, hlast]
      rfl
    rw [String.toList_ofList, Text.trimChars_append hbefore hwhole hafter, dropSymbol, if_pos rfl]
    simpa using Text.trimChars_append hbetween hdigits Text.Blanks.nil
  | bare before after hbefore hafter =>
    rw [String.toList_ofList, Text.trimChars_append hbefore hdigits hafter, dropSymbol_toTao,
      hdigits.trimChars_eq]

theorem Shows.parse_eq (h : b.Shows s) : parse s = .ok b := by
  rw [parse, h.bareDigits_eq, Decimal.read_text]
  exact b.ofTao_toTao

end Text

/-- **A balance is read back from its text.** The display amount is exact, and the text is the symbol,
the digits of the whole tao, and a point with nine digits behind it, which count the rao that are left
over. Every text that shows a balance is read as this balance, so two balances never have one text. -/
theorem parse_text (b : Balance) :
    ofTao b.toTao = .ok b ∧
    (∃ fraction, b.text.toList = taoSymbol ::
        (Nat.toDigits 10 (b.rao.toNat / Decimal.unit taoDecimals) ++ '.' :: fraction) ∧
      fraction.length = taoDecimals ∧ (∀ c ∈ fraction, c.isDigit = true) ∧
      Nat.ofDigitChars 10 fraction 0 = b.rao.toNat % Decimal.unit taoDecimals) ∧
    b.Shows b.text ∧ (∀ s, b.Shows s → parse s = .ok b) ∧
    ∀ b', b'.text = b.text → b' = b := by
  refine ⟨b.ofTao_toTao, ?_, b.shows_text, fun s h => h.parse_eq, fun b' htext => ?_⟩
  · refine ⟨Decimal.lowDigits taoDecimals b.rao.toNat, ?_, Decimal.length_lowDigits ..,
      fun c hc => Decimal.isDigit_of_mem_lowDigits hc, Decimal.ofDigitChars_lowDigits ..⟩
    rw [toList_text, toList_text_toTao, Decimal.digits_of_ne_zero (by decide)]
  · have hread : Except.ok b' = Except.ok b :=
      b'.shows_text.parse_eq.symm.trans (htext ▸ b.shows_text.parse_eq)
    exact Except.ok.inj hread

/-- With blanks of three kinds: an em space, a space and a line feed. -/
theorem parse_text_of_padded :
    Shows ⟨42⟩ "\u2003τ 0.000000042\n" ∧ parse "\u2003τ 0.000000042\n" = .ok ⟨42⟩ := by
  have hshows : Shows ⟨42⟩ "\u2003τ 0.000000042\n" :=
    .symbol ['\u2003'] [' '] ['\n'] (by decide) (by decide) (by decide)
  exact ⟨hshows, (parse_text ⟨42⟩).2.2.2.1 _ hshows⟩

end Balance

end LedgerClient
