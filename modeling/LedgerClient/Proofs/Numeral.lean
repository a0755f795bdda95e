import LedgerClient.Decimal.Reader
import Mathlib.Data.List.Induction
import Mathlib.Data.List.TakeWhile

/-!
# Which texts are decimal amounts

The grammar of decimal amounts, said of a whole text, and the reader that goes through the text once.
An amount is an optional sign and a numeral: digits, at most one point, and underscores that have a
digit somewhere before them. The digits, read as one integer, have 96 bits, at most 28 of them follow
the point, and once 28 do, nothing comes behind them.

## The model

`number` and `places` are the two measures of a text: its digits as one integer, and how many of them
follow the point. `Legible` is the grammar without the demand for a digit, so that it also holds of
every beginning of a numeral. It is said by what the text holds, not by how it is read.

## What is proved

* `legible_append_singleton_iff`: which character may follow a legible text.
* `Reading.Covers.takes`, `Reading.run_spec`: a reading covers what has been read, step by step and then
  as a whole, and it is refused exactly where the text stops to be legible.
* `read_eq_ok_iff`: reading gives the amount that is written, and nothing for any other text.
-/

namespace LedgerClient.Decimal

/-! ### The grammar -/

/-- The digits of a text, in order. -/
def digitsOf (cs : List Char) : List Char := cs.filter Char.isDigit

/-- The digits of a text read as one integer. -/
def number (cs : List Char) : Nat := Nat.ofDigitChars 10 (digitsOf cs) 0

/-- How many digits of a text follow its point. -/
def places (cs : List Char) : Nat := (digitsOf (cs.dropWhile (· ≠ '.'))).length

/-- A text that a numeral may start with. -/
structure Legible (cs : List Char) : Prop where
  /-- There is nothing but digits, points and underscores. -/
  chars : ∀ c ∈ cs, c.isDigit = true ∨ c = '.' ∨ c = '_'
  /-- There is at most one point. -/
  points : cs.count '.' ≤ 1
  /-- An underscore has a digit somewhere before it. -/
  underscores : ∀ before after, cs = before ++ '_' :: after → ∃ d ∈ before, d.isDigit = true
  /-- The digits are those of an integer of 96 bits. -/
  number_lt : number cs < mantissaBound
  /-- At most 28 digits follow the point. -/
  places_le : places cs ≤ 28
  /-- The last one of 28 digits behind the point is the last character. -/
  full : places cs = 28 → ∃ d, cs.getLast? = some d ∧ d.isDigit = true

/-- The digits of an amount, with what stands among them. -/
structure Numeral (cs : List Char) : Prop extends Legible cs where
  /-- There is a digit. -/
  digit : ∃ d ∈ cs, d.isDigit = true

/-- `Signed cs negative body`: the text is an optional sign, which is minus or not, and a body. -/
inductive Signed : List Char → Bool → List Char → Prop where
  /-- There is no sign. -/
  | unsigned (body : List Char) : Signed body false body
  /-- There is a plus sign. -/
  | plus (body : List Char) : Signed ('+' :: body) false body
  /-- There is a minus sign. -/
  | minus (body : List Char) : Signed ('-' :: body) true body

/-- `Written cs d`: the text is an optional sign and a numeral, and it shows the amount `d`. -/
def Written (cs : List Char) (d : Decimal) : Prop :=
  ∃ body, Signed cs d.negative body ∧ Numeral body ∧ d.mantissa = number body ∧
    d.scale = places body

/-! ### One more character -/

section Append

variable {cs : List Char} {c : Char}

theorem number_append_of_isDigit (h : c.isDigit = true) (cs : List Char) :
    number (cs ++ [c]) = 10 * number cs + (c.toNat - '0'.toNat) := by
  simp [number, digitsOf, h, Nat.ofDigitChars]

theorem number_append_of_not_isDigit (h : ¬ c.isDigit = true) (cs : List Char) :
    number (cs ++ [c]) = number cs := by
  simp [number, digitsOf, h]

/-- Before its point a text is passed over. -/
theorem dropWhile_of_not_mem (h : '.' ∉ cs) (more : List Char) :
    (cs ++ more).dropWhile (· ≠ '.') = more.dropWhile (· ≠ '.') := by
  refine List.dropWhile_append_of_pos fun d hd => ?_
  have hne : d ≠ '.' := fun heq => h (heq ▸ hd)
  simpa using hne

theorem places_of_not_mem (h : '.' ∉ cs) : places cs = 0 := by
  rw [places, ← List.append_nil cs, dropWhile_of_not_mem h]
  rfl

theorem places_append_of_not_mem (h : '.' ∉ cs) (c : Char) : places (cs ++ [c]) = 0 := by
  rw [places, dropWhile_of_not_mem h]
  by_cases hc : c = '.'
  · simp [digitsOf, hc]
  · simp [digitsOf, hc]

theorem places_append_of_mem (h : '.' ∈ cs) (c : Char) :
    places (cs ++ [c]) = places cs + if c.isDigit then 1 else 0 := by
  have hdrop : cs.dropWhile (· ≠ '.') ≠ [] := by
    rw [Ne, List.dropWhile_eq_nil_iff]
    intro hall
    simpa using hall '.' h
  rw [places, places, List.dropWhile_append, if_neg (by simpa using hdrop)]
  by_cases hc : c.isDigit = true
  · simp [digitsOf, hc]
  · simp [digitsOf, hc]

theorem places_append_le (cs : List Char) (c : Char) :
    places (cs ++ [c]) ≤ places cs + if c.isDigit then 1 else 0 := by
  by_cases h : '.' ∈ cs
  · exact (places_append_of_mem h c).le
  · rw [places_append_of_not_mem h]
    exact Nat.zero_le _

end Append

/-- A character may follow a legible text if the point does not have its 28 digits yet and the
character is a digit for which there is room, a first point, or an underscore behind a digit. -/
def Continues (cs : List Char) (c : Char) : Prop :=
  places cs < 28 ∧
    (c.isDigit = true ∧ 10 * number cs + (c.toNat - '0'.toNat) < mantissaBound ∨
      c = '.' ∧ '.' ∉ cs ∨ c = '_' ∧ ∃ d ∈ cs, d.isDigit = true)

section Continues

variable {cs : List Char} {c : Char}

theorem continues_digit_iff (hc : c.isDigit = true) :
    Continues cs c ↔
      places cs < 28 ∧ 10 * number cs + (c.toNat - '0'.toNat) < mantissaBound := by
  have hpoint : c ≠ '.' := by rintro rfl; cases hc
  have hunder : c ≠ '_' := by rintro rfl; cases hc
  simp [Continues, hc, hpoint, hunder]

theorem continues_point_iff : Continues cs '.' ↔ places cs < 28 ∧ '.' ∉ cs := by
  simp [Continues]

theorem continues_underscore_iff :
    Continues cs '_' ↔ places cs < 28 ∧ ∃ d ∈ cs, d.isDigit = true := by
  simp [Continues]

/-- There are three kinds of characters. -/
theorem Continues.kind (h : Continues cs c) : c.isDigit = true ∨ c = '.' ∨ c = '_' :=
  h.2.imp And.left (Or.imp And.left And.left)

end Continues

theorem Legible.nil : Legible [] where
  chars := by simp
  points := by simp
  underscores := by simp
  number_lt := by decide
  places_le := by decide
  full := by decide

section Append

variable {cs : List Char} {c : Char}

/-- Behind the 28th digit there is nothing more. -/
theorem Legible.places_lt (h : Legible (cs ++ [c])) : places cs < 28 := by
  by_contra hfull
  have hpoint : '.' ∈ cs := by
    by_contra hnot
    rw [places_of_not_mem hnot] at hfull
    omega
  have hplaces := places_append_of_mem hpoint c
  have hle := h.places_le
  by_cases hc : c.isDigit = true
  · rw [if_pos hc] at hplaces
    omega
  · rw [if_neg hc] at hplaces
    obtain ⟨d, hlast, hd⟩ := h.full (by omega)
    rw [List.getLast?_concat] at hlast
    cases hlast
    exact hc hd

/-- What stands in front of the last character is legible. -/
theorem Legible.of_concat (h : Legible (cs ++ [c])) : Legible cs where
  chars d hd := h.chars d (List.mem_append_left _ hd)
  points := le_trans ((List.sublist_append_left cs [c]).count_le _) h.points
  underscores before after heq := h.underscores before (after ++ [c]) (by simp [heq])
  number_lt := by
    have hlt := h.number_lt
    by_cases hc : c.isDigit = true
    · rw [number_append_of_isDigit hc] at hlt
      omega
    · rwa [number_append_of_not_isDigit hc] at hlt
  places_le := h.places_lt.le
  full heq := absurd heq h.places_lt.ne

theorem Legible.continues (h : Legible (cs ++ [c])) : Continues cs c := by
  rcases h.chars c (by simp) with hc | rfl | rfl
  · refine (continues_digit_iff hc).mpr ⟨h.places_lt, ?_⟩
    rw [← number_append_of_isDigit hc]
    exact h.number_lt
  · refine continues_point_iff.mpr ⟨h.places_lt, fun hmem => ?_⟩
    have hpos := List.count_pos_iff.mpr hmem
    have hle := h.points
    rw [List.count_append, List.count_singleton_self] at hle
    omega
  · exact continues_underscore_iff.mpr ⟨h.places_lt, h.underscores cs [] rfl⟩

/-- A character that may follow a legible text makes another one. -/
theorem Legible.concat (h : Legible cs) (hc : Continues cs c) : Legible (cs ++ [c]) where
  chars d hd := by
    rcases List.mem_append.mp hd with hd | hd
    · exact h.chars d hd
    · rw [List.mem_singleton.mp hd]
      exact hc.kind
  points := by
    rw [List.count_append]
    by_cases hpoint : c = '.'
    · subst hpoint
      rw [List.count_eq_zero.mpr (continues_point_iff.mp hc).2, List.count_singleton_self]
    · rw [List.count_singleton, if_neg (by simpa using hpoint)]
      exact h.points
  underscores before after heq := by
    -- the underscore is the new character, or it stands in the old text
    rcases List.eq_nil_or_concat after with rfl | ⟨after, d, rfl⟩
    · obtain ⟨rfl, hlast⟩ := List.append_inj' heq rfl
      obtain rfl : c = '_' := by simpa using hlast
      exact (continues_underscore_iff.mp hc).2
    · have hfront : cs ++ [c] = (before ++ '_' :: after) ++ [d] := by simpa using heq
      exact h.underscores before after (List.append_inj' hfront rfl).1
  number_lt := by
    by_cases hdigit : c.isDigit = true
    · rw [number_append_of_isDigit hdigit]
      exact ((continues_digit_iff hdigit).mp hc).2
    · rw [number_append_of_not_isDigit hdigit]
      exact h.number_lt
  places_le := by
    have hlt := hc.1
    have hle := places_append_le cs c
    split at hle <;> omega
  full heq := by
    refine ⟨c, List.getLast?_concat .., ?_⟩
    have hlt := hc.1
    have hle := places_append_le cs c
    by_contra hdigit
    rw [if_neg hdigit] at hle
    omega

/-- A text is legible when what stands in front of its last character is, and this character may
follow it. -/
theorem legible_append_singleton_iff : Legible (cs ++ [c]) ↔ Legible cs ∧ Continues cs c :=
  ⟨fun h => ⟨h.of_concat, h.continues⟩, fun h => h.1.concat h.2⟩

/-- Every beginning of a legible text is legible. -/
theorem Legible.of_append {more : List Char} (h : Legible (cs ++ more)) : Legible cs := by
  induction more using List.reverseRecOn with
  | nil => rwa [List.append_nil] at h
  | append_singleton more c ih =>
    rw [← List.append_assoc] at h
    exact ih h.of_concat

end Append

/-! ### Reading on -/

namespace Reading

/-- A reading that holds what a text shows. -/
structure Covers (r : Reading) (cs : List Char) : Prop where
  /-- It knows whether there is a point. -/
  pointSeen_iff : r.pointSeen = true ↔ '.' ∈ cs
  /-- It knows whether there is a digit. -/
  digitSeen_iff : r.digitSeen = true ↔ ∃ d ∈ cs, d.isDigit = true
  /-- It knows the digits. -/
  mantissa_eq : r.mantissa = number cs
  /-- It knows how many of them follow the point. -/
  scale_eq : r.scale = places cs

theorem covers_start : Covers start [] := ⟨by simp [start], by simp [start], rfl, rfl⟩

variable {r : Reading} {cs : List Char}

/-- A reading takes a character when it may follow the text, and then covers the longer one; if the
character may not follow, the reading refuses it. -/
def Takes (r : Reading) (cs : List Char) (c : Char) : Prop :=
  (∃ next, r.step c = .ok next ∧ next.Covers (cs ++ [c]) ∧ Continues cs c) ∨
    ∃ fault, r.step c = .error fault ∧ ¬ Continues cs c

/-- With 28 digits behind the point no character is taken. -/
theorem Covers.takes_of_full (hr : r.Covers cs) (full : ¬ r.scale < 28) (c : Char) :
    r.Takes cs c := by
  refine .inr ⟨.tooFine, by rw [step, dif_neg full], fun hcont => full ?_⟩
  rw [hr.scale_eq]
  exact hcont.1

theorem Covers.takes_digit (hr : r.Covers cs) (room : r.scale < 28) {c : Char}
    (hc : c.isDigit = true) : r.Takes cs c := by
  have hroom : places cs < 28 := hr.scale_eq ▸ room
  have hstep : r.step c = r.digit (c.toNat - '0'.toNat) room := by
    rw [step, dif_pos room, if_pos hc]
  have hpoint : '.' ∈ cs ++ [c] ↔ '.' ∈ cs := by
    have hne : '.' ≠ c := by rintro rfl; cases hc
    simp [hne]
  have hmantissa : 10 * r.mantissa + (c.toNat - '0'.toNat) = number (cs ++ [c]) := by
    rw [number_append_of_isDigit hc, hr.mantissa_eq]
  rw [Takes, hstep, continues_digit_iff hc, ← hr.mantissa_eq]
  by_cases fits : 10 * r.mantissa + (c.toNat - '0'.toNat) < mantissaBound
  · left
    by_cases hp : r.pointSeen = true
    · have hscale : r.scale + 1 = places (cs ++ [c]) := by
        rw [places_append_of_mem (hr.pointSeen_iff.mp hp), if_pos hc, hr.scale_eq]
      refine ⟨_, by rw [digit, dif_pos fits, if_pos hp], ?_, hroom, fits⟩
      exact ⟨hr.pointSeen_iff.trans hpoint.symm, by simp [hc], hmantissa, hscale⟩
    · have hnot : '.' ∉ cs := fun hmem => hp (hr.pointSeen_iff.mpr hmem)
      have hscale : r.scale = places (cs ++ [c]) := by
        rw [places_append_of_not_mem hnot, hr.scale_eq, places_of_not_mem hnot]
      refine ⟨_, by rw [digit, dif_pos fits, if_neg hp], ?_, hroom, fits⟩
      exact ⟨hr.pointSeen_iff.trans hpoint.symm, by simp [hc], hmantissa, hscale⟩
  · exact .inr ⟨_, by rw [digit, dif_neg fits], fun hcont => fits hcont.2⟩

theorem Covers.takes_point (hr : r.Covers cs) (room : r.scale < 28) : r.Takes cs '.' := by
  have hstep : r.step '.' =
      if r.pointSeen then .error .twoPoints else .ok { r with pointSeen := true } := by
    rw [step, dif_pos room, if_neg (by decide), if_pos rfl]
  rw [Takes, hstep, continues_point_iff, ← hr.pointSeen_iff]
  by_cases hp : r.pointSeen = true
  · exact .inr ⟨_, if_pos hp, fun hcont => hcont.2 hp⟩
  · have hnot : '.' ∉ cs := fun hmem => hp (hr.pointSeen_iff.mpr hmem)
    refine .inl ⟨_, if_neg hp, ⟨by simp, hr.digitSeen_iff.trans (by simp), ?_, ?_⟩,
      hr.scale_eq ▸ room, hp⟩
    · rw [number_append_of_not_isDigit (by decide), hr.mantissa_eq]
    · rw [places_append_of_not_mem hnot, hr.scale_eq, places_of_not_mem hnot]

theorem Covers.takes_underscore (hr : r.Covers cs) (room : r.scale < 28) : r.Takes cs '_' := by
  have hstep : r.step '_' = if r.digitSeen then .ok r else .error .leadingUnderscore := by
    rw [step, dif_pos room, if_neg (by decide), if_neg (by decide), if_pos rfl]
  rw [Takes, hstep, continues_underscore_iff, ← hr.digitSeen_iff]
  by_cases hd : r.digitSeen = true
  · refine .inl ⟨r, if_pos hd, ⟨hr.pointSeen_iff.trans (by simp),
      hr.digitSeen_iff.trans (by simp), ?_, ?_⟩, hr.scale_eq ▸ room, hd⟩
    · rw [number_append_of_not_isDigit (by decide), hr.mantissa_eq]
    · rw [hr.scale_eq]
      by_cases h : '.' ∈ cs
      · rw [places_append_of_mem h, if_neg (by decide), Nat.add_zero]
      · rw [places_append_of_not_mem h, places_of_not_mem h]
  · exact .inr ⟨_, if_neg hd, fun hcont => hd hcont.2⟩

/-- **One step.** Every reading of a text takes the characters that may follow, and no others. -/
theorem Covers.takes (hr : r.Covers cs) (c : Char) : r.Takes cs c := by
  by_cases room : r.scale < 28
  · by_cases hc : c.isDigit = true
    · exact hr.takes_digit room hc
    · by_cases hpoint : c = '.'
      · exact hpoint ▸ hr.takes_point room
      · by_cases hunder : c = '_'
        · exact hunder ▸ hr.takes_underscore room
        · refine .inr ⟨.unknownCharacter, ?_, fun hcont => ?_⟩
          · rw [step, dif_pos room, if_neg hc, if_neg hpoint, if_neg hunder]
          · exact (hcont.kind.resolve_left hc).elim hpoint hunder
  · exact hr.takes_of_full room c

/-- **A whole run.** A reading of a legible text takes the rest when the whole is a numeral, and is then
a reading of it; if not, it is refused. -/
theorem run_spec (hr : r.Covers cs) (hcs : Legible cs) (rest : List Char) :
    (∃ last, r.run rest = .ok last ∧ last.Covers (cs ++ rest) ∧ Numeral (cs ++ rest)) ∨
    (∃ fault, r.run rest = .error fault ∧ ¬ Numeral (cs ++ rest)) := by
  induction rest generalizing r cs with
  | nil =>
    rw [List.append_nil]
    by_cases hd : r.digitSeen = true
    · exact .inl ⟨r, by rw [run, if_pos hd], hr, hcs, hr.digitSeen_iff.mp hd⟩
    · refine .inr ⟨.noDigits, by rw [run, if_neg hd], fun h => hd ?_⟩
      exact hr.digitSeen_iff.mpr h.digit
  | cons c rest ih =>
    have hsplit : cs ++ c :: rest = cs ++ [c] ++ rest := by simp
    rw [hsplit]
    obtain ⟨next, hstep, hnext, hcont⟩ | ⟨fault, hstep, hcont⟩ := hr.takes c
    · have hrun : r.run (c :: rest) = next.run rest := by rw [run, hstep]
      rw [hrun]
      exact ih hnext (legible_append_singleton_iff.mpr ⟨hcs, hcont⟩)
    · refine .inr ⟨fault, by rw [run, hstep], fun h => hcont ?_⟩
      exact (legible_append_singleton_iff.mp h.toLegible.of_append).2

end Reading

/-! ### Reading a text -/

/-- A numeral starts with no sign. -/
theorem Numeral.ne_sign {c : Char} {cs : List Char} (h : Numeral (c :: cs)) : c ≠ '+' ∧ c ≠ '-' := by
  rcases h.chars c (by simp) with hc | rfl | rfl
  · constructor
    · rintro rfl
      cases hc
    · rintro rfl
      cases hc
  · decide
  · decide

/-- Reading takes off a sign and reads the body. -/
theorem read_of_signed {cs : List Char} {negative : Bool} {body : List Char}
    (h : Signed cs negative body) (hbody : Numeral body) :
    read cs = (Reading.start.run body).map (·.amount negative) := by
  cases h with
  | unsigned =>
    obtain ⟨d, hd, -⟩ := hbody.digit
    obtain ⟨c, rest, rfl⟩ := List.exists_cons_of_ne_nil (List.ne_nil_of_mem hd)
    obtain ⟨hplus, hminus⟩ := hbody.ne_sign
    unfold read
    split
    · next heq => cases heq
    · next heq => exact absurd (List.cons.inj heq).1 hplus
    · next heq => exact absurd (List.cons.inj heq).1 hminus
    · rfl
  | plus => rfl
  | minus => rfl

/-- A text that is read has a sign and a body that is read. -/
theorem signed_of_read {cs : List Char} {d : Decimal} (h : read cs = .ok d) :
    ∃ body, Signed cs d.negative body ∧
      ∃ last, Reading.start.run body = .ok last ∧ d = last.amount d.negative := by
  have hmap : ∀ {body : List Char} {negative : Bool},
      (Reading.start.run body).map (·.amount negative) = .ok d →
        d.negative = negative ∧
          ∃ last, Reading.start.run body = .ok last ∧ d = last.amount d.negative := by
    intro body negative hbody
    cases hrun : Reading.start.run body with
    | error fault =>
      rw [hrun] at hbody
      cases hbody
    | ok last =>
      rw [hrun] at hbody
      cases hbody
      exact ⟨rfl, last, rfl, rfl⟩
  unfold read at h
  split at h
  · cases h
  · obtain ⟨hneg, hlast⟩ := hmap h
    exact ⟨_, hneg ▸ .plus _, hlast⟩
  · obtain ⟨hneg, hlast⟩ := hmap h
    exact ⟨_, hneg ▸ .minus _, hlast⟩
  · obtain ⟨hneg, hlast⟩ := hmap h
    exact ⟨_, hneg ▸ .unsigned _, hlast⟩

/-- **Reading gives the amount that is written.** A text in which none is written is not read. -/
theorem read_eq_ok_iff {cs : List Char} {d : Decimal} : read cs = .ok d ↔ Written cs d := by
  constructor
  · intro h
    obtain ⟨body, hsigned, last, hrun, hd⟩ := signed_of_read h
    obtain ⟨last', hrun', hcovers, hbody⟩ | ⟨fault, hrun', -⟩ :=
      Reading.run_spec Reading.covers_start Legible.nil body
    · cases hrun.symm.trans hrun'
      refine ⟨body, hsigned, hbody, ?_, ?_⟩
      · rw [hd]
        exact hcovers.mantissa_eq
      · rw [hd]
        exact hcovers.scale_eq
    · cases hrun.symm.trans hrun'
  · rintro ⟨body, hsigned, hbody, hmantissa, hscale⟩
    obtain ⟨last, hrun, hcovers, -⟩ | ⟨fault, -, hnot⟩ :=
      Reading.run_spec Reading.covers_start Legible.nil body
    · rw [read_of_signed hsigned hbody, hrun]
      have hm : last.mantissa = d.mantissa := hcovers.mantissa_eq.trans hmantissa.symm
      have hs : last.scale = d.scale := hcovers.scale_eq.trans hscale.symm
      cases d
      cases hm
      cases hs
      rfl
    · exact absurd hbody hnot

end LedgerClient.Decimal
