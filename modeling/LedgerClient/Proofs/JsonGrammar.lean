import LedgerClient.Json.Reader
import Mathlib.Data.List.TakeWhile

/-!
# The grammar of JSON

Which texts are JSON, and for which values, said of whole texts. Nothing in the grammar says how a text
is read. Its smaller parts, the strings, the numbers and the literals, are read exactly as they are
spelled; for the values that nest this is `Json.parse?_eq_some_iff`.

## The grammar

A value is a literal, a number, a string, an array or an object. An element is a value with blanks around
it; the items of an array are elements with commas between them, and so are the members of an object,
each a name, a colon and an element. A string is spelled piece by piece, and it denotes a text when the
halves of surrogate pairs among its pieces stand in pairs; other strings are values as well, without a
text.

## What is proved

* `string?_eq_some_iff`: strings are read as they are spelled.
* `number?_append`, `exists_number`: so are numbers, where what follows does not go on with them.
* `literal?_eq_some_iff`: so are literals.
-/

namespace LedgerClient.Json

/-- Nothing but blanks. -/
def Spaces (cs : List Char) : Prop := ∀ c ∈ cs, isSpace c = true

/-! ### The grammar -/

namespace Grammar

/-- A piece of a string as it is written. -/
inductive PieceText : List Char → Piece → Prop where
  /-- A character that is no quote, no backslash and no control stands for itself. -/
  | plain {c : Char} : c ≠ '"' → c ≠ '\\' → 0x20 ≤ c.toNat → PieceText [c] (.char c)
  /-- A short escape is a backslash and a character. -/
  | short {e c : Char} : shortEscape? e = some c → PieceText ['\\', e] (.char c)
  /-- A code unit is a backslash, the letter and four digits in base 16. -/
  | unit {a b c d : Char} {w x y z : Nat} :
      Bytes.hexValue? a = some w → Bytes.hexValue? b = some x → Bytes.hexValue? c = some y →
      Bytes.hexValue? d = some z →
      PieceText ['\\', 'u', a, b, c, d] (.unit (16 * (16 * (16 * w + x) + y) + z))

/-- Pieces of a string, one behind the other. -/
inductive PiecesText : List Char → List Piece → Prop where
  /-- There are none. -/
  | nil : PiecesText [] []
  /-- One more stands in front. -/
  | cons {s t : List Char} {p : Piece} {ps : List Piece} :
      PieceText s p → PiecesText t ps → PiecesText (s ++ t) (p :: ps)

/-- `Denotes ps cs`: the pieces denote these characters. -/
inductive Denotes : List Piece → List Char → Prop where
  /-- Nothing denotes nothing. -/
  | nil : Denotes [] []
  /-- A character denotes itself. -/
  | char {c : Char} {ps : List Piece} {cs : List Char} :
      Denotes ps cs → Denotes (.char c :: ps) (c :: cs)
  /-- A code unit that is no half of a surrogate pair denotes its character. -/
  | unit {n : Nat} {ps : List Piece} {cs : List Char} :
      isHighHalf n = false → isLowHalf n = false → Denotes ps cs →
      Denotes (.unit n :: ps) (Char.ofNat n :: cs)
  /-- A first half and a second half denote one character together. -/
  | pair {high low : Nat} {ps : List Piece} {cs : List Char} :
      isHighHalf high = true → isLowHalf low = true → Denotes ps cs →
      Denotes (.unit high :: .unit low :: ps) (pairChar high low :: cs)

/-- `StringText s content`: what stands between two quotes, and the text that it denotes, if any. -/
inductive StringText : List Char → Option String → Prop where
  /-- The pieces denote a text. -/
  | text {s cs : List Char} {ps : List Piece} :
      PiecesText s ps → Denotes ps cs → StringText s (some (String.ofList cs))
  /-- They denote none. -/
  | broken {s : List Char} {ps : List Piece} :
      PiecesText s ps → (∀ cs, ¬ Denotes ps cs) → StringText s none

/-- A run of at least one digit. -/
def Digits (s : List Char) : Prop := s ≠ [] ∧ ∀ c ∈ s, c.isDigit = true

/-- The integer part of a number: digits, with no zero before another one. -/
def Whole (s : List Char) : Prop := Digits s ∧ (s.head? = some '0' → s = ['0'])

/-- The fraction of a number, if it has one. -/
inductive Fraction : List Char → Prop where
  /-- There is none. -/
  | absent : Fraction []
  /-- A point and digits. -/
  | digits {s : List Char} : Digits s → Fraction ('.' :: s)

/-- The exponent of a number, if it has one. -/
inductive Exponent : List Char → Prop where
  /-- There is none. -/
  | absent : Exponent []
  /-- A letter of either case, a sign or none, and digits. -/
  | digits {e : Char} {sign s : List Char} :
      e ∈ ['e', 'E'] → sign ∈ [[], ['+'], ['-']] → Digits s → Exponent (e :: (sign ++ s))

/-- A number, and what it is read as. -/
inductive Number : List Char → Json → Prop where
  /-- An integer part alone is a natural number. -/
  | natural {s : List Char} : Whole s → Number s (.natural (Nat.ofDigitChars 10 s 0))
  /-- With a minus sign, a fraction or an exponent it is another number. -/
  | other {minus s fraction exponent : List Char} :
      minus ∈ [[], ['-']] → Whole s → Fraction fraction → Exponent exponent →
      ¬ (minus = [] ∧ fraction = [] ∧ exponent = []) →
      Number (minus ++ (s ++ (fraction ++ exponent))) .otherNumber

mutual

/-- `Value s j`: the text spells the value. -/
inductive Value : List Char → Json → Prop where
  /-- The literal for nothing. -/
  | nullWord : Value ['n', 'u', 'l', 'l'] .null
  /-- The literal for true. -/
  | trueWord : Value ['t', 'r', 'u', 'e'] (.bool true)
  /-- The literal for false. -/
  | falseWord : Value ['f', 'a', 'l', 's', 'e'] (.bool false)
  /-- A number. -/
  | number {s : List Char} {j : Json} : Number s j → Value s j
  /-- A string between quotes. -/
  | string {s : List Char} {content : Option String} :
      StringText s content → Value ('"' :: (s ++ ['"'])) (.string content)
  /-- Brackets with nothing but blanks between them. -/
  | noItems {s : List Char} : Spaces s → Value ('[' :: (s ++ [']'])) (.array [])
  /-- Items between brackets. -/
  | items {s : List Char} {js : List Json} : Items s js → Value ('[' :: (s ++ [']'])) (.array js)
  /-- Braces with nothing but blanks between them. -/
  | noMembers {s : List Char} : Spaces s → Value ('\x7b' :: (s ++ ['\x7d'])) (.object [])
  /-- Members between braces. -/
  | members {s : List Char} {ms : List (Option String × Json)} :
      Members s ms → Value ('\x7b' :: (s ++ ['\x7d'])) (.object ms)

/-- A value with blanks around it. -/
inductive Element : List Char → Json → Prop where
  /-- Blanks, the value, and blanks. -/
  | mk {before s after : List Char} {j : Json} :
      Spaces before → Value s j → Spaces after → Element (before ++ (s ++ after)) j

/-- The items of an array. -/
inductive Items : List Char → List Json → Prop where
  /-- The last one. -/
  | last {s : List Char} {j : Json} : Element s j → Items s [j]
  /-- One more in front, and a comma. -/
  | more {s t : List Char} {j : Json} {js : List Json} :
      Element s j → Items t js → Items (s ++ ',' :: t) (j :: js)

/-- A member of an object, with its name and its value. -/
inductive Member : List Char → Option String × Json → Prop where
  /-- The name between quotes, a colon and the value, with blanks around each. -/
  | mk {before name after s : List Char} {content : Option String} {j : Json} :
      Spaces before → StringText name content → Spaces after → Element s j →
      Member (before ++ ('"' :: (name ++ ('"' :: (after ++ ':' :: s))))) (content, j)

/-- The members of an object. -/
inductive Members : List Char → List (Option String × Json) → Prop where
  /-- The last one. -/
  | last {s : List Char} {m : Option String × Json} : Member s m → Members s [m]
  /-- One more in front, and a comma. -/
  | more {s t : List Char} {m : Option String × Json} {ms : List (Option String × Json)} :
      Member s m → Members t ms → Members (s ++ ',' :: t) (m :: ms)

end

end Grammar

open Grammar

variable {s t rest : List Char} {j : Json}

/-! ### Blanks -/

theorem Spaces.nil : Spaces [] := by simp [Spaces]

theorem Spaces.append {before after : List Char} (h : Spaces before) (h' : Spaces after) :
    Spaces (before ++ after) := by
  intro c hc
  rcases List.mem_append.mp hc with hc | hc
  · exact h c hc
  · exact h' c hc

theorem skipSpace_append {before : List Char} (h : Spaces before) (cs : List Char) :
    skipSpace (before ++ cs) = skipSpace cs := List.dropWhile_append_of_pos h

theorem skipSpace_of_not_isSpace {c : Char} (h : isSpace c = false) (cs : List Char) :
    skipSpace (c :: cs) = c :: cs := List.dropWhile_cons_of_neg (by rw [h]; decide)

/-- What is skipped is blank. -/
theorem exists_spaces (s : List Char) : ∃ before, Spaces before ∧ s = before ++ skipSpace s := by
  refine ⟨s.takeWhile isSpace, fun c hc => ?_, (List.takeWhile_append_dropWhile ..).symm⟩
  exact List.mem_takeWhile_imp hc

theorem skipSpace_skipSpace (s : List Char) : skipSpace (skipSpace s) = skipSpace s := by
  cases h : skipSpace s with
  | nil => rfl
  | cons c cs =>
    have hnot := List.head?_dropWhile_not isSpace s
    rw [skipSpace] at h
    rw [h] at hnot
    exact skipSpace_of_not_isSpace (by simpa using hnot) cs

/-- More blanks around an element make no difference. -/
theorem Grammar.Element.prepend {before : List Char} (h : Element s j) (hbefore : Spaces before) :
    Element (before ++ s) j := by
  obtain ⟨hs, hvalue, hafter⟩ := h
  rw [← List.append_assoc]
  exact .mk (hbefore.append hs) hvalue hafter

theorem Grammar.Element.append {after : List Char} (h : Element s j) (hafter : Spaces after) :
    Element (s ++ after) j := by
  obtain ⟨hbefore, hvalue, hs⟩ := h
  rw [List.append_assoc, List.append_assoc]
  exact .mk hbefore hvalue (hs.append hafter)

/-! ### Strings -/

/-- A spelled piece is read, whatever stands behind it. -/
theorem pieces?_append {p : Piece} (h : PieceText s p) (tail : List Char) :
    pieces? .between (s ++ tail) = (pieces? .between tail).map fun r => (p :: r.1, r.2) := by
  cases h with
  | plain hquote hslash hlow =>
    rw [List.singleton_append, pieces?, if_neg hquote, if_neg hslash, if_neg (by omega)]
  | short he =>
    have hu : ∀ e c : Char, shortEscape? e = some c → e ≠ 'u' := by
      rintro e c he rfl
      cases he
    simp only [List.cons_append, List.nil_append, pieces?, if_neg (hu _ _ he), he]
    rfl
  | unit ha hb hc hd =>
    simp [pieces?, ha, hb, hc, hd]

/-- Spelled pieces are read up to the quote behind them. -/
theorem pieces?_of_piecesText {ps : List Piece} (h : PiecesText s ps) (rest : List Char) :
    pieces? .between (s ++ '"' :: rest) = some (ps, rest) := by
  induction h with
  | nil => simp [pieces?]
  | cons hp _ ih => rw [List.append_assoc, pieces?_append hp, ih, Option.map_some]

/-- Before the last digit of a code unit one digit is read and more are to come. -/
theorem exists_digit {n value : Nat} {r : List Piece × List Char}
    (h : pieces? (.digits (n + 2) value) s = some r) :
    ∃ a w tail, s = a :: tail ∧ Bytes.hexValue? a = some w ∧
      pieces? (.digits (n + 1) (16 * value + w)) tail = some r := by
  cases s with
  | nil => cases h
  | cons a tail =>
    rw [pieces?] at h
    split at h
    · cases h
    · next w hw =>
      rw [if_neg (by omega)] at h
      exact ⟨a, w, tail, rfl, hw, h⟩

/-- Behind the last digit the code unit is one piece, and the string goes on. -/
theorem exists_lastDigit {value : Nat} {r : List Piece × List Char}
    (h : pieces? (.digits 1 value) s = some r) :
    ∃ a w tail ps, s = a :: tail ∧ Bytes.hexValue? a = some w ∧
      r.1 = .unit (16 * value + w) :: ps ∧ pieces? .between tail = some (ps, r.2) := by
  cases s with
  | nil => cases h
  | cons a tail =>
    rw [pieces?] at h
    split at h
    · cases h
    · next w hw =>
      rw [if_pos (by omega)] at h
      obtain ⟨⟨ps, left⟩, htail, rfl⟩ := Option.map_eq_some_iff.mp h
      exact ⟨a, w, tail, ps, rfl, hw, rfl, htail⟩

/-- Behind a backslash a piece is finished, and the string goes on. -/
theorem exists_escape {r : List Piece × List Char} (h : pieces? .escape s = some r) :
    ∃ t p tail ps, s = t ++ tail ∧ PieceText ('\\' :: t) p ∧ r.1 = p :: ps ∧
      pieces? .between tail = some (ps, r.2) := by
  cases s with
  | nil => cases h
  | cons e s =>
    rw [pieces?] at h
    split at h
    · next hu =>
      obtain ⟨a, w, s, rfl, ha, h⟩ := exists_digit h
      obtain ⟨b, x, s, rfl, hb, h⟩ := exists_digit h
      obtain ⟨c, y, s, rfl, hc, h⟩ := exists_digit h
      obtain ⟨d, z, tail, ps, rfl, hd, hr, h⟩ := exists_lastDigit h
      subst hu
      refine ⟨['u', a, b, c, d], _, tail, ps, rfl, .unit ha hb hc hd, ?_, h⟩
      simpa using hr
    · split at h
      · next c hc =>
        obtain ⟨⟨ps, left⟩, htail, rfl⟩ := Option.map_eq_some_iff.mp h
        exact ⟨[e], .char c, s, ps, rfl, .short hc, rfl, htail⟩
      · cases h

/-- Pieces that are read are spelled up to the quote behind them. -/
theorem exists_piecesText {r : List Piece × List Char} (h : pieces? .between s = some r) :
    ∃ t, s = t ++ '"' :: r.2 ∧ PiecesText t r.1 := by
  -- Each piece takes a character at least, so what stands behind it is shorter.
  induction hn : s.length using Nat.strongRecOn generalizing s r with
  | ind n ih =>
    cases s with
    | nil => cases h
    | cons c s =>
      rw [List.length_cons] at hn
      rw [pieces?] at h
      split at h
      · next hquote =>
        cases h
        exact ⟨[], by rw [hquote, List.nil_append], .nil⟩
      · next hquote =>
        split at h
        · next hslash =>
          obtain ⟨t, p, tail, ps, rfl, hp, hr, htail⟩ := exists_escape h
          rw [List.length_append] at hn
          obtain ⟨u, rfl, hps⟩ := ih tail.length (by omega) htail rfl
          refine ⟨'\\' :: t ++ u, ?_, ?_⟩
          · rw [hslash, List.append_assoc, List.cons_append]
          · rw [hr]
            exact .cons hp hps
        · next hslash =>
          split at h
          · cases h
          · next hlow =>
            obtain ⟨⟨ps, left⟩, htail, rfl⟩ := Option.map_eq_some_iff.mp h
            obtain ⟨u, rfl, hps⟩ := ih s.length (by omega) htail rfl
            exact ⟨[c] ++ u, rfl, .cons (.plain hquote hslash (by omega)) hps⟩

/-- A code unit that is no half of a surrogate pair stands for a character of its own. -/
theorem content?_of_no_half {n : Nat} (hhigh : isHighHalf n = false) (hlow : isLowHalf n = false)
    (ps : List Piece) : content? (.unit n :: ps) = (content? ps).map (Char.ofNat n :: ·) := by
  cases ps with
  | nil => simp [content?, hhigh, hlow]
  | cons p ps =>
    cases p with
    | char c => simp [content?, hhigh, hlow]
    | unit m => simp [content?, hhigh, hlow]

/-- Pieces denote what the reader takes them for. -/
theorem content?_eq_some_iff {ps : List Piece} {cs : List Char} :
    content? ps = some cs ↔ Denotes ps cs := by
  constructor
  · intro h
    fun_induction content? ps generalizing cs with
    | case1 =>
      cases h
      exact .nil
    | case2 c ps ih =>
      obtain ⟨ds, hds, rfl⟩ := Option.map_eq_some_iff.mp h
      exact .char (ih hds)
    | case3 high low ps hhigh hlow ih =>
      obtain ⟨ds, hds, rfl⟩ := Option.map_eq_some_iff.mp h
      exact .pair hhigh hlow (ih hds)
    | case4 high low ps hhigh hlow => cases h
    | case5 high low ps hhigh hlow => cases h
    | case6 high low ps hhigh hlow ih =>
      obtain ⟨ds, hds, rfl⟩ := Option.map_eq_some_iff.mp h
      exact .unit (by simpa using hhigh) (by simpa using hlow) (ih hds)
    | case7 n ps hhalf => cases h
    | case8 n ps hnot hhalf ih =>
      obtain ⟨ds, hds, rfl⟩ := Option.map_eq_some_iff.mp h
      rw [Bool.or_eq_true, not_or] at hhalf
      exact .unit (by simpa using hhalf.1) (by simpa using hhalf.2) (ih hds)
  · intro h
    induction h with
    | nil => rfl
    | char _ ih => rw [content?, ih, Option.map_some]
    | unit hhigh hlow _ ih => rw [content?_of_no_half hhigh hlow, ih, Option.map_some]
    | pair hhigh hlow _ ih => simp [content?, hhigh, hlow, ih]

/-- A string is read as it is spelled. -/
theorem string?_eq_some_iff {content : Option String} :
    string? s = some (content, rest) ↔ ∃ t, s = t ++ '"' :: rest ∧ StringText t content := by
  constructor
  · intro h
    obtain ⟨⟨ps, left⟩, hps, hr⟩ := Option.map_eq_some_iff.mp h
    obtain ⟨hcontent, rfl⟩ := Prod.mk.inj hr
    obtain ⟨t, rfl, ht⟩ := exists_piecesText hps
    refine ⟨t, rfl, ?_⟩
    cases hc : content? ps with
    | none =>
      rw [← hcontent, hc]
      refine .broken ht fun cs hcs => ?_
      rw [content?_eq_some_iff.mpr hcs] at hc
      cases hc
    | some cs =>
      rw [← hcontent, hc]
      exact .text ht (content?_eq_some_iff.mp hc)
  · rintro ⟨t, rfl, ht⟩
    cases ht with
    | text hps hcs =>
      rw [string?, pieces?_of_piecesText hps, Option.map_some]
      dsimp only
      rw [content?_eq_some_iff.mpr hcs, Option.map_some]
    | broken hps hnot =>
      have hnone := Option.eq_none_iff_forall_ne_some.mpr fun cs hcs =>
        hnot cs (content?_eq_some_iff.mp hcs)
      rw [string?, pieces?_of_piecesText hps, Option.map_some]
      dsimp only
      rw [hnone, Option.map_none]

/-! ### Numbers -/

/-- What follows does not go on with a number. -/
def Delimits (rest : List Char) : Prop :=
  ∀ c ∈ rest.head?, c.isDigit = false ∧ c ≠ '.' ∧ c ≠ 'e' ∧ c ≠ 'E'

theorem delimits_cons {c : Char} (h : c.isDigit = false ∧ c ≠ '.' ∧ c ≠ 'e' ∧ c ≠ 'E')
    (rest : List Char) : Delimits (c :: rest) := by
  intro d hd
  cases hd
  exact h

/-- Blanks do not go on with a number. -/
theorem delimits_append {before rest : List Char} (h : Spaces before) (hrest : Delimits rest) :
    Delimits (before ++ rest) := by
  cases before with
  | nil => exact hrest
  | cons c cs =>
    have hc : c = ' ' ∨ c = '\t' ∨ c = '\n' ∨ c = '\r' := by
      have hspace := h c List.mem_cons_self
      simpa [isSpace, or_assoc] using hspace
    refine delimits_cons ?_ _
    rcases hc with rfl | rfl | rfl | rfl <;> decide

/-- What follows does not go on with a run of digits. -/
def NoDigit (rest : List Char) : Prop := ∀ c ∈ rest.head?, c.isDigit = false

theorem Delimits.noDigit (h : Delimits rest) : NoDigit rest := fun c hc => (h c hc).1

/-- A run of digits is read as far as it goes. -/
theorem digits?_eq_some_iff :
    digits? s = some (t, rest) ↔ s = t ++ rest ∧ Digits t ∧ NoDigit rest := by
  constructor
  · intro h
    simp only [digits?] at h
    split at h
    · cases h
    · next hne =>
      cases h
      refine ⟨(List.takeWhile_append_dropWhile ..).symm, ⟨by simpa using hne, ?_⟩, ?_⟩
      · intro c hc
        exact List.mem_takeWhile_imp hc
      · intro c hc
        have hnot := List.head?_dropWhile_not Char.isDigit s
        rw [Option.mem_def.mp hc] at hnot
        simpa using hnot
  · rintro ⟨rfl, ⟨hne, hall⟩, hrest⟩
    have htake : rest.takeWhile Char.isDigit = [] := by
      cases rest with
      | nil => rfl
      | cons c rest => rw [List.takeWhile_cons_of_neg (by rw [hrest c rfl]; decide)]
    have hdrop : rest.dropWhile Char.isDigit = rest := by
      cases rest with
      | nil => rfl
      | cons c rest => rw [List.dropWhile_cons_of_neg (by rw [hrest c rfl]; decide)]
    simp [digits?, List.takeWhile_append_of_pos hall, List.dropWhile_append_of_pos hall, htake,
      hdrop, hne]

/-- A run starts with a digit. -/
theorem Grammar.Digits.exists_cons (h : Digits s) : ∃ c cs, s = c :: cs ∧ c.isDigit = true := by
  obtain ⟨hne, hall⟩ := h
  cases s with
  | nil => exact absurd rfl hne
  | cons c cs => exact ⟨c, cs, rfl, hall c List.mem_cons_self⟩

/-- An integer part is read as its number, as far as its digits go. -/
theorem integerPart?_eq_some_iff {n : Nat} :
    integerPart? s = some (n, rest) ↔
      ∃ t, s = t ++ rest ∧ Whole t ∧ NoDigit rest ∧ n = Nat.ofDigitChars 10 t 0 := by
  -- A run of one character or less that starts with a zero is this zero.
  have hzero : ∀ t : List Char, ¬ (1 < t.length ∧ t.head? = some '0') ↔
      (t.head? = some '0' → t = ['0']) := by
    intro t
    cases t with
    | nil => simp
    | cons c cs => cases cs <;> simp
  constructor
  · intro h
    rw [integerPart?] at h
    split at h
    · next t left hread =>
      obtain ⟨rfl, ht, hleft⟩ := digits?_eq_some_iff.mp hread
      split at h
      · cases h
      · next hnot =>
        cases h
        exact ⟨t, rfl, ⟨ht, (hzero t).mp hnot⟩, hleft, rfl⟩
    · cases h
  · rintro ⟨t, rfl, ⟨ht, hnot⟩, hrest, rfl⟩
    rw [integerPart?, digits?_eq_some_iff.mpr ⟨rfl, ht, hrest⟩]
    dsimp only
    rw [if_neg ((hzero t).mpr hnot)]

/-- A fraction is read where neither a digit nor a point goes on behind it. -/
theorem fraction?_append (h : Fraction t) (hrest : NoDigit rest) (hpoint : rest.head? ≠ some '.') :
    fraction? (t ++ rest) = some (!t.isEmpty, rest) := by
  cases h with
  | absent =>
    rw [List.nil_append]
    unfold fraction?
    split
    · exact absurd rfl hpoint
    · rfl
  | digits hdigits =>
    rw [List.cons_append, fraction?, digits?_eq_some_iff.mpr ⟨rfl, hdigits, hrest⟩]
    rfl

theorem exists_fraction {b : Bool} (h : fraction? s = some (b, rest)) :
    ∃ t, s = t ++ rest ∧ Fraction t ∧ b = !t.isEmpty := by
  unfold fraction? at h
  split at h
  · obtain ⟨⟨t, left⟩, hread, hr⟩ := Option.map_eq_some_iff.mp h
    obtain ⟨rfl, rfl⟩ := Prod.mk.inj hr
    obtain ⟨rfl, ht, -⟩ := digits?_eq_some_iff.mp hread
    exact ⟨'.' :: t, rfl, .digits ht, rfl⟩
  · cases h
    exact ⟨[], rfl, .absent, rfl⟩

/-- A sign before digits is passed over. -/
theorem dropSign_append {sign : List Char} (hsign : sign ∈ [[], ['+'], ['-']]) (h : Digits s)
    (rest : List Char) : dropSign (sign ++ (s ++ rest)) = s ++ rest := by
  simp only [List.mem_cons, List.not_mem_nil, or_false] at hsign
  obtain ⟨c, cs, rfl, hc⟩ := h.exists_cons
  rcases hsign with rfl | rfl | rfl
  · rw [List.nil_append, List.cons_append]
    unfold dropSign
    split
    · next heq =>
      cases heq
      cases hc
    · next heq =>
      cases heq
      cases hc
    · rfl
  · rfl
  · rfl

theorem exists_sign (s : List Char) : ∃ sign ∈ [[], ['+'], ['-']], s = sign ++ dropSign s := by
  unfold dropSign
  split
  · exact ⟨['+'], by decide, rfl⟩
  · exact ⟨['-'], by decide, rfl⟩
  · exact ⟨[], by decide, rfl⟩

/-- An exponent is read where nothing goes on with a number behind it. -/
theorem exponent?_append (h : Exponent t) (hrest : Delimits rest) :
    exponent? (t ++ rest) = some (!t.isEmpty, rest) := by
  cases h with
  | absent =>
    rw [List.nil_append]
    unfold exponent?
    split
    · exact absurd rfl (hrest _ rfl).2.2.1
    · exact absurd rfl (hrest _ rfl).2.2.2
    · rfl
  | digits he hsign hdigits =>
    have hread := digits?_eq_some_iff.mpr ⟨rfl, hdigits, hrest.noDigit⟩
    simp only [List.mem_cons, List.not_mem_nil, or_false] at he
    rcases he with rfl | rfl
    · rw [List.cons_append, List.append_assoc, exponent?, dropSign_append hsign hdigits, hread]
      rfl
    · rw [List.cons_append, List.append_assoc, exponent?, dropSign_append hsign hdigits, hread]
      rfl

theorem exists_exponent {b : Bool} (h : exponent? s = some (b, rest)) :
    ∃ t, s = t ++ rest ∧ Exponent t ∧ b = !t.isEmpty := by
  have hdigits : ∀ (e : Char) (more : List Char), e ∈ ['e', 'E'] →
      ((digits? (dropSign more)).map fun r => (Bool.true, r.2)) = some (b, rest) →
      ∃ t, e :: more = t ++ rest ∧ Exponent t ∧ b = !t.isEmpty := by
    intro e more he hmap
    obtain ⟨⟨t, left⟩, hread, hr⟩ := Option.map_eq_some_iff.mp hmap
    obtain ⟨rfl, rfl⟩ := Prod.mk.inj hr
    obtain ⟨hmore, ht, -⟩ := digits?_eq_some_iff.mp hread
    obtain ⟨sign, hsign, hsplit⟩ := exists_sign more
    refine ⟨e :: (sign ++ t), ?_, .digits he hsign ht, rfl⟩
    rw [List.cons_append, List.append_assoc, ← hmore, ← hsplit]
  unfold exponent? at h
  split at h
  · exact hdigits 'e' _ (by decide) h
  · exact hdigits 'E' _ (by decide) h
  · cases h
    exact ⟨[], rfl, .absent, rfl⟩

/-- What starts the fraction or the exponent of a number is no digit. -/
theorem noDigit_fraction (h : Fraction t) (hrest : NoDigit rest) : NoDigit (t ++ rest) := by
  cases h with
  | absent => exact hrest
  | digits _ =>
    rintro c hc
    cases hc
    rfl

theorem noDigit_exponent (h : Exponent t) (hrest : Delimits rest) :
    NoDigit (t ++ rest) ∧ (t ++ rest).head? ≠ some '.' := by
  cases h with
  | absent =>
    refine ⟨hrest.noDigit, fun hpoint => ?_⟩
    exact absurd rfl (hrest '.' hpoint).2.1
  | digits he _ _ =>
    simp only [List.mem_cons, List.not_mem_nil, or_false] at he
    rcases he with rfl | rfl
    · exact ⟨fun c hc => by cases hc; rfl, by simp⟩
    · exact ⟨fun c hc => by cases hc; rfl, by simp⟩

/-- A number without a minus sign is read by its parts. -/
theorem unsigned?_append {fraction exponent : List Char} (hs : Whole s) (hf : Fraction fraction)
    (he : Exponent exponent) (hrest : Delimits rest) :
    unsigned? (s ++ (fraction ++ (exponent ++ rest))) =
      some (if !fraction.isEmpty || !exponent.isEmpty then .otherNumber
        else .natural (Nat.ofDigitChars 10 s 0), rest) := by
  obtain ⟨hdigit, hpoint⟩ := noDigit_exponent he hrest
  have hread := integerPart?_eq_some_iff.mpr ⟨s, rfl, hs, noDigit_fraction hf hdigit, rfl⟩
  simp only [unsigned?, hread, fraction?_append hf hdigit hpoint, exponent?_append he hrest,
    Option.bind_eq_bind, Option.bind_some, Option.pure_def]

theorem exists_unsigned (h : unsigned? s = some (j, rest)) :
    ∃ t fraction exponent, s = t ++ (fraction ++ (exponent ++ rest)) ∧ Whole t ∧
      Fraction fraction ∧ Exponent exponent ∧
      j = if !fraction.isEmpty || !exponent.isEmpty then .otherNumber
        else .natural (Nat.ofDigitChars 10 t 0) := by
  simp only [unsigned?, Option.bind_eq_bind, Option.bind_eq_some_iff, Option.pure_def,
    Option.some.injEq] at h
  obtain ⟨⟨n, s₁⟩, hinteger, ⟨b, s₂⟩, hfraction, ⟨b', s₃⟩, hexponent, hr⟩ := h
  obtain ⟨rfl, rfl⟩ := Prod.mk.inj hr
  obtain ⟨t, rfl, ht, -, rfl⟩ := integerPart?_eq_some_iff.mp hinteger
  obtain ⟨fraction, rfl, hf, rfl⟩ := exists_fraction hfraction
  obtain ⟨exponent, rfl, he, rfl⟩ := exists_exponent hexponent
  exact ⟨t, fraction, exponent, rfl, ht, hf, he, rfl⟩

/-- Only a minus sign makes a difference to how a number is read. -/
theorem number?_of_head_ne (h : s.head? ≠ some '-') : number? s = unsigned? s := by
  unfold number?
  split
  · exact absurd rfl h
  · rfl

/-- A spelled number is read where nothing goes on with it. -/
theorem number?_append (h : Number s j) (hrest : Delimits rest) :
    number? (s ++ rest) = some (j, rest) := by
  have hminus : ∀ {t : List Char} (more : List Char), Whole t → (t ++ more).head? ≠ some '-' := by
    rintro t more ⟨ht, -⟩ hhead
    obtain ⟨c, cs, rfl, hc⟩ := ht.exists_cons
    cases hhead
    cases hc
  cases h with
  | natural hs =>
    have hread := unsigned?_append hs .absent .absent hrest
    rw [number?_of_head_ne (hminus rest hs)]
    simpa using hread
  | @other minus t fraction exponent hsign ht hf he hother =>
    have hread := unsigned?_append ht hf he hrest
    simp only [List.mem_cons, List.not_mem_nil, or_false] at hsign
    rcases hsign with rfl | rfl
    · have hcond : (!fraction.isEmpty || !exponent.isEmpty) = Bool.true := by
        cases fraction <;> cases exponent <;> simp_all
      rw [hcond, if_pos rfl] at hread
      rw [List.nil_append, List.append_assoc, List.append_assoc,
        number?_of_head_ne (hminus _ ht), hread]
    · rw [List.singleton_append, List.cons_append, List.append_assoc, List.append_assoc, number?,
        hread]
      rfl

theorem exists_number (h : number? s = some (j, rest)) : ∃ t, s = t ++ rest ∧ Number t j := by
  unfold number? at h
  split at h
  · obtain ⟨⟨n, left⟩, hread, hr⟩ := Option.map_eq_some_iff.mp h
    obtain ⟨rfl, rfl⟩ := Prod.mk.inj hr
    obtain ⟨t, fraction, exponent, rfl, ht, hf, he, -⟩ := exists_unsigned hread
    refine ⟨['-'] ++ (t ++ (fraction ++ exponent)), by simp, ?_⟩
    exact .other (by decide) ht hf he (by simp)
  · obtain ⟨t, fraction, exponent, rfl, ht, hf, he, rfl⟩ := exists_unsigned h
    refine ⟨t ++ (fraction ++ exponent), by simp, ?_⟩
    split
    · next hsome =>
      have hother : ¬ ([] = ([] : List Char) ∧ fraction = [] ∧ exponent = []) := by
        rintro ⟨-, rfl, rfl⟩
        cases hsome
      exact .other (by decide) ht hf he hother
    · next hnone =>
      obtain ⟨rfl, rfl⟩ : fraction = [] ∧ exponent = [] := by simpa using hnone
      rw [List.append_nil, List.append_nil]
      exact .natural ht

/-! ### Literals -/

theorem afterWord?_eq_some_iff {word : List Char} :
    afterWord? word s = some rest ↔ s = word ++ rest := by
  induction word generalizing s with
  | nil => simp [afterWord?]
  | cons w word ih =>
    cases s with
    | nil => simp [afterWord?]
    | cons c s =>
      rw [afterWord?]
      split
      · next heq =>
        rw [ih, heq, List.cons_append, List.cons.injEq]
        simp
      · next hne => simp [Ne.symm hne]

/-- A literal is read where its word stands. -/
theorem literal?_eq_some_iff {word : String} {j' : Json} :
    literal? word j s = some (j', rest) ↔ j = j' ∧ s = word.toList ++ rest := by
  rw [literal?]
  constructor
  · intro h
    obtain ⟨left, hleft, hr⟩ := Option.map_eq_some_iff.mp h
    obtain ⟨rfl, rfl⟩ := Prod.mk.inj hr
    exact ⟨rfl, afterWord?_eq_some_iff.mp hleft⟩
  · rintro ⟨rfl, hs⟩
    rw [afterWord?_eq_some_iff.mpr hs, Option.map_some]

end LedgerClient.Json
