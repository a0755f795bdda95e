import LedgerClient.Json.Writer
import LedgerClient.Proofs.JsonReading

/-!
# JSON texts are read back

What is written as JSON is read back as it was: a string with any characters in it, a natural number
of any size, the literal for nothing, and an object of such values, on one line or on several. Each is
read back because what is written spells it.

## The model

A written value is followed by a comma, a brace or a line break, which `Delimits` says of what
follows. `Token text j` says that `text` is read as `j` wherever it stands before such a delimiter.
The two ways to write an object differ only in the blanks between the tokens, which make up a
`Layout`; a `Member` is a name with a value that is known to be read back.

## What is proved

* `stringText_escape`: a written string spells its text, character by character.
* `number_naturalText`: a written number spells this natural number.
* `Token.element`: what is read wherever it stands is spelled.
* `Layout.members_lines`: the members of an object are spelled one after the other.
* `Layout.parse?_object`: an object is read back, whatever its layout.
-/

namespace LedgerClient.Json

open Grammar (PieceText PiecesText Denotes StringText Digits Whole Number Value Element Members)

/-! ### Strings -/

/-- The characters below the blank that have a short escape. -/
def shortControls : List Char := ['\x08', '\x0c', '\n', '\r', '\t']

/-- The piece that a written character is read as: a code unit for a control without a short
escape. -/
def piece (c : Char) : Piece :=
  if c.toNat < 0x20 ∧ c ∉ shortControls then .unit c.toNat else .char c

theorem hexValue?_hexDigit {n : Nat} (h : n < 16) :
    Bytes.hexValue? (Bytes.hexDigit n) = some n := by
  have hall : ∀ n < 16, Bytes.hexValue? (Bytes.hexDigit n) = some n := by decide
  exact hall n h

/-- A written character spells its piece. -/
theorem pieceText_escape (c : Char) : PieceText (escape c) (piece c) := by
  -- A short escape, a code unit for the controls that have none, or the character itself.
  by_cases hshort : c ∈ ['"', '\\', '\x08', '\x0c', '\n', '\r', '\t']
  · simp only [List.mem_cons, List.not_mem_nil, or_false] at hshort
    rcases hshort with rfl | rfl | rfl | rfl | rfl | rfl | rfl <;> exact .short rfl
  · simp only [List.mem_cons, List.not_mem_nil, or_false, not_or] at hshort
    obtain ⟨hquote, hslash, hb, hf, hn, hr, ht⟩ := hshort
    have hcontrol : c ∉ shortControls := by simp [shortControls, hb, hf, hn, hr, ht]
    by_cases hlow : c.toNat < 0x20
    · have hescape : escape c =
          ['\\', 'u', '0', '0', Bytes.hexDigit (c.toNat / 16), Bytes.hexDigit (c.toNat % 16)] := by
        simp only [escape, hquote, hslash, hb, hf, hn, hr, ht, hlow, if_true, if_false]
      have hzero : Bytes.hexValue? '0' = some 0 := by decide
      have hunit := PieceText.unit hzero hzero (hexValue?_hexDigit (n := c.toNat / 16) (by omega))
        (hexValue?_hexDigit (n := c.toNat % 16) (by omega))
      rw [hescape, piece, if_pos ⟨hlow, hcontrol⟩]
      simpa [Nat.div_add_mod] using hunit
    · have hescape : escape c = [c] := by
        simp only [escape, hquote, hslash, hb, hf, hn, hr, ht, hlow, if_false]
      rw [hescape, piece, if_neg fun h => hlow h.1]
      exact .plain hquote hslash (Nat.le_of_not_lt hlow)

theorem piecesText_escape (cs : List Char) : PiecesText (cs.flatMap escape) (cs.map piece) := by
  induction cs with
  | nil => exact .nil
  | cons c cs ih => exact .cons (pieceText_escape c) ih

/-- The pieces of a written text denote its characters. -/
theorem denotes_pieces (cs : List Char) : Denotes (cs.map piece) cs := by
  induction cs with
  | nil => exact .nil
  | cons c cs ih =>
    rw [List.map_cons]
    by_cases h : c.toNat < 0x20 ∧ c ∉ shortControls
    · have hhigh : isHighHalf c.toNat = false := by simp [isHighHalf]; omega
      have hlow : isLowHalf c.toNat = false := by simp [isLowHalf]; omega
      have hunit := Denotes.unit hhigh hlow ih
      rw [piece, if_pos h]
      rwa [Char.ofNat_toNat] at hunit
    · rw [piece, if_neg h]
      exact .char ih

/-- A written string spells its text. -/
theorem stringText_escape (s : String) : StringText (s.toList.flatMap escape) (some s) := by
  have htext := StringText.text (piecesText_escape s.toList) (denotes_pieces s.toList)
  rwa [String.ofList_toList] at htext

/-! ### Numbers -/

/-- Only zero starts with a zero. -/
theorem head?_toDigits {n : Nat} (h : n ≠ 0) : (Nat.toDigits 10 n).head? ≠ some '0' := by
  induction n using Nat.strongRecOn with
  | ind n ih =>
    by_cases hlt : n < 10
    · have hdigit : ∀ n < 10, n ≠ 0 → [n.digitChar].head? ≠ some '0' := by decide
      rw [Nat.toDigits_of_lt_base hlt]
      exact hdigit n hlt h
    · -- A longer number starts as its quotient does.
      have hhead := ih (n / 10) (by omega) (by omega)
      rw [Nat.toDigits_of_base_le (by decide) (by omega)]
      cases hd : Nat.toDigits 10 (n / 10) with
      | nil => exact absurd hd Nat.toDigits_ne_nil
      | cons c cs =>
        rw [hd] at hhead
        exact hhead

theorem whole_naturalText (n : Nat) : Whole (naturalText n) := by
  have hdigits : ∀ c ∈ naturalText n, c.isDigit = true := fun c hc =>
    Nat.isDigit_of_mem_toDigits (by decide) (by decide) hc
  refine ⟨⟨Nat.toDigits_ne_nil, hdigits⟩, fun hhead => ?_⟩
  by_cases hn : n = 0
  · rw [hn]
    rfl
  · exact absurd hhead (head?_toDigits hn)

/-- A written number spells this natural number. -/
theorem number_naturalText (n : Nat) : Number (naturalText n) (.natural n) := by
  have hvalue : Nat.ofDigitChars 10 (naturalText n) 0 = n :=
    Nat.ofDigitChars_toDigits (by decide) (by decide)
  have hnumber := Number.natural (whole_naturalText n)
  rwa [hvalue] at hnumber

/-! ### Values -/

/-- A text is read as a value wherever it stands before a delimiter. -/
def Token (text : List Char) (j : Json) : Prop :=
  ∀ depth rest, Delimits rest → value? (depth + 1) (text ++ rest) = some (j, rest)

/-- What is read wherever it stands is spelled. -/
theorem Token.element {text : List Char} {j : Json} (h : Token text j) : Element text j := by
  obtain ⟨t, htext, ht⟩ := (spelled 1).1.element (h 0 [] (by simp [Delimits]))
  have hend : skipSpace [] = [] := rfl
  rw [List.append_nil, hend, List.append_nil] at htext
  rw [htext]
  exact ht

theorem token_null : Token "null".toList .null := by
  intro depth rest _
  exact (value?_literal depth _).1.trans (literal?_eq_some_iff.mpr ⟨rfl, rfl⟩)

theorem token_quote (s : String) : Token (quote s) (.string (some s)) := by
  intro depth rest _
  have hquote : quote s ++ rest = '"' :: (s.toList.flatMap escape ++ '"' :: rest) := by
    simp [quote]
  rw [hquote, value?_quote, string?_eq_some_iff.mpr ⟨_, rfl, stringText_escape s⟩, Option.map_some]

theorem token_naturalText (n : Nat) : Token (naturalText n) (.natural n) := by
  intro depth rest hrest
  exact value?_of_number (number_naturalText n) hrest depth

/-- A value that may be absent. -/
theorem token_orNull {α : Type} {write : α → List Char} {read : α → Json}
    (h : ∀ a, Token (write a) (read a)) (a : Option α) :
    Token (orNull write a) ((a.map read).getD .null) := by
  cases a with
  | none => exact token_null
  | some a => exact h a

/-! ### Objects -/

/-- A member of an object as it is written and as it is read. -/
structure Member where
  /-- The name. -/
  name : String
  /-- The text of the value. -/
  text : List Char
  /-- The value. -/
  value : Json
  /-- The text is read as the value. -/
  token : Token text value

namespace Member

/-- The member as it is written. -/
def written (m : Member) : String × List Char := (m.name, m.text)

/-- The member as it is read. -/
def read (m : Member) : Option String × Json := (some m.name, m.value)

end Member

/-- The blanks between the tokens of an object. -/
structure Layout where
  /-- What stands behind the opening brace and behind each comma, and before the closing brace. -/
  line : List Char
  /-- What stands before a name. -/
  indent : List Char
  /-- What stands behind a colon. -/
  gap : List Char
  /-- All of it is blank. -/
  spaces : Spaces line ∧ Spaces indent ∧ Spaces gap

namespace Layout

/-- Everything on one line. -/
def compact : Layout := ⟨[], [], [], by simp [Spaces]⟩

/-- One member on each line, indented by two blanks. -/
def pretty : Layout := ⟨['\n'], [' ', ' '], [' '], by simp [Spaces, isSpace]⟩

variable (layout : Layout)

/-- A member with its name and the text of its value. -/
def member (m : String × List Char) : List Char :=
  layout.indent ++ quote m.1 ++ [':'] ++ layout.gap ++ m.2

/-- An object with these members. -/
def object (members : List (String × List Char)) : List Char :=
  ['\x7b'] ++ layout.line ++ separated (',' :: layout.line) (members.map layout.member) ++
    layout.line ++ ['\x7d']

theorem object_compact (members : List (String × List Char)) :
    compact.object members = compactObject members := by
  have hmember : members.map compact.member = members.map fun m => quote m.1 ++ [':'] ++ m.2 :=
    List.map_congr_left fun m _ => by simp [member, compact]
  rw [object, hmember, compactObject]
  simp only [compact, List.append_nil]

theorem object_pretty (members : List (String × List Char)) :
    pretty.object members = prettyObject members := by
  have hmember : members.map pretty.member =
      members.map fun m => [' ', ' '] ++ quote m.1 ++ [':', ' '] ++ m.2 :=
    List.map_congr_left fun m _ => by simp [member, pretty]
  rw [object, hmember, prettyObject]
  simp only [pretty, List.append_assoc, List.cons_append, List.nil_append]

/-! ### Reading objects -/

variable {before after : List Char}

/-- A written member is spelled, with blanks around it. -/
theorem member_spelled (hbefore : Spaces before) (hafter : Spaces after) (m : Member) :
    Grammar.Member (before ++ (layout.member m.written ++ after)) m.read := by
  have hvalue : Element (layout.gap ++ (m.text ++ after)) m.value :=
    (m.token.element.append hafter).prepend layout.spaces.2.2
  have hmember := Grammar.Member.mk (hbefore.append layout.spaces.2.1) (stringText_escape m.name)
    .nil hvalue
  simpa [member, quote, Member.written, Member.read] using hmember

/-- The members of an object are spelled one after the other. -/
theorem members_lines (m : Member) (ms : List Member) {before : List Char} (hbefore : Spaces before) :
    Members (before ++
        (separated (',' :: layout.line) (((m :: ms).map Member.written).map layout.member) ++
          layout.line))
      ((m :: ms).map Member.read) := by
  -- The line break behind a comma stands before the next member.
  induction ms generalizing m before with
  | nil => exact .last (layout.member_spelled hbefore layout.spaces.1 m)
  | cons next ms ih =>
    have hmember := layout.member_spelled hbefore .nil m
    have hrest := ih next layout.spaces.1
    simpa [separated] using Members.more hmember hrest

/-- The text of an object is read back. -/
theorem parse?_object (m : Member) (ms : List Member) :
    parse? (String.ofList (layout.object ((m :: ms).map Member.written))) =
      some (.object ((m :: ms).map Member.read)) := by
  have hmembers := layout.members_lines m ms layout.spaces.1
  have hobject := Element.mk .nil (.members hmembers) .nil
  rw [parse?_eq_some_iff, String.toList_ofList]
  simpa [object] using hobject

end Layout

end LedgerClient.Json
