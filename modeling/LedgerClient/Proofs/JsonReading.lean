import LedgerClient.Proofs.JsonGrammar

/-!
# JSON is read as it is spelled

The reader goes through a text once, and what it reads is what the grammar says: it takes every text that
spells a value, whatever is nested in it and however deep, and no other text.

## The model

The depth of the calls of the reader is bounded, so what it does is said for each depth. `ReadsValues` and
its companions say that values of up to half as many characters are read at this depth, `SpellsValues` and
its companions that what is read is spelled. The calls of one depth go on at the depth below, and so do the
proofs: each of the three at one depth follows from the three at the depth below.

## What is proved

* `reads`: every spelled value is read, with twice its length for the depth of the calls.
* `spelled`: what is read is spelled in front of what is left, whatever the depth.
* `parse?_eq_some_iff`: the texts that the reader takes, and what for.
-/

namespace LedgerClient.Json

open Grammar

variable {s rest : List Char} {j : Json} {depth : Nat}

/-! ### Blanks in front -/

theorem value?_skipSpace (depth : Nat) (s : List Char) :
    value? depth (skipSpace s) = value? depth s := by
  cases depth with
  | zero => rw [value?, value?]
  | succ depth => rw [value?, value?, skipSpace_skipSpace]

theorem items?_skipSpace (depth : Nat) (s : List Char) :
    items? depth (skipSpace s) = items? depth s := by
  cases depth with
  | zero => rw [items?, items?]
  | succ depth => rw [items?, items?, value?_skipSpace]

theorem members?_skipSpace (depth : Nat) (s : List Char) :
    members? depth (skipSpace s) = members? depth s := by
  cases depth with
  | zero => rw [members?, members?]
  | succ depth => rw [members?, members?, skipSpace_skipSpace]

/-! ### What the first character says -/

/-- A quote starts a string. -/
theorem value?_quote (depth : Nat) (s : List Char) :
    value? (depth + 1) ('"' :: s) = (string? s).map fun r => (.string r.1, r.2) := by
  rw [value?, skipSpace_of_not_isSpace (by decide)]
  rfl

/-- A bracket starts an empty array where another one closes it. -/
theorem value?_noItems (h : skipSpace s = ']' :: rest) (depth : Nat) :
    value? (depth + 1) ('[' :: s) = some (.array [], rest) := by
  rw [value?, skipSpace_of_not_isSpace (by decide)]
  dsimp only
  rw [if_neg (by decide), if_pos rfl, h]
  rfl

/-- Otherwise it starts items. -/
theorem value?_items (h : (skipSpace s).head? ≠ some ']') (depth : Nat) :
    value? (depth + 1) ('[' :: s) = (items? depth s).map fun r => (.array r.1, r.2) := by
  rw [value?, skipSpace_of_not_isSpace (by decide)]
  dsimp only
  rw [if_neg (by decide), if_pos rfl]
  split
  · next heq =>
    rw [heq] at h
    exact absurd rfl h
  · rw [items?_skipSpace]

/-- A brace starts an empty object where another one closes it. -/
theorem value?_noMembers (h : skipSpace s = '\x7d' :: rest) (depth : Nat) :
    value? (depth + 1) ('\x7b' :: s) = some (.object [], rest) := by
  rw [value?, skipSpace_of_not_isSpace (by decide)]
  dsimp only
  rw [if_neg (by decide), if_neg (by decide), if_pos rfl, h]
  rfl

/-- Otherwise it starts members. -/
theorem value?_members (h : (skipSpace s).head? ≠ some '\x7d') (depth : Nat) :
    value? (depth + 1) ('\x7b' :: s) = (members? depth s).map fun r => (.object r.1, r.2) := by
  rw [value?, skipSpace_of_not_isSpace (by decide)]
  dsimp only
  rw [if_neg (by decide), if_neg (by decide), if_pos rfl]
  split
  · next heq =>
    rw [heq] at h
    exact absurd rfl h
  · rw [members?_skipSpace]

/-- The first letter tells the literal. -/
theorem value?_literal (depth : Nat) (s : List Char) :
    value? (depth + 1) ('n' :: s) = literal? "null" .null ('n' :: s) ∧
    value? (depth + 1) ('t' :: s) = literal? "true" (.bool true) ('t' :: s) ∧
    value? (depth + 1) ('f' :: s) = literal? "false" (.bool false) ('f' :: s) := by
  refine ⟨?_, ?_, ?_⟩
  · rw [value?, skipSpace_of_not_isSpace (by decide)]
    rfl
  · rw [value?, skipSpace_of_not_isSpace (by decide)]
    rfl
  · rw [value?, skipSpace_of_not_isSpace (by decide)]
    rfl

/-- Everything else can only be a number. -/
theorem value?_number {c : Char} (hspace : isSpace c = false)
    (hc : c ∉ ['"', '[', '\x7b', 'n', 't', 'f']) (depth : Nat) (cs : List Char) :
    value? (depth + 1) (c :: cs) = number? (c :: cs) := by
  simp only [List.mem_cons, List.not_mem_nil, or_false, not_or] at hc
  obtain ⟨hquote, hbracket, hbrace, hn, ht, hf⟩ := hc
  rw [value?, skipSpace_of_not_isSpace hspace]
  dsimp only
  rw [if_neg hquote, if_neg hbracket, if_neg hbrace, if_neg hn, if_neg ht, if_neg hf]

/-! ### Spelled values are read -/

namespace Grammar

/-- A number starts with a digit or a minus sign. -/
theorem Number.exists_cons (h : Number s j) :
    ∃ c cs, s = c :: cs ∧ (c.isDigit = true ∨ c = '-') := by
  cases h with
  | natural hs =>
    obtain ⟨c, cs, rfl, hc⟩ := hs.1.exists_cons
    exact ⟨c, cs, rfl, .inl hc⟩
  | other hsign hs _ _ _ =>
    simp only [List.mem_cons, List.not_mem_nil, or_false] at hsign
    rcases hsign with rfl | rfl
    · obtain ⟨c, cs, rfl, hc⟩ := hs.1.exists_cons
      exact ⟨c, _, rfl, .inl hc⟩
    · exact ⟨'-', _, rfl, .inr rfl⟩

/-- Neither of these is anything else. -/
theorem not_mem_of_isDigit {c : Char} (hc : c.isDigit = true ∨ c = '-') {cs : List Char}
    (hcs : cs.all (fun d => !d.isDigit && d != '-') = true) : c ∉ cs := by
  intro hmem
  have hother := List.all_eq_true.mp hcs c hmem
  rcases hc with hc | rfl
  · simp [hc] at hother
  · simp at hother

theorem isSpace_eq_false_of_isDigit {c : Char} (hc : c.isDigit = true ∨ c = '-') :
    isSpace c = false := by
  have hnot : c ∉ [' ', '\t', '\n', '\r'] := not_mem_of_isDigit hc (by decide)
  simpa [isSpace, and_assoc] using hnot

/-- A value starts with a character that is no blank and closes nothing. -/
theorem Value.exists_cons (h : Value s j) :
    ∃ c cs, s = c :: cs ∧ isSpace c = false ∧ c ∉ [']', '\x7d'] := by
  cases h with
  | number hs =>
    obtain ⟨c, cs, rfl, hc⟩ := hs.exists_cons
    exact ⟨c, cs, rfl, isSpace_eq_false_of_isDigit hc, not_mem_of_isDigit hc (by decide)⟩
  | _ => exact ⟨_, _, rfl, by decide, by decide⟩

/-- So do the items of an array, behind blanks. -/
theorem Items.head?_ne {js : List Json} (h : Items s js) (rest : List Char) :
    (skipSpace (s ++ rest)).head? ≠ some ']' := by
  have helement : ∀ {s : List Char} {j : Json}, Element s j → ∀ rest,
      (skipSpace (s ++ rest)).head? ≠ some ']' := by
    rintro s j ⟨hbefore, hvalue, -⟩ rest
    obtain ⟨c, cs, rfl, hspace, hc⟩ := hvalue.exists_cons
    rw [List.append_assoc, skipSpace_append hbefore, List.cons_append, List.cons_append,
      skipSpace_of_not_isSpace hspace]
    simp only [List.mem_cons, List.not_mem_nil, or_false, not_or] at hc
    simpa using hc.1
  cases h with
  | last hj => exact helement hj rest
  | more hj _ =>
    rw [List.append_assoc]
    exact helement hj _

/-- The members of an object start with a quote, behind blanks. -/
theorem Members.head?_ne {ms : List (Option String × Json)} (h : Members s ms) (rest : List Char) :
    (skipSpace (s ++ rest)).head? ≠ some '\x7d' := by
  have hmember : ∀ {s : List Char} {m : Option String × Json}, Member s m → ∀ rest,
      (skipSpace (s ++ rest)).head? ≠ some '\x7d' := by
    rintro s m ⟨hbefore, -, -, -⟩ rest
    rw [List.append_assoc, skipSpace_append hbefore, List.cons_append,
      skipSpace_of_not_isSpace (by decide)]
    simp
  cases h with
  | last hm => exact hmember hm rest
  | more hm _ =>
    rw [List.append_assoc]
    exact hmember hm _

end Grammar

/-- A spelled number is read as a value. -/
theorem value?_of_number (h : Number s j) (hrest : Delimits rest) (depth : Nat) :
    value? (depth + 1) (s ++ rest) = some (j, rest) := by
  have hread := number?_append h hrest
  obtain ⟨c, cs, rfl, hc⟩ := h.exists_cons
  rw [List.cons_append] at hread ⊢
  rw [value?_number (isSpace_eq_false_of_isDigit hc) (not_mem_of_isDigit hc (by decide)), hread]

/-- What stands between two characters is followed by the second one. -/
theorem between_append (c d : Char) (s rest : List Char) :
    c :: (s ++ [d]) ++ rest = c :: (s ++ d :: rest) := by simp

/-- At this depth of the calls, values of up to half as many characters are read. -/
def ReadsValues (depth : Nat) : Prop :=
  ∀ ⦃before s rest : List Char⦄ ⦃j : Json⦄, Spaces before → Value s j → 2 * s.length ≤ depth →
    Delimits rest → value? depth (before ++ (s ++ rest)) = some (j, rest)

/-- And so are items up to the bracket behind them. -/
def ReadsItems (depth : Nat) : Prop :=
  ∀ ⦃s rest : List Char⦄ ⦃js : List Json⦄, Items s js → 2 * s.length < depth →
    items? depth (s ++ ']' :: rest) = some (js, rest)

/-- And members up to the brace behind them. -/
def ReadsMembers (depth : Nat) : Prop :=
  ∀ ⦃s rest : List Char⦄ ⦃ms : List (Option String × Json)⦄, Members s ms → 2 * s.length < depth →
    members? depth (s ++ '\x7d' :: rest) = some (ms, rest)

/-- An element is read up to the delimiter behind it, and the blanks in between are skipped. -/
theorem ReadsValues.element (hvalues : ReadsValues depth) (h : Element s j)
    (hdepth : 2 * s.length ≤ depth) (hskip : skipSpace rest = rest) (hrest : Delimits rest) :
    ∃ left, value? depth (s ++ rest) = some (j, left) ∧ skipSpace left = rest := by
  obtain ⟨hbefore, hvalue, hafter⟩ := h
  rw [List.length_append, List.length_append] at hdepth
  refine ⟨_, ?_, (skipSpace_append hafter rest).trans hskip⟩
  rw [List.append_assoc, List.append_assoc]
  exact hvalues hbefore hvalue (by omega) (delimits_append hafter hrest)

/-- One level deeper, items are read: the last one up to the bracket, another one up to its comma. -/
theorem readsItems_succ (hvalues : ReadsValues depth) (hitems : ReadsItems depth) :
    ReadsItems (depth + 1) := by
  intro s rest js h hdepth
  cases h with
  | last hj =>
    obtain ⟨left, hread, hskip⟩ := hvalues.element hj (by omega)
      (skipSpace_of_not_isSpace (c := ']') (by decide) rest) (delimits_cons (by decide) rest)
    simp only [items?, hread, hskip]
  | @more s t _ _ hj hjs =>
    rw [List.length_append, List.length_cons] at hdepth
    obtain ⟨left, hread, hskip⟩ := hvalues.element hj (by omega)
      (skipSpace_of_not_isSpace (c := ',') (by decide) (t ++ ']' :: rest))
      (delimits_cons (by decide) _)
    rw [List.append_assoc, List.cons_append]
    simp only [items?, hread, hskip, hitems hjs (by omega), Option.map_some]

/-- Members are read one by one as well. -/
theorem members?_append (hvalues : ReadsValues depth) {m : Option String × Json} (h : Grammar.Member s m)
    (hdepth : 2 * s.length ≤ depth) {c : Char} (hspace : isSpace c = false)
    (hc : Delimits (c :: rest)) :
    members? (depth + 1) (s ++ c :: rest) =
      if c = ',' then (members? depth rest).map fun r => (m :: r.1, r.2)
      else if c = '\x7d' then some ([m], rest) else none := by
  obtain ⟨hbefore, hname, hafter, hj⟩ := h
  simp only [List.length_append, List.length_cons] at hdepth
  obtain ⟨left, hread, hskip⟩ := hvalues.element hj (by omega)
    (skipSpace_of_not_isSpace hspace rest) hc
  have hquote : ∀ cs, skipSpace ('"' :: cs) = '"' :: cs := skipSpace_of_not_isSpace (by decide)
  have hcolon : ∀ cs, skipSpace (':' :: cs) = ':' :: cs := skipSpace_of_not_isSpace (by decide)
  simp only [List.append_assoc, List.cons_append, members?, skipSpace_append hbefore, hquote,
    string?_eq_some_iff.mpr ⟨_, rfl, hname⟩, skipSpace_append hafter, hcolon, hread, hskip]
  split
  · next heq =>
    cases heq
    rw [if_pos rfl]
  · next heq =>
    cases heq
    rw [if_neg (by decide), if_pos rfl]
  · next hcomma hbrace =>
    rw [if_neg, if_neg]
    · rintro rfl
      exact hbrace rest rfl
    · rintro rfl
      exact hcomma rest rfl

theorem readsMembers_succ (hvalues : ReadsValues depth) (hmembers : ReadsMembers depth) :
    ReadsMembers (depth + 1) := by
  intro s rest ms h hdepth
  cases h with
  | last hm =>
    rw [members?_append hvalues hm (by omega) (by decide) (delimits_cons (by decide) rest),
      if_neg (by decide), if_pos rfl]
  | more hm hms =>
    rw [List.length_append, List.length_cons] at hdepth
    rw [List.append_assoc, List.cons_append,
      members?_append hvalues hm (by omega) (by decide) (delimits_cons (by decide) _), if_pos rfl,
      hmembers hms (by omega), Option.map_some]

/-- One level deeper, values are read, whatever is nested in them. -/
theorem readsValues_succ (hitems : ReadsItems depth) (hmembers : ReadsMembers depth) :
    ReadsValues (depth + 1) := by
  intro before s rest j hbefore h hdepth hrest
  rw [← value?_skipSpace, skipSpace_append hbefore, value?_skipSpace]
  have hword : ∀ {word : String} {j : Json} {rest : List Char},
      literal? word j (word.toList ++ rest) = some (j, rest) := literal?_eq_some_iff.mpr ⟨rfl, rfl⟩
  cases h with
  | nullWord => exact (value?_literal depth _).1.trans hword
  | trueWord => exact (value?_literal depth _).2.1.trans hword
  | falseWord => exact (value?_literal depth _).2.2.trans hword
  | number hs => exact value?_of_number hs hrest depth
  | string hs =>
    rw [between_append, value?_quote,
      string?_eq_some_iff.mpr ⟨_, rfl, hs⟩, Option.map_some]
  | noItems hs =>
    rw [between_append]
    exact value?_noItems ((skipSpace_append hs _).trans (skipSpace_of_not_isSpace (by decide) rest))
      depth
  | items hs =>
    rw [List.length_cons, List.length_append, List.length_singleton] at hdepth
    rw [between_append, value?_items (hs.head?_ne _),
      hitems hs (by omega), Option.map_some]
  | noMembers hs =>
    rw [between_append]
    exact value?_noMembers
      ((skipSpace_append hs _).trans (skipSpace_of_not_isSpace (by decide) rest)) depth
  | members hs =>
    rw [List.length_cons, List.length_append, List.length_singleton] at hdepth
    rw [between_append, value?_members (hs.head?_ne _),
      hmembers hs (by omega), Option.map_some]

/-- Every spelled value is read, at a depth of the calls that goes by its length. -/
theorem reads (depth : Nat) : ReadsValues depth ∧ ReadsItems depth ∧ ReadsMembers depth := by
  induction depth with
  | zero =>
    refine ⟨fun before s rest j _ h hdepth => ?_, fun s rest js _ hdepth => ?_,
      fun s rest ms _ hdepth => ?_⟩
    · -- There is no value without a character.
      obtain ⟨c, cs, rfl, -⟩ := h.exists_cons
      rw [List.length_cons] at hdepth
      omega
    · omega
    · omega
  | succ depth ih =>
    obtain ⟨hvalues, hitems, hmembers⟩ := ih
    exact ⟨readsValues_succ hitems hmembers, readsItems_succ hvalues hitems,
      readsMembers_succ hvalues hmembers⟩

/-! ### Values that are read are spelled -/

/-- At this depth of the calls, what is read as a value is spelled in front of what is left. -/
def SpellsValues (depth : Nat) : Prop :=
  ∀ ⦃s rest : List Char⦄ ⦃j : Json⦄, value? depth s = some (j, rest) →
    ∃ before t, Spaces before ∧ s = before ++ (t ++ rest) ∧ Value t j

/-- And so are items, in front of their bracket. -/
def SpellsItems (depth : Nat) : Prop :=
  ∀ ⦃s rest : List Char⦄ ⦃js : List Json⦄, items? depth s = some (js, rest) →
    ∃ t, s = t ++ ']' :: rest ∧ Items t js

/-- And members, in front of their brace. -/
def SpellsMembers (depth : Nat) : Prop :=
  ∀ ⦃s rest : List Char⦄ ⦃ms : List (Option String × Json)⦄, members? depth s = some (ms, rest) →
    ∃ t, s = t ++ '\x7d' :: rest ∧ Members t ms

/-- With the blanks behind it, what is read as a value is an element. -/
theorem SpellsValues.element (hvalues : SpellsValues depth) (h : value? depth s = some (j, rest)) :
    ∃ t, s = t ++ skipSpace rest ∧ Element t j := by
  obtain ⟨before, t, hbefore, rfl, ht⟩ := hvalues h
  obtain ⟨after, hafter, hsplit⟩ := exists_spaces rest
  refine ⟨before ++ (t ++ after), ?_, .mk hbefore ht hafter⟩
  rw [List.append_assoc, List.append_assoc, ← hsplit]

theorem spellsItems_succ (hvalues : SpellsValues depth) (hitems : SpellsItems depth) :
    SpellsItems (depth + 1) := by
  intro s rest js h
  rw [items?] at h
  split at h
  · cases h
  · next j left hread =>
    obtain ⟨t, rfl, ht⟩ := hvalues.element hread
    split at h
    · next more hcomma =>
      obtain ⟨⟨js', left'⟩, hmore, hr⟩ := Option.map_eq_some_iff.mp h
      obtain ⟨rfl, rfl⟩ := Prod.mk.inj hr
      obtain ⟨u, rfl, hu⟩ := hitems hmore
      refine ⟨t ++ ',' :: u, ?_, .more ht hu⟩
      rw [hcomma, List.append_assoc, List.cons_append]
    · next left' hclose =>
      cases h
      exact ⟨t, by rw [hclose], .last ht⟩
    · cases h

/-- A name, a colon and a value that are read are a member, with the blanks around them. -/
theorem SpellsValues.member (hvalues : SpellsValues depth) {name : Option String}
    {s₁ s₂ s₃ : List Char} (hquote : skipSpace s = '"' :: s₁)
    (hname : string? s₁ = some (name, s₂)) (hcolon : skipSpace s₂ = ':' :: s₃)
    (hread : value? depth s₃ = some (j, rest)) :
    ∃ t, s = t ++ skipSpace rest ∧ Grammar.Member t (name, j) := by
  obtain ⟨before, hbefore, hs⟩ := exists_spaces s
  obtain ⟨t, rfl, ht⟩ := string?_eq_some_iff.mp hname
  obtain ⟨after, hafter, hs₂⟩ := exists_spaces s₂
  obtain ⟨u, rfl, hu⟩ := hvalues.element hread
  refine ⟨_, ?_, .mk hbefore ht hafter hu⟩
  rw [hcolon] at hs₂
  rw [hquote, hs₂] at hs
  rw [hs]
  simp only [List.append_assoc, List.cons_append]

theorem spellsMembers_succ (hvalues : SpellsValues depth) (hmembers : SpellsMembers depth) :
    SpellsMembers (depth + 1) := by
  intro s rest ms h
  rw [members?] at h
  split at h
  · next s₁ hquote =>
    split at h
    · cases h
    · next name s₂ hname =>
      split at h
      · next s₃ hcolon =>
        split at h
        · cases h
        · next j left hread =>
          obtain ⟨t, rfl, ht⟩ := hvalues.member hquote hname hcolon hread
          split at h
          · next more hcomma =>
            obtain ⟨⟨ms', left'⟩, hmore, hr⟩ := Option.map_eq_some_iff.mp h
            obtain ⟨rfl, rfl⟩ := Prod.mk.inj hr
            obtain ⟨u, rfl, hu⟩ := hmembers hmore
            refine ⟨t ++ ',' :: u, ?_, .more ht hu⟩
            rw [hcomma, List.append_assoc, List.cons_append]
          · next left' hclose =>
            cases h
            exact ⟨t, by rw [hclose], .last ht⟩
          · cases h
      · cases h
  · cases h

/-- One level deeper, what is read behind the blanks is spelled there. -/
theorem exists_value (hitems : SpellsItems depth) (hmembers : SpellsMembers depth) {c : Char}
    (hspace : isSpace c = false) (h : value? (depth + 1) (c :: s) = some (j, rest)) :
    ∃ t, c :: s = t ++ rest ∧ Value t j := by
  by_cases hc : c ∈ ['"', '[', '\x7b', 'n', 't', 'f']
  · simp only [List.mem_cons, List.not_mem_nil, or_false] at hc
    obtain ⟨hnull, htrue, hfalse⟩ := value?_literal depth s
    rcases hc with rfl | rfl | rfl | rfl | rfl | rfl
    · rw [value?_quote] at h
      obtain ⟨⟨content, left⟩, hread, hr⟩ := Option.map_eq_some_iff.mp h
      obtain ⟨rfl, rfl⟩ := Prod.mk.inj hr
      obtain ⟨t, rfl, ht⟩ := string?_eq_some_iff.mp hread
      exact ⟨_, (between_append ..).symm, .string ht⟩
    · by_cases hclose : (skipSpace s).head? = some ']'
      · obtain ⟨left, hleft⟩ := List.head?_eq_some_iff.mp hclose
        obtain ⟨blanks, hblanks, hs⟩ := exists_spaces s
        rw [value?_noItems hleft] at h
        cases h
        rw [hs, hleft]
        exact ⟨_, (between_append ..).symm, .noItems hblanks⟩
      · rw [value?_items hclose] at h
        obtain ⟨⟨js, left⟩, hread, hr⟩ := Option.map_eq_some_iff.mp h
        obtain ⟨rfl, rfl⟩ := Prod.mk.inj hr
        obtain ⟨t, rfl, ht⟩ := hitems hread
        exact ⟨_, (between_append ..).symm, .items ht⟩
    · by_cases hclose : (skipSpace s).head? = some '\x7d'
      · obtain ⟨left, hleft⟩ := List.head?_eq_some_iff.mp hclose
        obtain ⟨blanks, hblanks, hs⟩ := exists_spaces s
        rw [value?_noMembers hleft] at h
        cases h
        rw [hs, hleft]
        exact ⟨_, (between_append ..).symm, .noMembers hblanks⟩
      · rw [value?_members hclose] at h
        obtain ⟨⟨ms, left⟩, hread, hr⟩ := Option.map_eq_some_iff.mp h
        obtain ⟨rfl, rfl⟩ := Prod.mk.inj hr
        obtain ⟨t, rfl, ht⟩ := hmembers hread
        exact ⟨_, (between_append ..).symm, .members ht⟩
    · obtain ⟨rfl, hs⟩ := literal?_eq_some_iff.mp (hnull.symm.trans h)
      exact ⟨_, hs, .nullWord⟩
    · obtain ⟨rfl, hs⟩ := literal?_eq_some_iff.mp (htrue.symm.trans h)
      exact ⟨_, hs, .trueWord⟩
    · obtain ⟨rfl, hs⟩ := literal?_eq_some_iff.mp (hfalse.symm.trans h)
      exact ⟨_, hs, .falseWord⟩
  · rw [value?_number hspace hc] at h
    obtain ⟨t, hs, ht⟩ := exists_number h
    exact ⟨t, hs, .number ht⟩

theorem spellsValues_succ (hitems : SpellsItems depth) (hmembers : SpellsMembers depth) :
    SpellsValues (depth + 1) := by
  intro s rest j h
  obtain ⟨before, hbefore, hs⟩ := exists_spaces s
  rw [← value?_skipSpace] at h
  have hnot := List.head?_dropWhile_not isSpace s
  rw [← skipSpace] at hnot
  cases hskip : skipSpace s with
  | nil =>
    rw [hskip, value?] at h
    cases h
  | cons c cs =>
    rw [hskip] at h hnot
    obtain ⟨t, ht, hvalue⟩ := exists_value hitems hmembers (by simpa using hnot) h
    exact ⟨before, t, hbefore, by rw [← ht, ← hskip, ← hs], hvalue⟩

/-- Whatever the depth of the calls, what is read is spelled. -/
theorem spelled (depth : Nat) : SpellsValues depth ∧ SpellsItems depth ∧ SpellsMembers depth := by
  induction depth with
  | zero =>
    refine ⟨fun s rest j h => ?_, fun s rest js h => ?_, fun s rest ms h => ?_⟩
    · rw [value?] at h
      cases h
    · rw [items?] at h
      cases h
    · rw [members?] at h
      cases h
  | succ depth ih =>
    obtain ⟨hvalues, hitems, hmembers⟩ := ih
    exact ⟨spellsValues_succ hitems hmembers, spellsItems_succ hvalues hitems,
      spellsMembers_succ hvalues hmembers⟩

/-! ### Texts -/

/-- A text is read as a value when it spells this value with blanks around it, and only then. -/
theorem parse?_eq_some_iff {text : String} :
    parse? text = some j ↔ Grammar.Element text.toList j := by
  constructor
  · intro h
    rw [parse?] at h
    split at h
    · next j' left hread =>
      split at h
      · next hblank =>
        cases h
        obtain ⟨t, htext, ht⟩ := (spelled _).1.element hread
        rw [List.isEmpty_iff.mp hblank, List.append_nil] at htext
        rw [htext]
        exact ht
      · cases h
    · cases h
  · intro h
    have hdepth : 2 * text.toList.length ≤ 2 * text.toList.length + 2 := Nat.le_add_right _ _
    have hend : skipSpace [] = [] ∧ Delimits [] := ⟨rfl, by simp [Delimits]⟩
    obtain ⟨left, hread, hskip⟩ := (reads _).1.element h hdepth hend.1 hend.2
    rw [List.append_nil] at hread
    simp only [parse?, hread, hskip]
    rfl

end LedgerClient.Json
