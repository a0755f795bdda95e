import LedgerClient.Proofs.Resolution
import Mathlib.Algebra.BigOperators.Group.Finset.Basic
import Mathlib.Algebra.Order.Floor.Div
import Mathlib.Data.Nat.Count
import Mathlib.Data.Set.Card
import Mathlib.Order.Interval.Finset.Nat

/-!
# Fair choices

Every candidate has the same chance to be chosen. A choice is made by the first random word that is
taken, and each candidate is the choice of equally many words, so that how often an address is chosen
depends only on how often it stands among the candidates. A word that is refused favours nobody, and at
least one word in two is taken.

## The words of a candidate

The product of a word with the number `n` of candidates is a multiple of `n`. It lies in one of `n`
blocks of `2 ^ 32` numbers each: the word stands for the candidate of this block. The word is taken when
the product lies in the first row of the block, of `n * 2 ^ k` numbers, where `k` is the number of
leading zeros of `n`. A row of `n * 2 ^ k` numbers holds `2 ^ k` multiples of `n`, wherever it begins.
Whole blocks can hold more multiples of `n` or fewer; that is why there are words that are refused.

## The model

`WordSource.Settles n w i` says that a draw among `n` candidates that meets the word `w` looks no
further and gives the index `i`; `Catalog.Settles` says the same of the choice of an address. Both speak
of all sources that have the word next: a refused word that is the last one in reach settles nothing.

## What is proved

* `WordSource.settles_iff`: which words settle a draw, and on which index.
* `WordSource.ncard_settles`: how many words settle a draw on one of some indices.
* `choice_is_fair`: what this comes to for the choice of an address.
-/

namespace LedgerClient

namespace WordSource

/-! ### Words that settle a draw -/

section Settles

variable {n i j : Nat} {w : UInt32}

/-- `Settles n w i`: with the word `w` next, a draw among `n` takes this word and no other, and gives
the index `i`. -/
def Settles (n : Nat) (w : UInt32) (i : Nat) : Prop :=
  ∀ source : WordSource, source.ahead 0 = w → source.draw n = (i, source.skip 1)

theorem draw_of_accepts {source : WordSource} (h : accepts n (source.ahead 0) = true) :
    source.draw n = (index n (source.ahead 0), source.skip 1) := by
  rw [draw]
  rcases drawWithin_cases n source.reach source with ⟨k, -, hbefore, -, heq⟩ | ⟨hall, -⟩
  · cases k with
    | zero => exact heq
    | succ k => exact absurd h (by simp [hbefore 0 (Nat.succ_pos k)])
  · exact absurd h (by simp [hall 0 source.reach_pos])

/-- The source of one word for ever, of which a draw looks at two. -/
def forever (w : UInt32) : WordSource := ⟨fun _ => w, 2, Nat.two_pos, 0⟩

/-- Of a word that is refused more than one is taken. -/
theorem accepts_of_draw_forever (h : ((forever w).draw n).2 = (forever w).skip 1) :
    accepts n w = true := by
  rcases drawWithin_cases n 2 (forever w) with ⟨k, -, -, hacc, -⟩ | ⟨-, heq⟩
  · exact hacc
  · have htwo : ((forever w).draw n).2 = (forever w).skip 2 := congrArg Prod.snd heq
    cases congrArg position (htwo.symm.trans h)

theorem settles_iff_accepts : Settles n w i ↔ accepts n w = true ∧ index n w = i := by
  constructor
  · intro h
    have hdraw : (forever w).draw n = (i, (forever w).skip 1) := h (forever w) rfl
    have hacc : accepts n w = true := accepts_of_draw_forever (congrArg Prod.snd hdraw)
    have htaken : (forever w).draw n = (index n w, (forever w).skip 1) := draw_of_accepts hacc
    exact ⟨hacc, congrArg Prod.fst (htaken.symm.trans hdraw)⟩
  · rintro ⟨hacc, rfl⟩ source rfl
    exact draw_of_accepts hacc

/-- A word settles a draw on one index only. -/
theorem Settles.unique (hi : Settles n w i) (hj : Settles n w j) : i = j :=
  (settles_iff_accepts.mp hi).2.symm.trans (settles_iff_accepts.mp hj).2

theorem Settles.lt (hn : 0 < n) (h : Settles n w i) : i < n :=
  (settles_iff_accepts.mp h).2 ▸ index_lt hn w

/-- The rule by which words are taken, and what they stand for. -/
theorem settles_iff : Settles n w i ↔
    w.toNat * n % UInt32.size ≤ n * 2 ^ leadingZeros32 n - 1 ∧ w.toNat * n / UInt32.size = i := by
  rw [settles_iff_accepts, accepts, index, zone, Nat.shiftLeft_eq, decide_eq_true_iff]

end Settles

/-! ### Rows -/

section Rows

variable {n i m : Nat}

/-- Moved up by its leading zeros, a number has its highest bit at the top of 32 bits. -/
theorem shifted_bounds (hn : 0 < n) (hsize : n < UInt32.size) :
    2 ^ 31 ≤ n * 2 ^ leadingZeros32 n ∧ n * 2 ^ leadingZeros32 n < UInt32.size := by
  have hlow : 2 ^ n.log2 ≤ n := Nat.log2_self_le hn.ne'
  have hhigh : n < 2 ^ (n.log2 + 1) := Nat.lt_log2_self
  have hlog : n.log2 < 32 := (Nat.log2_lt hn.ne').mpr hsize
  have hsum : n.log2 + leadingZeros32 n = 31 := by
    rw [leadingZeros32]
    omega
  constructor
  · calc 2 ^ 31 = 2 ^ n.log2 * 2 ^ leadingZeros32 n := by rw [← Nat.pow_add, hsum]
      _ ≤ n * 2 ^ leadingZeros32 n := Nat.mul_le_mul_right _ hlow
  · calc n * 2 ^ leadingZeros32 n < 2 ^ (n.log2 + 1) * 2 ^ leadingZeros32 n :=
          Nat.mul_lt_mul_of_pos_right hhigh (Nat.two_pow_pos _)
      _ = UInt32.size := by rw [← Nat.pow_add, Nat.add_right_comm, hsum]

/-- The lowest number whose product with `n` reaches the block of an index. -/
def lowest (n i : Nat) : Nat := i * UInt32.size ⌈/⌉ n

/-- The numbers whose product with `n` lies in the first row of the block of an index. -/
def row (n i : Nat) : Finset Nat := Finset.Ico (lowest n i) (lowest n i + 2 ^ leadingZeros32 n)

theorem card_row (n i : Nat) : (row n i).card = 2 ^ leadingZeros32 n := by
  rw [row, Nat.card_Ico, Nat.add_sub_cancel_left]

/-- Products pass `n * c` numbers while their factor passes `c`. -/
theorem lowest_add_le_iff (hn : 0 < n) (c : Nat) :
    lowest n i + c ≤ m ↔ i * UInt32.size + n * c ≤ m * n := by
  by_cases hm : c ≤ m
  · obtain ⟨d, rfl⟩ := Nat.exists_eq_add_of_le' hm
    rw [Nat.add_le_add_iff_right, lowest, ceilDiv_le_iff_le_mul hn, Nat.add_mul, Nat.mul_comm d n,
      Nat.mul_comm c n, Nat.add_le_add_iff_right]
  · have hproduct : m * n < n * c := by
      rw [Nat.mul_comm n c]
      exact Nat.mul_lt_mul_of_pos_right (Nat.not_le.mp hm) hn
    omega

theorem mem_row_iff (hn : 0 < n) : m ∈ row n i ↔
    i * UInt32.size ≤ m * n ∧ m * n < i * UInt32.size + n * 2 ^ leadingZeros32 n := by
  have hbegin := lowest_add_le_iff (i := i) (m := m) hn 0
  rw [Nat.mul_zero, Nat.add_zero, Nat.add_zero] at hbegin
  rw [row, Finset.mem_Ico, hbegin, ← Nat.not_le, lowest_add_le_iff hn, Nat.not_le]

/-- A word settles a draw on an index exactly when it is one of the numbers of the row. -/
theorem settles_iff_mem_row {w : UInt32} (hn : 0 < n) (hsize : n < UInt32.size) :
    Settles n w i ↔ w.toNat ∈ row n i := by
  have hvalue : UInt32.size = 4294967296 := rfl
  obtain ⟨hlow, hhigh⟩ := shifted_bounds hn hsize
  rw [mem_row_iff hn, settles_iff, hvalue]
  rw [hvalue] at hhigh
  -- for any product, and for a row of any length within a block
  generalize w.toNat * n = product
  generalize n * 2 ^ leadingZeros32 n = length at hlow hhigh ⊢
  omega

/-- Every number of a row is a word. -/
theorem exists_settles_of_mem_row (hn : 0 < n) (hsize : n < UInt32.size) (hi : i < n)
    (hm : m ∈ row n i) : ∃ w, Settles n w i ∧ w.toNat = m := by
  have hrow : n * 2 ^ leadingZeros32 n ≤ UInt32.size := (shifted_bounds hn hsize).2.le
  have hlt : m < UInt32.size := by
    refine Nat.lt_of_mul_lt_mul_right (a := n) ?_
    calc m * n < i * UInt32.size + n * 2 ^ leadingZeros32 n := ((mem_row_iff hn).mp hm).2
      _ ≤ i * UInt32.size + UInt32.size := Nat.add_le_add_left hrow _
      _ = (i + 1) * UInt32.size := (Nat.succ_mul ..).symm
      _ ≤ n * UInt32.size := Nat.mul_le_mul_right _ hi
      _ = UInt32.size * n := Nat.mul_comm ..
  have hw : (UInt32.ofNat m).toNat = m := UInt32.toNat_ofNat_of_lt' hlt
  refine ⟨UInt32.ofNat m, (settles_iff_mem_row hn hsize).mpr ?_, hw⟩
  rw [hw]
  exact hm

/-- The rows of different indices have no number in common. -/
theorem pairwiseDisjoint_row (hn : 0 < n) (hsize : n < UInt32.size) :
    ((Finset.range n : Finset Nat) : Set Nat).PairwiseDisjoint (row n) := by
  intro i hi j hj hne
  refine Finset.disjoint_left.mpr fun m hmi hmj => hne ?_
  obtain ⟨w, hwi, rfl⟩ := exists_settles_of_mem_row hn hsize (Finset.mem_range.mp hi) hmi
  exact hwi.unique ((settles_iff_mem_row hn hsize).mpr hmj)

/-- The words that settle a draw on one of some indices are the numbers of their rows. -/
theorem image_settles (hn : 0 < n) (hsize : n < UInt32.size) (p : Nat → Prop) [DecidablePred p] :
    Set.image UInt32.toNat {w | ∃ i, Settles n w i ∧ p i} =
      (((Finset.range n).filter p).biUnion (row n) : Finset Nat) := by
  ext m
  simp only [Set.mem_image, Set.mem_ofPred_eq, Finset.coe_biUnion, Finset.coe_filter,
    Finset.mem_range, Set.mem_iUnion, exists_prop, Finset.mem_coe, and_assoc]
  constructor
  · rintro ⟨w, ⟨i, hw, hp⟩, rfl⟩
    exact ⟨i, hw.lt hn, hp, (settles_iff_mem_row hn hsize).mp hw⟩
  · rintro ⟨i, hi, hp, hm⟩
    obtain ⟨w, hw, hwm⟩ := exists_settles_of_mem_row hn hsize hi hm
    exact ⟨w, ⟨i, hw, hp⟩, hwm⟩

/-- Of the words that settle a draw on one of some indices, `2 ^ k` fall to each of these. -/
theorem ncard_settles (hn : 0 < n) (hsize : n < UInt32.size) (p : Nat → Prop) [DecidablePred p] :
    {w | ∃ i, Settles n w i ∧ p i}.ncard = Nat.count p n * 2 ^ leadingZeros32 n := by
  have hdisjoint : (((Finset.range n).filter p : Finset Nat) : Set Nat).PairwiseDisjoint (row n) :=
    (pairwiseDisjoint_row hn hsize).subset (Finset.coe_subset.mpr (Finset.filter_subset _ _))
  rw [← Set.ncard_image_of_injective _ fun _ _ => UInt32.toNat_inj.mp, image_settles hn hsize p,
    Set.ncard_coe_finset, Finset.card_biUnion hdisjoint, Finset.sum_congr rfl fun i _ => card_row n i,
    Finset.sum_const, ← Nat.count_eq_card_filter_range, smul_eq_mul]

/-- Each index is settled on by `2 ^ k` words. -/
theorem ncard_settles_index (hn : 0 < n) (hsize : n < UInt32.size) (hi : i < n) :
    {w | Settles n w i}.ncard = 2 ^ leadingZeros32 n := by
  have hone : Nat.count (· = i) n = 1 := by
    rw [Nat.count_eq_card_filter_range, Finset.filter_eq', if_pos (Finset.mem_range.mpr hi),
      Finset.card_singleton]
  have hcount := ncard_settles hn hsize (· = i)
  simpa only [exists_eq_right, hone, Nat.one_mul] using hcount

/-- At least one word in two settles a draw. -/
theorem size_le_ncard_settles (hn : 0 < n) (hsize : n < UInt32.size) :
    UInt32.size ≤ 2 * {w | ∃ i, Settles n w i}.ncard := by
  have hcount := ncard_settles hn hsize fun _ => True
  simp only [and_true, Nat.count_true] at hcount
  calc UInt32.size = 2 * 2 ^ 31 := rfl
    _ ≤ 2 * (n * 2 ^ leadingZeros32 n) := Nat.mul_le_mul_left 2 (shifted_bounds hn hsize).1
    _ = 2 * {w | ∃ i, Settles n w i}.ncard := by rw [hcount]

end Rows

end WordSource

/-! ### Addresses -/

/-- The positions of an item in a list are as many as its occurrences. -/
theorem count_positions {α : Type} [DecidableEq α] (a : α) (list : List α) :
    Nat.count (fun i => list[i]? = some a) list.length = list.count a := by
  induction list with
  | nil => rfl
  | cons b rest ih =>
    rw [List.length_cons, Nat.count_succ', List.count_cons]
    simp only [List.getElem?_cons_succ, List.getElem?_cons_zero, Option.some.injEq, beq_iff_eq, ih]

namespace Catalog

variable {c : Catalog} {network : Network} {candidates tried : List String} {w : UInt32}
  {address : String}

theorem Resolution.ofPick_eq_endpoint_iff {picked : Option String} :
    ofPick picked = .endpoint address ↔ picked = some address := by
  cases picked <;> simp [ofPick]

/-- `c.Settles network tried w address`: with the word `w` next, the answer is the address, and no other
word is taken for it. -/
def Settles (c : Catalog) (network : Network) (tried : List String) (w : UInt32)
    (address : String) : Prop :=
  ∀ words : WordSource, words.ahead 0 = w →
    c.resolve network tried words = (.ok (.endpoint address), words.skip 1)

/-- The address is the one at the index on which the word settles the draw. -/
theorem settles_iff (h : c.addresses? network = some candidates) :
    c.Settles network tried w address ↔
      ∃ i, WordSource.Settles (untried candidates tried).length w i ∧
        (untried candidates tried)[i]? = some address := by
  by_cases hnil : untried candidates tried = []
  · refine iff_of_false (fun hsettles => ?_) (by simp [hnil])
    have hanswer := hsettles (.forever w) rfl
    rw [resolve_of_listed h, hnil, WordSource.pick_nil] at hanswer
    cases hanswer
  · have hresolve (words : WordSource) := resolve_of_listed h tried words
    simp only [WordSource.pick_of_ne_nil hnil] at hresolve
    constructor
    · intro hsettles
      have hanswer := (hresolve (.forever w)).symm.trans (hsettles (.forever w) rfl)
      have hacc := WordSource.accepts_of_draw_forever (congrArg Prod.snd hanswer)
      have hi := WordSource.settles_iff_accepts.mpr ⟨hacc, rfl⟩
      rw [hi (.forever w) rfl] at hanswer
      exact ⟨_, hi, Resolution.ofPick_eq_endpoint_iff.mp (Except.ok.inj (congrArg Prod.fst hanswer))⟩
    · rintro ⟨i, hi, haddress⟩ words hw
      rw [hresolve, hi words hw, haddress]
      rfl

/-- An address is the choice of `2 ^ k` words for each of its positions. -/
theorem ncard_settles (h : c.addresses? network = some candidates)
    (hleft : untried candidates tried ≠ [])
    (hsize : (untried candidates tried).length < UInt32.size) :
    {w | c.Settles network tried w address}.ncard = (untried candidates tried).count address *
      2 ^ WordSource.leadingZeros32 (untried candidates tried).length := by
  simp only [settles_iff h]
  rw [WordSource.ncard_settles (List.length_pos_iff.mpr hleft) hsize, count_positions]

/-- Every word that settles the draw settles the choice. -/
theorem exists_settles_iff (h : c.addresses? network = some candidates)
    (hleft : untried candidates tried ≠ []) :
    (∃ address, c.Settles network tried w address) ↔
      ∃ i, WordSource.Settles (untried candidates tried).length w i := by
  simp only [settles_iff h]
  constructor
  · rintro ⟨address, i, hi, -⟩
    exact ⟨i, hi⟩
  · rintro ⟨i, hi⟩
    have hlt := hi.lt (List.length_pos_iff.mpr hleft)
    exact ⟨_, i, hi, List.getElem?_eq_getElem hlt⟩

end Catalog

/-- **Every candidate has the same chance.** Let some of a network's addresses be left. A word settles
the choice of an address when it settles a draw of one of the address's positions, which is when the low
half of its product with the number of positions is low enough; the high half is the position then, and
it always is one. For each position there are `2 ^ k` such words, where `k` is the number of leading
zeros of the number of positions, and so each address is the choice of as many words as its positions
come to. These are at least half of all words. -/
theorem choice_is_fair {c : Catalog} {network : Network} {candidates tried : List String}
    (hlisted : c.addresses? network = some candidates)
    (hleft : Catalog.untried candidates tried ≠ [])
    (hsize : (Catalog.untried candidates tried).length < UInt32.size) :
    let left := Catalog.untried candidates tried
    let n := left.length
    let k := WordSource.leadingZeros32 n
    (∀ w address, c.Settles network tried w address ↔
      ∃ i, WordSource.Settles n w i ∧ left[i]? = some address) ∧
    (∀ w i, WordSource.Settles n w i ↔
      w.toNat * n % UInt32.size ≤ n * 2 ^ k - 1 ∧ w.toNat * n / UInt32.size = i) ∧
    (∀ w : UInt32, w.toNat * n / UInt32.size < n) ∧
    (2 ^ 31 ≤ n * 2 ^ k ∧ n * 2 ^ k < 2 ^ 32) ∧
    (∀ i < n, {w | WordSource.Settles n w i}.ncard = 2 ^ k) ∧
    (∀ address, {w | c.Settles network tried w address}.ncard = left.count address * 2 ^ k) ∧
    UInt32.size ≤ 2 * {w | ∃ address, c.Settles network tried w address}.ncard := by
  intro left n k
  have hn : 0 < n := List.length_pos_iff.mpr hleft
  refine ⟨fun w address => Catalog.settles_iff hlisted, fun w i => WordSource.settles_iff,
    WordSource.index_lt hn, WordSource.shifted_bounds hn hsize,
    fun i => WordSource.ncard_settles_index hn hsize,
    fun address => Catalog.ncard_settles hlisted hleft hsize, ?_⟩
  simp only [Catalog.exists_settles_iff hlisted hleft]
  exact WordSource.size_le_ncard_settles hn hsize

/-- Of three positions two have the same address, so it is the choice of two words in four, and the other
address is that of one word in four. -/
theorem choice_is_fair_of_repeating :
    repeatingCatalog.addresses? .akira = some ["c:3", "a:1", "c:3"] ∧
    Catalog.untried ["c:3", "a:1", "c:3"] ["b:2"] ≠ [] ∧
    (Catalog.untried ["c:3", "a:1", "c:3"] ["b:2"]).length < UInt32.size ∧
    {w | WordSource.Settles 3 w 2}.ncard = 2 ^ 30 ∧
    {w | repeatingCatalog.Settles .akira ["b:2"] w "c:3"}.ncard = 2 ^ 31 ∧
    {w | repeatingCatalog.Settles .akira ["b:2"] w "a:1"}.ncard = 2 ^ 30 := by
  have hleft : Catalog.untried ["c:3", "a:1", "c:3"] ["b:2"] ≠ [] := by decide
  have hsize : (Catalog.untried ["c:3", "a:1", "c:3"] ["b:2"]).length < UInt32.size := by decide
  have hlisted : repeatingCatalog.addresses? .akira = some ["c:3", "a:1", "c:3"] := rfl
  obtain ⟨-, -, -, -, hposition, haddress, -⟩ := choice_is_fair hlisted hleft hsize
  exact ⟨hlisted, hleft, hsize, hposition 2 (by decide), haddress "c:3", haddress "a:1"⟩

end LedgerClient
