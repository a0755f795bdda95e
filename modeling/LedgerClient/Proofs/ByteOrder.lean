import LedgerClient.IpAddress.Basic
import Mathlib.Algebra.Order.Ring.Nat
import Mathlib.Data.List.Induction

/-!
# Numbers as bytes

Writing a number down in `k` bytes, in either order, and reading it back gives the number modulo
`256 ^ k`, and every byte string is what its number is written as. An address is therefore what its
integer and its family tag stand for, and nothing else stands for it.

## What is proved

* `Bytes.ofLittleEndian_toLittleEndian`, `Bytes.ofBigEndian_toBigEndian`: what is written is read.
* `Bytes.toLittleEndian_ofLittleEndian`, `Bytes.toBigEndian_ofBigEndian`: what is read is written.
* `IpAddress.ofCode?_eq_some_iff`, `IpAddress.ofCode?_eq_none_iff`: what an integer and a tag stand for.
* `IpAddress.code_is_faithful`: the rule for addresses in one statement.
-/

namespace LedgerClient

namespace Bytes

/-! ### The lowest byte first -/

@[simp] theorem ofLittleEndian_cons (b : UInt8) (bytes : Bytes) :
    ofLittleEndian (b :: bytes) = b.toNat + 256 * ofLittleEndian bytes := rfl

theorem ofLittleEndian_toLittleEndian (k n : Nat) :
    ofLittleEndian (toLittleEndian k n) = n % 256 ^ k := by
  induction k generalizing n with
  | zero => simp [toLittleEndian, ofLittleEndian, Nat.mod_one]
  | succ k ih =>
    have hbyte : (UInt8.ofNat n).toNat = n % 256 := UInt8.toNat_ofNat'
    rw [toLittleEndian, ofLittleEndian_cons, ih, hbyte, Nat.pow_succ', Nat.mod_mul]

theorem ofLittleEndian_lt (bytes : Bytes) : ofLittleEndian bytes < 256 ^ bytes.length := by
  induction bytes with
  | nil => exact Nat.one_pos
  | cons b bytes ih =>
    have hb : b.toNat < 256 := b.toNat_lt
    rw [ofLittleEndian_cons, List.length_cons, Nat.pow_succ]
    omega

/-- Every byte string is what its number is written as. -/
theorem toLittleEndian_ofLittleEndian (bytes : Bytes) :
    toLittleEndian bytes.length (ofLittleEndian bytes) = bytes := by
  induction bytes with
  | nil => rfl
  | cons b bytes ih =>
    have hb : b.toNat < 256 := b.toNat_lt
    have hrest : (b.toNat + 256 * ofLittleEndian bytes) / 256 = ofLittleEndian bytes := by omega
    have hlow : UInt8.ofNat (b.toNat + 256 * ofLittleEndian bytes) = b := by
      apply UInt8.toNat_inj.mp
      rw [UInt8.toNat_ofNat']
      omega
    rw [ofLittleEndian_cons, List.length_cons, toLittleEndian, hrest, hlow, ih]

/-! ### The highest byte first -/

@[simp] theorem ofBigEndian_append (bytes : Bytes) (b : UInt8) :
    ofBigEndian (bytes ++ [b]) = 256 * ofBigEndian bytes + b.toNat := by
  simp [ofBigEndian, List.foldl_append]

theorem ofBigEndian_toBigEndian (k n : Nat) : ofBigEndian (toBigEndian k n) = n % 256 ^ k := by
  induction k generalizing n with
  | zero => simp [toBigEndian, ofBigEndian, Nat.mod_one]
  | succ k ih =>
    have hbyte : (UInt8.ofNat n).toNat = n % 256 := UInt8.toNat_ofNat'
    rw [toBigEndian, ofBigEndian_append, ih, hbyte, Nat.pow_succ', Nat.mod_mul, Nat.add_comm]

theorem ofBigEndian_lt (bytes : Bytes) : ofBigEndian bytes < 256 ^ bytes.length := by
  induction bytes using List.reverseRecOn with
  | nil => exact Nat.one_pos
  | append_singleton bytes b ih =>
    have hb : b.toNat < 256 := b.toNat_lt
    rw [ofBigEndian_append, List.length_append, List.length_singleton, Nat.pow_succ]
    omega

/-- Every byte string is what its number is written as. -/
theorem toBigEndian_ofBigEndian (bytes : Bytes) :
    toBigEndian bytes.length (ofBigEndian bytes) = bytes := by
  induction bytes using List.reverseRecOn with
  | nil => rfl
  | append_singleton bytes b ih =>
    have hb : b.toNat < 256 := b.toNat_lt
    have hhigh : (256 * ofBigEndian bytes + b.toNat) / 256 = ofBigEndian bytes := by omega
    have hlow : UInt8.ofNat (256 * ofBigEndian bytes + b.toNat) = b := by
      apply UInt8.toNat_inj.mp
      rw [UInt8.toNat_ofNat']
      omega
    rw [ofBigEndian_append, List.length_append, List.length_singleton, toBigEndian, hhigh, hlow, ih]

end Bytes

/-! ### Addresses -/

namespace IpAddress

theorem toNat_number_v4 (o : Octets 4) :
    (number (.v4 o)).toNat = Bytes.ofBigEndian o.toList := by
  have hlt := Bytes.ofBigEndian_lt o.toList
  rw [o.length_eq] at hlt
  rw [number, BitVec.toNat_ofNat]
  exact Nat.mod_eq_of_lt (by simp only [octets]; omega)

theorem toNat_number_v6 (o : Octets 16) :
    (number (.v6 o)).toNat = Bytes.ofBigEndian o.toList := by
  have hlt := Bytes.ofBigEndian_lt o.toList
  rw [o.length_eq] at hlt
  rw [number, BitVec.toNat_ofNat]
  exact Nat.mod_eq_of_lt (by simp only [octets]; omega)

/-- An address is what its integer and its family tag stand for. -/
theorem ofCode?_number_tag (ip : IpAddress) : ofCode? ip.number ip.tag = some ip := by
  cases ip with
  | v4 o =>
    have hlt := Bytes.ofBigEndian_lt o.toList
    have hwritten := Bytes.toBigEndian_ofBigEndian o.toList
    rw [o.length_eq] at hlt hwritten
    have hsize : (number (.v4 o)).toNat < UInt32.size := by
      rw [toNat_number_v4]
      exact hlt
    rw [ofCode?, tag, if_pos rfl, if_pos hsize]
    simp only [toNat_number_v4, hwritten]
  | v6 o =>
    have hwritten := Bytes.toBigEndian_ofBigEndian o.toList
    rw [o.length_eq] at hwritten
    have htag : tag (.v6 o) ≠ tagV4 := by simp [tag, tagV4, tagV6]
    rw [ofCode?, if_neg htag, tag, if_pos rfl]
    simp only [toNat_number_v6, hwritten]

/-- An integer and a tag stand for the address that is stored as them, and for no other. -/
theorem ofCode?_eq_some_iff {n : UInt128} {t : UInt8} {ip : IpAddress} :
    ofCode? n t = some ip ↔ ip.number = n ∧ ip.tag = t := by
  constructor
  · intro h
    rw [ofCode?] at h
    split at h
    · next htag =>
      split at h
      · next hsize =>
        have hlt : n.toNat < 256 ^ 4 := hsize
        cases h
        refine ⟨BitVec.eq_of_toNat_eq ?_, htag.symm⟩
        rw [toNat_number_v4, Bytes.ofBigEndian_toBigEndian, Nat.mod_eq_of_lt hlt]
      · cases h
    · split at h
      · next htag =>
        have hlt : n.toNat < 256 ^ 16 := n.isLt
        cases h
        refine ⟨BitVec.eq_of_toNat_eq ?_, htag.symm⟩
        rw [toNat_number_v6, Bytes.ofBigEndian_toBigEndian, Nat.mod_eq_of_lt hlt]
      · cases h
  · rintro ⟨rfl, rfl⟩
    exact ofCode?_number_tag ip

/-- They stand for none when the tag is unknown, or when the integer is too large for version 4. -/
theorem ofCode?_eq_none_iff {n : UInt128} {t : UInt8} :
    ofCode? n t = none ↔ t ≠ tagV4 ∧ t ≠ tagV6 ∨ t = tagV4 ∧ UInt32.size ≤ n.toNat := by
  rw [ofCode?]
  split
  · next htag => simp [htag]
  · next htag =>
    split
    · next htag' =>
      have hne : tagV6 ≠ tagV4 := by decide
      simp [htag', hne]
    · next htag' => simp [htag, htag']

/-- With the integer of an address, only its own family tag stands for it. -/
theorem ofCode?_number_iff (ip : IpAddress) (t : UInt8) :
    ofCode? ip.number t = some ip ↔ t = ip.tag := by
  rw [ofCode?_eq_some_iff]
  simp [eq_comm]

/-- **Addresses are stored faithfully.** An address of either family is what its integer and its tag
stand for. Whatever integer and tag stand for an address are those under which it is stored, and they
stand for none only when the tag is unknown or the integer is too large for version 4. So no two
addresses are stored alike, not even one of version 6 that holds one of version 4. -/
theorem code_is_faithful :
    (∀ ip, ofCode? ip.number ip.tag = some ip) ∧
    (∀ n t ip, ofCode? n t = some ip → (ip.number, ip.tag) = (n, t)) ∧
    (∀ n t, ofCode? n t = none ↔ t ≠ 4 ∧ t ≠ 6 ∨ t = 4 ∧ 2 ^ 32 ≤ n.toNat) ∧
    Function.Injective fun ip : IpAddress => (ip.number, ip.tag) := by
  refine ⟨ofCode?_number_tag, fun n t ip h => ?_, fun n t => ofCode?_eq_none_iff, fun ip ip' h => ?_⟩
  · obtain ⟨hnumber, htag⟩ := ofCode?_eq_some_iff.mp h
    rw [hnumber, htag]
  · obtain ⟨hnumber, htag⟩ := Prod.mk.inj h
    have hother : ofCode? ip.number ip.tag = some ip' :=
      ofCode?_eq_some_iff.mpr ⟨hnumber.symm, htag.symm⟩
    rw [ofCode?_number_tag] at hother
    exact Option.some.inj hother

/-- The address of version 6 that has the integer `10.1.2.3` has in version 4. -/
def compatibleAddress : IpAddress :=
  .v6 ⟨[0, 0, 0, 0, 0, 0, 0, 0, 0, 0, 0, 0, 10, 1, 2, 3], rfl⟩

/-- Only with its own tag does this integer stand for it. -/
theorem code_is_faithful_of_compatible :
    ofCode? 167838211 6 = some compatibleAddress ∧
      (compatibleAddress.number, compatibleAddress.tag) = (167838211, 6) ∧
      ofCode? 167838211 4 ≠ some compatibleAddress := by
  obtain ⟨-, hcode, -, -⟩ := code_is_faithful
  have hread : ofCode? 167838211 6 = some compatibleAddress := by decide
  refine ⟨hread, hcode _ _ _ hread, fun h => ?_⟩
  have htag := (Prod.mk.inj (hcode _ _ _ h)).2
  exact absurd htag (by decide)

end IpAddress

end LedgerClient
