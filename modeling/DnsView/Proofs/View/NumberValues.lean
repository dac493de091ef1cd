import DnsView.Proofs.Number.Integers
import DnsView.View.Value
import DnsView.Proofs.Number.Intervals

/-!
# Words and numbers

Words are read off values that hold integers or doubles, exactly where these are equal to a word.
-/

/-!
## Values that are numbers

A script writes a number as an integer or as a double.  Either stands for an integer if it is equal
to one, and the words of a message take every integer in their range in either form.  The limit at
which doubles are cut to sixty-four bits lies far above.
-/

namespace DnsView.Value

/-- The value is a number that is equal to the integer. -/
inductive IsInteger : Value → Int → Prop where
  | integer (n : Int64) : IsInteger (.integer n) n.toInt
  | float {x : Binary64} {i : Int} (h : x.toInt? = some i) : IsInteger (.float x) i

theorem integer?_eq_some_iff {v : Value} {i : Int} (hlow : -0x8000000000000000 ≤ i)
    (hhigh : i < 0x7FFFFFFFFFFFFFFF) : v.integer? = some i ↔ v.IsInteger i := by
  constructor
  · intro h
    cases v with
    | integer n =>
        cases h
        exact .integer n
    | float x =>
        rcases Option.map_eq_some_iff.mp h with ⟨w, hw, rfl⟩
        rcases Binary64.exists_of_toInt64? hw with ⟨k, hk, hword⟩
        have hsame : k = w.toInt := by omega
        rw [← hsame]
        exact .float hk
    | _ =>
        cases h
  · intro h
    cases h with
    | integer n =>
        rfl
    | @float x _ h =>
        have hword : (Int64.ofInt i).toInt = i := Int64.toInt_ofInt_of_le hlow (by omega)
        have hmin : min i 0x7FFFFFFFFFFFFFFF = i := by omega
        rw [integer?, Binary64.toInt64?, h, Option.bind_eq_bind, Option.bind_some,
          if_pos ⟨hlow, by omega⟩, hmin, Option.map_some, hword]

/-- A word is read off a number exactly if the number is an integer in the range of the word. -/
theorem integer?_word_eq_some_iff {α : Type} {size : Nat} (hsize : size ≤ UInt32.size)
    (word : Nat → α) (v : Value) (a : α) :
    (v.integer?.bind fun i => if 0 ≤ i ∧ i < size then some (word i.toNat) else none) = some a ↔
      ∃ n < size, v.IsInteger n ∧ word n = a := by
  have hlimit : size ≤ 4294967296 := hsize
  rw [Option.bind_eq_some_iff]
  constructor
  · rintro ⟨i, hi, hword⟩
    split at hword
    · rename_i hrange
      have hcast : (i.toNat : Int) = i := Int.toNat_of_nonneg hrange.left
      refine ⟨i.toNat, by omega, ?_, Option.some.inj hword⟩
      rw [hcast]
      exact (integer?_eq_some_iff (by omega) (by omega)).mp hi
    · cases hword
  · rintro ⟨n, hn, hv, rfl⟩
    refine ⟨n, (integer?_eq_some_iff (by omega) (by omega)).mpr hv, ?_⟩
    rw [if_pos ⟨Int.natCast_nonneg n, Int.ofNat_lt.mpr hn⟩, Int.toNat_natCast]

theorem uint16?_eq_some_iff (v : Value) (n : UInt16) :
    v.uint16? = some n ↔ v.IsInteger n.toNat := by
  rw [uint16?, Option.bind_eq_bind, integer?_word_eq_some_iff (by decide) UInt16.ofNat]
  constructor
  · rintro ⟨k, hk, hv, rfl⟩
    rw [UInt16.toNat_ofNat_of_lt' hk]
    exact hv
  · intro hv
    exact ⟨n.toNat, n.toNat_lt_size, hv, UInt16.ofNat_toNat⟩

theorem uint32?_eq_some_iff (v : Value) (n : UInt32) :
    v.uint32? = some n ↔ v.IsInteger n.toNat := by
  rw [uint32?, Option.bind_eq_bind, integer?_word_eq_some_iff (Nat.le_refl _) UInt32.ofNat]
  constructor
  · rintro ⟨k, hk, hv, rfl⟩
    rw [UInt32.toNat_ofNat_of_lt' hk]
    exact hv
  · intro hv
    exact ⟨n.toNat, n.toNat_lt_size, hv, UInt32.ofNat_toNat⟩

/-!
## Words that are equal to numbers

A word is read off a value exactly if the value holds a number that is equal to the word, be it an
integer or a double.  The one double that is cut on the way, 2^63, comes out as an integer that is
too large for a word.
-/

/-- The number that a value holds, if it is a finite one. -/
def number? : Value → Option ℚ
  | integer n => some n.toInt
  | float x => x.value?
  | _ => none

theorem isInteger_iff (v : Value) (i : Int) : v.IsInteger i ↔ v.number? = some (i : ℚ) := by
  constructor
  · intro h
    cases h with
    | integer n =>
        rfl
    | float h =>
        exact (Binary64.toInt?_eq_some_iff _ i).mp h
  · intro h
    cases v with
    | integer n =>
        rw [number?, Option.some.injEq, Int.cast_inj] at h
        subst h
        exact .integer n
    | float x =>
        exact .float ((x.toInt?_eq_some_iff i).mpr h)
    | _ =>
        cases h

theorem uint16?_eq_some_iff_number? (v : Value) (n : UInt16) :
    v.uint16? = some n ↔ v.number? = some (n.toNat : ℚ) := by
  rw [uint16?_eq_some_iff, isInteger_iff, Int.cast_natCast]

theorem uint32?_eq_some_iff_number? (v : Value) (n : UInt32) :
    v.uint32? = some n ↔ v.number? = some (n.toNat : ℚ) := by
  rw [uint32?_eq_some_iff, isInteger_iff, Int.cast_natCast]

theorem abs_lt_of_number? {v : Value} {q : ℚ} (h : v.number? = some q) {n : Nat}
    (hn : n < UInt32.size) (hword : v.number? = some (n : ℚ)) : |q| < 2 ^ 63 := by
  have hq : q = n := Option.some.inj (h.symm.trans hword)
  have hlimit : (n : ℚ) < 2 ^ 63 := by
    exact_mod_cast Nat.lt_trans hn (by decide)
  rw [hq, Nat.abs_cast]
  exact hlimit

/--
A word is read off a value exactly if the value holds a finite number that is equal to the word.  No
number at the limits of words of sixty-four bits or beyond them is taken for a word.
-/
theorem words_are_exact :
    (∀ (v : Value) (n : UInt16), v.uint16? = some n ↔ v.number? = some (n.toNat : ℚ)) ∧
      (∀ (v : Value) (n : UInt32), v.uint32? = some n ↔ v.number? = some (n.toNat : ℚ)) ∧
      ∀ (v : Value) (q : ℚ), v.number? = some q → 2 ^ 63 ≤ |q| →
        v.uint16? = none ∧ v.uint32? = none := by
  refine ⟨uint16?_eq_some_iff_number?, uint32?_eq_some_iff_number?, ?_⟩
  intro v q hq hlimit
  constructor
  · apply Option.eq_none_iff_forall_ne_some.mpr
    intro n hn
    have hsmall : n.toNat < UInt32.size := Nat.lt_trans n.toNat_lt_size (by decide)
    have hword := (v.uint16?_eq_some_iff_number? n).mp hn
    exact absurd hlimit (not_le.mpr (abs_lt_of_number? hq hsmall hword))
  · apply Option.eq_none_iff_forall_ne_some.mpr
    intro n hn
    have hword := (v.uint32?_eq_some_iff_number? n).mp hn
    exact absurd hlimit (not_le.mpr (abs_lt_of_number? hq n.toNat_lt_size hword))

def cutDouble : Binary64 := .finite false ⟨0x43E0000000000000, by decide⟩

theorem words_are_exact_cut :
    cutDouble.toInt64? = some 0x7FFFFFFFFFFFFFFF ∧ (float cutDouble).number? = some (2 ^ 63) ∧
      (float cutDouble).uint16? = none ∧ (float cutDouble).uint32? = none ∧
      (float (.finite true .zero)).uint16? = some 0 ∧
      (float (.finite false ⟨0x40EFFFE000000000, by decide⟩)).uint16? = some 65535 ∧
      (float (.finite false ⟨0x3FE0000000000000, by decide⟩)).uint16? = none := by
  have hvalue : (float cutDouble).number? = some (2 ^ 63) := by
    have hint : cutDouble.toInt? = some (2 ^ 63) := by decide +kernel
    have hnumber := (Binary64.toInt?_eq_some_iff _ _).mp hint
    push_cast at hnumber
    exact hnumber
  have hnone := words_are_exact.right.right (float cutDouble) (2 ^ 63) hvalue (by norm_num)
  refine ⟨by decide +kernel, hvalue, hnone.left, hnone.right, ?_, ?_, ?_⟩
  · decide +kernel
  · decide +kernel
  · decide +kernel

end DnsView.Value
