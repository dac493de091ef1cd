import DnsView.Proofs.Json.DoubleNumerals
import DnsView.Proofs.Number.Rounding
import Mathlib.Data.Nat.Log

/-!
# Reading decimals as doubles

A numeral is read in two steps: its digits are taken into a whole number, and this number is
multiplied or divided by a power of ten.  Each step rounds, so the result may be a neighbour of the
nearest double, and a number just below the limit of the doubles may even be pushed beyond it.  No
rounding does this up to the lower end of the greatest double.  Where both the digits and the power
of ten are doubles themselves, only the last step rounds and the result is the nearest double.
-/

namespace DnsView

/-!
## Powers of ten
-/

namespace Magnitude

theorem isSome_tenPower? {k : Nat} (hk : k ≤ 308) : (tenPower? k).isSome := by
  have hsome : ∀ i < 309, (tenPower? i).isSome := by decide +kernel
  exact hsome k (by omega)

theorem value_of_toNat? {m : Magnitude} {n : Nat} (h : m.toNat? = some n) : m.value = n :=
  (m.toNat?_eq_some_iff n).mp h

theorem one_le_of_tenPower? {k : Nat} {b : Magnitude} (h : tenPower? k = some b) : 1 ≤ b.value := by
  rcases exists_nearest?_natural (by decide : 1 < 2 * Number.fractions) with ⟨one, hone, hvalue⟩
  have hle : one.val ≤ b.val := by
    apply val_le_of_nearest? (by decide) (by decide) hone h
    rw [Nat.cast_one, div_one, div_one, Nat.pow_eq]
    exact_mod_cast Nat.one_le_pow k 10 (by decide)
  have hbound := value_le_value hle
  rwa [value_of_toNat? hvalue, Nat.cast_one] at hbound

theorem exists_tenPower? {k : Nat} (hk : k ≤ 22) :
    ∃ b, tenPower? k = some b ∧ b.value = (10 ^ k : ℕ) := by
  have hexact : ∀ i < 23, (tenPower? i).bind toNat? = some (10 ^ i) := by decide +kernel
  rcases Option.bind_eq_some_iff.mp (hexact k (by omega)) with ⟨b, hb, hvalue⟩
  exact ⟨b, hb, value_of_toNat? hvalue⟩

/-!
## Products and quotients
-/

theorem product_ratio (a b : Magnitude) :
    ((a.num * b.num : ℕ) : ℚ) / (a.den * b.den : ℕ) = a.value * b.value := by
  rw [value_eq_num_div_den, value_eq_num_div_den, div_mul_div_comm]
  push_cast
  rfl

theorem quotient_ratio (a b : Magnitude) :
    ((a.num * b.den : ℕ) : ℚ) / (a.den * b.num : ℕ) = a.value / b.value := by
  rw [value_eq_num_div_den, value_eq_num_div_den, div_div_div_eq]
  push_cast
  rfl

theorem isSome_mul?_mono {a b a' b' : Magnitude} (ha : a.value ≤ a'.value) (hb : b.value ≤ b'.value)
    (h : (a'.mul? b').isSome) : (a.mul? b).isSome := by
  have hden (x y : Magnitude) : x.den * y.den ≠ 0 :=
    Nat.mul_ne_zero x.den_pos.ne' y.den_pos.ne'
  apply isSome_nearest?_mono (hden a b) (hden a' b') _ h
  rw [product_ratio, product_ratio]
  exact mul_le_mul ha hb b.value_nonneg a'.value_nonneg

theorem isSome_div? (a : Magnitude) {b : Magnitude} (hb : 1 ≤ b.value) : (a.div? b).isSome := by
  have hself : (nearest? a.num a.den).isSome := by
    rw [nearest?_self]
    rfl
  have hden : a.den * b.num ≠ 0 :=
    Nat.mul_ne_zero a.den_pos.ne' (num_ne_zero_of_value (by linarith))
  apply isSome_nearest?_mono hden a.den_pos.ne' _ hself
  rw [quotient_ratio, ← value_eq_num_div_den]
  exact div_le_self a.value_nonneg hb

end Magnitude

namespace Json.Numeral

open Magnitude (tenPower? nearest?)

/-!
## Scaling
-/

theorem isSome_scaleDown (steps : Nat) (m : Magnitude) (size : Nat) :
    (scaleDown steps m size).isSome := by
  induction steps generalizing m size with
  | zero =>
      rfl
  | succ steps ih =>
      have hstep {k : Nat} (hk : k ≤ 308) :
          ∃ b, tenPower? k = some b ∧ ∃ q, m.div? b = some q := by
        rcases Option.isSome_iff_exists.mp (Magnitude.isSome_tenPower? hk) with ⟨b, hb⟩
        have hdiv := Magnitude.isSome_div? m (Magnitude.one_le_of_tenPower? hb)
        exact ⟨b, hb, Option.isSome_iff_exists.mp hdiv⟩
      rw [scaleDown]
      split
      · rename_i hsize
        rcases hstep hsize with ⟨b, hb, q, hq⟩
        simp [hb, hq]
      · split
        · rfl
        · rcases hstep (Nat.le_refl 308) with ⟨b, hb, q, hq⟩
          simp [hb, hq, ih]

def raise? (n k : Nat) : Option Magnitude :=
  (nearest? n 1).bind fun a => (tenPower? k).bind a.mul?

theorem isSome_raise?_mono {n n' k k' : Nat} (hn : n ≤ n') (hk : k ≤ k')
    (h : (raise? n' k').isSome) : (raise? n k).isSome := by
  rcases Option.isSome_iff_exists.mp h with ⟨m, hm⟩
  rcases Option.bind_eq_some_iff.mp hm with ⟨a', ha', hrest⟩
  rcases Option.bind_eq_some_iff.mp hrest with ⟨b', hb', hmul⟩
  have hdigits : (n / (1 : ℕ) : ℚ) ≤ n' / (1 : ℕ) := by
    rw [Nat.cast_one, div_one, div_one]
    exact_mod_cast hn
  have hpower : (Nat.pow 10 k / (1 : ℕ) : ℚ) ≤ Nat.pow 10 k' / (1 : ℕ) := by
    rw [Nat.cast_one, div_one, div_one, Nat.pow_eq, Nat.pow_eq]
    exact_mod_cast Nat.pow_le_pow_right (by decide) hk
  have hsome : (nearest? n 1).isSome :=
    Magnitude.isSome_nearest?_mono (by decide) (by decide) hdigits (by rw [ha']; rfl)
  have hsome' : (tenPower? k).isSome :=
    Magnitude.isSome_nearest?_mono (by decide) (by decide) hpower (by rw [← tenPower?, hb']; rfl)
  rcases Option.isSome_iff_exists.mp hsome with ⟨a, ha⟩
  rcases Option.isSome_iff_exists.mp hsome' with ⟨b, hb⟩
  have hle := Magnitude.val_le_of_nearest? (by decide) (by decide) ha ha' hdigits
  have hle' := Magnitude.val_le_of_nearest? (by decide) (by decide) hb hb' hpower
  rw [raise?, ha, Option.bind_some, hb, Option.bind_some]
  apply Magnitude.isSome_mul?_mono (Magnitude.value_le_value hle) (Magnitude.value_le_value hle')
  rw [hmul]
  rfl

/-- The lower end of the interval of the greatest double. -/
def limit : Nat := (4 * Number.fractions - 3) * 2 ^ 970

theorem isSome_raise? {n k : Nat} (hn : n < UInt64.size) (hlimit : n * 10 ^ k ≤ limit)
    (hk : k ≤ 308) : (raise? n k).isSome := by
  by_cases hsmall : k ≤ 288
  · have hgreatest : (raise? UInt64.size 288).isSome := by decide +kernel
    exact isSome_raise?_mono hn.le hsmall hgreatest
  · have hgreatest : ∀ i < 20,
        (raise? (min UInt64.size (limit / 10 ^ (289 + i))) (289 + i)).isSome := by
      decide +kernel
    have hpower : 289 + (k - 289) = k := by omega
    have htried := hgreatest (k - 289) (by omega)
    rw [hpower] at htried
    apply isSome_raise?_mono _ (Nat.le_refl k) htried
    apply Nat.le_min.mpr
    exact ⟨hn.le, (Nat.le_div_iff_mul_le (Nat.pow_pos (by decide))).mpr hlimit⟩

theorem scale?_natCast {n k : Nat} (hk : k ≤ 308) : scale? n k = raise? n k := by
  have hnonneg : ¬(k : Int) < 0 := by omega
  have hrange : (k : Int) ≤ 308 := by omega
  simp only [scale?, hnonneg, hrange, if_false, if_true, Int.natAbs_natCast]
  rfl

theorem exists_nearest?_of_lt {n : Nat} (hn : n < UInt64.size) : ∃ m, nearest? n 1 = some m := by
  have hgreatest : (nearest? UInt64.size 1).isSome := by decide +kernel
  apply Option.isSome_iff_exists.mp
  apply Magnitude.isSome_nearest?_mono (by decide) (by decide) _ hgreatest
  rw [Nat.cast_one, div_one, div_one]
  exact_mod_cast hn.le

/-- Numbers up to the lower end of the greatest double are never taken to lie beyond the range. -/
theorem isSome_scale? {n : Nat} {p : Int} (hn : n < UInt64.size)
    (hlimit : n * (10 : ℚ) ^ p ≤ limit) : (scale? n p).isSome := by
  rcases exists_nearest?_of_lt hn with ⟨m, hm⟩
  by_cases hneg : p < 0
  · simp [scale?, hm, hneg, isSome_scaleDown]
  · lift p to Nat using Int.not_lt.mp hneg
    rw [zpow_natCast] at hlimit
    have hnat : n * 10 ^ p ≤ limit := by exact_mod_cast hlimit
    by_cases hp : p ≤ 308
    · rw [scale?_natCast hp]
      exact isSome_raise? hn hnat hp
    · have hlog : Nat.log 10 limit ≤ 308 := by decide +kernel
      have hzero : n = 0 := by
        by_contra hne
        have hpower := Nat.le_mul_of_pos_left (10 ^ p) (Nat.pos_of_ne_zero hne)
        have hle := Nat.le_log_of_pow_le (by decide) (hpower.trans hnat)
        omega
      subst hzero
      have hzero : m = 0 := Fin.ext (Magnitude.val_of_nearest? hm)
      have hrange : ¬(p : Int) ≤ 308 := by omega
      simp [scale?, hm, hzero, hneg, hrange]

/-!
## Digits
-/

theorem append_digit (n d : Nat) (ds : List Nat) :
    (10 * n + d) * 10 ^ ds.length + Text.ofDigits 10 ds =
      n * 10 ^ (d :: ds).length + Text.ofDigits 10 (d :: ds) := by
  rw [Text.ofDigits_cons, List.length_cons, Nat.pow_succ]
  ring

theorem absorb_of_lt {n : Nat} {ds : List Nat}
    (h : n * 10 ^ ds.length + Text.ofDigits 10 ds < UInt64.size) :
    absorb n ds = (n * 10 ^ ds.length + Text.ofDigits 10 ds, 0) := by
  induction ds generalizing n with
  | nil =>
      simp [absorb]
  | cons d ds ih =>
      rw [← append_digit] at h ⊢
      have hfits : 10 * n + d < UInt64.size := by
        have hpower : 0 < 10 ^ ds.length := Nat.pow_pos (by decide)
        have hle := Nat.le_mul_of_pos_right (10 * n + d) hpower
        omega
      rw [absorb, if_pos hfits, ih h]

/-- What is taken of some digits fits sixty-four bits and does not exceed what they stand for. -/
theorem absorb_le {n : Nat} (hn : n < UInt64.size) (ds : List Nat) :
    (absorb n ds).1 < UInt64.size ∧ (absorb n ds).2 ≤ ds.length ∧
      (absorb n ds).1 * 10 ^ (absorb n ds).2 ≤ n * 10 ^ ds.length + Text.ofDigits 10 ds := by
  induction ds generalizing n with
  | nil =>
      simp [absorb, hn]
  | cons d ds ih =>
      rw [absorb]
      split
      · rename_i hfits
        rcases ih hfits with ⟨hlt, hle, hbound⟩
        rw [append_digit] at hbound
        exact ⟨hlt, Nat.le_succ_of_le hle, hbound⟩
      · exact ⟨hn, Nat.le_refl _, Nat.le_add_right _ _⟩

/-!
## Numerals

The digits of a numeral before its point are all taken if they fit sixty-four bits, and an exponent
of less than thirty-two bits is taken as it is.
-/

/-- The power of ten that the exponent of a numeral stands for. -/
def shift (x : Numeral) : Int :=
  x.exponent.elim 0 fun e => if e.negative then -(e.size : Int) else e.size

theorem value_eq (x : Numeral) : x.value =
    Text.ofDigits 10 (x.whole ++ x.fraction) * 10 ^ (x.shift - x.fraction.length) :=
  rfl

/-- A numeral without digits that move its point and without an exponent that is cut. -/
structure Moderate (x : Numeral) : Prop where
  whole : Text.ofDigits 10 x.whole < UInt64.size
  exponent : ∀ e ∈ x.exponent, e.size < 0x80000000

theorem Moderate.magnitude?_eq {x : Numeral} (hx : x.Moderate) :
    x.magnitude? = scale? (absorb (Text.ofDigits 10 x.whole) x.fraction).1
      (x.shift - x.fraction.length + (absorb (Text.ofDigits 10 x.whole) x.fraction).2) := by
  have hwhole : absorb 0 x.whole = (Text.ofDigits 10 x.whole, 0) := by
    have hvalue : 0 * 10 ^ x.whole.length + Text.ofDigits 10 x.whole =
        Text.ofDigits 10 x.whole := by
      rw [Nat.zero_mul, Nat.zero_add]
    have habsorb := absorb_of_lt (hvalue.trans_lt hx.whole)
    rwa [hvalue] at habsorb
  have hdropped := (absorb_le hx.whole x.fraction).right.left
  simp only [magnitude?, hwhole]
  generalize absorb (Text.ofDigits 10 x.whole) x.fraction = taken at hdropped ⊢
  cases hexponent : x.exponent with
  | none =>
      simp only [shift, hexponent, Option.elim_none]
      congr 1
      omega
  | some e =>
      have hsize : e.size < 0x80000000 := hx.exponent e hexponent
      simp only [shift, hexponent, Option.elim_some, hsize, if_true]
      congr 1
      split
      · omega
      · omega

/-- Up to the lower end of the greatest double a numeral is within the range of doubles. -/
theorem Moderate.isSome_magnitude? {x : Numeral} (hx : x.Moderate) (hlimit : x.value ≤ limit) :
    x.magnitude?.isSome := by
  rcases absorb_le hx.whole x.fraction with ⟨hfits, _, hle⟩
  rw [← Text.ofDigits_append] at hle
  rw [hx.magnitude?_eq]
  apply isSome_scale? hfits
  calc
    ((absorb (Text.ofDigits 10 x.whole) x.fraction).1 : ℚ) *
          10 ^ (x.shift - x.fraction.length + (absorb (Text.ofDigits 10 x.whole) x.fraction).2) =
        ((absorb (Text.ofDigits 10 x.whole) x.fraction).1 *
          10 ^ (absorb (Text.ofDigits 10 x.whole) x.fraction).2 : ℕ) *
            10 ^ (x.shift - x.fraction.length) := by
      rw [zpow_add₀ (by norm_num), zpow_natCast]
      push_cast
      ring
    _ ≤ Text.ofDigits 10 (x.whole ++ x.fraction) * 10 ^ (x.shift - x.fraction.length) := by
      apply mul_le_mul_of_nonneg_right _ (zpow_nonneg (by norm_num) _)
      exact_mod_cast hle
    _ ≤ limit := hlimit

/-!
## Exact readings

Where the digits and the power of ten are doubles, only the product or the quotient is rounded.
-/

section Exact

variable {m : Magnitude} {d : Decimal} {n k : Nat}

theorem scale?_of_reads_product (h : m.Reads d) (hn : n ≠ 0) (hsmall : n < 2 * Number.fractions)
    (hk : k ≤ 22) (hvalue : (n * 10 ^ k : ℚ) = d.value) : scale? n k = some m := by
  rcases Magnitude.exists_nearest?_natural hsmall with ⟨a, ha, hdigits⟩
  rcases Magnitude.exists_tenPower? hk with ⟨b, hb, hpower⟩
  have hdigits := Magnitude.value_of_toNat? hdigits
  have hnum : a.num * b.num ≠ 0 := by
    apply Nat.mul_ne_zero
    · apply Magnitude.num_ne_zero_of_value
      rw [hdigits]
      exact_mod_cast Nat.pos_of_ne_zero hn
    · apply Magnitude.num_ne_zero_of_value
      rw [hpower]
      exact_mod_cast Nat.pow_pos (by decide)
  rw [scale?_natCast (by omega), raise?, ha, Option.bind_some, hb, Option.bind_some]
  apply Magnitude.nearest?_of_reads h hnum (Nat.mul_ne_zero a.den_pos.ne' b.den_pos.ne')
  rw [Magnitude.product_ratio, hdigits, hpower, ← hvalue]
  push_cast
  rfl

theorem scale?_of_reads_quotient (h : m.Reads d) (hn : n ≠ 0) (hsmall : n < 2 * Number.fractions)
    (hk : k ≤ 22) (hpos : 0 < k) (hvalue : (n / 10 ^ k : ℚ) = d.value) :
    scale? n (-k) = some m := by
  rcases Magnitude.exists_nearest?_natural hsmall with ⟨a, ha, hdigits⟩
  rcases Magnitude.exists_tenPower? hk with ⟨b, hb, hpower⟩
  have hdigits := Magnitude.value_of_toNat? hdigits
  have hanum : a.num ≠ 0 := by
    apply Magnitude.num_ne_zero_of_value
    rw [hdigits]
    exact_mod_cast Nat.pos_of_ne_zero hn
  have hbnum : b.num ≠ 0 := by
    apply Magnitude.num_ne_zero_of_value
    rw [hpower]
    exact_mod_cast Nat.pow_pos (by decide)
  have hdiv : a.div? b = some m := by
    apply Magnitude.nearest?_of_reads h (Nat.mul_ne_zero hanum b.den_pos.ne')
      (Nat.mul_ne_zero a.den_pos.ne' hbnum)
    rw [Magnitude.quotient_ratio, hdigits, hpower, ← hvalue]
    push_cast
    rfl
  have hrange : k ≤ 308 := by omega
  simp [scale?, ha, hpos, hrange, scaleDown, hb, hdiv]

/-- A numeral with few digits and a small power of ten is read as the nearest double. -/
theorem Moderate.magnitude?_of_reads {x : Numeral} (hx : x.Moderate) (h : m.Reads d)
    (hvalue : x.value = d.value) (hpos : 0 < x.value)
    (hsmall : Text.ofDigits 10 (x.whole ++ x.fraction) < 2 * Number.fractions)
    (hpower : (x.shift - x.fraction.length).natAbs ≤ 22) : x.magnitude? = some m := by
  have hexact : absorb (Text.ofDigits 10 x.whole) x.fraction =
      (Text.ofDigits 10 (x.whole ++ x.fraction), 0) := by
    rw [Text.ofDigits_append] at hsmall ⊢
    exact absorb_of_lt (Nat.lt_trans hsmall (by decide))
  rw [hx.magnitude?_eq, hexact, Int.natCast_zero, Int.add_zero]
  rw [value_eq] at hvalue hpos
  generalize Text.ofDigits 10 (x.whole ++ x.fraction) = n at hvalue hpos hsmall ⊢
  generalize x.shift - x.fraction.length = p at hvalue hpos hpower ⊢
  have hn : n ≠ 0 := by
    rintro rfl
    simp at hpos
  by_cases hsign : 0 ≤ p
  · lift p to Nat using hsign
    rw [zpow_natCast] at hvalue
    exact scale?_of_reads_product h hn hsmall hpower hvalue
  · have hp : p = -(p.natAbs : Int) := by omega
    rw [hp, zpow_neg, zpow_natCast, ← div_eq_mul_inv] at hvalue
    rw [hp]
    exact scale?_of_reads_quotient h hn hsmall hpower (by omega) hvalue

end Exact

end Json.Numeral

end DnsView
