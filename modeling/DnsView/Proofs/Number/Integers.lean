import DnsView.Number.Binary64
import Mathlib.Tactic.Common
import Mathlib.Tactic.Positivity
import Mathlib.Tactic.Ring

/-!
# Integers as doubles

The double nearest to an integer is equal to it if it has at most fifty-three bits.  A larger
integer may be rounded, but only to an integer that is as large as this, too, and has the same sign.
-/

namespace DnsView

/-!
## Rounding
-/

namespace Number

theorem div_le_roundHalfEven (num den : Nat) : num / den ≤ roundHalfEven num den := by
  unfold roundHalfEven
  dsimp only
  split
  · exact Nat.le_refl _
  · exact Nat.le_succ _

theorem roundHalfEven_one (num : Nat) : roundHalfEven num 1 = num := by
  simp [roundHalfEven, Nat.mod_one]

theorem fractions_eq : fractions = 2 ^ 52 :=
  rfl

end Number

namespace Magnitude

theorem nearestCode_natural {n : Nat} (hn : n ≠ 0) :
    nearestCode n 1 = (n.log2 + 1022) * Number.fractions +
      Number.roundHalfEven (n * 2 ^ (52 - n.log2)) (2 ^ (n.log2 - 52)) := by
  have hlog : 2 ^ n.log2 ≤ n := Nat.log2_self_le hn
  have hone : Nat.log2 1 = 0 := rfl
  have hscaled : ¬n * 2 ^ (-((n.log2 : Int) - (0 : Nat) - 53)).toNat <
      2 * 2 ^ ((n.log2 : Int) - (0 : Nat) - 53).toNat * Number.fractions := by
    rw [Nat.not_lt, Number.fractions_eq]
    calc
      2 * 2 ^ ((n.log2 : Int) - (0 : Nat) - 53).toNat * 2 ^ 52 =
          2 ^ (((n.log2 : Int) - (0 : Nat) - 53).toNat + 53) := by ring
      _ = 2 ^ (n.log2 + (-((n.log2 : Int) - (0 : Nat) - 53)).toNat) := by
          congr 1
          omega
      _ = 2 ^ n.log2 * 2 ^ (-((n.log2 : Int) - (0 : Nat) - 53)).toNat := by
          rw [Nat.pow_add]
      _ ≤ n * 2 ^ (-((n.log2 : Int) - (0 : Nat) - 53)).toNat := Nat.mul_le_mul_right _ hlog
  have hexponent : max ((n.log2 : Int) - (0 : Nat) - 53 + 1) (-1074) = (n.log2 : Int) - 52 := by
    omega
  have hbelow : (-((n.log2 : Int) - 52)).toNat = 52 - n.log2 := by omega
  have habove : ((n.log2 : Int) - 52).toNat = n.log2 - 52 := by omega
  have hfield : ((n.log2 : Int) - 52 + 1074).toNat = n.log2 + 1022 := by omega
  rw [nearestCode, if_neg hn]
  simp only [hone, Nat.pow_eq, Nat.one_mul]
  rw [if_neg hscaled, hexponent, hbelow, habove, hfield]

theorem val_of_nearest? {num den : Nat} {m : Magnitude} (h : nearest? num den = some m) :
    m.val = nearestCode num den := by
  unfold nearest? at h
  dsimp only at h
  split at h
  · cases h
    rfl
  · cases h

theorem significand_natural_bounds {n : Nat} (hn : n ≠ 0) (hlog : n.log2 ≤ 52) :
    Number.fractions ≤ n * 2 ^ (52 - n.log2) ∧ n * 2 ^ (52 - n.log2) < 2 * Number.fractions := by
  have hdigits : 2 ^ n.log2 * 2 ^ (52 - n.log2) = Number.fractions := by
    rw [← Nat.pow_add, Nat.add_sub_cancel' hlog, Number.fractions_eq]
  constructor
  · rw [← hdigits]
    exact Nat.mul_le_mul_right _ (Nat.log2_self_le hn)
  · rw [← hdigits, ← Nat.mul_assoc, ← Nat.pow_succ']
    exact Nat.mul_lt_mul_of_pos_right Nat.lt_log2_self (Nat.pow_pos (by decide))

theorem toNat?_of_val {n : Nat} (hn : n ≠ 0) (hlog : n.log2 ≤ 52) {m : Magnitude}
    (hm : m.val = (n.log2 + 1022) * Number.fractions + n * 2 ^ (52 - n.log2)) :
    m.toNat? = some n := by
  rcases significand_natural_bounds hn hlog with ⟨hlow, hhigh⟩
  have hpow : 0 < 2 ^ (52 - n.log2) := Nat.pow_pos (by decide)
  have hfield : m.field = n.log2 + 1023 := by
    simp only [field, hm, Number.fractions] at hlow hhigh ⊢
    omega
  have hfraction : Number.fractions + m.fraction = n * 2 ^ (52 - n.log2) := by
    simp only [fraction, hm, Number.fractions] at hlow hhigh ⊢
    omega
  have hsignificand : m.significand = n * 2 ^ (52 - n.log2) := by
    rw [significand, hfield, if_neg (Nat.succ_ne_zero _), hfraction]
  have hexponent : m.exponent = (n.log2 : Int) - 52 := by
    rw [exponent, hfield]
    omega
  have habove : ((n.log2 : Int) - 52).toNat = 0 := by omega
  have hbelow : (-((n.log2 : Int) - 52)).toNat = 52 - n.log2 := by omega
  rw [toNat?, num, den, hsignificand, hexponent, habove, hbelow, Nat.pow_eq, Nat.pow_eq,
    Nat.pow_zero, Nat.mul_one, if_pos (Nat.mul_mod_left _ _), Nat.mul_div_cancel _ hpow]

theorem exists_nearest?_natural {n : Nat} (h : n < 2 * Number.fractions) :
    ∃ m, nearest? n 1 = some m ∧ m.toNat? = some n := by
  by_cases hn : n = 0
  · subst hn
    have hnum : zero.num = 0 := rfl
    refine ⟨zero, rfl, ?_⟩
    rw [toNat?, hnum, Nat.zero_mod, Nat.zero_div, if_pos rfl]
  have hlog : n.log2 ≤ 52 := Nat.le_of_lt_succ ((Nat.log2_lt hn).mpr h)
  have hcode : nearestCode n 1 =
      (n.log2 + 1022) * Number.fractions + n * 2 ^ (52 - n.log2) := by
    rw [nearestCode_natural hn, Nat.sub_eq_zero_of_le hlog, Nat.pow_zero, Number.roundHalfEven_one]
  have hrange : nearestCode n 1 < 2047 * Number.fractions := by
    have hhigh := (significand_natural_bounds hn hlog).right
    rw [hcode]
    simp only [Number.fractions] at hhigh ⊢
    omega
  exact ⟨⟨nearestCode n 1, hrange⟩, dif_pos hrange, toNat?_of_val hn hlog hcode⟩

theorem exists_toNat?_of_field {m : Magnitude} (h : 1076 ≤ m.field) :
    ∃ k, m.toNat? = some k ∧ 2 * Number.fractions ≤ k := by
  have hexponent : m.exponent = (m.field - 1075 : Nat) := by
    rw [exponent]
    omega
  have hden : m.den = 1 := by
    rw [den, hexponent, Int.toNat_neg_natCast, Nat.pow_eq, Nat.pow_zero]
  have hnum : 2 * Number.fractions ≤ m.num := by
    rw [num, hexponent, Int.toNat_natCast, significand, if_neg (by omega), Nat.mul_comm]
    apply Nat.mul_le_mul
    · exact Nat.le_add_right _ _
    · exact Nat.le_self_pow (by omega) 2
  refine ⟨m.num, ?_, hnum⟩
  rw [toNat?, hden, if_pos (Nat.mod_one _), Nat.div_one]

/-- An integer of more than fifty-three bits is rounded to an integer of more bits than that. -/
theorem exists_toNat?_of_large {n : Nat} (h : 2 * Number.fractions ≤ n) {m : Magnitude}
    (hm : nearest? n 1 = some m) : ∃ k, m.toNat? = some k ∧ 2 * Number.fractions ≤ k := by
  have hn : n ≠ 0 := by
    rintro rfl
    exact absurd h (by decide)
  have hlog : 53 ≤ n.log2 := (Nat.le_log2 hn).mpr h
  have hlow : Number.fractions ≤ n / 2 ^ (n.log2 - 52) := by
    apply (Nat.le_div_iff_mul_le (Nat.pow_pos (by decide))).mpr
    calc
      Number.fractions * 2 ^ (n.log2 - 52) = 2 ^ n.log2 := by
        rw [Number.fractions_eq, ← Nat.pow_add, Nat.add_sub_cancel' (by omega)]
      _ ≤ n := Nat.log2_self_le hn
  have hrounded := Number.div_le_roundHalfEven n (2 ^ (n.log2 - 52))
  apply exists_toNat?_of_field
  rw [field, val_of_nearest? hm, nearestCode_natural hn,
    Nat.sub_eq_zero_of_le (by omega : 52 ≤ n.log2), Nat.pow_zero, Nat.mul_one]
  simp only [Number.fractions] at hlow ⊢
  omega

end Magnitude

/-!
## Doubles
-/

namespace Binary64

theorem toInt?_finite {m : Magnitude} {n : Nat} (h : m.toNat? = some n) (negative : Bool) :
    (finite negative m).toInt? = some (if negative then -(n : Int) else n) := by
  simp only [toInt?, h]
  rfl

theorem toInt?_ofInt {i : Int} (h : i.natAbs < 2 * Number.fractions) :
    (ofInt i).toInt? = some i := by
  rcases Magnitude.exists_nearest?_natural h with ⟨m, hm, hvalue⟩
  rw [ofInt, hm, ofMagnitude?, toInt?_finite hvalue]
  congr 1
  by_cases hsign : i < 0
  · rw [decide_eq_true hsign, if_pos rfl]
    omega
  · rw [decide_eq_false hsign, if_neg Bool.false_ne_true]
    omega

theorem large_of_toInt?_ofInt {i k : Int} (h : 2 * Number.fractions ≤ i.natAbs)
    (hk : (ofInt i).toInt? = some k) : k < 0 ∨ (2 * Number.fractions : Nat) ≤ k := by
  rw [ofInt] at hk
  cases hm : Magnitude.nearest? i.natAbs 1 with
  | none =>
      rw [hm] at hk
      cases hk
  | some m =>
      rcases Magnitude.exists_toNat?_of_large h hm with ⟨n, hvalue, hn⟩
      rw [hm, ofMagnitude?, toInt?_finite hvalue, Option.some.injEq] at hk
      subst hk
      by_cases hsign : i < 0
      · left
        rw [decide_eq_true hsign, if_pos rfl]
        simp only [Number.fractions] at hn
        omega
      · right
        rw [decide_eq_false hsign, if_neg Bool.false_ne_true]
        exact_mod_cast hn

/-!
### Words of sixty-four bits
-/

theorem exists_of_toInt64? {x : Binary64} {w : Int64} (h : x.toInt64? = some w) :
    ∃ i, x.toInt? = some i ∧ w.toInt = min i 0x7FFFFFFFFFFFFFFF := by
  rw [toInt64?, Option.bind_eq_bind] at h
  rcases Option.bind_eq_some_iff.mp h with ⟨i, hi, hword⟩
  refine ⟨i, hi, ?_⟩
  split at hword
  · rename_i hrange
    rw [← Option.some.inj hword]
    apply Int64.toInt_ofInt_of_le
    · omega
    · omega
  · cases hword

theorem toInt64?_ofInt {w : Int64} (h : w.toInt.natAbs < 2 * Number.fractions) :
    (ofInt w.toInt).toInt64? = some w := by
  have hrange : -0x8000000000000000 ≤ w.toInt ∧ w.toInt ≤ 0x8000000000000000 := by
    simp only [Number.fractions] at h
    omega
  have hmin : min w.toInt 0x7FFFFFFFFFFFFFFF = w.toInt := by
    simp only [Number.fractions] at h
    omega
  simp only [toInt64?, toInt?_ofInt h, Option.bind_eq_bind, Option.bind_some]
  rw [if_pos hrange, hmin, Int64.ofInt_toInt]

theorem large_of_toInt64?_ofInt {w w' : Int64} (h : 2 * Number.fractions ≤ w.toInt.natAbs)
    (hw : (ofInt w.toInt).toInt64? = some w') :
    w'.toInt < 0 ∨ (2 * Number.fractions : Nat) ≤ w'.toInt := by
  rcases exists_of_toInt64? hw with ⟨i, hi, hword⟩
  rw [hword]
  rcases large_of_toInt?_ofInt h hi with hnegative | hlarge
  · left
    omega
  · right
    simp only [Number.fractions] at hlarge ⊢
    omega

end Binary64

end DnsView
