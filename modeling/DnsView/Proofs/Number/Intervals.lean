import DnsView.Number.Binary64
import Mathlib.Algebra.Order.Field.Power
import Mathlib.Data.Rat.Cast.Order
import Mathlib.Tactic.FieldSimp
import Mathlib.Tactic.Linarith
import Mathlib.Tactic.NormNum
import Mathlib.Tactic.Positivity
import Mathlib.Tactic.Ring

/-!
# Intervals and values of doubles

The doubles seen from the numbers they stand for: the numbers that round to each magnitude, and the
one number that a double is equal to.
-/

/-!
## Intervals of magnitudes

Each magnitude stands for an interval of numbers, and these intervals lie side by side: where one
ends the next begins.  An end that two magnitudes share belongs to the one with the even
significand, so no number belongs to both.  A magnitude is therefore determined by any decimal that
rounds to it, and in particular by the shortest one.
-/

namespace DnsView

theorem zpow_eq_pow_div_pow {a : ℚ} (ha : a ≠ 0) (e : Int) :
    a ^ e = a ^ e.toNat / a ^ (-e).toNat := by
  have he : e = (e.toNat : Int) - ((-e).toNat : Int) := by omega
  calc
    a ^ e = a ^ ((e.toNat : Int) - ((-e).toNat : Int)) := by rw [← he]
    _ = a ^ e.toNat / a ^ (-e).toNat := by rw [zpow_sub₀ ha, zpow_natCast, zpow_natCast]

/-!
### Decimals
-/

namespace Decimal

def value (d : Decimal) : ℚ := d.digits * 10 ^ d.exponent

theorem den_pos (d : Decimal) : 0 < d.den :=
  Nat.pow_pos (by decide)

theorem value_eq_num_div_den (d : Decimal) : d.value = d.num / d.den := by
  rw [value, zpow_eq_pow_div_pow (by norm_num), num, den, Nat.pow_eq, Nat.pow_eq]
  push_cast
  ring

end Decimal

namespace Magnitude

/-!
### Significands and exponents
-/

theorem field_mul_add_fraction (m : Magnitude) :
    m.field * Number.fractions + m.fraction = m.val := by
  rw [Nat.mul_comm]
  exact Nat.div_add_mod m.val Number.fractions

theorem significand_pos {m : Magnitude} (h : m.val ≠ 0) : 0 < m.significand := by
  have hval := m.field_mul_add_fraction
  unfold significand
  split
  · rename_i hfield
    rw [hfield] at hval
    omega
  · omega

theorem significand_mod_two (m : Magnitude) : m.significand % 2 = m.val % 2 := by
  have hval := m.field_mul_add_fraction
  unfold significand
  simp only [Number.fractions] at *
  split
  · rename_i hfield
    omega
  · omega

theorem den_pos (m : Magnitude) : 0 < m.den :=
  Nat.pow_pos (by decide)

/-- The last place of a magnitude. -/
def unit (m : Magnitude) : ℚ := 2 ^ m.exponent

theorem unit_pos (m : Magnitude) : 0 < m.unit :=
  zpow_pos (by norm_num) _

theorem unit_eq_pow_div_den (m : Magnitude) :
    m.unit = (Nat.pow 2 m.exponent.toNat : ℕ) / m.den := by
  rw [unit, zpow_eq_pow_div_pow (by norm_num), den, Nat.pow_eq, Nat.pow_eq]
  push_cast
  rfl

/-!
### The ends of an interval
-/

/-- Four times the lower end of the interval of a magnitude. -/
def lowEnd (m : Magnitude) : ℚ := m.interval.1 * m.unit

/-- Four times the upper end of the interval of a magnitude. -/
def highEnd (m : Magnitude) : ℚ := m.interval.2 * m.unit

theorem end_le_iff (m : Magnitude) (d : Decimal) (n : Nat) :
    n * m.unit ≤ 4 * d.value ↔
      n * Nat.pow 2 m.exponent.toNat * d.den ≤ d.num * (4 * m.den) := by
  have hm : (0 : ℚ) < m.den := by exact_mod_cast m.den_pos
  have hd : (0 : ℚ) < d.den := by exact_mod_cast d.den_pos
  rw [unit_eq_pow_div_den, Decimal.value_eq_num_div_den, ← mul_div_assoc, ← mul_div_assoc,
    div_le_div_iff₀ hm hd, mul_comm 4 (d.num : ℚ), mul_assoc (d.num : ℚ)]
  exact_mod_cast Iff.rfl

theorem le_end_iff (m : Magnitude) (d : Decimal) (n : Nat) :
    4 * d.value ≤ n * m.unit ↔
      d.num * (4 * m.den) ≤ n * Nat.pow 2 m.exponent.toNat * d.den := by
  have hm : (0 : ℚ) < m.den := by exact_mod_cast m.den_pos
  have hd : (0 : ℚ) < d.den := by exact_mod_cast d.den_pos
  rw [unit_eq_pow_div_den, Decimal.value_eq_num_div_den, ← mul_div_assoc, ← mul_div_assoc,
    div_le_div_iff₀ hd hm, mul_comm 4 (d.num : ℚ), mul_assoc (d.num : ℚ)]
  exact_mod_cast Iff.rfl

theorem reads_iff (m : Magnitude) (d : Decimal) :
    m.Reads d ↔
      if m.val % 2 = 0 then m.lowEnd ≤ 4 * d.value ∧ 4 * d.value ≤ m.highEnd
      else m.lowEnd < 4 * d.value ∧ 4 * d.value < m.highEnd := by
  have hopen : m.Reads d ↔
      if m.significand % 2 = 0 then
        m.interval.1 * Nat.pow 2 m.exponent.toNat * d.den ≤ d.num * (4 * m.den) ∧
          d.num * (4 * m.den) ≤ m.interval.2 * Nat.pow 2 m.exponent.toNat * d.den
      else
        m.interval.1 * Nat.pow 2 m.exponent.toNat * d.den < d.num * (4 * m.den) ∧
          d.num * (4 * m.den) < m.interval.2 * Nat.pow 2 m.exponent.toNat * d.den :=
    Iff.rfl
  rw [hopen, significand_mod_two, lowEnd, highEnd]
  split
  · rw [end_le_iff, le_end_iff]
  · simp only [← not_le, end_le_iff, le_end_iff]

theorem Reads.bounds {m : Magnitude} {d : Decimal} (h : m.Reads d) :
    m.lowEnd ≤ 4 * d.value ∧ 4 * d.value ≤ m.highEnd := by
  rw [reads_iff] at h
  split at h
  · exact h
  · exact ⟨h.left.le, h.right.le⟩

theorem Reads.even_of_end {m : Magnitude} {d : Decimal} (h : m.Reads d)
    (hend : 4 * d.value = m.lowEnd ∨ 4 * d.value = m.highEnd) : m.val % 2 = 0 := by
  rw [reads_iff] at h
  split at h
  · assumption
  · rcases hend with hend | hend
    · exact absurd hend h.left.ne'
    · exact absurd hend h.right.ne

/-!
### The order of the intervals
-/

theorem interval_lt (m : Magnitude) : m.interval.1 < m.interval.2 := by
  change 4 * m.significand - _ < 4 * m.significand + 2
  omega

theorem lowEnd_lt_highEnd (m : Magnitude) : m.lowEnd < m.highEnd := by
  apply mul_lt_mul_of_pos_right _ m.unit_pos
  exact_mod_cast m.interval_lt

theorem next_fields {m n : Magnitude} (h : n.val = m.val + 1) :
    (n.field = m.field ∧ n.fraction = m.fraction + 1) ∨
      (n.field = m.field + 1 ∧ n.fraction = 0 ∧ m.fraction + 1 = Number.fractions) := by
  simp only [field, fraction, Number.fractions, h]
  omega

theorem interval_of_wide {m : Magnitude} (h : m.narrowBelow = false) :
    m.interval = (4 * m.significand - 2, 4 * m.significand + 2) := by
  simp [interval, h]

/-- Where the interval of a magnitude ends, that of the next one begins. -/
theorem highEnd_eq_lowEnd {m n : Magnitude} (h : n.val = m.val + 1) : m.highEnd = n.lowEnd := by
  have hsame : n.narrowBelow = false → n.significand = m.significand + 1 →
      n.exponent = m.exponent → m.highEnd = n.lowEnd := by
    intro hwide hsignificand hexponent
    rw [highEnd, lowEnd, interval_of_wide hwide, hsignificand, unit, unit, hexponent, interval]
    congr 2
  rcases next_fields h with ⟨hfield, hfraction⟩ | ⟨hfield, hfraction, hlast⟩
  · apply hsame
    · simp [narrowBelow, hfraction]
    · simp only [significand, hfield, hfraction]
      split
      · rfl
      · rfl
    · simp only [exponent, hfield]
  · by_cases hzero : m.field = 0
    · apply hsame
      · simp [narrowBelow, hfield, hzero]
      · simp only [significand, hfield, hfraction, hzero]
        simp [← hlast]
      · simp [exponent, hfield, hzero]
    · have hnarrow : n.narrowBelow = true := by
        simp [narrowBelow, hfield, hfraction]
        omega
      have hsignificand : n.significand = Number.fractions := by
        simp [significand, hfield, hfraction]
      have hbefore : m.significand = 2 * Number.fractions - 1 := by
        simp only [significand, hzero, if_false, Number.fractions] at hlast ⊢
        omega
      have hexponent : n.exponent = m.exponent + 1 := by
        simp only [exponent, hfield]
        omega
      rw [highEnd, lowEnd, interval, interval, hnarrow, hsignificand, hbefore, unit, unit,
        hexponent, zpow_add_one₀ (by norm_num)]
      norm_num [Number.fractions]
      ring

theorem lowEnd_lt_lowEnd {m n : Magnitude} (h : m.val < n.val) : m.lowEnd < n.lowEnd := by
  rcases Nat.exists_eq_add_of_lt h with ⟨k, hk⟩
  induction k generalizing n with
  | zero =>
      rw [← highEnd_eq_lowEnd hk]
      exact m.lowEnd_lt_highEnd
  | succ k ih =>
      have hbound : m.val + k + 1 < 2047 * Number.fractions := by
        have hn := n.isLt
        omega
      have hstep : n.val = (⟨m.val + k + 1, hbound⟩ : Magnitude).val + 1 := hk
      calc
        m.lowEnd < lowEnd ⟨m.val + k + 1, hbound⟩ := by
          apply ih _ rfl
          show m.val < m.val + k + 1
          omega
        _ < highEnd ⟨m.val + k + 1, hbound⟩ := lowEnd_lt_highEnd _
        _ = n.lowEnd := highEnd_eq_lowEnd hstep

theorem Reads.not_lt {m n : Magnitude} {d : Decimal} (hm : m.Reads d) (hn : n.Reads d) :
    ¬m.val < n.val := by
  intro hlt
  by_cases hnext : n.val = m.val + 1
  · have hends := highEnd_eq_lowEnd hnext
    have hhigh : 4 * d.value = m.highEnd :=
      le_antisymm hm.bounds.right (hends ▸ hn.bounds.left)
    have heven := hm.even_of_end (Or.inr hhigh)
    have heven' := hn.even_of_end (Or.inl (hhigh.trans hends))
    omega
  · have hbound : m.val + 1 < 2047 * Number.fractions := by
      have hn := n.isLt
      omega
    have hgap : m.highEnd < n.lowEnd := by
      rw [highEnd_eq_lowEnd (n := ⟨m.val + 1, hbound⟩) rfl]
      apply lowEnd_lt_lowEnd
      show m.val + 1 < n.val
      omega
    exact absurd (hn.bounds.left.trans hm.bounds.right) (not_le.mpr hgap)

/-- Two decimals of the same value round to the same magnitude. -/
theorem Reads.unique {m n : Magnitude} {d e : Decimal} (hm : m.Reads d) (hn : n.Reads e)
    (h : d.value = e.value) : m = n := by
  have hn' : n.Reads d := by
    rw [reads_iff, h, ← reads_iff]
    exact hn
  have hlt := hm.not_lt hn'
  have hgt := hn'.not_lt hm
  exact Fin.ext (by omega)

/-!
### The shortest decimal
-/

theorem value_exactDecimal (m : Magnitude) : m.exactDecimal.value = m.significand * m.unit := by
  have hten : (10 : ℚ) ^ (min m.exponent 0) =
      1 / (2 ^ (-m.exponent).toNat * 5 ^ (-m.exponent).toNat) := by
    have hplus : (min m.exponent 0).toNat = 0 := by omega
    have hminus : (-min m.exponent 0).toNat = (-m.exponent).toNat := by omega
    rw [zpow_eq_pow_div_pow (by norm_num), hplus, hminus, ← mul_pow]
    norm_num
  simp only [Decimal.value, exactDecimal, Nat.pow_eq]
  rw [hten, unit, zpow_eq_pow_div_pow (by norm_num) m.exponent]
  push_cast
  field_simp

theorem reads_exactDecimal (m : Magnitude) : m.Reads m.exactDecimal := by
  have hunit := m.unit_pos
  rw [reads_iff, value_exactDecimal, lowEnd, highEnd, ← mul_assoc]
  have hhigh : (4 * m.significand : ℚ) < m.interval.2 := by
    change (4 * m.significand : ℚ) < (4 * m.significand + 2 : ℕ)
    push_cast
    linarith
  split
  · refine ⟨?_, (mul_lt_mul_of_pos_right hhigh hunit).le⟩
    apply mul_le_mul_of_nonneg_right _ hunit.le
    exact_mod_cast (Nat.sub_le _ _ : m.interval.1 ≤ 4 * m.significand)
  · rename_i hodd
    refine ⟨?_, mul_lt_mul_of_pos_right hhigh hunit⟩
    have hpos := significand_pos (m := m) (by omega)
    apply mul_lt_mul_of_pos_right _ hunit
    have hlow : m.interval.1 < 4 * m.significand := by
      simp only [interval]
      split
      all_goals omega
    exact_mod_cast hlow

theorem Reads.of_onGrid? {tie : Tie} {m : Magnitude} {place : Int} {d : Decimal}
    (h : m.onGrid? tie place = some d) : m.Reads d := by
  simp only [onGrid?] at h
  split at h
  · split at h
    · rename_i hupper
      cases h
      exact hupper.left
    · cases h
      assumption
  · split at h
    · cases h
      assumption
    · cases h

theorem reads_shortest (tie : Tie) (m : Magnitude) : m.Reads (m.shortest tie) := by
  unfold shortest
  cases hfound : (List.range 17).findSome? fun (n : Nat) =>
      m.onGrid? tie (m.leadingPlace - (n + 1)) with
  | none =>
      exact m.reads_exactDecimal
  | some d =>
      rcases List.exists_of_findSome?_eq_some hfound with ⟨n, _, hgrid⟩
      exact Reads.of_onGrid? hgrid

/-- A magnitude is determined by the value of its shortest decimal. -/
theorem shortest_injective {tie : Tie} {m n : Magnitude}
    (h : (m.shortest tie).value = (n.shortest tie).value) : m = n :=
  (m.reads_shortest tie).unique (n.reads_shortest tie) h

theorem value_pos_of_reads {m : Magnitude} {d : Decimal} (h : m.Reads d) (hm : m.val ≠ 0) :
    0 < d.value := by
  have hlow : (0 : ℚ) < m.lowEnd := by
    have hpos := significand_pos hm
    have hone : 0 < m.interval.1 := by
      simp only [interval]
      split
      all_goals omega
    exact mul_pos (by exact_mod_cast hone) m.unit_pos
  have hbound := h.bounds.left
  linarith

end Magnitude

/-!
## The numbers that doubles stand for

The number of a double comes from its sign, its exponent field and its fraction.  Where the field is
zero the fraction stands for itself, and else for what follows a leading one.  A double counts as an
integer exactly if its number is this integer, and both zeros count as the integer zero.
-/

namespace Magnitude

def value (m : Magnitude) : ℚ :=
  if m.field = 0 then m.fraction / Number.fractions * 2 ^ (-1022 : Int)
  else (1 + m.fraction / Number.fractions) * 2 ^ ((m.field : Int) - 1023)

theorem value_eq_significand_mul_unit (m : Magnitude) : m.value = m.significand * m.unit := by
  have hshift (k : Int) : (2 : ℚ) ^ (k - 52) = 2 ^ k / Number.fractions := by
    rw [zpow_sub₀ (by norm_num)]
    norm_num [Number.fractions]
  by_cases hfield : m.field = 0
  · have hexponent : m.exponent = -1022 - 52 := by
      rw [exponent, hfield]
      rfl
    rw [value, if_pos hfield, significand, if_pos hfield, unit, hexponent, hshift]
    ring
  · have hexponent : m.exponent = (m.field : Int) - 1023 - 52 := by
      rw [exponent]
      omega
    rw [value, if_neg hfield, significand, if_neg hfield, unit, hexponent, hshift]
    push_cast
    field_simp

theorem value_eq_num_div_den (m : Magnitude) : m.value = m.num / m.den := by
  rw [value_eq_significand_mul_unit, unit_eq_pow_div_den, num]
  push_cast
  ring

theorem value_nonneg (m : Magnitude) : 0 ≤ m.value := by
  rw [value_eq_num_div_den]
  positivity

theorem value_pos {m : Magnitude} (hm : m.val ≠ 0) : 0 < m.value := by
  rw [value_eq_significand_mul_unit]
  exact mul_pos (by exact_mod_cast significand_pos hm) m.unit_pos

theorem num_ne_zero_of_value {m : Magnitude} (hm : 0 < m.value) : m.num ≠ 0 := by
  intro hzero
  rw [value_eq_num_div_den, hzero, Nat.cast_zero, zero_div] at hm
  exact lt_irrefl _ hm

theorem toNat?_eq_some_iff (m : Magnitude) (n : Nat) : m.toNat? = some n ↔ m.value = n := by
  have hden : (m.den : ℚ) ≠ 0 := by exact_mod_cast m.den_pos.ne'
  rw [value_eq_num_div_den, div_eq_iff hden, toNat?]
  constructor
  · intro h
    split at h
    · rename_i hmod
      cases h
      exact_mod_cast (Nat.div_mul_cancel (Nat.dvd_of_mod_eq_zero hmod)).symm
    · cases h
  · intro h
    have hnum : m.num = n * m.den := by exact_mod_cast h
    rw [hnum, if_pos (Nat.mul_mod_left _ _), Nat.mul_div_cancel _ m.den_pos]

theorem exists_toNat?_iff (m : Magnitude) (i : Int) :
    (∃ n : Nat, m.toNat? = some n ∧ (n : Int) = i) ↔ m.value = i := by
  constructor
  · rintro ⟨n, hn, rfl⟩
    rw [(m.toNat?_eq_some_iff n).mp hn, Int.cast_natCast]
  · intro h
    have hnonneg : 0 ≤ i := by
      have hvalue := m.value_nonneg
      rw [h] at hvalue
      exact_mod_cast hvalue
    lift i to Nat using hnonneg
    rw [Int.cast_natCast] at h
    exact ⟨i, (m.toNat?_eq_some_iff i).mpr h, rfl⟩

end Magnitude

namespace Binary64

def value? : Binary64 → Option ℚ
  | .finite negative m => some (if negative then -m.value else m.value)
  | _ => none

theorem toInt?_eq_some_iff (x : Binary64) (i : Int) :
    x.toInt? = some i ↔ x.value? = some (i : ℚ) := by
  cases x with
  | finite negative m =>
      have hmap : (finite negative m).toInt? =
          m.toNat?.map fun (n : Nat) => if negative then -(n : Int) else n := by
        rw [toInt?]
        cases m.toNat? with
        | none =>
            rfl
        | some n =>
            rfl
      rw [hmap, value?, Option.map_eq_some_iff, Option.some.injEq]
      cases negative with
      | false =>
          exact m.exists_toNat?_iff i
      | true =>
          have hminus := m.exists_toNat?_iff (-i)
          rw [Int.cast_neg] at hminus
          simp only [if_true, neg_eq_iff_eq_neg, hminus]
  | infinite negative =>
      simp [toInt?, value?]
  | nan =>
      simp [toInt?, value?]

end Binary64

end DnsView
