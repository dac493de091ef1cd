import DnsView.Proofs.Number.Rounding
import Mathlib.Tactic.IntervalCases

/-!
# The shortest decimals of whole numbers

The last place of a whole number of at most fifty-three bits is not above one, so no other whole
number rounds to it.  The search for its shortest decimal begins left of the point and meets the
number itself at the latest at the point.  What it finds is therefore the number, with a power of
ten that is not negative.
-/

namespace DnsView.Magnitude

variable {m : Magnitude} {k : Nat}

/-!
## Whole numbers and their intervals
-/

theorem Reads.congr {d e : Decimal} (hd : m.Reads d) (h : d.value = e.value) : m.Reads e := by
  rw [reads_iff, ← h, ← reads_iff]
  exact hd

theorem unit_le_one (hm : m.toNat? = some k) (hk : k < 2 * Number.fractions) : m.unit ≤ 1 := by
  have hfield : m.field < 1076 := by
    by_contra hlarge
    rcases exists_toNat?_of_field (Nat.not_lt.mp hlarge) with ⟨n, hn, hbound⟩
    have hsame : n = k := Option.some.inj (hn.symm.trans hm)
    omega
  have hexponent : m.exponent ≤ 0 := by
    rw [exponent]
    omega
  calc
    m.unit ≤ 2 ^ (0 : Int) := zpow_le_zpow_right₀ (by norm_num) hexponent
    _ = 1 := zpow_zero 2

theorem Reads.value_eq (hm : m.toNat? = some k) (hk : k < 2 * Number.fractions) {d : Decimal}
    (h : m.Reads d) (hd : 0 ≤ d.exponent) : d.value = k := by
  have hwhole : d.value = (d.digits * 10 ^ d.exponent.toNat : ℕ) := by
    have hexponent : d.exponent = (d.exponent.toNat : Int) := by omega
    rw [Decimal.value, hexponent, zpow_natCast, Int.toNat_natCast]
    push_cast
    rfl
  have hvalue := (m.toNat?_eq_some_iff k).mp hm
  have hunit := unit_le_one hm hk
  have hlow : 2 * (k : ℚ) - 1 ≤ 2 * d.value := by
    have hround := mul_le_mul_of_nonneg_right h.roundsTo.low m.unit_pos.le
    rw [sub_mul, mul_assoc, mul_assoc, div_mul_cancel₀ _ m.unit_pos.ne',
      ← value_eq_significand_mul_unit, hvalue] at hround
    linarith
  have hhigh : 2 * d.value ≤ 2 * (k : ℚ) + 1 := by
    have hround := mul_le_mul_of_nonneg_right h.roundsTo.high m.unit_pos.le
    rw [add_mul, mul_assoc, mul_assoc, div_mul_cancel₀ _ m.unit_pos.ne',
      ← value_eq_significand_mul_unit, hvalue] at hround
    linarith
  rw [hwhole] at hlow hhigh ⊢
  generalize d.digits * 10 ^ d.exponent.toNat = n at hlow hhigh ⊢
  have hle : 2 * k ≤ 2 * n + 1 := by
    have hcast : (2 * k : ℚ) ≤ 2 * n + 1 := by linarith
    exact_mod_cast hcast
  have hge : 2 * n ≤ 2 * k + 1 := by exact_mod_cast hhigh
  have hsame : n = k := by omega
  rw [hsame]

/-!
## The search
-/

theorem exponent_of_onGrid? {tie : Tie} {place : Int} {d : Decimal}
    (h : m.onGrid? tie place = some d) : d.exponent = place := by
  simp only [onGrid?] at h
  split at h
  · split at h
    · cases h
      rfl
    · cases h
      rfl
  · split at h
    · cases h
      rfl
    · cases h

theorem isSome_onGrid?_zero (tie : Tie) (hm : m.toNat? = some k) : (m.onGrid? tie 0).isSome := by
  have hfloor : m.gridFloor 0 = k := by
    have hdiv : m.gridFloor 0 = m.num / m.den := by
      rw [gridFloor, Int.neg_zero, Int.toNat_zero, Nat.pow_eq, Nat.pow_zero, Nat.mul_one,
        Nat.mul_one]
    rw [toNat?] at hm
    split at hm
    · rw [hdiv]
      exact Option.some.inj hm
    · cases hm
  have hreads : m.Reads ⟨m.gridFloor 0, 0⟩ := by
    apply m.reads_exactDecimal.congr
    rw [value_exactDecimal, ← value_eq_significand_mul_unit, (m.toNat?_eq_some_iff k).mp hm,
      Decimal.value, hfloor, zpow_zero, mul_one]
  simp only [onGrid?, hreads, if_true]
  split
  · rfl
  · rfl

theorem below_iff (m : Magnitude) (p : Int) :
    m.num * Nat.pow 10 (-p).toNat < m.den * Nat.pow 10 p.toNat ↔ m.value < 10 ^ p := by
  have hden : (0 : ℚ) < m.den := by exact_mod_cast m.den_pos
  have hpow : (0 : ℚ) < 10 ^ (-p).toNat := by positivity
  rw [value_eq_num_div_den, zpow_eq_pow_div_pow (by norm_num), div_lt_div_iff₀ hden hpow,
    mul_comm ((10 : ℚ) ^ p.toNat), Nat.pow_eq, Nat.pow_eq]
  exact_mod_cast Iff.rfl

theorem leadingPlace_bounds (hpos : 1 ≤ m.value) (hword : m.value < 2 ^ (32 : Int)) :
    1 ≤ m.leadingPlace ∧ m.leadingPlace ≤ 17 := by
  have hnum := num_ne_zero_of_value (zero_lt_one.trans_le hpos)
  rcases ratio_bounds hnum m.den_pos.ne' with ⟨hlow, hhigh⟩
  rw [← value_eq_num_div_den] at hlow hhigh
  generalize hlog : (m.num.log2 : Int) - m.den.log2 = log at hlow hhigh
  have hleast : 0 < log + 1 := by
    have hone := hpos.trans_lt hhigh
    rwa [← zpow_zero (2 : ℚ), zpow_lt_zpow_iff_right₀ (by norm_num)] at hone
  have hgreatest : log - 1 < 32 := by
    have hbits := hlow.trans hword
    rwa [zpow_lt_zpow_iff_right₀ (by norm_num)] at hbits
  lift log to Nat using by omega
  have hguess : ∀ l < 33, 2 ^ (l + 1) ≤ 10 ^ (l * 30103 / 100000 + 2) := by decide
  have hbelow : m.value < 10 ^ ((log : Int) * 30103 / 100000 - 1 + (3 : ℕ)) := by
    have hpower : (log : Int) * 30103 / 100000 - 1 + (3 : ℕ) = (log * 30103 / 100000 + 2 : ℕ) := by
      omega
    calc
      m.value < 2 ^ ((log : Int) + 1) := hhigh
      _ = ((2 ^ (log + 1) : ℕ) : ℚ) := by
        push_cast
        exact_mod_cast rfl
      _ ≤ ((10 ^ (log * 30103 / 100000 + 2) : ℕ) : ℚ) := by
        exact_mod_cast hguess log (by omega)
      _ = 10 ^ ((log : Int) * 30103 / 100000 - 1 + (3 : ℕ)) := by
        rw [hpower, zpow_natCast]
        push_cast
        rfl
  simp only [leadingPlace, hlog]
  cases hfound : ((List.range 5).map fun (i : Nat) => (log : Int) * 30103 / 100000 - 1 + i).find?
      fun p => m.num * Nat.pow 10 (-p).toNat < m.den * Nat.pow 10 p.toNat with
  | none =>
      have hnone := List.find?_eq_none.mp hfound _
        (List.mem_map_of_mem (List.mem_range.mpr (by decide : 3 < 5)))
      rw [decide_eq_true_eq, below_iff] at hnone
      exact absurd hbelow hnone
  | some p =>
      have hp := List.find?_some hfound
      rw [decide_eq_true_eq, below_iff] at hp
      have hone := hpos.trans_lt hp
      rw [← zpow_zero (10 : ℚ), zpow_lt_zpow_iff_right₀ (by norm_num)] at hone
      rcases List.mem_map.mp (List.mem_of_find?_eq_some hfound) with ⟨i, hi, hplace⟩
      have hi := List.mem_range.mp hi
      rw [Option.getD_some]
      omega

theorem exists_findSome?_range {α : Type} {f : Nat → Option α} {n size : Nat} (hn : n < size)
    (h : (f n).isSome) : ∃ i ≤ n, ∃ a, f i = some a ∧ (List.range size).findSome? f = some a := by
  induction size with
  | zero =>
      exact absurd hn (Nat.not_lt_zero n)
  | succ size ih =>
      rw [List.range_succ, List.findSome?_append]
      by_cases hlast : n < size
      · rcases ih hlast with ⟨i, hi, a, ha, hfound⟩
        exact ⟨i, hi, a, ha, by rw [hfound, Option.some_or]⟩
      · have hsame : n = size := by omega
        subst hsame
        cases hfound : (List.range n).findSome? f with
        | none =>
            rcases Option.isSome_iff_exists.mp h with ⟨a, ha⟩
            exact ⟨n, Nat.le_refl n, a, ha, by simp [ha]⟩
        | some a =>
            rcases List.exists_of_findSome?_eq_some hfound with ⟨i, hi, ha⟩
            exact ⟨i, (List.mem_range.mp hi).le, a, ha, by rw [Option.some_or]⟩

/-- The shortest decimal of a word is the word itself, up to zeros at its end. -/
theorem shortest_word (tie : Tie) (hm : m.toNat? = some k) (hpos : k ≠ 0) (hk : k < UInt32.size) :
    0 ≤ (m.shortest tie).exponent ∧ (m.shortest tie).value = k := by
  have hvalue := (m.toNat?_eq_some_iff k).mp hm
  have hone : 1 ≤ m.value := by
    rw [hvalue]
    exact_mod_cast Nat.one_le_iff_ne_zero.mpr hpos
  have hword : m.value < 2 ^ (32 : Int) := by
    rw [hvalue]
    exact_mod_cast hk
  rcases leadingPlace_bounds hone hword with ⟨hleast, hgreatest⟩
  have hplace : m.leadingPlace - (((m.leadingPlace - 1).toNat : Int) + 1) = 0 := by omega
  have hzero :
      (m.onGrid? tie (m.leadingPlace - (((m.leadingPlace - 1).toNat : Int) + 1))).isSome := by
    rw [hplace]
    exact isSome_onGrid?_zero tie hm
  rcases exists_findSome?_range (f := fun (n : Nat) => m.onGrid? tie (m.leadingPlace - (n + 1)))
    (by omega : (m.leadingPlace - 1).toNat < 17) hzero with ⟨i, hi, d, hgrid, hfound⟩
  have hshortest : m.shortest tie = d := by
    rw [shortest, hfound, Option.getD_some]
  have hexponent : 0 ≤ d.exponent := by
    rw [exponent_of_onGrid? hgrid]
    omega
  rw [hshortest]
  exact ⟨hexponent, (Reads.of_onGrid? hgrid).value_eq hm (Nat.lt_trans hk (by decide)) hexponent⟩

end DnsView.Magnitude
