import DnsView.Proofs.Number.Intervals
import DnsView.Proofs.Number.Integers

/-!
# Rounding to the nearest magnitude

The magnitude that is chosen for a fraction is found in two steps: a last place, which depends on
how large the fraction is, and the whole number of last places that is nearest to it.  The number of
the magnitude puts the two together.  It depends on the value of the fraction only and never falls
when the value grows, and it is the number of the magnitude to which a decimal of this value rounds.
-/

namespace DnsView

/-!
## Whole numbers
-/

namespace Number

/-- A whole number nearest to a number, and the even one where two are equally near. -/
structure RoundsTo (t : ℚ) (r : Nat) : Prop where
  low : 2 * r - 1 ≤ 2 * t
  high : 2 * t ≤ 2 * r + 1
  even : 2 * t = 2 * r - 1 ∨ 2 * t = 2 * r + 1 → r % 2 = 0

theorem ratio_eq_div_add_mod (num : Nat) {den : Nat} (hden : 0 < den) :
    (num / den : ℚ) = (num / den : ℕ) + (num % den : ℕ) / den := by
  have hpos : (den : ℚ) ≠ 0 := by exact_mod_cast hden.ne'
  have hdivmod : (num : ℚ) = den * (num / den : ℕ) + (num % den : ℕ) := by
    exact_mod_cast (Nat.div_add_mod num den).symm
  rw [div_eq_iff hpos, add_mul, div_mul_cancel₀ _ hpos, mul_comm _ (den : ℚ)]
  exact hdivmod

theorem roundsTo_roundHalfEven (num : Nat) {den : Nat} (hden : 0 < den) :
    RoundsTo (num / den) (roundHalfEven num den) := by
  have hpos : (0 : ℚ) < den := by exact_mod_cast hden
  have hlow : 0 ≤ ((num % den : ℕ) : ℚ) / den := by positivity
  have hhigh : ((num % den : ℕ) : ℚ) / den < 1 := by
    rw [div_lt_one hpos]
    exact_mod_cast Nat.mod_lt num hden
  have hdown : ((num % den : ℕ) : ℚ) / den ≤ 1 / 2 ↔ 2 * (num % den) ≤ den := by
    rw [div_le_div_iff₀ hpos (by norm_num), one_mul, mul_comm]
    exact_mod_cast Iff.rfl
  have hup : 1 / 2 ≤ ((num % den : ℕ) : ℚ) / den ↔ den ≤ 2 * (num % den) := by
    rw [div_le_div_iff₀ (by norm_num) hpos, one_mul, mul_comm]
    exact_mod_cast Iff.rfl
  rw [ratio_eq_div_add_mod num hden]
  unfold roundHalfEven
  dsimp only
  generalize ((num % den : ℕ) : ℚ) / den = part at hlow hhigh hdown hup ⊢
  split
  · rename_i hcase
    have hhalf : part ≤ 1 / 2 := hdown.mpr (by omega)
    refine ⟨by linarith, by linarith, ?_⟩
    rintro (htie | htie)
    · linarith
    · have hmiddle := hup.mp (by linarith)
      omega
  · rename_i hcase
    have hhalf : 1 / 2 ≤ part := hup.mpr (by omega)
    have hnext : ((num / den + 1 : ℕ) : ℚ) = (num / den : ℕ) + 1 := Nat.cast_succ _
    refine ⟨by linarith, by linarith, ?_⟩
    rintro (htie | htie)
    · have hmiddle := hdown.mp (by linarith)
      omega
    · linarith

theorem RoundsTo.mono {t u : ℚ} {r s : Nat} (hr : RoundsTo t r) (hs : RoundsTo u s) (h : t ≤ u) :
    r ≤ s := by
  by_contra hlt
  have hstep : (s : ℚ) + 1 ≤ r := by exact_mod_cast Nat.not_le.mp hlt
  have hlow := hr.low
  have hhigh := hs.high
  have hsame : (r : ℚ) = s + 1 := by linarith
  have hreven := hr.even (Or.inl (by linarith))
  have hseven := hs.even (Or.inr (by linarith))
  have hnext : r = s + 1 := by exact_mod_cast hsame
  omega

end Number

/-!
## Places
-/

namespace Magnitude

/-- The last place of the magnitudes with a field; the first two fields have the same. -/
def place (k : Nat) : ℚ := 2 ^ ((k : Int) - 1074)

theorem place_pos (k : Nat) : 0 < place k :=
  zpow_pos (by norm_num) _

theorem place_succ (k : Nat) : place (k + 1) = 2 * place k := by
  rw [place, place, Nat.cast_succ, add_sub_right_comm, zpow_add_one₀ (by norm_num), mul_comm]

theorem place_mono {j k : Nat} (h : j ≤ k) : place j ≤ place k := by
  apply zpow_le_zpow_right₀ (by norm_num)
  omega

/-- A number has a place if it has at most fifty-three bits there, and just as many if it can. -/
structure Scaled (q : ℚ) (k r : Nat) : Prop where
  rounds : Number.RoundsTo (q / place k) r
  below : q < 2 * Number.fractions * place k
  above : k = 0 ∨ Number.fractions * place k ≤ q

variable {q q' : ℚ} {k k' r r' : Nat}

theorem Scaled.le (h : Scaled q k r) : r ≤ 2 * Number.fractions := by
  have hbelow := (div_lt_iff₀ (place_pos k)).mpr h.below
  have hlow := h.rounds.low
  generalize q / place k = t at hbelow hlow
  have hbound : (r : ℚ) < 2 * Number.fractions + 1 := by linarith
  have hnat : r < 2 * Number.fractions + 1 := by exact_mod_cast hbound
  omega

theorem Scaled.ge (h : Scaled q k r) (hk : k ≠ 0) : Number.fractions ≤ r := by
  have habove := (le_div_iff₀ (place_pos k)).mpr (h.above.resolve_left hk)
  have hhigh := h.rounds.high
  generalize q / place k = t at habove hhigh
  have hbound : (Number.fractions : ℚ) < r + 1 := by linarith
  have hnat : Number.fractions < r + 1 := by exact_mod_cast hbound
  omega

theorem Scaled.mono (h : Scaled q k r) (h' : Scaled q' k' r') (hle : q ≤ q') :
    k * Number.fractions + r ≤ k' * Number.fractions + r' := by
  rcases Nat.lt_trichotomy k k' with hlt | heq | hgt
  · have hr := h.le
    have hr' := h'.ge (by omega)
    have hk : (k + 1) * Number.fractions ≤ k' * Number.fractions := Nat.mul_le_mul_right _ hlt
    rw [Nat.succ_mul] at hk
    omega
  · subst heq
    have hdiv : q / place k ≤ q' / place k := div_le_div_of_nonneg_right hle (place_pos k).le
    have hr := h.rounds.mono h'.rounds hdiv
    omega
  · have habove := h.above.resolve_left (by omega)
    have hplace := place_mono (by omega : k' + 1 ≤ k)
    rw [place_succ] at hplace
    have hbelow := h'.below
    have hscaled := mul_le_mul_of_nonneg_left hplace (by norm_num : (0 : ℚ) ≤ Number.fractions)
    linarith

/-!
## The number of the nearest magnitude
-/

theorem scaled_ratio (num den : Nat) (e : Int) :
    ((num * Nat.pow 2 (-e).toNat : ℕ) : ℚ) / (den * Nat.pow 2 e.toNat : ℕ) = num / den / 2 ^ e := by
  rw [zpow_eq_pow_div_pow (by norm_num), Nat.pow_eq, Nat.pow_eq]
  push_cast
  field_simp

theorem ratio_bounds {num den : Nat} (hnum : num ≠ 0) (hden : den ≠ 0) :
    (2 : ℚ) ^ ((num.log2 : Int) - den.log2 - 1) < num / den ∧
      (num / den : ℚ) < 2 ^ ((num.log2 : Int) - den.log2 + 1) := by
  have hpos : (0 : ℚ) < den := by exact_mod_cast Nat.pos_of_ne_zero hden
  have hnumLow : (2 : ℚ) ^ num.log2 ≤ num := by exact_mod_cast Nat.log2_self_le hnum
  have hnumHigh : (num : ℚ) < 2 ^ (num.log2 + 1) := by exact_mod_cast Nat.lt_log2_self
  have hdenLow : (2 : ℚ) ^ den.log2 ≤ den := by exact_mod_cast Nat.log2_self_le hden
  have hdenHigh : (den : ℚ) < 2 ^ (den.log2 + 1) := by exact_mod_cast Nat.lt_log2_self
  constructor
  · rw [lt_div_iff₀ hpos]
    calc
      (2 : ℚ) ^ ((num.log2 : Int) - den.log2 - 1) * den <
          2 ^ ((num.log2 : Int) - den.log2 - 1) * 2 ^ (den.log2 + 1) :=
        mul_lt_mul_of_pos_left hdenHigh (zpow_pos (by norm_num) _)
      _ = 2 ^ num.log2 := by
        rw [← zpow_natCast, ← zpow_natCast, ← zpow_add₀ (by norm_num)]
        congr 1
        push_cast
        ring
      _ ≤ num := hnumLow
  · rw [div_lt_iff₀ hpos]
    calc
      (num : ℚ) < 2 ^ (num.log2 + 1) := hnumHigh
      _ = 2 ^ ((num.log2 : Int) - den.log2 + 1) * 2 ^ den.log2 := by
        rw [← zpow_natCast, ← zpow_natCast, ← zpow_add₀ (by norm_num)]
        congr 1
        push_cast
        ring
      _ ≤ 2 ^ ((num.log2 : Int) - den.log2 + 1) * den :=
        mul_le_mul_of_nonneg_left hdenLow (zpow_nonneg (by norm_num) _)

theorem fractions_mul_zpow (e : Int) : Number.fractions * (2 : ℚ) ^ e = 2 ^ (e + 52) := by
  rw [zpow_add₀ (by norm_num), mul_comm]
  norm_num [Number.fractions]

/-- The exponent with which a fraction has fifty-three bits is found from its logarithms. -/
theorem exists_normalized {num den : Nat} (hnum : num ≠ 0) (hden : den ≠ 0) :
    ∃ e : Int, (2 : ℚ) ^ (e + 52) ≤ num / den ∧ (num / den : ℚ) < 2 ^ (e + 1 + 52) ∧
      nearestCode num den = (max e (-1074) + 1074).toNat * Number.fractions +
        Number.roundHalfEven (num * Nat.pow 2 (-max e (-1074)).toNat)
          (den * Nat.pow 2 (max e (-1074)).toNat) := by
  rcases ratio_bounds hnum hden with ⟨hlow, hhigh⟩
  generalize he : (num.log2 : Int) - den.log2 - 53 = e
  have hcond : num * Nat.pow 2 (-e).toNat < 2 * (den * Nat.pow 2 e.toNat) * Number.fractions ↔
      (num / den : ℚ) < 2 ^ (e + 1 + 52) := by
    have hpos : (0 : ℚ) < (den * Nat.pow 2 e.toNat : ℕ) := by
      exact_mod_cast Nat.mul_pos (Nat.pos_of_ne_zero hden) (Nat.pow_pos (by decide))
    have hratio : (num / den : ℚ) < 2 ^ (e + 1 + 52) ↔
        (num * Nat.pow 2 (-e).toNat : ℕ) / (den * Nat.pow 2 e.toNat : ℕ) <
          (2 * Number.fractions : ℚ) := by
      rw [scaled_ratio, div_lt_iff₀ (zpow_pos (by norm_num) e), ← fractions_mul_zpow,
        zpow_add_one₀ (by norm_num)]
      ring_nf
    rw [hratio, div_lt_iff₀ hpos]
    norm_cast
    rw [Nat.mul_right_comm]
  by_cases hsmall :
      num * Nat.pow 2 (-e).toNat < 2 * (den * Nat.pow 2 e.toNat) * Number.fractions
  · refine ⟨e, ?_, hcond.mp hsmall, ?_⟩
    · have hexponent : (num.log2 : Int) - den.log2 - 1 = e + 52 := by omega
      rw [← hexponent]
      exact hlow.le
    · rw [nearestCode, if_neg hnum]
      simp only [he]
      rw [if_pos hsmall]
  · refine ⟨e + 1, le_of_not_gt (hcond.not.mp hsmall), ?_, ?_⟩
    · have hexponent : (num.log2 : Int) - den.log2 + 1 = e + 1 + 1 + 52 := by omega
      rw [← hexponent]
      exact hhigh
    · rw [nearestCode, if_neg hnum]
      simp only [he]
      rw [if_neg hsmall]

theorem exists_scaled_nearestCode {num den : Nat} (hnum : num ≠ 0) (hden : den ≠ 0) :
    ∃ k r, Scaled (num / den) k r ∧ nearestCode num den = k * Number.fractions + r := by
  rcases exists_normalized hnum hden with ⟨e, hlow, hhigh, hcode⟩
  have hplace : place (max e (-1074) + 1074).toNat = 2 ^ max e (-1074) := by
    rw [place]
    congr 1
    omega
  have hpos : 0 < den * Nat.pow 2 (max e (-1074)).toNat :=
    Nat.mul_pos (Nat.pos_of_ne_zero hden) (Nat.pow_pos (by decide))
  have hrounds := Number.roundsTo_roundHalfEven (num * Nat.pow 2 (-max e (-1074)).toNat) hpos
  rw [scaled_ratio, ← hplace] at hrounds
  refine ⟨_, _, ⟨hrounds, ?_, ?_⟩, hcode⟩
  · calc
      (num / den : ℚ) < 2 ^ (e + 1 + 52) := hhigh
      _ ≤ 2 ^ (max e (-1074) + 1 + 52) := by
        apply zpow_le_zpow_right₀ (by norm_num)
        omega
      _ = 2 * Number.fractions * place (max e (-1074) + 1074).toNat := by
        rw [hplace, ← fractions_mul_zpow, zpow_add_one₀ (by norm_num)]
        ring
  · by_cases he : e ≤ -1074
    · left
      omega
    · right
      have hmax : max e (-1074) = e := by omega
      rw [hplace, hmax, fractions_mul_zpow]
      exact hlow

theorem nearestCode_zero (den : Nat) : nearestCode 0 den = 0 :=
  rfl

/-- A greater fraction has no smaller nearest magnitude. -/
theorem nearestCode_mono {a b c d : Nat} (hb : b ≠ 0) (hd : d ≠ 0) (h : (a / b : ℚ) ≤ c / d) :
    nearestCode a b ≤ nearestCode c d := by
  by_cases ha : a = 0
  · rw [ha, nearestCode_zero]
    exact Nat.zero_le _
  have hpos : (0 : ℚ) < a / b := by
    have ha' : 0 < a := Nat.pos_of_ne_zero ha
    have hb' : 0 < b := Nat.pos_of_ne_zero hb
    positivity
  have hc : c ≠ 0 := by
    rintro rfl
    rw [Nat.cast_zero, zero_div] at h
    exact absurd h (not_le.mpr hpos)
  rcases exists_scaled_nearestCode ha hb with ⟨k, r, hscaled, hcode⟩
  rcases exists_scaled_nearestCode hc hd with ⟨k', r', hscaled', hcode'⟩
  rw [hcode, hcode']
  exact hscaled.mono hscaled' h

theorem isSome_nearest?_iff (num den : Nat) :
    (nearest? num den).isSome ↔ nearestCode num den < 2047 * Number.fractions := by
  unfold nearest?
  dsimp only
  split
  · simp [*]
  · simp [*]

theorem isSome_nearest?_mono {a b c d : Nat} (hb : b ≠ 0) (hd : d ≠ 0) (h : (a / b : ℚ) ≤ c / d)
    (hsome : (nearest? c d).isSome) : (nearest? a b).isSome := by
  rw [isSome_nearest?_iff] at hsome ⊢
  exact Nat.lt_of_le_of_lt (nearestCode_mono hb hd h) hsome

theorem val_le_of_nearest? {a b c d : Nat} {m n : Magnitude} (hb : b ≠ 0) (hd : d ≠ 0)
    (hm : nearest? a b = some m) (hn : nearest? c d = some n) (h : (a / b : ℚ) ≤ c / d) :
    m.val ≤ n.val := by
  rw [val_of_nearest? hm, val_of_nearest? hn]
  exact nearestCode_mono hb hd h

/-!
## Decimals that round to a magnitude
-/

theorem significand_lt (m : Magnitude) : m.significand < 2 * Number.fractions := by
  have hfraction : m.fraction < Number.fractions := Nat.mod_lt _ (by decide)
  unfold significand
  split
  · omega
  · omega

theorem unit_eq_place (m : Magnitude) : m.unit = place (m.field - 1) := by
  rw [unit, place, exponent]
  congr 1
  omega

theorem val_eq_place_add_significand (m : Magnitude) :
    m.val = (m.field - 1) * Number.fractions + m.significand := by
  have hval := m.field_mul_add_fraction
  unfold significand
  split
  · rename_i hfield
    rw [hfield] at hval ⊢
    omega
  · rename_i hfield
    have hstep : m.field * Number.fractions =
        (m.field - 1) * Number.fractions + Number.fractions := by
      rw [← Nat.succ_mul, Nat.succ_eq_add_one, Nat.sub_add_cancel (Nat.pos_of_ne_zero hfield)]
    omega

theorem Reads.roundsTo {m : Magnitude} {d : Decimal} (h : m.Reads d) :
    Number.RoundsTo (d.value / m.unit) m.significand := by
  have hunit := m.unit_pos
  have hlow : (m.interval.1 : ℚ) ≤ 4 * (d.value / m.unit) := by
    rw [← mul_div_assoc, le_div_iff₀ hunit]
    exact h.bounds.left
  have hhigh : 4 * (d.value / m.unit) ≤ m.interval.2 := by
    rw [← mul_div_assoc, div_le_iff₀ hunit]
    exact h.bounds.right
  have heven : 4 * (d.value / m.unit) = m.interval.1 ∨ 4 * (d.value / m.unit) = m.interval.2 →
      m.significand % 2 = 0 := by
    rw [← mul_div_assoc, div_eq_iff hunit.ne', div_eq_iff hunit.ne', significand_mod_two]
    exact h.even_of_end
  have hleast : (4 * m.significand : ℚ) ≤ m.interval.1 + 2 := by
    have hnat : 4 * m.significand ≤ m.interval.1 + 2 := by
      simp only [interval]
      split
      · omega
      · omega
    exact_mod_cast hnat
  have hgreatest : (m.interval.2 : ℚ) = 4 * m.significand + 2 := by
    have hnat : m.interval.2 = 4 * m.significand + 2 := rfl
    exact_mod_cast hnat
  generalize d.value / m.unit = t at hlow hhigh heven ⊢
  refine ⟨by linarith, by linarith, ?_⟩
  rintro (htie | htie)
  · exact heven (Or.inl (by linarith))
  · exact heven (Or.inr (by linarith))

theorem Reads.lt_of_significand {m : Magnitude} {d : Decimal} (h : m.Reads d) :
    d.value < 2 * Number.fractions * m.unit := by
  have hsignificand : (m.significand : ℚ) + 1 ≤ 2 * Number.fractions := by
    exact_mod_cast m.significand_lt
  have hhigh := h.roundsTo.high
  rw [← div_lt_iff₀ m.unit_pos]
  generalize d.value / m.unit = t at hhigh ⊢
  linarith

theorem Reads.fraction_eq_zero {m : Magnitude} {d : Decimal} (h : m.Reads d) (hfield : m.field ≠ 0)
    (hshort : d.value < Number.fractions * m.unit) : m.fraction = 0 := by
  by_contra hne
  have hlarge : (Number.fractions : ℚ) + 1 ≤ m.significand := by
    have hnat : Number.fractions + 1 ≤ m.significand := by
      rw [significand, if_neg hfield]
      omega
    exact_mod_cast hnat
  have hlow := h.roundsTo.low
  rw [← div_lt_iff₀ m.unit_pos] at hshort
  generalize d.value / m.unit = t at hlow hshort
  linarith

theorem Reads.scaled_before {m : Magnitude} {d : Decimal} (h : m.Reads d) (hfield : 2 ≤ m.field)
    (hshort : d.value < Number.fractions * m.unit) :
    Scaled d.value (m.field - 2) (2 * Number.fractions) := by
  have hpos := place_pos (m.field - 2)
  have hfraction := h.fraction_eq_zero (by omega) hshort
  have hinterval : m.interval.1 = 4 * Number.fractions - 1 := by
    have hnarrow : m.narrowBelow = true := by
      simp [narrowBelow, hfraction]
      omega
    have hleast : m.significand = Number.fractions := by
      rw [significand, if_neg (by omega), hfraction, Nat.add_zero]
    simp only [interval, hnarrow, hleast, if_true]
  have hplace : m.unit = 2 * place (m.field - 2) := by
    rw [unit_eq_place, ← place_succ]
    congr 1
    omega
  have hcast : ((4 * Number.fractions - 1 : ℕ) : ℚ) = 4 * Number.fractions - 1 := by
    norm_num [Number.fractions]
  have hdouble : ((2 * Number.fractions : ℕ) : ℚ) = 2 * Number.fractions := by
    push_cast
    rfl
  have hlow : 4 * (Number.fractions : ℚ) - 1 ≤ 2 * (d.value / place (m.field - 2)) := by
    have hend := h.bounds.left
    rw [lowEnd, hinterval, hplace, hcast] at hend
    rw [← mul_div_assoc, le_div_iff₀ hpos]
    linarith
  have hhigh : d.value / place (m.field - 2) < 2 * Number.fractions := by
    rw [hplace] at hshort
    rw [div_lt_iff₀ hpos]
    linarith
  refine ⟨⟨?_, ?_, ?_⟩, ?_, ?_⟩
  · rw [hdouble]
    linarith
  · rw [hdouble]
    linarith
  · intro _
    exact Nat.mul_mod_right 2 _
  · rwa [div_lt_iff₀ hpos] at hhigh
  · right
    rw [← le_div_iff₀ hpos]
    generalize d.value / place (m.field - 2) = t at hlow
    have hone : (1 : ℚ) ≤ Number.fractions := by norm_num [Number.fractions]
    linarith

/-- The place of a decimal that rounds to a magnitude, and what it is rounded to there. -/
theorem Reads.exists_scaled {m : Magnitude} {d : Decimal} (h : m.Reads d) :
    ∃ k r, Scaled d.value k r ∧ m.val = k * Number.fractions + r := by
  by_cases habove : m.field - 1 = 0 ∨ Number.fractions * m.unit ≤ d.value
  · have hrounds := h.roundsTo
    have hbelow := h.lt_of_significand
    rw [unit_eq_place] at hrounds hbelow habove
    exact ⟨m.field - 1, m.significand, ⟨hrounds, hbelow, habove⟩, m.val_eq_place_add_significand⟩
  · rw [not_or, not_le] at habove
    rcases habove with ⟨hfield, hshort⟩
    have hfraction := h.fraction_eq_zero (by omega) hshort
    refine ⟨m.field - 2, 2 * Number.fractions, h.scaled_before (by omega) hshort, ?_⟩
    have hstep : m.field * Number.fractions =
        (m.field - 2) * Number.fractions + 2 * Number.fractions := by
      rw [← Nat.add_mul, Nat.sub_add_cancel (by omega)]
    rw [← field_mul_add_fraction, hfraction, hstep, Nat.add_zero]

/-- The nearest magnitude of a number is the one that a decimal of its value rounds to. -/
theorem nearest?_of_reads {m : Magnitude} {d : Decimal} (h : m.Reads d) {num den : Nat}
    (hnum : num ≠ 0) (hden : den ≠ 0) (hvalue : (num / den : ℚ) = d.value) :
    nearest? num den = some m := by
  rcases h.exists_scaled with ⟨k, r, hscaled, hval⟩
  rcases exists_scaled_nearestCode hnum hden with ⟨k', r', hscaled', hcode⟩
  have hsame : nearestCode num den = m.val := by
    rw [hcode, hval]
    exact Nat.le_antisymm (hscaled'.mono hscaled hvalue.le) (hscaled.mono hscaled' hvalue.ge)
  have hrange : nearestCode num den < 2047 * Number.fractions := by
    rw [hsame]
    exact m.isLt
  rw [nearest?, dif_pos hrange]
  exact congrArg some (Fin.ext hsame)

/-- A magnitude is the nearest one to its value. -/
theorem nearest?_self (m : Magnitude) : nearest? m.num m.den = some m := by
  by_cases hm : m.val = 0
  · have hzero : m = zero := Fin.ext hm
    rw [hzero]
    rfl
  · apply nearest?_of_reads m.reads_exactDecimal (num_ne_zero_of_value (value_pos hm)) m.den_pos.ne'
    rw [value_exactDecimal, ← value_eq_significand_mul_unit, value_eq_num_div_den]

/-!
## The order of the values
-/

theorem highEnd_le_lowEnd {m n : Magnitude} (h : m.val < n.val) : m.highEnd ≤ n.lowEnd := by
  have hbound : m.val + 1 < 2047 * Number.fractions := by
    have hn := n.isLt
    omega
  rw [highEnd_eq_lowEnd (n := ⟨m.val + 1, hbound⟩) rfl]
  by_cases hnext : m.val + 1 = n.val
  · have hsame : (⟨m.val + 1, hbound⟩ : Magnitude) = n := Fin.ext hnext
    rw [hsame]
  · apply le_of_lt
    apply lowEnd_lt_lowEnd
    show m.val + 1 < n.val
    omega

theorem value_bounds (m : Magnitude) : m.lowEnd ≤ 4 * m.value ∧ 4 * m.value ≤ m.highEnd := by
  have hbounds := m.reads_exactDecimal.bounds
  rwa [value_exactDecimal, ← value_eq_significand_mul_unit] at hbounds

theorem value_le_value {m n : Magnitude} (h : m.val ≤ n.val) : m.value ≤ n.value := by
  rcases Nat.eq_or_lt_of_le h with heq | hlt
  · have hsame : m = n := Fin.ext heq
    rw [hsame]
  · have hgap := highEnd_le_lowEnd hlt
    have hm := m.value_bounds.right
    have hn := n.value_bounds.left
    linarith

end Magnitude

end DnsView
