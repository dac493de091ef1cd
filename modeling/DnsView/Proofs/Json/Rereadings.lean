import DnsView.Proofs.Json.NumeralScaling
import DnsView.Proofs.Number.WholeNumbers

/-!
# Doubles read back

A finite double is written with its shortest decimal, which the nearest double of is the double
itself.  The reader rounds more than once, though, so what it gives for the numeral of a double may
be another one.  It always gives a finite double of the same sign, and the double itself if the
numeral has at most fifteen digits and its point is not far from them.  Every word is shown so.
-/

namespace DnsView.Json.Numeral

/-!
## The place of the point
-/

theorem pow_le_ofDigits {ds : List Nat} (hds : Significant ds) :
    10 ^ (ds.length - 1) ≤ Text.ofDigits 10 ds := by
  cases ds with
  | nil =>
      exact absurd rfl hds.nonempty
  | cons d ds =>
      have hd : 1 ≤ d := by
        by_contra hzero
        have hhead : d = 0 := by omega
        exact hds.leading (congrArg some hhead)
      have hle := Nat.mul_le_mul_right (10 ^ ds.length) hd
      rw [Text.ofDigits_cons, List.length_cons, Nat.add_sub_cancel]
      omega

theorem shownPoint_bounds {m : Magnitude} (hm : m.val ≠ 0) :
    (10 : ℚ) ^ (shownPoint m - 1) ≤ (m.shortest .toEven).value ∧
      (m.shortest .toEven).value < 10 ^ shownPoint m := by
  have hds := significant_shownDigits hm
  have hlength := List.length_pos_of_ne_nil hds.nonempty
  have hten : (0 : ℚ) < 10 ^ (shownPoint m - (shownDigits m).length) :=
    zpow_pos (by norm_num) _
  rw [← value_shown]
  constructor
  · have hexponent : shownPoint m - 1 =
        ((shownDigits m).length - 1 : ℕ) + (shownPoint m - (shownDigits m).length) := by omega
    rw [hexponent, zpow_add₀ (by norm_num), zpow_natCast]
    apply mul_le_mul_of_nonneg_right _ hten.le
    exact_mod_cast pow_le_ofDigits hds
  · have hexponent : shownPoint m =
        ((shownDigits m).length : ℕ) + (shownPoint m - (shownDigits m).length) := by omega
    calc
      (Text.ofDigits 10 (shownDigits m) : ℚ) * 10 ^ (shownPoint m - (shownDigits m).length) <
          (10 ^ (shownDigits m).length : ℕ) * 10 ^ (shownPoint m - (shownDigits m).length) := by
        apply mul_lt_mul_of_pos_right _ hten
        exact_mod_cast Text.ofDigits_lt_pow hds.small
      _ = 10 ^ shownPoint m := by
        conv_rhs => rw [hexponent, zpow_add₀ (by norm_num), zpow_natCast]
        push_cast
        rfl

theorem shortest_bounds {m : Magnitude} (hm : m.val ≠ 0) :
    (2 : ℚ) ^ (-1076 : Int) ≤ (m.shortest .toEven).value ∧
      (m.shortest .toEven).value < 2 ^ (1024 : Int) := by
  have hreads := m.reads_shortest .toEven
  constructor
  · have hinterval : (1 : ℚ) ≤ m.interval.1 := by
      have hpos := Magnitude.significand_pos hm
      have hnat : 1 ≤ m.interval.1 := by
        simp only [Magnitude.interval]
        split
        · omega
        · omega
      exact_mod_cast hnat
    have hunit : (2 : ℚ) ^ (-1074 : Int) ≤ m.unit := by
      apply zpow_le_zpow_right₀ (by norm_num)
      rw [Magnitude.exponent]
      omega
    have hlow := hreads.bounds.left
    have hend : m.unit ≤ m.lowEnd := le_mul_of_one_le_left m.unit_pos.le hinterval
    have hquarter : (2 : ℚ) ^ (-1074 : Int) = 4 * 2 ^ (-1076 : Int) := by
      rw [(by norm_num : (-1074 : Int) = 2 + -1076), zpow_add₀ (by norm_num)]
      norm_num
    linarith
  · have hunit : m.unit ≤ (2 : ℚ) ^ (971 : Int) := by
      have hfield : m.field < 2047 := (Nat.div_lt_iff_lt_mul (by decide)).mpr m.isLt
      apply zpow_le_zpow_right₀ (by norm_num)
      rw [Magnitude.exponent]
      omega
    have hscaled := mul_le_mul_of_nonneg_left hunit (by norm_num : (0 : ℚ) ≤ Number.fractions)
    have hdouble : (2 : ℚ) ^ (1024 : Int) = 2 * 2 ^ (971 + 52 : Int) := by
      rw [(by norm_num : (1024 : Int) = 1 + (971 + 52)), zpow_add₀ (by norm_num), zpow_one]
    have hhigh := hreads.lt_of_significand
    rw [Magnitude.fractions_mul_zpow] at hscaled
    linarith

theorem shownPoint_small {m : Magnitude} (hm : m.val ≠ 0) :
    -1076 < shownPoint m ∧ shownPoint m ≤ 1024 := by
  rcases shownPoint_bounds hm with ⟨hlow, hhigh⟩
  rcases shortest_bounds hm with ⟨hleast, hgreatest⟩
  have hten : (1 : ℚ) < 10 := by norm_num
  have hpower : (2 : ℚ) ^ (1076 : Int) ≤ 10 ^ (1076 : Int) :=
    zpow_le_zpow_left₀ (by norm_num) (by norm_num) (by norm_num)
  have hpower' : (2 : ℚ) ^ (1024 : Int) ≤ 10 ^ (1024 : Int) :=
    zpow_le_zpow_left₀ (by norm_num) (by norm_num) (by norm_num)
  constructor
  · rw [← zpow_lt_zpow_iff_right₀ hten]
    calc
      (10 : ℚ) ^ (-1076 : Int) ≤ 2 ^ (-1076 : Int) := by
        rw [zpow_neg, zpow_neg]
        exact inv_anti₀ (zpow_pos (by norm_num) _) hpower
      _ ≤ (m.shortest .toEven).value := hleast
      _ < 10 ^ shownPoint m := hhigh
  · rw [← Int.sub_one_lt_iff, ← zpow_lt_zpow_iff_right₀ hten]
    exact (hlow.trans_lt hgreatest).trans_le hpower'

/-!
## The range of doubles
-/

theorem wholeLength_ofMagnitude (negative : Bool) (m : Magnitude) :
    (ofMagnitude negative m).whole.length ≤ 16 := by
  unfold ofMagnitude positional scientific
  split
  · exact Nat.le_add_left 1 15
  · split
    · split
      · exact Nat.le_add_left 1 15
      · rw [List.length_append, List.length_take, List.length_replicate]
        omega
    · rw [List.length_take]
      omega

theorem moderate_ofMagnitude (negative : Bool) (m : Magnitude) :
    (ofMagnitude negative m).Moderate := by
  constructor
  · calc
      Text.ofDigits 10 (ofMagnitude negative m).whole <
          10 ^ (ofMagnitude negative m).whole.length :=
        Text.ofDigits_lt_pow (proper_ofMagnitude negative m).wholeSmall
      _ ≤ 10 ^ 16 := Nat.pow_le_pow_right (by decide) (wholeLength_ofMagnitude negative m)
      _ < UInt64.size := by decide
  · intro e he
    unfold ofMagnitude positional scientific at he
    split at he
    · cases he
    · rename_i hm
      split at he
      · split at he
        · cases he
        · cases he
      · cases he
        have hpoint := shownPoint_small hm
        dsimp only
        omega

def greatest : Magnitude := ⟨2047 * Number.fractions - 1, by decide⟩

theorem lowEnd_greatest : greatest.lowEnd = 4 * limit := by
  have hinterval : greatest.interval.1 = 2 * (4 * Number.fractions - 3) := by decide +kernel
  have hexponent : greatest.exponent = (970 : ℕ) + 1 := by decide +kernel
  rw [Magnitude.lowEnd, hinterval, Magnitude.unit, hexponent, zpow_add_one₀ (by norm_num),
    zpow_natCast, limit, Nat.cast_mul, Nat.cast_mul, Nat.cast_pow, Nat.cast_ofNat]
  generalize (2 : ℚ) ^ 970 = power
  ring

theorem value_le_limit (negative : Bool) {m : Magnitude} (hm : m ≠ greatest) :
    (ofMagnitude negative m).value ≤ limit := by
  by_cases hzero : m.val = 0
  · rw [value_ofMagnitude_zero negative hzero]
    exact Nat.cast_nonneg limit
  · have hlt : m.val < greatest.val := by
      have hbound := m.isLt
      have hne : m.val ≠ greatest.val := fun h => hm (Fin.ext h)
      have hval : greatest.val = 2047 * Number.fractions - 1 := rfl
      omega
    have hhigh := (m.reads_shortest .toEven).bounds.right
    have hends := Magnitude.highEnd_le_lowEnd hlt
    rw [lowEnd_greatest] at hends
    rw [value_ofMagnitude negative hzero]
    linarith

theorem magnitude?_ofMagnitude (negative : Bool) (m : Magnitude) :
    (ofMagnitude negative m).magnitude? = (ofMagnitude false m).magnitude? := by
  unfold ofMagnitude positional scientific
  split
  · rfl
  · split
    · split
      · rfl
      · rfl
    · rfl

/-- What is written for a finite double is read as a finite double. -/
theorem isSome_magnitude?_ofMagnitude (m : Magnitude) :
    (ofMagnitude false m).magnitude?.isSome := by
  by_cases hm : m = greatest
  · rw [hm]
    decide +kernel
  · exact (moderate_ofMagnitude false m).isSome_magnitude? (value_le_limit false hm)

end DnsView.Json.Numeral

/-!
## Reading again
-/

namespace DnsView

/-- The magnitude that is read for what is written for a magnitude. -/
def Magnitude.reread (m : Magnitude) : Magnitude :=
  (Json.Numeral.ofMagnitude false m).magnitude?.get (Json.Numeral.isSome_magnitude?_ofMagnitude m)

/-- A finite double is read back with its sign, but maybe with another magnitude. -/
theorem Json.Numeral.number?_ofMagnitude (negative : Bool) (m : Magnitude) :
    (ofMagnitude negative m).number? = some (.float (.finite negative m.reread)) := by
  have hmagnitude : (ofMagnitude negative m).magnitude? = some m.reread := by
    rw [magnitude?_ofMagnitude, Magnitude.reread, Option.some_get]
  have hnumber : ((ofMagnitude negative m).fraction.isEmpty &&
      (ofMagnitude negative m).exponent.isNone) = false := by
    rw [Bool.and_eq_false_imp, List.isEmpty_iff]
    intro hfraction
    rw [Option.isNone_eq_false_iff, Option.isSome_iff_ne_none]
    exact exponent_ofMagnitude_ne_none hfraction
  simp only [number?, hnumber, hmagnitude, negative_ofMagnitude, Bool.false_and, if_false,
    Bool.false_eq_true, Option.map_some]

namespace Json.Numeral

/-- The digits are a double, and so is the power of ten that they are scaled with. -/
structure Short (x : Numeral) : Prop where
  digits : Text.ofDigits 10 (x.whole ++ x.fraction) < 2 * Number.fractions
  power : (x.shift - x.fraction.length).natAbs ≤ 22

instance (x : Numeral) : Decidable x.Short :=
  decidable_of_iff (Text.ofDigits 10 (x.whole ++ x.fraction) < 2 * Number.fractions ∧
    (x.shift - x.fraction.length).natAbs ≤ 22)
    ⟨fun h => ⟨h.left, h.right⟩, fun h => ⟨h.digits, h.power⟩⟩

theorem Short.reread_eq {m : Magnitude} (h : (ofMagnitude false m).Short) : m.reread = m := by
  rw [Magnitude.reread, ← Option.some_inj, Option.some_get]
  by_cases hm : m.val = 0
  · have hzero : m = Magnitude.zero := Fin.ext hm
    rw [hzero]
    decide +kernel
  · exact (moderate_ofMagnitude false m).magnitude?_of_reads (m.reads_shortest .toEven)
      (value_ofMagnitude false hm) (value_ofMagnitude_pos false hm) h.digits h.power

theorem digits_lt_pow (negative : Bool) {m : Magnitude} (hm : m.val ≠ 0) :
    (Text.ofDigits 10 ((ofMagnitude negative m).whole ++ (ofMagnitude negative m).fraction) : ℚ) <
      10 ^ (shownPoint m -
        ((ofMagnitude negative m).shift - (ofMagnitude negative m).fraction.length)) := by
  have hhigh := (shownPoint_bounds hm).right
  rw [← value_ofMagnitude negative hm, value_eq] at hhigh
  rw [zpow_sub₀ (by norm_num), lt_div_iff₀ (zpow_pos (by norm_num) _)]
  exact hhigh

theorem shift_ofMagnitude (negative : Bool) {m : Magnitude} (hm : m.val ≠ 0) :
    (ofMagnitude negative m).shift - (ofMagnitude negative m).fraction.length =
        shownPoint m - (shownDigits m).length ∨
      (ofMagnitude negative m).shift - (ofMagnitude negative m).fraction.length = -1 ∧
        (shownDigits m).length ≤ shownPoint m := by
  have hlength := List.length_pos_of_ne_nil (significant_shownDigits hm).nonempty
  unfold ofMagnitude positional scientific shift
  rw [if_neg hm]
  split
  · split
    · left
      rw [Option.elim_none, List.length_append, List.length_replicate]
      omega
    · rename_i hpoint
      by_cases hlong : (shownDigits m).length ≤ (shownPoint m).toNat
      · right
        have hdrop := List.drop_of_length_le hlong
        simp only [hdrop, List.isEmpty_nil, if_true, Option.elim_none, List.length_singleton]
        omega
      · left
        have hdrop : (shownDigits m).drop (shownPoint m).toNat ≠ [] := by
          rw [Ne, List.drop_eq_nil_iff]
          exact hlong
        simp only [List.isEmpty_iff, hdrop, if_false, Option.elim_none, List.length_drop]
        omega
  · left
    rw [Option.elim_some, List.length_drop]
    split
    · rename_i hnegative
      have hneg := of_decide_eq_true hnegative
      dsimp only
      omega
    · rename_i hnegative
      have hpos : ¬shownPoint m - 1 < 0 := by simpa using hnegative
      dsimp only
      omega

/-- A double is read back as it is if it is shown with few digits near the point. -/
theorem short_ofMagnitude {m : Magnitude} (hm : m.val ≠ 0) (hdigits : (shownDigits m).length ≤ 15)
    (hlow : -7 ≤ shownPoint m) (hhigh : shownPoint m ≤ 14) : (ofMagnitude false m).Short := by
  have hplaces : shownPoint m - 15 ≤
      (ofMagnitude false m).shift - (ofMagnitude false m).fraction.length ∧
        ((ofMagnitude false m).shift - (ofMagnitude false m).fraction.length).natAbs ≤ 22 := by
    have hlength := List.length_pos_of_ne_nil (significant_shownDigits hm).nonempty
    rcases shift_ofMagnitude false hm with hshift | ⟨hshift, _⟩
    · omega
    · omega
  refine ⟨?_, hplaces.right⟩
  have hbound : (10 : ℚ) ^ (shownPoint m -
      ((ofMagnitude false m).shift - (ofMagnitude false m).fraction.length)) ≤ 10 ^ (15 : Int) := by
    apply zpow_le_zpow_right₀ (by norm_num)
    omega
  have hlt := (digits_lt_pow false hm).trans_le hbound
  have hnat : Text.ofDigits 10 ((ofMagnitude false m).whole ++ (ofMagnitude false m).fraction) <
      10 ^ 15 := by
    exact_mod_cast hlt
  exact hnat.trans (by decide)

/-- A double that is equal to a word is shown with few digits near the point. -/
theorem short_of_word {m : Magnitude} {k : Nat} (hk : m.toNat? = some k) (hword : k < UInt32.size) :
    (ofMagnitude false m).Short := by
  by_cases hm : m.val = 0
  · have hzero : m = Magnitude.zero := Fin.ext hm
    rw [hzero]
    decide +kernel
  have hpos : k ≠ 0 := by
    have hvalue := Magnitude.value_pos hm
    rw [(m.toNat?_eq_some_iff k).mp hk] at hvalue
    exact (Nat.cast_pos.mp hvalue).ne'
  rcases Magnitude.shortest_word .toEven hk hpos hword with ⟨hexponent, hshortest⟩
  have hten : (k : ℚ) < 10 ^ (10 : Int) := by
    exact_mod_cast Nat.lt_trans hword (by decide : UInt32.size < 10 ^ 10)
  have hdigits : (Text.digits (m.shortest .toEven).digits).length ≤ 10 := by
    apply (Text.digitsOf_digits _).length_le (by decide) (by decide)
    have hle : ((m.shortest .toEven).digits : ℚ) ≤ (m.shortest .toEven).value :=
      le_mul_of_one_le_right (Nat.cast_nonneg _) (one_le_zpow₀ (by norm_num) hexponent)
    rw [hshortest] at hle
    exact_mod_cast hle.trans_lt hten
  have hlength : (shownDigits m).length ≤ (Text.digits (m.shortest .toEven).digits).length := by
    rcases exists_trimmed_append (Text.digits (m.shortest .toEven).digits) with ⟨j, hj⟩
    rw [hj, List.length_append]
    exact Nat.le_add_right _ _
  have hpoint : shownPoint m =
      (m.shortest .toEven).exponent + (Text.digits (m.shortest .toEven).digits).length := rfl
  have hleading : shownPoint m - 1 < 10 := by
    have hlow := (shownPoint_bounds hm).left
    rw [hshortest] at hlow
    rw [← zpow_lt_zpow_iff_right₀ (by norm_num : (1 : ℚ) < 10)]
    exact hlow.trans_lt hten
  exact short_ofMagnitude hm (by omega) (by omega) (by omega)

end Json.Numeral

end DnsView
