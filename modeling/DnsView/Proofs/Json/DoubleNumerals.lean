import DnsView.Proofs.Json.Tokens
import DnsView.Proofs.Number.Intervals
import Mathlib.Data.List.TakeWhile

/-!
# Numerals of doubles

Finite doubles are written with the texts of certain numerals.  The value of such a numeral is the
shortest decimal of the magnitude, so different doubles have different numerals.  None of them is
the numeral of an integer, because each has a fraction or an exponent.
-/

namespace DnsView.Json.Numeral

/-!
## Significant digits

The digits that a double is written with begin with another one than zero, and the zeros at their
end are taken off.
-/

def trimmed (ds : List Nat) : List Nat := (ds.reverse.dropWhile (· = 0)).reverse

theorem dropWhile_map_digitChar {ds : List Nat} (hds : ∀ d ∈ ds, d < 10) :
    (ds.map Nat.digitChar).dropWhile (· = '0') = (ds.dropWhile (· = 0)).map Nat.digitChar := by
  induction ds with
  | nil =>
      rfl
  | cons d ds ih =>
      have hd : d < 10 := hds d (by simp)
      have hzero : d.digitChar = '0' ↔ d = 0 := by
        interval_cases d <;> decide
      rw [List.map_cons, List.dropWhile_cons, List.dropWhile_cons]
      simp only [hzero]
      split
      · exact ih fun e he => hds e (by simp [he])
      · rfl

theorem significant_map_digitChar {ds : List Nat} (hds : ∀ d ∈ ds, d < 10) :
    NumberFormat.significant (ds.map Nat.digitChar) = (trimmed ds).map Nat.digitChar := by
  rw [NumberFormat.significant, ← List.map_reverse, dropWhile_map_digitChar, trimmed,
    List.map_reverse]
  intro d hd
  exact hds d (List.mem_reverse.mp hd)

theorem exists_trimmed_append (ds : List Nat) :
    ∃ k, ds = trimmed ds ++ List.replicate k 0 := by
  refine ⟨(ds.reverse.takeWhile (· = 0)).length, ?_⟩
  have hzeros : ds.reverse.takeWhile (· = 0) =
      List.replicate (ds.reverse.takeWhile (· = 0)).length 0 := by
    apply List.eq_replicate_of_mem
    intro d hd
    simpa using List.mem_takeWhile_imp hd
  have hsplit := congrArg List.reverse (List.takeWhile_append_dropWhile (p := (· = 0))
    (l := ds.reverse))
  rw [List.reverse_append, List.reverse_reverse] at hsplit
  rw [trimmed, ← List.reverse_replicate, ← hzeros, hsplit]

structure Significant (ds : List Nat) : Prop where
  small : ∀ d ∈ ds, d < 10
  nonempty : ds ≠ []
  leading : ds.head? ≠ some 0

theorem significant_trimmed {n : Nat} (hn : n ≠ 0) : Significant (trimmed (Text.digits n)) := by
  have hdigits := Text.digitsOf_digits n
  rcases exists_trimmed_append (Text.digits n) with ⟨k, hk⟩
  have hhead : (Text.digits n).head? ≠ some 0 := by
    intro h
    have hvalue := hdigits.value
    rw [hdigits.leading h] at hvalue
    exact hn hvalue.symm
  have hnonempty : trimmed (Text.digits n) ≠ [] := by
    intro hnil
    rw [hnil, List.nil_append] at hk
    cases k with
    | zero =>
        exact hdigits.ne_nil hk
    | succ k =>
        rw [hk] at hhead
        exact hhead rfl
  refine ⟨?_, hnonempty, ?_⟩
  · intro d hd
    apply hdigits.small
    rw [hk]
    exact List.mem_append_left _ hd
  · rwa [hk, List.head?_append_of_ne_nil _ hnonempty] at hhead

/-!
## Doubles

A double has the numeral of its shortest decimal: the significant digits with the point among them
or around them, or with an exponent.
-/

def shownDigits (m : Magnitude) : List Nat :=
  trimmed (Text.digits (m.shortest .toEven).digits)

/-- How many of the digits of a magnitude stand before the point. -/
def shownPoint (m : Magnitude) : Int :=
  (m.shortest .toEven).exponent + (Text.digits (m.shortest .toEven).digits).length

theorem significant_shownDigits {m : Magnitude} (hm : m.val ≠ 0) : Significant (shownDigits m) := by
  apply significant_trimmed
  intro hzero
  have hpos := Magnitude.value_pos_of_reads (m.reads_shortest .toEven) hm
  rw [Decimal.value, hzero] at hpos
  simp at hpos

def positional (negative : Bool) (ds : List Nat) (point : Int) : Numeral :=
  if point ≤ 0 then ⟨negative, [0], List.replicate (-point).toNat 0 ++ ds, none⟩
  else
    ⟨negative, ds.take point.toNat ++ List.replicate (point.toNat - ds.length) 0,
      if (ds.drop point.toNat).isEmpty then [0] else ds.drop point.toNat, none⟩

def scientific (negative : Bool) (ds : List Nat) (exponent : Int) : Numeral :=
  ⟨negative, ds.take 1, ds.drop 1, some ⟨exponent < 0, exponent.natAbs⟩⟩

def ofMagnitude (negative : Bool) (m : Magnitude) : Numeral :=
  if m.val = 0 then ⟨negative, [0], [0], none⟩
  else if -5 ≤ shownPoint m - 1 ∧ shownPoint m - 1 < 16 then
    positional negative (shownDigits m) (shownPoint m)
  else scientific negative (shownDigits m) (shownPoint m - 1)

theorem proper_positional (negative : Bool) {ds : List Nat} (hds : Significant ds) (point : Int) :
    (positional negative ds point).Proper := by
  unfold positional
  split
  · refine ⟨by simp, by simp, by simp, ?_⟩
    intro d hd
    rcases List.mem_append.mp hd with hd | hd
    · rw [List.eq_of_mem_replicate hd]
      decide
    · exact hds.small d hd
  · rename_i hpoint
    cases ds with
    | nil =>
        exact absurd rfl hds.nonempty
    | cons e ds =>
        have hsucc : point.toNat = (point.toNat - 1) + 1 := by omega
        refine ⟨?_, ?_, ?_, ?_⟩
        · intro d hd
          rcases List.mem_append.mp hd with hd | hd
          · exact hds.small d (List.mem_of_mem_take hd)
          · rw [List.eq_of_mem_replicate hd]
            decide
        · rw [hsucc, List.take_succ_cons]
          simp
        · intro h
          rw [hsucc, List.take_succ_cons] at h
          exact absurd h hds.leading
        · intro d hd
          dsimp only at hd
          split at hd
          · rw [List.mem_singleton.mp hd]
            decide
          · exact hds.small d (List.mem_of_mem_drop hd)

theorem proper_scientific (negative : Bool) {ds : List Nat} (hds : Significant ds)
    (exponent : Int) : (scientific negative ds exponent).Proper := by
  cases ds with
  | nil =>
      exact absurd rfl hds.nonempty
  | cons e ds =>
      refine ⟨?_, by simp [scientific], by simp [scientific], ?_⟩
      · intro d hd
        exact hds.small d (List.mem_of_mem_take hd)
      · intro d hd
        exact hds.small d (List.mem_of_mem_drop hd)

theorem proper_ofMagnitude (negative : Bool) (m : Magnitude) : (ofMagnitude negative m).Proper := by
  unfold ofMagnitude
  split
  · exact ⟨by simp, by simp, by simp, by simp⟩
  · rename_i hm
    split
    · exact proper_positional negative (significant_shownDigits hm) _
    · exact proper_scientific negative (significant_shownDigits hm) _

theorem unsignedChars_positional (negative : Bool) {ds : List Nat} (hds : Significant ds)
    (point : Int) :
    (positional negative ds point).unsignedChars =
      NumberFormat.positional (ds.map Nat.digitChar) point := by
  have hzero : Nat.digitChar 0 = '0' := rfl
  unfold positional NumberFormat.positional
  split
  · have hnonempty := hds.nonempty
    simp [unsignedChars, hzero, hnonempty]
  · by_cases hrest : ds.drop point.toNat = []
    · simp [unsignedChars, hzero, hrest, ← List.map_take, ← List.map_drop]
    · simp [unsignedChars, hzero, hrest, ← List.map_take, ← List.map_drop]

theorem chars_exponent (exponent : Int) :
    Exponent.chars ⟨exponent < 0, exponent.natAbs⟩ =
      'e' :: ((if exponent < 0 then ['-'] else if numberFormat.exponentPlus then ['+'] else []) ++
        Text.decimal exponent.natAbs) := by
  have hplus : numberFormat.exponentPlus = true := rfl
  by_cases hexponent : exponent < 0
  · simp [Exponent.chars, hexponent]
  · simp [Exponent.chars, hexponent, hplus]

theorem unsignedChars_scientific (negative : Bool) {ds : List Nat} (hds : Significant ds)
    (exponent : Int) :
    (scientific negative ds exponent).unsignedChars =
      numberFormat.scientific (ds.map Nat.digitChar) exponent := by
  cases ds with
  | nil =>
      exact absurd rfl hds.nonempty
  | cons d ds =>
      cases ds with
      | nil =>
          simp [scientific, unsignedChars, NumberFormat.scientific, chars_exponent]
      | cons e ds =>
          simp [scientific, unsignedChars, NumberFormat.scientific, chars_exponent]

theorem unsignedChars_ofMagnitude (negative : Bool) (m : Magnitude) :
    (ofMagnitude negative m).unsignedChars = numberFormat.magnitude m := by
  by_cases hm : m.val = 0
  · simp only [ofMagnitude, NumberFormat.magnitude, hm, if_true]
    rfl
  · have hsmall := (Text.digitsOf_digits (m.shortest .toEven).digits).small
    have hdigits : NumberFormat.significant (Text.decimal (m.shortest numberFormat.tie).digits) =
        (shownDigits m).map Nat.digitChar := by
      have htie : numberFormat.tie = .toEven := rfl
      rw [htie, Text.decimal_eq_map_digits, significant_map_digitChar hsmall]
      rfl
    have hpoint : (m.shortest numberFormat.tie).exponent +
        (Text.decimal (m.shortest numberFormat.tie).digits).length = shownPoint m := by
      rw [Text.decimal_eq_map_digits, List.length_map]
      rfl
    simp only [ofMagnitude, NumberFormat.magnitude, hm, if_false, hdigits, hpoint]
    have hplain : numberFormat.plainFrom = -5 ∧ numberFormat.plainBelow = 16 := ⟨rfl, rfl⟩
    rw [hplain.left, hplain.right]
    split
    · exact unsignedChars_positional negative (significant_shownDigits hm) _
    · exact unsignedChars_scientific negative (significant_shownDigits hm) _

theorem negative_ofMagnitude (negative : Bool) (m : Magnitude) :
    (ofMagnitude negative m).negative = negative := by
  unfold ofMagnitude positional scientific
  split
  · rfl
  · split
    · split
      · rfl
      · rfl
    · rfl

/-- A finite double is written with the text of its numeral. -/
theorem chars_ofMagnitude (negative : Bool) (m : Magnitude) :
    (ofMagnitude negative m).chars = numberFormat.text (.finite negative m) := by
  rw [chars, negative_ofMagnitude, unsignedChars_ofMagnitude, NumberFormat.text]

/-!
## Values
-/

def value (x : Numeral) : ℚ :=
  Text.ofDigits 10 (x.whole ++ x.fraction) *
    10 ^ (x.exponent.elim 0 (fun e => if e.negative then -(e.size : Int) else e.size) -
      x.fraction.length)

theorem value_positional (negative : Bool) (ds : List Nat) (point : Int) :
    (positional negative ds point).value = Text.ofDigits 10 ds * 10 ^ (point - ds.length) := by
  unfold positional
  split
  · rename_i hpoint
    have hshift : (0 : Int) - (List.replicate (-point).toNat 0 ++ ds).length =
        point - ds.length := by
      rw [List.length_append, List.length_replicate]
      omega
    have hdigits : Text.ofDigits 10 ([0] ++ (List.replicate (-point).toNat 0 ++ ds)) =
        Text.ofDigits 10 ds := by
      rw [Text.ofDigits_append, Text.ofDigits_append, Text.ofDigits_replicate_zero]
      simp [Text.ofDigits]
    simp only [value, Option.elim_none, hshift, hdigits]
  · rename_i hpoint
    by_cases hlong : ds.length ≤ point.toNat
    · have htake : ds.take point.toNat = ds := List.take_of_length_le hlong
      have hdrop : ds.drop point.toNat = [] := List.drop_of_length_le hlong
      have hdigits : Text.ofDigits 10
          (ds ++ List.replicate (point.toNat - ds.length) 0 ++ [0]) =
            Text.ofDigits 10 ds * 10 ^ (point.toNat - ds.length + 1) := by
        rw [List.append_assoc, ← List.replicate_succ', Text.ofDigits_append,
          Text.ofDigits_replicate_zero, List.length_replicate, Nat.add_zero]
      have hshift : (10 : ℚ) ^ (point - ds.length) =
          10 ^ (point.toNat - ds.length + 1) * 10 ^ ((0 : Int) - (1 : ℕ)) := by
        rw [← zpow_natCast, ← zpow_add₀ (by norm_num)]
        congr 1
        omega
      simp only [value, Option.elim_none, htake, hdrop, List.isEmpty_nil, if_true, hdigits,
        List.length_singleton, hshift]
      push_cast
      ring
    · have hreplicate : point.toNat - ds.length = 0 := by omega
      have hdrop : ds.drop point.toNat ≠ [] := by
        rw [Ne, List.drop_eq_nil_iff]
        exact hlong
      have hshift : (0 : Int) - (ds.drop point.toNat).length = point - ds.length := by
        rw [List.length_drop]
        omega
      simp only [value, Option.elim_none, hreplicate, List.replicate_zero, List.append_nil,
        List.isEmpty_iff, hdrop, if_false, List.take_append_drop, hshift]

theorem value_scientific (negative : Bool) {ds : List Nat} (hds : ds ≠ []) (exponent : Int) :
    (scientific negative ds exponent).value =
      Text.ofDigits 10 ds * 10 ^ (exponent + 1 - ds.length) := by
  have hlength := List.length_pos_of_ne_nil hds
  have hsize : (if (decide (exponent < 0)) = true then -(exponent.natAbs : Int)
      else exponent.natAbs) = exponent := by
    split
    · rename_i h
      have hneg := of_decide_eq_true h
      omega
    · rename_i h
      have hpos : ¬exponent < 0 := by simpa using h
      omega
  have hshift : exponent - (ds.drop 1).length = exponent + 1 - ds.length := by
    rw [List.length_drop]
    omega
  simp only [value, scientific, List.take_append_drop, Option.elim_some, hsize, hshift]

theorem value_shown (m : Magnitude) :
    (Text.ofDigits 10 (shownDigits m) : ℚ) * 10 ^ (shownPoint m - (shownDigits m).length) =
      (m.shortest .toEven).value := by
  rcases exists_trimmed_append (Text.digits (m.shortest .toEven).digits) with ⟨k, hk⟩
  have hlength : (Text.digits (m.shortest .toEven).digits).length = (shownDigits m).length + k := by
    conv_lhs => rw [hk]
    rw [List.length_append, List.length_replicate]
    rfl
  have hdigits : (m.shortest .toEven).digits = Text.ofDigits 10 (shownDigits m) * 10 ^ k := by
    conv_lhs => rw [← (Text.digitsOf_digits (m.shortest .toEven).digits).value, hk]
    rw [Text.ofDigits_append, Text.ofDigits_replicate_zero, List.length_replicate]
    rfl
  have hshift : shownPoint m - (shownDigits m).length = k + (m.shortest .toEven).exponent := by
    rw [shownPoint, hlength]
    omega
  rw [hshift, zpow_add₀ (by norm_num), zpow_natCast, Decimal.value]
  conv_rhs => rw [hdigits]
  push_cast
  ring

/-- The value of the numeral of a double is the shortest decimal of its magnitude. -/
theorem value_ofMagnitude (negative : Bool) {m : Magnitude} (hm : m.val ≠ 0) :
    (ofMagnitude negative m).value = (m.shortest .toEven).value := by
  unfold ofMagnitude
  rw [if_neg hm]
  split
  · rw [value_positional, value_shown]
  · rw [value_scientific negative (significant_shownDigits hm).nonempty, sub_add_cancel,
      value_shown]

theorem value_ofMagnitude_zero (negative : Bool) {m : Magnitude} (hm : m.val = 0) :
    (ofMagnitude negative m).value = 0 := by
  unfold ofMagnitude
  rw [if_pos hm]
  simp [value, Text.ofDigits]

theorem value_ofMagnitude_pos (negative : Bool) {m : Magnitude} (hm : m.val ≠ 0) :
    0 < (ofMagnitude negative m).value := by
  rw [value_ofMagnitude negative hm]
  exact Magnitude.value_pos_of_reads (m.reads_shortest .toEven) hm

/-!
## Different numbers
-/

theorem ofMagnitude_injective {negative negative' : Bool} {m n : Magnitude}
    (h : ofMagnitude negative m = ofMagnitude negative' n) : negative = negative' ∧ m = n := by
  have hsign := congrArg Numeral.negative h
  rw [negative_ofMagnitude, negative_ofMagnitude] at hsign
  have hvalue := congrArg value h
  refine ⟨hsign, ?_⟩
  by_cases hm : m.val = 0
  · by_cases hn : n.val = 0
    · exact Fin.ext (hm.trans hn.symm)
    · rw [value_ofMagnitude_zero negative hm] at hvalue
      exact absurd hvalue (value_ofMagnitude_pos negative' hn).ne
  · by_cases hn : n.val = 0
    · rw [value_ofMagnitude_zero negative' hn] at hvalue
      exact absurd hvalue (value_ofMagnitude_pos negative hm).ne'
    · rw [value_ofMagnitude negative hm, value_ofMagnitude negative' hn] at hvalue
      exact Magnitude.shortest_injective hvalue

theorem exponent_ofMagnitude_ne_none {negative : Bool} {m : Magnitude}
    (hfraction : (ofMagnitude negative m).fraction = []) :
    (ofMagnitude negative m).exponent ≠ none := by
  intro hexponent
  unfold ofMagnitude at hfraction hexponent
  by_cases hm : m.val = 0
  · rw [if_pos hm] at hfraction
    cases hfraction
  · rw [if_neg hm] at hfraction hexponent
    split at hexponent
    · rename_i hplain
      rw [if_pos hplain] at hfraction
      unfold positional at hfraction
      have hnonempty := (significant_shownDigits hm).nonempty
      split at hfraction
      · exact hnonempty (List.append_eq_nil_iff.mp hfraction).right
      · dsimp only at hfraction
        split at hfraction
        · cases hfraction
        · rename_i hrest
          exact hrest (List.isEmpty_iff.mpr hfraction)
    · cases hexponent

theorem ofMagnitude_ne_ofInt (negative : Bool) (m : Magnitude) (n : Int) :
    ofMagnitude negative m ≠ ofInt n := by
  intro h
  have hfraction : (ofMagnitude negative m).fraction = [] := congrArg Numeral.fraction h
  exact exponent_ofMagnitude_ne_none hfraction (congrArg Numeral.exponent h)

end DnsView.Json.Numeral

/-!
## Characters
-/

namespace DnsView.Json

def bareChars : List Char :=
  ['+', '-', '.', '0', '1', '2', '3', '4', '5', '6', '7', '8', '9', 'a', 'e', 'f', 'l', 'n', 'r',
    's', 't', 'u']

theorem digits_subset_bareChars {ds : List Nat} (hds : ∀ d ∈ ds, d < 10) :
    ds.map Nat.digitChar ⊆ bareChars := by
  intro c hc
  rcases List.mem_map.mp hc with ⟨d, hd, rfl⟩
  have hsmall := hds d hd
  interval_cases d <;> decide

theorem Exponent.chars_subset (e : Exponent) : e.chars ⊆ bareChars := by
  have hdigits := digits_subset_bareChars (Text.digitsOf_digits e.size).small
  rw [Exponent.chars, Text.decimal_eq_map_digits]
  apply List.cons_subset.mpr
  constructor
  · decide
  · apply List.cons_subset.mpr
    constructor
    · cases e.negative with
      | true =>
          decide
      | false =>
          decide
    · exact hdigits

theorem Numeral.Proper.chars_subset {x : Numeral} (hx : x.Proper) : x.chars ⊆ bareChars := by
  have hsign : (if x.negative then ['-'] else []) ⊆ bareChars := by
    cases x.negative with
    | true =>
        decide
    | false =>
        decide
  have hfraction :
      (if x.fraction.isEmpty then [] else '.' :: x.fraction.map Nat.digitChar) ⊆ bareChars := by
    split
    · exact List.nil_subset _
    · exact List.cons_subset.mpr ⟨by decide, digits_subset_bareChars hx.fractionSmall⟩
  have hexponent : x.exponent.elim [] Exponent.chars ⊆ bareChars := by
    cases x.exponent with
    | none =>
        exact List.nil_subset _
    | some e =>
        exact e.chars_subset
  rw [chars, unsignedChars]
  apply List.append_subset.mpr
  constructor
  · exact hsign
  · apply List.append_subset.mpr
    constructor
    · exact List.append_subset.mpr ⟨digits_subset_bareChars hx.wholeSmall, hfraction⟩
    · exact hexponent

theorem integer_subset_bareChars (n : Int) : Text.decimalInt n ⊆ bareChars := by
  rw [← Numeral.chars_ofInt]
  exact (Numeral.proper_ofInt n).chars_subset

theorem float_subset_bareChars (x : Binary64) : numberFormat.text x ⊆ bareChars := by
  cases x with
  | finite negative m =>
      rw [← Numeral.chars_ofMagnitude]
      exact (Numeral.proper_ofMagnitude negative m).chars_subset
  | infinite negative =>
      cases negative with
      | true =>
          decide
      | false =>
          decide
  | nan =>
      decide

end DnsView.Json
