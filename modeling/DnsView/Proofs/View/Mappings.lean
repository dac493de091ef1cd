import DnsView.View.Codec
import Mathlib.Tactic.Common

/-!
# What mappings hold

A mapping is known by the values of its keys: putting a key to a value changes this key alone, and
two mappings in which every key has the same value are the same.  Words of sixteen and thirty-two
bits are found again in the values that hold them.
-/

namespace DnsView

namespace Fields

theorem get?_place {lo : Option String} (key : String) (value : Value) (h : Above lo key)
    (k : String) : ∀ fields : Fields lo,
      (fields.place key value h).get? k = if key = k then some value else fields.get? k
  | .nil => rfl
  | .cons l v rest above => by
      rw [place]
      by_cases hbelow : key < l
      · simp [hbelow, get?]
      by_cases hsame : key = l
      · subst hsame
        by_cases hk : key = k
        · simp [get?, hk]
        · simp [get?, hk]
      · have hrec := @get?_place (some l) key value (lt_of_not_lt_of_ne hbelow hsame) k rest
        simp only [hbelow, hsame, dite_false, get?, hrec]
        by_cases hk : l = k
        · have hne : key ≠ k := fun heq => hsame (heq.trans hk.symm)
          simp [hk, hne]
        · simp [hk]

theorem get?_insert (fields : Mapping) (key : String) (value : Value) (k : String) :
    (fields.insert key value).get? k = if key = k then some value else fields.get? k :=
  @get?_place none key value trivial k fields

theorem get?_lower {lo : Option String} {bound : String} (h : Above lo bound) (k : String) :
    ∀ fields : Fields (some bound), (fields.lower h).get? k = fields.get? k
  | .nil => rfl
  | .cons .. => rfl

@[simp]
theorem get?_nil {lo : Option String} (k : String) : (nil : Fields lo).get? k = none :=
  rfl

/-!
## Mappings with the same content
-/

theorem above_of_get? {lo : Option String} {k : String} {v : Value} :
    ∀ {fields : Fields lo}, fields.get? k = some v → Above lo k
  | .cons l w rest above, h => by
      rw [get?] at h
      split at h
      · rename_i hsame
        exact hsame ▸ above
      · have hrest : l < k := above_of_get? h
        exact above.trans hrest

theorem get?_rest_eq_none {key : String} (rest : Fields (some key)) : rest.get? key = none := by
  cases h : rest.get? key with
  | none =>
      rfl
  | some v =>
      have hless : key < key := above_of_get? h
      exact absurd hless (String.lt_irrefl key)

theorem get?_eq_none_of_lt {k l : String} (h : k < l) (v : Value) (rest : Fields (some l))
    {lo : Option String} (above : Above lo l) : (cons l v rest above).get? k = none := by
  cases hget : (cons l v rest above).get? k with
  | none =>
      rfl
  | some w =>
      rw [get?] at hget
      split at hget
      · rename_i hsame
        exact absurd (hsame ▸ h) (String.lt_irrefl k)
      · have hless : l < k := above_of_get? hget
        exact absurd (String.lt_trans h hless) (String.lt_irrefl k)

theorem ext_get? {lo : Option String} : ∀ {f g : Fields lo}, (∀ k, f.get? k = g.get? k) → f = g
  | .nil, .nil, _ => rfl
  | .nil, .cons l w rest above, h => by
      have hkey := h l
      simp [get?] at hkey
  | .cons k v rest above, .nil, h => by
      have hkey := h k
      simp [get?] at hkey
  | .cons k v rest above, .cons l w rest' above', h => by
      have hkl := h k
      have hlk := h l
      have hkeys : k = l := by
        by_contra hne
        by_cases hless : k < l
        · rw [get?_eq_none_of_lt hless] at hkl
          simp [get?] at hkl
        · rw [get?_eq_none_of_lt (lt_of_not_lt_of_ne hless hne)] at hlk
          simp [get?] at hlk
      subst hkeys
      have hvalues : v = w := by
        simpa [get?] using hkl
      subst hvalues
      have hrest : rest = rest' := by
        apply ext_get?
        intro x
        by_cases hx : k = x
        · rw [← hx, get?_rest_eq_none, get?_rest_eq_none]
        · simpa [get?, hx] using h x
      rw [hrest]

theorem get?_erase {lo : Option String} (key k : String) : ∀ fields : Fields lo,
    (fields.erase key).get? k = if key = k then none else fields.get? k
  | .nil => by
      rw [erase, get?_nil, ite_self]
  | .cons l v rest above => by
      rw [erase]
      by_cases hkey : l = key
      · subst hkey
        rw [if_pos rfl, get?_lower, get?]
        by_cases hk : l = k
        · rw [if_pos hk, ← hk, get?_rest_eq_none]
        · rw [if_neg hk, if_neg hk]
      · rw [if_neg hkey, get?, get?, get?_erase key k rest]
        by_cases hk : l = k
        · have hne : key ≠ k := fun heq => hkey (hk.trans heq.symm)
          rw [if_pos hk, if_neg hne, if_pos hk]
        · rw [if_neg hk, if_neg hk]

theorem insert_insert (fields : Mapping) (key : String) (v w : Value) :
    (fields.insert key v).insert key w = fields.insert key w := by
  apply ext_get?
  intro k
  rw [get?_insert, get?_insert, get?_insert]
  split
  · rfl
  · rfl

theorem insert_comm (fields : Mapping) {k l : String} (h : k ≠ l) (v w : Value) :
    (fields.insert k v).insert l w = (fields.insert l w).insert k v := by
  apply ext_get?
  intro x
  rw [get?_insert, get?_insert, get?_insert, get?_insert]
  by_cases hl : l = x
  · have hk : k ≠ x := fun heq => h (heq.trans hl.symm)
    rw [if_pos hl, if_neg hk, if_pos hl]
  · rw [if_neg hl, if_neg hl]

def putAll {lo : Option String} (m : Mapping) : Fields lo → Mapping
  | .nil => m
  | .cons key value rest _ => (m.insert key value).putAll rest

theorem get?_putAll {lo : Option String} (k : String) : ∀ (m : Mapping) (fields : Fields lo),
    (m.putAll fields).get? k = (fields.get? k).or (m.get? k)
  | _, .nil => rfl
  | m, .cons key value rest above => by
      rw [putAll, get?_putAll k, get?_insert, get?]
      by_cases hk : key = k
      · subst hk
        simp [get?_rest_eq_none]
      · simp [hk]

theorem putAll_nil (m : Mapping) : putAll nil m = m := by
  apply ext_get?
  intro k
  rw [get?_putAll, get?_nil, Option.or_none]

/-!
## Properties of all values
-/

def All (p : Value → Prop) {lo : Option String} : Fields lo → Prop
  | .nil => True
  | .cons _ value rest _ => p value ∧ rest.All p

section All

variable {p : Value → Prop}

theorem All.place {lo : Option String} {key : String} {value : Value} {h : Above lo key}
    (hvalue : p value) : ∀ {fields : Fields lo}, fields.All p → (fields.place key value h).All p
  | .nil, _ => ⟨hvalue, trivial⟩
  | .cons k v rest above, hfields => by
      rw [Fields.place]
      split
      · exact ⟨hvalue, hfields⟩
      · split
        · exact ⟨hvalue, hfields.right⟩
        · exact ⟨hfields.left, All.place hvalue hfields.right⟩

theorem All.of_get? {lo : Option String} {key : String} {value : Value} :
    ∀ {fields : Fields lo}, fields.All p → fields.get? key = some value → p value
  | .cons k v rest _, hfields, hget => by
      rw [get?] at hget
      split at hget
      · cases hget
        exact hfields.left
      · exact All.of_get? hfields.right hget

theorem All.insert {fields : Mapping} (hfields : fields.All p) (key : String) {value : Value}
    (hvalue : p value) : (fields.insert key value).All p :=
  All.place hvalue hfields

theorem all_ofList {l : List (String × Value)} (h : ∀ field ∈ l, p field.2) :
    (ofList l).All p := by
  have hfold : ∀ fields : Mapping, fields.All p →
      (l.foldl (fun fields field => fields.insert field.1 field.2) fields).All p := by
    induction l with
    | nil =>
        exact fun _ hfields => hfields
    | cons field l ih =>
        intro fields hfields
        exact ih (fun f hf => h f (by simp [hf])) _ (hfields.insert _ (h field (by simp)))
  exact hfold .nil trivial

end All

/-!
## Required keys
-/

variable {fields : Mapping} {key : String}

theorem requireMapping_of_get? {m : Mapping} (h : fields.get? key = some (.mapping m)) :
    fields.requireMapping key = .ok m := by
  simp [requireMapping, require, h, Value.mapping?, bind, Except.bind, pure, Except.pure]

theorem requireText_of_get? {s : String} (h : fields.get? key = some (.text s)) :
    fields.requireText key = .ok s := by
  simp [requireText, require, h, Value.text?, bind, Except.bind, pure, Except.pure]

theorem requireUInt16_of_get? {v : Value} {n : UInt16} (h : fields.get? key = some v)
    (hv : v.uint16? = some n) : fields.requireUInt16 key = .ok n := by
  simp [requireUInt16, require, h, hv, bind, Except.bind, pure, Except.pure]

theorem requireUInt32_of_get? {v : Value} {n : UInt32} (h : fields.get? key = some v)
    (hv : v.uint32? = some n) : fields.requireUInt32 key = .ok n := by
  simp [requireUInt32, require, h, hv, bind, Except.bind, pure, Except.pure]

theorem textEntries_map_text (key : String) (l : List String) :
    textEntries key (l.map .text) = .ok l := by
  induction l with
  | nil =>
      rfl
  | cons s l ih =>
      simp [textEntries, Value.text?, ih, bind, Except.bind, pure, Except.pure]

theorem requireTexts_of_get? {l : List String}
    (h : fields.get? key = some (.list (l.map .text))) :
    fields.requireTexts key = .ok l := by
  simp [requireTexts, require, h, Value.list?, textEntries_map_text, bind, Except.bind, pure,
    Except.pure]

end Fields

/-!
## Words as values
-/

namespace Value

theorem toInt_ofInt_natCast {n : Nat} (h : n < UInt32.size) : (Int64.ofInt n).toInt = n := by
  have hsmall : n < 4294967296 := h
  apply Int64.toInt_ofInt_of_le
  · simp
  · simp
    omega

theorem integer?_ofUInt16 (n : UInt16) : (ofUInt16 n).integer? = some (n.toNat : Int) := by
  have hword : (Int64.ofInt n.toNat).toInt = n.toNat :=
    toInt_ofInt_natCast (Nat.lt_trans n.toNat_lt_size (by decide))
  simp only [ofUInt16, integer?, hword]

theorem integer?_ofUInt32 (n : UInt32) : (ofUInt32 n).integer? = some (n.toNat : Int) := by
  have hword : (Int64.ofInt n.toNat).toInt = n.toNat := toInt_ofInt_natCast n.toNat_lt_size
  simp only [ofUInt32, integer?, hword]

theorem uint16?_of_integer? {v : Value} {i : Int} (h : v.integer? = some i) (hi : 0 ≤ i)
    (hlt : i < UInt16.size) : v.uint16? = some (UInt16.ofNat i.toNat) := by
  simp only [uint16?, h, Option.bind_eq_bind, Option.bind_some, hi, hlt, and_self, if_true]

theorem uint32?_of_integer? {v : Value} {i : Int} (h : v.integer? = some i) (hi : 0 ≤ i)
    (hlt : i < UInt32.size) : v.uint32? = some (UInt32.ofNat i.toNat) := by
  simp only [uint32?, h, Option.bind_eq_bind, Option.bind_some, hi, hlt, and_self, if_true]

theorem uint16?_ofUInt16 (n : UInt16) : (ofUInt16 n).uint16? = some n := by
  have hlt : (n.toNat : Int) < UInt16.size := Int.ofNat_lt.mpr n.toNat_lt_size
  rw [uint16?_of_integer? (integer?_ofUInt16 n) (Int.natCast_nonneg _) hlt, Int.toNat_natCast,
    UInt16.ofNat_toNat]

theorem uint32?_ofUInt32 (n : UInt32) : (ofUInt32 n).uint32? = some n := by
  have hlt : (n.toNat : Int) < UInt32.size := Int.ofNat_lt.mpr n.toNat_lt_size
  rw [uint32?_of_integer? (integer?_ofUInt32 n) (Int.natCast_nonneg _) hlt, Int.toNat_natCast,
    UInt32.ofNat_toNat]

end Value

end DnsView
