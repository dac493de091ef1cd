import DnsView.Message.Basic
import Mathlib.Tactic.Common

/-!
# Codes and names

Codes and names are read back from their numbers and texts, and the texts that are written for names
are told from those that are only read.
-/

/-!
## Codes read back

A type or class has one number, and reading the number gives the type or class back unless it is an
assigned number that was kept as an unknown one.
-/

namespace DnsView

namespace RecordType

/-- The type with an assigned number in place of the number itself. -/
def normal : RecordType → RecordType
  | unknown code => ofCode code
  | t => t

theorem ofCode_code (t : RecordType) : ofCode t.code = t.normal := by
  cases t <;> rfl

theorem code_ofCode (c : UInt16) : (ofCode c).code = c := by
  unfold ofCode
  split <;> rfl

theorem normal_ofCode (c : UInt16) : (ofCode c).normal = ofCode c := by
  rw [← ofCode_code, code_ofCode]

theorem code_normal (t : RecordType) : t.normal.code = t.code := by
  rw [← ofCode_code, code_ofCode]

theorem normal_eq_iff (t : RecordType) : t.normal = t ↔ ∃ n, t = ofCode n := by
  constructor
  · intro h
    exact ⟨t.code, by rw [ofCode_code, h]⟩
  · rintro ⟨n, rfl⟩
    exact normal_ofCode n

end RecordType

namespace RecordClass

def normal : RecordClass → RecordClass
  | unknown code => ofCode code
  | c => c

theorem ofCode_code (c : RecordClass) : ofCode c.code = c.normal := by
  cases c <;> rfl

theorem code_ofCode (c : UInt16) : (ofCode c).code = c := by
  unfold ofCode
  split <;> rfl

theorem normal_ofCode (c : UInt16) : (ofCode c).normal = ofCode c := by
  rw [← ofCode_code, code_ofCode]

theorem code_normal (c : RecordClass) : c.normal.code = c.code := by
  rw [← ofCode_code, code_ofCode]

theorem normal_eq_iff (c : RecordClass) : c.normal = c ↔ ∃ n, c = ofCode n := by
  constructor
  · intro h
    exact ⟨c.code, by rw [ofCode_code, h]⟩
  · rintro ⟨n, rfl⟩
    exact normal_ofCode n

end RecordClass

end DnsView

/-!
## Names read back from their texts

The scanner undoes the escapes of one label at a time, so it takes apart what was joined.  Only two
lists of labels share a text: the root is written as a lone point, and so is the list of two empty
labels.  Reading gives the root there and every other list as it was.
-/

namespace DnsView.Name

/-!
### Scanning escaped labels
-/

theorem split_cons_plain {c : Char} (hpoint : c ≠ '.') (hslash : c ≠ '\\') (cs : List Char) :
    split (c :: cs) = (c :: (split cs).1, (split cs).2) := by
  rw [split.eq_def]
  split
  · rename_i heq
    cases heq
  · rename_i heq
    cases heq
    exact absurd rfl hslash
  · rename_i heq
    cases heq
    exact absurd rfl hslash
  · rename_i heq
    cases heq
    simp [hpoint]

theorem split_point (cs : List Char) :
    split ('.' :: cs) = ([], (split cs).1 :: (split cs).2) := by
  simp [split]

theorem escaped_cons_special {c : Char} (h : c = '.' ∨ c = '\\') (label rest : List Char) :
    escaped (c :: label) ++ rest = '\\' :: c :: (escaped label ++ rest) := by
  simp [escaped, h]

theorem escaped_cons_plain {c : Char} (h : ¬(c = '.' ∨ c = '\\')) (label rest : List Char) :
    escaped (c :: label) ++ rest = c :: (escaped label ++ rest) := by
  simp [escaped, h]

theorem split_escaped_append (label rest : List Char) :
    split (escaped label ++ rest) = (label ++ (split rest).1, (split rest).2) := by
  induction label with
  | nil =>
      rfl
  | cons c label ih =>
      by_cases hspecial : c = '.' ∨ c = '\\'
      · rw [escaped_cons_special hspecial, split, ih]
        rfl
      · rw [escaped_cons_plain hspecial, split_cons_plain (fun h => hspecial (.inl h))
          (fun h => hspecial (.inr h)), ih]
        rfl

theorem split_joined (label : List Char) (labels : List (List Char)) :
    split (joined (label :: labels)) = (label, labels) := by
  induction labels generalizing label with
  | nil =>
      simpa [joined, split] using split_escaped_append label []
  | cons next labels ih =>
      rw [joined, split_escaped_append, split_point, ih]
      · simp
      · intro h
        cases h

/-!
### The text of a name
-/

/-- The labels that are read back: two empty labels have the text of the root. -/
def normal (n : Name) : Name :=
  if n.labels = ["", ""] then ⟨[""]⟩ else n

theorem ofString_of_ne {s : String} (hempty : s ≠ "") (hroot : s ≠ ".") :
    ofString s = ⟨((split s.toList).1 :: (split s.toList).2).map String.ofList⟩ := by
  simp [ofString, hempty, hroot]

theorem ofString_ofList_joined {label : List Char} {labels : List (List Char)}
    (hempty : label :: labels ≠ [[]]) (hroot : label :: labels ≠ [[], []]) :
    ofString (String.ofList (joined (label :: labels))) =
      ⟨(label :: labels).map String.ofList⟩ := by
  have hsplit := split_joined label labels
  have hneEmpty : joined (label :: labels) ≠ [] := by
    intro h
    rw [h] at hsplit
    cases hsplit
    exact hempty rfl
  have hneRoot : joined (label :: labels) ≠ ['.'] := by
    intro h
    rw [h] at hsplit
    cases hsplit
    exact hroot rfl
  rw [ofString_of_ne, String.toList_ofList, hsplit]
  · intro h
    apply hneEmpty
    simpa using congrArg String.toList h
  · intro h
    apply hneRoot
    simpa using congrArg String.toList h

theorem ofString_text (n : Name) : ofString n.text = n.normal := by
  rcases n with ⟨labels⟩
  by_cases hroot : labels = [""]
  · subst hroot
    rfl
  by_cases htwo : labels = ["", ""]
  · subst htwo
    rfl
  simp only [text, normal, hroot, htwo, if_false]
  cases labels with
  | nil =>
      rfl
  | cons label labels =>
      have hback : ((label :: labels).map String.toList).map String.ofList = label :: labels := by
        simp
      rw [List.map_cons, ofString_ofList_joined, ← List.map_cons, hback]
      · intro h
        apply hroot
        simpa using congrArg (List.map String.ofList) h
      · intro h
        apply htwo
        simpa using congrArg (List.map String.ofList) h

/-!
### Names that were read
-/

theorem eq_nil_of_split {cs : List Char} (h : split cs = ([], [])) : cs = [] := by
  cases cs with
  | nil =>
      rfl
  | cons c cs =>
      exfalso
      by_cases hslash : c = '\\'
      · subst hslash
        cases cs with
        | nil =>
            simp [split] at h
        | cons d cs =>
            simp [split] at h
      by_cases hpoint : c = '.'
      · subst hpoint
        rw [split_point] at h
        cases h
      · rw [split_cons_plain hpoint hslash] at h
        cases h

theorem eq_point_of_split {cs : List Char} (h : split cs = ([], [[]])) : cs = ['.'] := by
  cases cs with
  | nil =>
      cases h
  | cons c cs =>
      by_cases hpoint : c = '.'
      · subst hpoint
        rw [split_point] at h
        have hrest : split cs = ([], []) := by
          injection h with _ hlabels
          injection hlabels with hfirst hothers
          exact Prod.ext hfirst hothers
        rw [eq_nil_of_split hrest]
      · exfalso
        by_cases hslash : c = '\\'
        · subst hslash
          cases cs with
          | nil =>
              simp [split] at h
          | cons d cs =>
              simp [split] at h
        · rw [split_cons_plain hpoint hslash] at h
          cases h

theorem map_ofList_eq_iff (labels labels' : List (List Char)) :
    labels.map String.ofList = labels'.map String.ofList ↔ labels = labels' :=
  List.map_inj_right fun _ _ => String.ofList_inj.mp

/-- No text is read as two empty labels: their own text is read as the root. -/
theorem labels_ofString_ne (s : String) : (ofString s).labels ≠ ["", ""] := by
  intro h
  by_cases hempty : s = ""
  · simp [ofString, hempty] at h
  by_cases hroot : s = "."
  · simp [ofString, hroot] at h
  rw [ofString_of_ne hempty hroot] at h
  have hlists := (map_ofList_eq_iff _ [[], []]).mp h
  injection hlists with hfirst hothers
  have hpoint : s.toList = ['.'] := eq_point_of_split (Prod.ext hfirst hothers)
  exact hroot (String.toList_inj.mp hpoint)

theorem normal_of_ne {n : Name} (h : n.labels ≠ ["", ""]) : n.normal = n := by
  simp [normal, h]

theorem normal_ofString (s : String) : (ofString s).normal = ofString s :=
  normal_of_ne (labels_ofString_ne s)

/-!
### Names with the same text
-/

theorem normal_eq_iff (n : Name) : n.normal = n ↔ n.labels ≠ ["", ""] := by
  constructor
  · intro h
    rw [← h, ← ofString_text]
    exact labels_ofString_ne n.text
  · exact normal_of_ne

theorem text_normal (n : Name) : n.normal.text = n.text := by
  by_cases htwo : n.labels = ["", ""]
  · rcases n with ⟨labels⟩
    cases htwo
    rfl
  · rw [normal_of_ne htwo]

/-- A text stands for the names that are read back alike. -/
theorem text_eq_iff_normal (m n : Name) : m.text = n.text ↔ m.normal = n.normal := by
  constructor
  · intro h
    rw [← ofString_text m, h, ofString_text]
  · intro h
    rw [← text_normal m, h, text_normal]

theorem normal_eq_normal_iff (m n : Name) :
    m.normal = n.normal ↔
      m = n ∨ m = ⟨[""]⟩ ∧ n = ⟨["", ""]⟩ ∨ m = ⟨["", ""]⟩ ∧ n = ⟨[""]⟩ := by
  rcases m with ⟨labels⟩
  rcases n with ⟨others⟩
  by_cases hm : labels = ["", ""]
  · by_cases hn : others = ["", ""]
    · simp [hm, hn]
    · rw [normal_of_ne hn]
      simp [normal, hm, hn, eq_comm]
  · by_cases hn : others = ["", ""]
    · rw [normal_of_ne hm]
      simp [normal, hm, hn]
    · rw [normal_of_ne hm, normal_of_ne hn]
      simp [hm, hn]

/--
Reading undoes writing for every list of labels but that of two empty ones, which is read as the
root.  So names are told apart by their texts, but for these two.
-/
theorem ofString_text_eq_iff :
    (∀ n : Name, ofString n.text = n ↔ n.labels ≠ ["", ""]) ∧
      ofString (text ⟨["", ""]⟩) = ⟨[""]⟩ ∧
      ∀ m n : Name, m.text = n.text ↔
        m = n ∨ m = ⟨[""]⟩ ∧ n = ⟨["", ""]⟩ ∨ m = ⟨["", ""]⟩ ∧ n = ⟨[""]⟩ := by
  refine ⟨?_, ?_, ?_⟩
  · intro n
    rw [ofString_text, normal_eq_iff]
  · exact ofString_text ⟨["", ""]⟩
  · intro m n
    rw [text_eq_iff_normal, normal_eq_normal_iff]

/-!
## Spellings of names

A name may be spelled in many ways, since any character may be escaped and a backslash at the end
stands for itself.  One of the spellings is written.  It has a backslash only in front of a point or
of another backslash, and this is how it is told from the others without reading it.
-/

/-!
### Canonical spellings
-/

/--
A spelling in which each backslash, taken together with the character after it, escapes a point or a
backslash.
-/
inductive Canonical : List Char → Prop where
  | nil : Canonical []
  | plain {c : Char} {cs : List Char} (hc : c ≠ '\\') (hcs : Canonical cs) : Canonical (c :: cs)
  | escape {c : Char} {cs : List Char} (hc : c = '.' ∨ c = '\\') (hcs : Canonical cs) :
      Canonical ('\\' :: c :: cs)

theorem canonical_escaped_append (label : List Char) {rest : List Char} (hrest : Canonical rest) :
    Canonical (escaped label ++ rest) := by
  induction label with
  | nil =>
      exact hrest
  | cons c label ih =>
      by_cases hspecial : c = '.' ∨ c = '\\'
      · rw [escaped_cons_special hspecial]
        exact .escape hspecial ih
      · rw [escaped_cons_plain hspecial]
        exact .plain (fun hslash => hspecial (.inr hslash)) ih

theorem canonical_joined (labels : List (List Char)) : Canonical (joined labels) := by
  induction labels with
  | nil =>
      exact .nil
  | cons label labels ih =>
      cases labels with
      | nil =>
          rw [joined, ← List.append_nil (escaped label)]
          exact canonical_escaped_append label .nil
      | cons next labels =>
          rw [joined]
          · exact canonical_escaped_append label (.plain (by decide) ih)
          · intro h
            cases h

/-!
### Writing what was read
-/

theorem joined_cons (c : Char) (label : List Char) (labels : List (List Char)) :
    joined ((c :: label) :: labels) = escaped [c] ++ joined (label :: labels) := by
  cases labels with
  | nil =>
      simp [joined, escaped]
  | cons next labels =>
      simp [joined, escaped]

theorem joined_nil_cons (label : List Char) (labels : List (List Char)) :
    joined ([] :: label :: labels) = '.' :: joined (label :: labels) := by
  simp [joined, escaped]

theorem joined_split {cs : List Char} (h : Canonical cs) :
    joined ((split cs).1 :: (split cs).2) = cs := by
  induction h with
  | nil =>
      rfl
  | @plain c cs hc _ ih =>
      by_cases hpoint : c = '.'
      · subst hpoint
        rw [split_point, joined_nil_cons, ih]
      · rw [split_cons_plain hpoint hc, joined_cons, ih]
        simp [escaped, hpoint, hc]
  | @escape c cs hc _ ih =>
      rw [split, joined_cons, ih]
      simp [escaped, hc]

theorem joined_split_eq_iff (cs : List Char) :
    joined ((split cs).1 :: (split cs).2) = cs ↔ Canonical cs := by
  constructor
  · intro h
    rw [← h]
    exact canonical_joined _
  · exact joined_split

instance (cs : List Char) : Decidable (Canonical cs) :=
  decidable_of_iff _ (joined_split_eq_iff cs)

theorem text_ofString (s : String) :
    (ofString s).text = String.ofList (joined ((split s.toList).1 :: (split s.toList).2)) := by
  by_cases hempty : s = ""
  · subst hempty
    rfl
  by_cases hroot : s = "."
  · subst hroot
    rfl
  have hlabels : ((split s.toList).1 :: (split s.toList).2).map String.ofList ≠ [""] := by
    intro h
    have hlists := (map_ofList_eq_iff _ [[]]).mp h
    injection hlists with hfirst hothers
    have hnil : s.toList = [] := eq_nil_of_split (Prod.ext hfirst hothers)
    exact hempty (String.toList_inj.mp hnil)
  rw [ofString_of_ne hempty hroot, text, if_neg hlabels, List.map_map]
  simp [Function.comp_def]

theorem text_ofString_of_canonical {s : String} (h : Canonical s.toList) :
    (ofString s).text = s := by
  rw [text_ofString, joined_split h, String.ofList_toList]

theorem canonical_text (n : Name) : Canonical n.text.toList := by
  rw [text]
  split
  · decide
  · rw [String.toList_ofList]
    exact canonical_joined _

/--
What is read is never the list of two empty labels and is read again from its own text.  This text
is the one that was read exactly if every backslash there, scanned in pairs from the left, escapes a
point or another backslash.
-/
theorem text_ofString_eq_iff (s : String) :
    (ofString s).labels ≠ ["", ""] ∧ ofString (ofString s).text = ofString s ∧
      ((ofString s).text = s ↔ Canonical s.toList) := by
  refine ⟨labels_ofString_ne s, ?_, ?_, text_ofString_of_canonical⟩
  · rw [ofString_text, normal_ofString]
  · intro h
    rw [← h]
    exact canonical_text (ofString s)

end DnsView.Name
