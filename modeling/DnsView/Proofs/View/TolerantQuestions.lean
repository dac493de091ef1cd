import DnsView.Proofs.Message.Names
import DnsView.Proofs.View.MessageRoundTrip
import DnsView.Proofs.View.RecordKeys

/-!
# Tolerant reading of questions

Every mapping is read as a question.  Each part has a key of its own and a value that stands in if
the key is missing or holds something else, so no mapping is refused and no part spoils another.
Reading a mapping and showing it again brings it into one form, and the mappings in this form are
told from the others without reading them.
-/

namespace DnsView

/-!
## Questions and their mappings

A mapping is brought into one form by reading it as a question and showing the question.
-/

def Question.keys : List String := ["Name", "Qtype", "Qclass"]

namespace Fields

def asQuestion (fields : Mapping) : Mapping :=
  (Question.ofMapping fields).toMapping

/--
The mapping has the keys of a question and no others, its name has backslashes only before points
and backslashes, and its codes are integers, not doubles, of sixteen bits.
-/
structure IsCanonicalQuestion (fields : Mapping) : Prop where
  keys : ∀ key, fields.get? key ≠ none ↔ key ∈ Question.keys
  name : ∃ s, fields.get? "Name" = some (.text s) ∧ Name.Canonical s.toList
  qtype : ∃ n : Int64, fields.get? "Qtype" = some (.integer n) ∧ 0 ≤ n.toInt ∧ n.toInt ≤ 65535
  qclass : ∃ n : Int64, fields.get? "Qclass" = some (.integer n) ∧ 0 ≤ n.toInt ∧ n.toInt ≤ 65535

end Fields

/-!
## Parts of questions

The name and the codes are read from a key each.  Where the key is missing or holds something else,
the name is empty and the code is zero.
-/

inductive Fields.GivesName (fields : Mapping) : Name → Prop where
  | text {s : String} (h : fields.get? "Name" = some (.text s)) : GivesName fields (.ofString s)
  | other (h : ¬fields.Has "Name" .text) : GivesName fields ⟨[]⟩

inductive Fields.GivesCode (fields : Mapping) (key : String) : UInt16 → Prop where
  | integer {v : Value} {n : UInt16} (h : fields.get? key = some v) (hv : v.IsInteger n.toNat) :
      GivesCode fields key n
  | other (h : ¬fields.Has key (.unsigned 16)) : GivesCode fields key 0

structure Question.ReadsFrom (q : Question) (fields : Mapping) : Prop where
  name : fields.GivesName q.name
  qtype : ∃ n, fields.GivesCode "Qtype" n ∧ q.qtype = .ofCode n
  qclass : ∃ n, fields.GivesCode "Qclass" n ∧ q.qclass = .ofCode n

namespace Fields

variable {fields : Mapping} {key : String}

theorem textD_of_get? {s : String} (h : fields.get? key = some (.text s)) :
    fields.textD key = s := by
  rw [textD, h]
  rfl

theorem textD_of_not_has (h : ¬fields.Has key .text) : fields.textD key = "" := by
  rw [textD]
  cases hread : (fields.get? key).bind Value.text? with
  | none =>
      rfl
  | some s =>
      rcases Option.bind_eq_some_iff.mp hread with ⟨v, hget, hv⟩
      exact absurd ⟨v, hget, (ValueShape.accepts_text_iff v).mpr ⟨s, hv⟩⟩ h

theorem uint16D_of_get? {v : Value} {n : UInt16} (h : fields.get? key = some v)
    (hv : v.IsInteger n.toNat) : fields.uint16D key = n := by
  rw [uint16D, h, Option.bind_some, (v.uint16?_eq_some_iff n).mpr hv, Option.getD_some]

theorem uint16D_of_not_has (h : ¬fields.Has key (.unsigned 16)) : fields.uint16D key = 0 := by
  rw [uint16D]
  cases hread : (fields.get? key).bind Value.uint16? with
  | none =>
      rfl
  | some n =>
      rcases Option.bind_eq_some_iff.mp hread with ⟨v, hget, hv⟩
      exact absurd ⟨v, hget, (ValueShape.accepts_unsigned16_iff v).mpr ⟨n, hv⟩⟩ h

theorem ofString_textD_eq_iff {name : Name} :
    .ofString (fields.textD "Name") = name ↔ fields.GivesName name := by
  constructor
  · rintro rfl
    by_cases hhas : fields.Has "Name" .text
    · rcases hhas with ⟨v, hget, s, rfl⟩
      rw [textD_of_get? hget]
      exact .text hget
    · rw [textD_of_not_has hhas]
      exact .other hhas
  · intro h
    cases h with
    | text hget =>
        rw [textD_of_get? hget]
    | other hhas =>
        rw [textD_of_not_has hhas]
        rfl

theorem uint16D_eq_iff {n : UInt16} : fields.uint16D key = n ↔ fields.GivesCode key n := by
  constructor
  · rintro rfl
    by_cases hhas : fields.Has key (.unsigned 16)
    · rcases hhas with ⟨v, hget, haccepts⟩
      rcases (ValueShape.accepts_unsigned16_iff v).mp haccepts with ⟨n, hn⟩
      have hv : v.IsInteger n.toNat := (v.uint16?_eq_some_iff n).mp hn
      rw [uint16D_of_get? hget hv]
      exact .integer hget hv
    · rw [uint16D_of_not_has hhas]
      exact .other hhas
  · intro h
    cases h with
    | integer hget hv =>
        exact uint16D_of_get? hget hv
    | other hhas =>
        exact uint16D_of_not_has hhas

end Fields

theorem Question.ofMapping_eq_iff {fields : Mapping} {q : Question} :
    ofMapping fields = q ↔ q.ReadsFrom fields := by
  constructor
  · rintro rfl
    exact ⟨Fields.ofString_textD_eq_iff.mp rfl, ⟨_, Fields.uint16D_eq_iff.mp rfl, rfl⟩,
      ⟨_, Fields.uint16D_eq_iff.mp rfl, rfl⟩⟩
  · rcases q with ⟨name, qtype, qclass⟩
    rintro ⟨hname, ⟨t, ht, hqtype⟩, ⟨c, hc, hqclass⟩⟩
    rw [ofMapping, Fields.ofString_textD_eq_iff.mpr hname, Fields.uint16D_eq_iff.mpr ht,
      Fields.uint16D_eq_iff.mpr hc, ← hqtype, ← hqclass]

/-!
## One form of mappings
-/

theorem Value.exists_ofUInt16_iff {o : Option Value} :
    (∃ n : Int64, o = some (.integer n) ∧ 0 ≤ n.toInt ∧ n.toInt ≤ 65535) ↔
      ∃ w, o = some (.ofUInt16 w) := by
  constructor
  · rintro ⟨n, rfl, hlow, hhigh⟩
    have hsmall : n.toInt.toNat < UInt16.size := by
      have hsize : UInt16.size = 65536 := rfl
      omega
    refine ⟨UInt16.ofNat n.toInt.toNat, ?_⟩
    rw [ofUInt16, UInt16.toNat_ofNat_of_lt' hsmall, Int.toNat_of_nonneg hlow, Int64.ofInt_toInt]
  · rintro ⟨w, rfl⟩
    have hword : (Int64.ofInt w.toNat).toInt = w.toNat :=
      toInt_ofInt_natCast (w.toNat_lt_size.trans (by decide))
    have hsmall : w.toNat < 65536 := w.toNat_lt_size
    refine ⟨_, rfl, ?_, ?_⟩ <;> omega

namespace Question

theorem get?_toMapping_ne_none_iff (q : Question) (key : String) :
    q.toMapping.get? key ≠ none ↔ key ∈ keys := by
  rw [get?_toMapping]
  split_ifs with hclass htype hname
  · simp [keys, ← hclass]
  · simp [keys, ← htype]
  · simp [keys, ← hname]
  · simp [keys, Ne.symm hclass, Ne.symm htype, Ne.symm hname]

theorem isCanonicalQuestion_toMapping (q : Question) : q.toMapping.IsCanonicalQuestion where
  keys := q.get?_toMapping_ne_none_iff
  name := ⟨q.name.text, by simp [get?_toMapping], q.name.canonical_text⟩
  qtype := Value.exists_ofUInt16_iff.mpr ⟨q.qtype.code, by simp [get?_toMapping]⟩
  qclass := Value.exists_ofUInt16_iff.mpr ⟨q.qclass.code, by simp [get?_toMapping]⟩

theorem ofMapping_toMapping_eq_iff (q : Question) : ofMapping q.toMapping = q ↔ q.IsNormal := by
  constructor
  · intro h
    rw [← h]
    exact isNormal_ofMapping q.toMapping
  · intro h
    rw [ofMapping_toMapping, h.normal_eq]

end Question

namespace Fields

theorem IsCanonicalQuestion.asQuestion_eq {fields : Mapping} (h : fields.IsCanonicalQuestion) :
    fields.asQuestion = fields := by
  rcases h.name with ⟨s, hname, hs⟩
  rcases Value.exists_ofUInt16_iff.mp h.qtype with ⟨t, hqtype⟩
  rcases Value.exists_ofUInt16_iff.mp h.qclass with ⟨c, hqclass⟩
  have htext : (Question.ofMapping fields).name.text = s := by
    rw [Question.ofMapping, textD_of_get? hname, Name.text_ofString_of_canonical hs]
  have htype : (Question.ofMapping fields).qtype.code = t := by
    simp [Question.ofMapping, uint16D, hqtype, Value.uint16?_ofUInt16, RecordType.code_ofCode]
  have hclass : (Question.ofMapping fields).qclass.code = c := by
    simp [Question.ofMapping, uint16D, hqclass, Value.uint16?_ofUInt16, RecordClass.code_ofCode]
  apply ext_get?
  intro key
  rw [asQuestion, Question.get?_toMapping, htext, htype, hclass]
  split_ifs with hkclass hktype hkname
  · rw [← hkclass, hqclass]
  · rw [← hktype, hqtype]
  · rw [← hkname, hname]
  · by_contra hother
    have hkey := (h.keys key).mp (Ne.symm hother)
    simp [Question.keys, Ne.symm hkclass, Ne.symm hktype, Ne.symm hkname] at hkey

theorem asQuestion_eq_iff (fields : Mapping) :
    fields.asQuestion = fields ↔ fields.IsCanonicalQuestion := by
  constructor
  · intro h
    rw [← h]
    exact Question.isCanonicalQuestion_toMapping _
  · exact IsCanonicalQuestion.asQuestion_eq

end Fields

/--
A view gives one question for each of its mappings, and the report is the same for any questions.
Reading a mapping and showing it again gives it the keys of a question and a form that further
readings keep, and the mappings in this form are the canonical ones.  Each part of a question is
read from its own key.  A question is read back from its mapping exactly if it is normal.
-/
theorem Question.ofMapping_tolerant :
    (∀ v : View, v.toMessage.1.questions = v.questions.map ofMapping ∧
      ∀ questions, { v with questions }.toMessage.2 = v.toMessage.2) ∧
    (∀ fields : Mapping, (∀ key, fields.asQuestion.get? key ≠ none ↔ key ∈ keys) ∧
      fields.asQuestion.asQuestion = fields.asQuestion ∧
      (fields.asQuestion = fields ↔ fields.IsCanonicalQuestion)) ∧
    (∀ (fields : Mapping) (q : Question), ofMapping fields = q ↔ q.ReadsFrom fields) ∧
    (∀ f g : Mapping,
      (f.get? "Name" = g.get? "Name" → (ofMapping f).name = (ofMapping g).name) ∧
      (f.get? "Qtype" = g.get? "Qtype" → (ofMapping f).qtype = (ofMapping g).qtype) ∧
      (f.get? "Qclass" = g.get? "Qclass" → (ofMapping f).qclass = (ofMapping g).qclass)) ∧
    ∀ q : Question, ofMapping q.toMapping = q ↔ q.IsNormal := by
  refine ⟨fun v => ⟨rfl, fun _ => rfl⟩, ?_, fun _ _ => ofMapping_eq_iff, ?_,
    ofMapping_toMapping_eq_iff⟩
  · intro fields
    have hcanonical : fields.asQuestion.IsCanonicalQuestion := isCanonicalQuestion_toMapping _
    exact ⟨hcanonical.keys, hcanonical.asQuestion_eq, fields.asQuestion_eq_iff⟩
  · intro f g
    refine ⟨fun h => ?_, fun h => ?_, fun h => ?_⟩
    · simp only [ofMapping, Fields.textD, h]
    · simp only [ofMapping, Fields.uint16D, h]
    · simp only [ofMapping, Fields.uint16D, h]

example : Question.ofMapping (.ofList [("Name", .integer 7), ("Qtype", .float (.ofInt 28)),
    ("Qclass", .integer 65536), ("Comment", .null)]) = ⟨⟨[]⟩, .aaaa, .ofCode 0⟩ := by
  decide +kernel

end DnsView
