import DnsView.Proofs.View.RecordRoundTrip
import DnsView.Proofs.View.RecordAccounts

/-!
# Messages rebuilt from their views

The view of a message that nobody edits is rebuilt as the normal form of the message: without the
records that no view can show, with codes cut to their width on the wire, and with names and
assigned codes in the one form that reading gives.  Whatever a script leaves in a view, the message
rebuilt from it is already in this form, so it survives any further passage unchanged.
-/

namespace DnsView

/-!
## Headers there and back

The header of a message and the header that a script sees hold the same flags and codes, except that
the codes of a script may be too wide.  Either conversion undoes the other up to an operation code
of four bits and a response code of twelve, and headers whose codes fit correspond one to one.
-/

theorem opcode_and_mask (n : UInt8) : n &&& Header.opcodeMask = n % 16 := by
  apply UInt8.toNat_inj.mp
  exact Nat.and_two_pow_sub_one_eq_mod n.toNat 4

theorem rcode_and_mask (n : UInt16) : n &&& Header.rcodeMask = n % 4096 := by
  apply UInt16.toNat_inj.mp
  exact Nat.and_two_pow_sub_one_eq_mod n.toNat 12

namespace WireHeader

/-- The header with an operation code of four bits and a response code of twelve. -/
def normal (h : WireHeader) : WireHeader :=
  { h with opcode := h.opcode % 16, rcode := h.rcode % 4096 }

theorem normal_eq {h : WireHeader} (hopcode : h.opcode < 16) (hrcode : h.rcode < 4096) :
    h.normal = h := by
  have hop : h.opcode % 16 = h.opcode := UInt8.mod_eq_of_lt hopcode
  have hrc : h.rcode % 4096 = h.rcode := UInt16.mod_eq_of_lt hrcode
  rw [normal, hop, hrc]

theorem toWire_ofWire (h : WireHeader) : (Header.ofWire h).toWire = h.normal := by
  simp only [Header.toWire, Header.ofWire, opcode_and_mask, rcode_and_mask, normal]

end WireHeader

namespace Header

theorem opcode_toWire (h : Header) : h.toWire.opcode = h.opcode % 16 :=
  opcode_and_mask h.opcode

theorem rcode_toWire (h : Header) : h.toWire.rcode = h.rcode % 4096 :=
  rcode_and_mask h.rcode

theorem opcode_toWire_lt (h : Header) : h.toWire.opcode < 16 := by
  rw [opcode_toWire]
  exact UInt8.mod_lt h.opcode (by decide)

theorem rcode_toWire_lt (h : Header) : h.toWire.rcode < 4096 := by
  rw [rcode_toWire]
  exact UInt16.mod_lt h.rcode (by decide)

theorem ofWire_toWire (h : Header) :
    ofWire h.toWire = { h with opcode := h.opcode % 16, rcode := h.rcode % 4096 } := by
  rw [← opcode_toWire, ← rcode_toWire]
  rfl

theorem ofWire_toWire_eq_iff (h : Header) :
    ofWire h.toWire = h ↔ h.opcode < 16 ∧ h.rcode < 4096 := by
  constructor
  · intro hsame
    have hopcode := h.opcode_toWire_lt
    have hrcode := h.rcode_toWire_lt
    rw [← hsame]
    exact ⟨hopcode, hrcode⟩
  · intro hfits
    rw [ofWire_toWire, UInt8.mod_eq_of_lt hfits.left, UInt16.mod_eq_of_lt hfits.right]

end Header

/-!
## Normal forms

A part of a message is in normal form if a view can show it and gives it back as it is: the codes
are assigned ones wherever possible, and no name is the list of two empty labels.
-/

namespace Question

def normal (q : Question) : Question where
  name := q.name.normal
  qtype := q.qtype.normal
  qclass := q.qclass.normal

structure IsNormal (q : Question) : Prop where
  qtype : ∃ c, q.qtype = .ofCode c
  qclass : ∃ c, q.qclass = .ofCode c
  name : q.name.labels ≠ ["", ""]

theorem IsNormal.normal_eq {q : Question} (h : q.IsNormal) : q.normal = q := by
  rcases q with ⟨name, qtype, qclass⟩
  rcases h with ⟨⟨t, rfl⟩, ⟨c, rfl⟩, hname⟩
  rw [normal, Name.normal_of_ne hname, RecordType.normal_ofCode, RecordClass.normal_ofCode]

theorem isNormal_ofMapping (m : Mapping) : (ofMapping m).IsNormal where
  qtype := ⟨_, rfl⟩
  qclass := ⟨_, rfl⟩
  name := Name.labels_ofString_ne _

theorem get?_toMapping (q : Question) (key : String) :
    q.toMapping.get? key =
      if "Qclass" = key then some (.ofUInt16 q.qclass.code)
      else if "Qtype" = key then some (.ofUInt16 q.qtype.code)
      else if "Name" = key then some (.text q.name.text)
      else none := by
  simp only [toMapping, Fields.ofList, List.foldl_cons, List.foldl_nil, Fields.get?_insert,
    Fields.get?_nil]

theorem ofMapping_toMapping (q : Question) : ofMapping q.toMapping = q.normal := by
  simp [ofMapping, normal, Fields.textD, Fields.uint16D, get?_toMapping, Value.text?,
    Value.uint16?_ofUInt16, Name.ofString_text, RecordType.ofCode_code, RecordClass.ofCode_code]

end Question

namespace Record

/-- The records of a section that views can show, as they are read back. -/
def normalSection (rs : List Record) : List Record :=
  (rs.filter fun r => r.payload.Fits r.rtype).map normal

theorem normalSection_eq {rs : List Record}
    (h : ∀ r ∈ rs, r.payload.Fits r.rtype ∧ r.IsNormal) : normalSection rs = rs := by
  have hfilter : (rs.filter fun r => r.payload.Fits r.rtype) = rs := by
    apply List.filter_eq_self.mpr
    intro r hr
    simpa using (h r hr).left
  rw [normalSection, hfilter]
  calc
    rs.map normal = rs.map id := List.map_congr_left fun r hr => (h r hr).right.normal_eq
    _ = rs := List.map_id rs

end Record

namespace Message

/-- The message that is rebuilt from the view of a message. -/
def normal (m : Message) : Message where
  header := m.header.normal
  questions := m.questions.map Question.normal
  answers := Record.normalSection m.answers
  authorities := Record.normalSection m.authorities
  additionals := Record.normalSection m.additionals
  compress := m.compress

/-- Messages that views can show in full and as they are. -/
structure IsNormal (m : Message) : Prop where
  opcode : m.header.opcode < 16
  rcode : m.header.rcode < 4096
  questions : ∀ q ∈ m.questions, q.IsNormal
  records : ∀ r ∈ m.answers ++ m.authorities ++ m.additionals,
    r.payload.Fits r.rtype ∧ r.IsNormal

theorem IsNormal.normal_eq {m : Message} (h : m.IsNormal) : m.normal = m := by
  have hquestions : m.questions.map Question.normal = m.questions := by
    calc
      m.questions.map Question.normal = m.questions.map id :=
        List.map_congr_left fun q hq => (h.questions q hq).normal_eq
      _ = m.questions := List.map_id m.questions
  have hanswers : Record.normalSection m.answers = m.answers :=
    Record.normalSection_eq fun r hr => h.records r (by simp [hr])
  have hauthorities : Record.normalSection m.authorities = m.authorities :=
    Record.normalSection_eq fun r hr => h.records r (by simp [hr])
  have hadditionals : Record.normalSection m.additionals = m.additionals :=
    Record.normalSection_eq fun r hr => h.records r (by simp [hr])
  rw [normal, WireHeader.normal_eq h.opcode h.rcode, hquestions, hanswers, hauthorities,
    hadditionals]

end Message

/-!
## Passages of a section
-/

namespace Record

theorem toMapping_eq_ok_of_fits {rs : List Record} (h : ∀ r ∈ rs, r.payload.Fits r.rtype) :
    ∀ r ∈ rs, ∃ m, r.toMapping = .ok m :=
  fun r hr => ⟨_, toMapping_of_fits (h r hr)⟩

/-- Whatever a section shows can be read. -/
theorem ofMapping_eq_ok_of_shown (part : Section) (rs : List Record) :
    ∀ m ∈ (convertSection part toMapping rs).results, ∃ r, ofMapping m = .ok r := by
  intro m hm
  rcases exists_of_mem_results part hm with ⟨r, _, hr⟩
  exact ⟨r.normal, ofMapping_of_toMapping hr⟩

theorem results_passage (part : Section) (rs : List Record) :
    (convertSection part ofMapping (convertSection part toMapping rs).results).results =
      normalSection rs := by
  have hstep (r : Record) :
      (r.toMapping.toOption.bind fun m => (ofMapping m).toOption) =
        if r.payload.Fits r.rtype then some r.normal else none := by
    by_cases hfits : r.payload.Fits r.rtype
    · rw [toMapping_of_fits hfits, if_pos hfits]
      simp [Except.toOption, ofMapping_of_fits hfits]
    · rw [toMapping_of_not_fits hfits, if_neg hfits]
      rfl
  rw [results_convertSection, results_convertSection, List.filterMap_filterMap, normalSection]
  simp only [hstep]
  induction rs with
  | nil =>
      rfl
  | cons r rs ih =>
      by_cases hfits : r.payload.Fits r.rtype
      · simp [hfits, ih]
      · simp [hfits, ih]

theorem failures_passage (part : Section) (rs : List Record) :
    (convertSection part ofMapping (convertSection part toMapping rs).results).failures = [] :=
  failures_convertSection_eq_nil part ofMapping (ofMapping_eq_ok_of_shown part rs)

end Record

/-!
## Passages of a message
-/

namespace View

theorem toMessage_ofMessage (m : Message) (client : String) (lookup : Lookup) :
    (ofMessage m client lookup).1.toMessage = (m.normal, ⟨[]⟩) := by
  have hquestions : (m.questions.map Question.toMapping).map Question.ofMapping =
      m.questions.map Question.normal := by
    rw [List.map_map]
    exact List.map_congr_left fun q _ => Question.ofMapping_toMapping q
  simp only [ofMessage, toMessage, Record.results_passage, Record.failures_passage,
    hquestions, WireHeader.toWire_ofWire, List.append_nil]
  rfl

theorem isNormal_toMessage (v : View) : v.toMessage.1.IsNormal where
  opcode := v.header.opcode_toWire_lt
  rcode := v.header.rcode_toWire_lt
  questions := by
    intro q hq
    rcases List.mem_map.mp hq with ⟨m, _, rfl⟩
    exact Question.isNormal_ofMapping m
  records := by
    intro r hr
    simp only [toMessage, List.mem_append] at hr
    rcases hr with (hr | hr) | hr
    all_goals
      rcases exists_of_mem_results _ hr with ⟨m, _, hm⟩
      exact Record.ofMapping_spec hm

theorem isClean_ofMessage {m : Message} (h : m.IsNormal) (client : String) (lookup : Lookup) :
    (ofMessage m client lookup).2.isClean = true := by
  have hanswers := @Record.toMapping_eq_ok_of_fits m.answers
    fun r hr => (h.records r (by simp [hr])).left
  have hauthorities := @Record.toMapping_eq_ok_of_fits m.authorities
    fun r hr => (h.records r (by simp [hr])).left
  have hadditionals := @Record.toMapping_eq_ok_of_fits m.additionals
    fun r hr => (h.records r (by simp [hr])).left
  simp only [ofMessage, failures_convertSection_eq_nil _ _ hanswers,
    failures_convertSection_eq_nil _ _ hauthorities,
    failures_convertSection_eq_nil _ _ hadditionals]
  rfl

end View

theorem Message.normal_eq_iff (m : Message) : m.normal = m ↔ m.IsNormal := by
  constructor
  · intro h
    have hrebuilt := View.isNormal_toMessage (View.ofMessage m "" fun _ => none).1
    rw [View.toMessage_ofMessage, h] at hrebuilt
    exact hrebuilt
  · exact Message.IsNormal.normal_eq

namespace Session

/--
A message that is shown and rebuilt without an edit comes out in its normal form, and the second
report is clean.  The message is unchanged and both reports are clean exactly if it was in this form
before.
-/
theorem toMessage_ofMessage_eq_normal (m : Message) (client : String) (lookup : Lookup) :
    let built := (ofMessage m client lookup).result
    let rebuilt := built.1.toMessage.result
    rebuilt.2.isClean = true ∧ rebuilt.1 = m.normal ∧
      ((rebuilt.1 = m ∧ built.2.isClean = true ∧ rebuilt.2.isClean = true) ↔ m = m.normal) := by
  intro built rebuilt
  have hrebuilt : rebuilt = (m.normal, ⟨[]⟩) := View.toMessage_ofMessage m client lookup
  have hclean : rebuilt.2.isClean = true := by
    rw [hrebuilt]
    rfl
  have hmessage : rebuilt.1 = m.normal := by
    rw [hrebuilt]
  refine ⟨hclean, hmessage, ?_⟩
  constructor
  · intro h
    exact h.left.symm.trans hmessage
  · intro h
    have hnormal : m.IsNormal := m.normal_eq_iff.mp h.symm
    exact ⟨hmessage.trans h.symm, View.isClean_ofMessage hnormal client lookup, hclean⟩

/--
Whatever stands in a view, the message rebuilt from it is in normal form.  So it is shown in full to
every client and with whatever is known of its device, and rebuilt from there as it is.
-/
theorem toMessage_fixed_point (s : Session) :
    let m := s.toMessage.result.1
    m.IsNormal ∧ ∀ (client : String) (lookup : Lookup),
      let built := (ofMessage m client lookup).result
      built.2.isClean = true ∧ built.1.toMessage.result.1 = m ∧
        built.1.toMessage.result.2.isClean = true := by
  intro m
  have hnormal : m.IsNormal := View.isNormal_toMessage s.view
  refine ⟨hnormal, ?_⟩
  intro client lookup built
  have hrebuilt : built.1.toMessage.result = (m, ⟨[]⟩) := by
    calc
      built.1.toMessage.result = (m.normal, ⟨[]⟩) := View.toMessage_ofMessage m client lookup
      _ = (m, ⟨[]⟩) := by rw [hnormal.normal_eq]
  refine ⟨View.isClean_ofMessage hnormal client lookup, ?_, ?_⟩
  · rw [hrebuilt]
  · rw [hrebuilt]
    rfl

end Session

end DnsView
