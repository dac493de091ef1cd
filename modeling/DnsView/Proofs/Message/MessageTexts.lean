import DnsView.Message.Json
import DnsView.Proofs.Json.Readings
import DnsView.Proofs.Message.Names
import DnsView.Proofs.Net.AddressTexts

/-!
# Messages read back from their texts

A message is read back from its JSON form with every part as it was but for the types and classes,
which go through their numbers: an assigned number that was kept as an unknown one comes back as the
type or class that it is assigned to.  Names and payloads are read back exactly, whatever they hold
and whatever type they stand under.
-/

namespace DnsView

/-!
## Codes and names
-/

theorem RecordType.reader_toJson (t : RecordType) (levels : Nat) :
    RecordType.reader levels t.toJson.node = .ok t.normal := by
  rw [RecordType.reader, RecordType.toJson, Json.readUInt16_ofUInt16, ← RecordType.ofCode_code]
  rfl

theorem RecordClass.reader_toJson (c : RecordClass) (levels : Nat) :
    RecordClass.reader levels c.toJson.node = .ok c.normal := by
  rw [RecordClass.reader, RecordClass.toJson, Json.readUInt16_ofUInt16, ← RecordClass.ofCode_code]
  rfl

theorem Name.reader_toJson (n : Name) (levels : Nat) :
    Name.reader (levels + 1) n.toJson.node = .ok n := by
  rw [Name.reader, Name.toJson, Json.readStrings_ofStrings]
  rfl

/-!
## Payloads
-/

theorem Soa.read_toJson (d : Soa) (levels : Nat) :
    Soa.shape.read (levels + 1) d.toJson.node = .ok d := by
  have hnames : (Soa.shape.fields.map Json.Field.name).Nodup := by decide
  have hword (n : UInt32) := Json.readUInt32_ofUInt32 n levels
  exact Json.Shape.read_object hnames
    (.of rfl (.of rfl (.of (hword d.serial) (.of (hword d.refresh) (.of (hword d.retry)
      (.of (hword d.expire) (.of (hword d.minimum) .nil)))))))

theorem Srv.read_toJson (d : Srv) (levels : Nat) :
    Srv.shape.read (levels + 1) d.toJson.node = .ok d := by
  have hnames : (Srv.shape.fields.map Json.Field.name).Nodup := by decide
  have hword (n : UInt16) := Json.readUInt16_ofUInt16 n levels
  exact Json.Shape.read_object hnames
    (.of (hword d.priority) (.of (hword d.weight) (.of (hword d.port) (.of rfl .nil))))

namespace Payload

theorem reader_single {α : Type} {name : String} {r : Json.Reader α} {make : α → Payload}
    (hr : single name r make ∈ variants) {levels : Nat} {j : Json} {a : α}
    (h : r (levels + 1) j.node = .ok a) :
    reader (levels + 2) (Json.object [(name, j)]).node = .ok (make a) := by
  have hread : (single name r make).read (levels + 1) j.node = .ok (make a) := by
    show make <$> r (levels + 1) j.node = _
    rw [h]
    rfl
  exact Json.readVariant_object (by decide) hr hread

theorem reader_toJson (p : Payload) (levels : Nat) :
    reader (levels + 2) p.toJson.node = .ok p := by
  cases p with
  | a address =>
      exact reader_single (r := Json.readNamed "IPv4 address" Ipv4.ofString?) (by simp [variants])
        (Json.readNamed_text address.ofString?_text _)
  | aaaa address =>
      exact reader_single (r := Json.readNamed "IPv6 address" Ipv6.ofString?) (by simp [variants])
        (Json.readNamed_text address.ofString?_text _)
  | ns host =>
      exact reader_single (r := Json.readString) (by simp [variants]) rfl
  | cname target =>
      exact reader_single (r := Json.readString) (by simp [variants]) rfl
  | ptr target =>
      exact reader_single (r := Json.readString) (by simp [variants]) rfl
  | mx preference exchange =>
      have hpreference := Json.readUInt16_ofUInt16 preference levels
      have hpair : Json.readPair "tuple variant DNSResourceData::MX" Json.readUInt16 Json.readString
          (levels + 1) (Json.list [.ofUInt16 preference, .text exchange]).node =
            .ok (preference, exchange) :=
        Json.readPair_list hpreference rfl
      refine Json.readVariant_object (v := variants[5]) (by decide) (List.getElem_mem _) ?_
      show (fun pair => mx pair.1 pair.2) <$> Json.readPair _ _ _ _ _ = _
      rw [hpair]
      rfl
  | soa data =>
      exact reader_single (r := Soa.shape.read) (by simp [variants]) (data.read_toJson levels)
  | srv data =>
      exact reader_single (r := Srv.shape.read) (by simp [variants]) (data.read_toJson levels)
  | txt parts =>
      exact reader_single (r := Json.readList Json.readString) (by simp [variants])
        (Json.readStrings_ofStrings parts levels)
  | raw bytes =>
      have hbytes := @Json.readList_map UInt8 UInt8 Json.readUInt8 (fun b => .integer b.toNat) id
        levels bytes fun b _ => Json.readUInt8_integer b levels
      rw [List.map_id] at hbytes
      exact reader_single (r := Json.readList Json.readUInt8) (by simp [variants]) hbytes

end Payload

/-!
## Questions and records

Recoding puts the assigned type and class in the place of an unknown number wherever there is one.
A question or record whose type and class are what their numbers stand for is coded already.
-/

theorem map_eq_self_iff {α : Type} {f : α → α} {l : List α} :
    l.map f = l ↔ ∀ a ∈ l, f a = a := by
  conv_lhs => rhs; rw [← List.map_id l]
  simp only [List.map_inj_left, id]

namespace Question

def recoded (q : Question) : Question :=
  { q with qtype := q.qtype.normal, qclass := q.qclass.normal }

structure IsCoded (q : Question) : Prop where
  qtype : ∃ n, q.qtype = .ofCode n
  qclass : ∃ n, q.qclass = .ofCode n

theorem recoded_eq_iff (q : Question) : q.recoded = q ↔ q.IsCoded := by
  rw [recoded, mk.injEq, RecordType.normal_eq_iff, RecordClass.normal_eq_iff]
  constructor
  · rintro ⟨_, htype, hclass⟩
    exact ⟨htype, hclass⟩
  · rintro ⟨htype, hclass⟩
    exact ⟨rfl, htype, hclass⟩

theorem toJson_recoded (q : Question) : q.recoded.toJson = q.toJson := by
  simp only [toJson, recoded, RecordType.toJson, RecordClass.toJson, RecordType.code_normal,
    RecordClass.code_normal]

theorem read_toJson (q : Question) (levels : Nat) :
    shape.read (levels + 2) q.toJson.node = .ok q.recoded := by
  have hnames : (shape.fields.map Json.Field.name).Nodup := by decide
  have hname := q.name.reader_toJson levels
  have htype := q.qtype.reader_toJson (levels + 1)
  have hclass := q.qclass.reader_toJson (levels + 1)
  exact Json.Shape.read_object hnames (.of hname (.of htype (.of hclass .nil)))

end Question

namespace Record

def recoded (r : Record) : Record :=
  { r with rtype := r.rtype.normal, rclass := r.rclass.normal }

structure IsCoded (r : Record) : Prop where
  rtype : ∃ n, r.rtype = .ofCode n
  rclass : ∃ n, r.rclass = .ofCode n

theorem recoded_eq_iff (r : Record) : r.recoded = r ↔ r.IsCoded := by
  rw [recoded, mk.injEq, RecordType.normal_eq_iff, RecordClass.normal_eq_iff]
  constructor
  · rintro ⟨_, htype, hclass, _⟩
    exact ⟨htype, hclass⟩
  · rintro ⟨htype, hclass⟩
    exact ⟨rfl, htype, hclass, rfl, rfl⟩

theorem toJson_recoded (r : Record) : r.recoded.toJson = r.toJson := by
  simp only [toJson, recoded, RecordType.toJson, RecordClass.toJson, RecordType.code_normal,
    RecordClass.code_normal]

theorem read_toJson (r : Record) (levels : Nat) :
    shape.read (levels + 3) r.toJson.node = .ok r.recoded := by
  have hnames : (shape.fields.map Json.Field.name).Nodup := by decide
  have hname := r.name.reader_toJson (levels + 1)
  have htype := r.rtype.reader_toJson (levels + 2)
  have hclass := r.rclass.reader_toJson (levels + 2)
  have httl := Json.readUInt32_ofUInt32 r.ttl (levels + 2)
  have hpayload := r.payload.reader_toJson levels
  exact Json.Shape.read_object hnames
    (.of hname (.of htype (.of hclass (.of httl (.of hpayload .nil)))))

end Record

/-!
## Messages

Types and classes are written as numbers, so assigned ones come back in place of their numbers.  A
message is recoded if this has been done to it, and coded if there is nothing to be done.
-/

theorem WireHeader.read_toJson (h : WireHeader) (levels : Nat) :
    WireHeader.shape.read (levels + 1) h.toJson.node = .ok h := by
  have hnames : (WireHeader.shape.fields.map Json.Field.name).Nodup := by decide
  have hid := Json.readUInt16_ofUInt16 h.id levels
  have hopcode := Json.readUInt8_integer h.opcode levels
  have hrcode := Json.readUInt16_ofUInt16 h.rcode levels
  exact Json.Shape.read_object hnames
    (.of hid (.of rfl (.of hopcode (.of rfl (.of rfl (.of rfl (.of rfl (.of rfl (.of rfl
      (.of rfl (.of hrcode .nil)))))))))))

namespace Message

def recoded (m : Message) : Message :=
  { m with
    questions := m.questions.map Question.recoded
    answers := m.answers.map Record.recoded
    authorities := m.authorities.map Record.recoded
    additionals := m.additionals.map Record.recoded }

structure IsCoded (m : Message) : Prop where
  questions : ∀ q ∈ m.questions, q.IsCoded
  answers : ∀ r ∈ m.answers, r.IsCoded
  authorities : ∀ r ∈ m.authorities, r.IsCoded
  additionals : ∀ r ∈ m.additionals, r.IsCoded

theorem recoded_eq_iff (m : Message) : m.recoded = m ↔ m.IsCoded := by
  rw [recoded, mk.injEq, map_eq_self_iff, map_eq_self_iff, map_eq_self_iff, map_eq_self_iff]
  simp only [Question.recoded_eq_iff, Record.recoded_eq_iff, true_and, and_true]
  constructor
  · rintro ⟨hquestions, hanswers, hauthorities, hadditionals⟩
    exact ⟨hquestions, hanswers, hauthorities, hadditionals⟩
  · rintro ⟨hquestions, hanswers, hauthorities, hadditionals⟩
    exact ⟨hquestions, hanswers, hauthorities, hadditionals⟩

theorem toJson_recoded (m : Message) : m.recoded.toJson = m.toJson := by
  have hrecords (rs : List Record) : (rs.map Record.recoded).map Record.toJson =
      rs.map Record.toJson := by
    rw [List.map_map]
    exact List.map_congr_left fun r _ => r.toJson_recoded
  have hquestions : (m.questions.map Question.recoded).map Question.toJson =
      m.questions.map Question.toJson := by
    rw [List.map_map]
    exact List.map_congr_left fun q _ => q.toJson_recoded
  simp only [toJson, recoded, hquestions, hrecords]

theorem read_toJson (m : Message) (levels : Nat) :
    shape.read (levels + 5) m.toJson.node = .ok m.recoded := by
  have hnames : (shape.fields.map Json.Field.name).Nodup := by decide
  have hheader := m.header.read_toJson (levels + 3)
  have hquestions := @Json.readList_map Question Question Question.shape.read Question.toJson
    Question.recoded (levels + 3) m.questions fun q _ => q.read_toJson (levels + 1)
  have hrecords (rs : List Record) := @Json.readList_map Record Record Record.shape.read
    Record.toJson Record.recoded (levels + 3) rs fun r _ => r.read_toJson levels
  exact Json.Shape.read_object hnames (.of hheader (.of hquestions (.of (hrecords m.answers)
    (.of (hrecords m.authorities) (.of (hrecords m.additionals) (.of rfl .nil))))))

/--
A message is read back from either layout of its text with the assigned types and classes in place
of their numbers, so as it was if and only if its codes are all in this form.  Its text shows no
difference.
-/
theorem ofString_render_recoded (m : Message) (s : Json.Spacing) :
    ofString (m.toJson.render s) = .ok m.recoded ∧
      (ofString (m.toJson.render s) = .ok m ↔ m.IsCoded) ∧
      ∀ layout : Json.Spacing, m.recoded.toJson.render layout = m.toJson.render layout := by
  have hread : ofString (m.toJson.render s) = .ok m.recoded := by
    rw [ofString, Json.read, Json.Document.ofString_render, Json.Document.read, Json.maxDepth,
      read_toJson m 122]
    rfl
  refine ⟨hread, ?_, ?_⟩
  · rw [hread, Except.ok.injEq, recoded_eq_iff]
  · intro layout
    rw [toJson_recoded]

end Message

/-!
## Messages that were read

Reading puts in codes only what their numbers stand for, so a message that was read from any
document is read back exactly as it is from whatever text is written of it.
-/

theorem RecordType.gives_reader : Json.Gives reader fun t => ∃ n, t = ofCode n := by
  intro levels n t h
  rcases map_eq_ok.mp h with ⟨code, _, ht⟩
  exact ⟨code, ht.symm⟩

theorem RecordClass.gives_reader : Json.Gives reader fun c => ∃ n, c = ofCode n := by
  intro levels n c h
  rcases map_eq_ok.mp h with ⟨code, _, hc⟩
  exact ⟨code, hc.symm⟩

theorem Question.gives_read : Json.Gives shape.read IsCoded := by
  apply Json.Shape.gives_read
  · exact ⟨⟨1, rfl⟩, ⟨1, rfl⟩⟩
  · simp only [shape, List.forall_mem_cons, List.not_mem_nil, false_imp_iff, implies_true, and_true]
    refine ⟨?_, ?_, ?_⟩
    · exact Json.Field.keeps_of (Json.gives_any _) fun q _ hq _ => ⟨hq.qtype, hq.qclass⟩
    · exact Json.Field.keeps_of RecordType.gives_reader fun q _ hq ht => ⟨ht, hq.qclass⟩
    · exact Json.Field.keeps_of RecordClass.gives_reader fun q _ hq hc => ⟨hq.qtype, hc⟩

theorem Record.gives_read : Json.Gives shape.read IsCoded := by
  apply Json.Shape.gives_read
  · exact ⟨⟨1, rfl⟩, ⟨1, rfl⟩⟩
  · simp only [shape, List.forall_mem_cons, List.not_mem_nil, false_imp_iff, implies_true, and_true]
    refine ⟨?_, ?_, ?_, ?_, ?_⟩
    · exact Json.Field.keeps_of (Json.gives_any _) fun r _ hr _ => ⟨hr.rtype, hr.rclass⟩
    · exact Json.Field.keeps_of RecordType.gives_reader fun r _ hr ht => ⟨ht, hr.rclass⟩
    · exact Json.Field.keeps_of RecordClass.gives_reader fun r _ hr hc => ⟨hr.rtype, hc⟩
    · exact Json.Field.keeps_of (Json.gives_any _) fun r _ hr _ => ⟨hr.rtype, hr.rclass⟩
    · exact Json.Field.keeps_of (Json.gives_any _) fun r _ hr _ => ⟨hr.rtype, hr.rclass⟩

namespace Message

theorem gives_read : Json.Gives shape.read IsCoded := by
  have hquestions := Json.gives_readList Question.gives_read
  have hrecords := Json.gives_readList Record.gives_read
  apply Json.Shape.gives_read
  · have hempty : (default : Message) = ⟨default, [], [], [], [], false⟩ := rfl
    rw [shape, hempty]
    exact ⟨by simp, by simp, by simp, by simp⟩
  · simp only [shape, List.forall_mem_cons, List.not_mem_nil, false_imp_iff, implies_true, and_true]
    refine ⟨?_, ?_, ?_, ?_, ?_, ?_⟩
    · exact Json.Field.keeps_of (Json.gives_any _) fun m _ hm _ =>
        ⟨hm.questions, hm.answers, hm.authorities, hm.additionals⟩
    · exact Json.Field.keeps_of hquestions fun m _ hm hqs =>
        ⟨hqs, hm.answers, hm.authorities, hm.additionals⟩
    · exact Json.Field.keeps_of hrecords fun m _ hm hrs =>
        ⟨hm.questions, hrs, hm.authorities, hm.additionals⟩
    · exact Json.Field.keeps_of hrecords fun m _ hm hrs =>
        ⟨hm.questions, hm.answers, hrs, hm.additionals⟩
    · exact Json.Field.keeps_of hrecords fun m _ hm hrs =>
        ⟨hm.questions, hm.answers, hm.authorities, hrs⟩
    · exact Json.Field.keeps_of (Json.gives_any _) fun m _ hm _ =>
        ⟨hm.questions, hm.answers, hm.authorities, hm.additionals⟩

theorem isCoded_of_read {text : String} {m : Message} (h : Json.read shape.read text = .ok m) :
    m.IsCoded := by
  rcases bind_eq_ok.mp h with ⟨m', hread, hcomplete⟩
  split at hcomplete
  · cases hcomplete
    exact gives_read _ _ _ hread
  · cases hcomplete

theorem read_of_spells {text : String} {m : Message} (h : Json.Spells text m.toJson) :
    Json.read shape.read text = .ok m.recoded := by
  have hobject : ∀ rest, Json.Delimits rest m.toJson := fun _ => trivial
  rw [Json.read, Json.Document.ofString_of_spells hobject h, Json.Document.read, Json.maxDepth,
    read_toJson m 122]
  rfl

end Message

end DnsView
