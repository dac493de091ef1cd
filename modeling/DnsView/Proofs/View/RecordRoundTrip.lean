import DnsView.Proofs.Attempts
import DnsView.Proofs.Message.Names
import DnsView.Proofs.Net.AddressTexts
import DnsView.Proofs.Text.Bytes
import DnsView.Proofs.View.Mappings

/-!
# Records read back from their mappings

A record is shown unless its payload belongs to another type, and the mapping that shows it is read
as the record itself, up to the name of two empty labels and assigned codes that were kept as
unknown ones.  The payload is never changed: its keys are exactly those that its type asks for, and
a raw payload is found first whatever the type is.
-/

namespace DnsView

/-!
## Payloads
-/

namespace Payload

theorem fits_iff (p : Payload) (t : RecordType) :
    p.Fits t ↔ ∀ u, p.recordType? = some u → u = t := by
  unfold Fits
  cases p.recordType? with
  | none =>
      simp
  | some u =>
      simp

theorem normal_of_recordType? {p : Payload} {t : RecordType} (h : p.recordType? = some t) :
    t.normal = t := by
  cases p <;> cases h <;> rfl

theorem Fits.normal {p : Payload} {t : RecordType} (h : p.Fits t) : p.Fits t.normal := by
  rcases h with h | h
  · exact Or.inl h
  · rw [normal_of_recordType? h]
    exact Or.inr h

theorem get?_header (header : Value) (p : Payload) :
    (Fields.ofList (("Header", header) :: p.toFields)).get? "Header" = some header := by
  cases p <;> simp [Fields.ofList, toFields, Fields.get?_insert]

theorem ofTypedFields_toFields {p : Payload} {t : RecordType} (h : p.recordType? = some t)
    (header : Value) :
    ofTypedFields t (Fields.ofList (("Header", header) :: p.toFields)) = .ok p := by
  cases p with
  | a address =>
      cases h
      rw [ofTypedFields, Fields.requireText_of_get? (s := address.text)]
      · simp [Ipv4.ofString?_text, bind, Except.bind, pure, Except.pure]
      · simp [Fields.ofList, toFields, Fields.get?_insert]
  | aaaa address =>
      cases h
      rw [ofTypedFields, Fields.requireText_of_get? (s := address.text)]
      · simp [Ipv6.ofString?_text, bind, Except.bind, pure, Except.pure]
      · simp [Fields.ofList, toFields, Fields.get?_insert]
  | ns host =>
      cases h
      rw [ofTypedFields, Fields.requireText_of_get? (s := host)]
      · rfl
      · simp [Fields.ofList, toFields, Fields.get?_insert]
  | cname target =>
      cases h
      rw [ofTypedFields, Fields.requireText_of_get? (s := target)]
      · rfl
      · simp [Fields.ofList, toFields, Fields.get?_insert]
  | ptr target =>
      cases h
      rw [ofTypedFields, Fields.requireText_of_get? (s := target)]
      · rfl
      · simp [Fields.ofList, toFields, Fields.get?_insert]
  | mx preference exchange =>
      cases h
      rw [ofTypedFields,
        Fields.requireUInt16_of_get? (v := .ofUInt16 preference) _
          (Value.uint16?_ofUInt16 preference),
        Fields.requireText_of_get? (s := exchange)]
      · rfl
      all_goals simp [Fields.ofList, toFields, Fields.get?_insert]
  | soa data =>
      cases h
      rw [ofTypedFields,
        Fields.requireText_of_get? (s := data.mname),
        Fields.requireText_of_get? (s := data.rname),
        Fields.requireUInt32_of_get? (v := .ofUInt32 data.serial) _
          (Value.uint32?_ofUInt32 data.serial),
        Fields.requireUInt32_of_get? (v := .ofUInt32 data.refresh) _
          (Value.uint32?_ofUInt32 data.refresh),
        Fields.requireUInt32_of_get? (v := .ofUInt32 data.retry) _
          (Value.uint32?_ofUInt32 data.retry),
        Fields.requireUInt32_of_get? (v := .ofUInt32 data.expire) _
          (Value.uint32?_ofUInt32 data.expire),
        Fields.requireUInt32_of_get? (v := .ofUInt32 data.minimum) _
          (Value.uint32?_ofUInt32 data.minimum)]
      · rfl
      all_goals simp [Fields.ofList, toFields, Fields.get?_insert]
  | srv data =>
      cases h
      rw [ofTypedFields,
        Fields.requireUInt16_of_get? (v := .ofUInt16 data.priority) _
          (Value.uint16?_ofUInt16 data.priority),
        Fields.requireUInt16_of_get? (v := .ofUInt16 data.weight) _
          (Value.uint16?_ofUInt16 data.weight),
        Fields.requireUInt16_of_get? (v := .ofUInt16 data.port) _
          (Value.uint16?_ofUInt16 data.port),
        Fields.requireText_of_get? (s := data.target)]
      · rfl
      all_goals simp [Fields.ofList, toFields, Fields.get?_insert]
  | txt parts =>
      cases h
      rw [ofTypedFields, Fields.requireTexts_of_get? (l := parts)]
      · rfl
      · simp [Fields.ofList, toFields, Fields.get?_insert]
  | raw bytes =>
      cases h

theorem get?_rdata {p : Payload} {t : RecordType} (h : p.recordType? = some t) (header : Value) :
    (Fields.ofList (("Header", header) :: p.toFields)).get? "Rdata" = none := by
  cases p with
  | raw bytes =>
      cases h
  | _ =>
      simp [Fields.ofList, toFields, Fields.get?_insert]

theorem ofFields_raw (bytes : List UInt8) (t : RecordType) (header : Value) :
    ofFields t (Fields.ofList (("Header", header) :: (raw bytes).toFields)) = .ok (raw bytes) := by
  have hget : (Fields.ofList (("Header", header) :: (raw bytes).toFields)).get? "Rdata" =
      some (.text (Text.encodeHex bytes)) := by
    simp [Fields.ofList, toFields, Fields.get?_insert]
  rw [ofFields, hget]
  simp only [Fields.requireText_of_get? hget, bind, Except.bind, Text.decodeHex_encodeHex]
  rfl

theorem ofFields_toFields {p : Payload} {t : RecordType} (h : p.Fits t) (header : Value) :
    ofFields t (Fields.ofList (("Header", header) :: p.toFields)) = .ok p := by
  rcases h with hraw | htyped
  · cases p with
    | raw bytes =>
        exact ofFields_raw bytes t header
    | _ =>
        cases hraw
  · rw [ofFields, get?_rdata htyped]
    exact ofTypedFields_toFields htyped header

/-!
### Payloads that were read
-/

theorem recordType?_of_ofTypedFields {t : RecordType} {fields : Mapping} {p : Payload}
    (h : ofTypedFields t fields = .ok p) : p.recordType? = some t := by
  cases t with
  | a =>
      rcases bind_eq_ok.mp h with ⟨s, _, h⟩
      split at h
      · cases h
        rfl
      · cases h
  | aaaa =>
      rcases bind_eq_ok.mp h with ⟨s, _, h⟩
      split at h
      · cases h
        rfl
      · cases h
  | cname | ns | ptr | txt =>
      rcases map_eq_ok.mp h with ⟨_, _, rfl⟩
      rfl
  | mx | soa | srv =>
      simp only [ofTypedFields, bind_eq_ok, pure_eq_ok] at h
      grind [recordType?]
  | _ =>
      cases h

theorem fits_of_ofFields {t : RecordType} {fields : Mapping} {p : Payload}
    (h : ofFields t fields = .ok p) : p.Fits t := by
  unfold ofFields at h
  split at h
  · exact Or.inr (recordType?_of_ofTypedFields h)
  · rcases bind_eq_ok.mp h with ⟨s, _, h⟩
    split at h
    · cases h
      exact Or.inl rfl
    · cases h

end Payload

/-!
## Records
-/

namespace Record

def normal (r : Record) : Record :=
  { r with name := r.name.normal, rtype := r.rtype.normal, rclass := r.rclass.normal }

theorem toMapping_of_fits {r : Record} (h : r.payload.Fits r.rtype) :
    r.toMapping =
      .ok (.ofList (("Header", .mapping r.headerFields) :: r.payload.toFields)) := by
  simp [toMapping, h, pure, Except.pure]

theorem toMapping_of_not_fits {r : Record} (h : ¬r.payload.Fits r.rtype) :
    r.toMapping = .error (.typeMismatch r.rtype.code r.payload.kind) := by
  simp [toMapping, h, throw, throwThe, MonadExceptOf.throw]

theorem ofMapping_of_fits {r : Record} (h : r.payload.Fits r.rtype) :
    ofMapping (.ofList (("Header", .mapping r.headerFields) :: r.payload.toFields)) =
      .ok r.normal := by
  have hname : r.headerFields.get? "Name" = some (.text r.name.text) := by
    simp [headerFields, Fields.ofList, Fields.get?_insert]
  have hrtype : r.headerFields.get? "Rrtype" = some (.ofUInt16 r.rtype.code) := by
    simp [headerFields, Fields.ofList, Fields.get?_insert]
  have hclass : r.headerFields.get? "Class" = some (.ofUInt16 r.rclass.code) := by
    simp [headerFields, Fields.ofList, Fields.get?_insert]
  have httl : r.headerFields.get? "Ttl" = some (.ofUInt32 r.ttl) := by
    simp [headerFields, Fields.ofList, Fields.get?_insert]
  rw [ofMapping, Fields.requireMapping_of_get? (Payload.get?_header _ _)]
  simp only [bind, Except.bind, Fields.requireText_of_get? hname,
    Fields.requireUInt16_of_get? hrtype (Value.uint16?_ofUInt16 _),
    Fields.requireUInt16_of_get? hclass (Value.uint16?_ofUInt16 _),
    Fields.requireUInt32_of_get? httl (Value.uint32?_ofUInt32 _),
    RecordType.ofCode_code, RecordClass.ofCode_code, Payload.ofFields_toFields h.normal,
    Name.ofString_text]
  rfl

/-- A mapping that shows a record is read as the normal form of the record. -/
theorem ofMapping_of_toMapping {r : Record} {m : Mapping} (h : r.toMapping = .ok m) :
    ofMapping m = .ok r.normal := by
  by_cases hfits : r.payload.Fits r.rtype
  · rw [toMapping_of_fits hfits] at h
    cases h
    exact ofMapping_of_fits hfits
  · rw [toMapping_of_not_fits hfits] at h
    cases h

/-!
### Records that were read
-/

structure IsNormal (r : Record) : Prop where
  rtype : ∃ c, r.rtype = .ofCode c
  rclass : ∃ c, r.rclass = .ofCode c
  name : r.name.labels ≠ ["", ""]

theorem IsNormal.normal_eq {r : Record} (h : r.IsNormal) : r.normal = r := by
  rcases h with ⟨⟨t, ht⟩, ⟨c, hc⟩, hname⟩
  have htype : r.rtype.normal = r.rtype := by
    rw [ht, RecordType.normal_ofCode]
  have hclass : r.rclass.normal = r.rclass := by
    rw [hc, RecordClass.normal_ofCode]
  rw [normal, Name.normal_of_ne hname, htype, hclass]

theorem ofMapping_spec {m : Mapping} {r : Record} (h : ofMapping m = .ok r) :
    r.payload.Fits r.rtype ∧ r.IsNormal := by
  simp only [ofMapping, bind_eq_ok, pure_eq_ok] at h
  rcases h with ⟨_, _, name, _, type, _, cls, _, ttl, _, payload, hpayload, rfl⟩
  exact ⟨Payload.fits_of_ofFields hpayload, ⟨type, rfl⟩, ⟨cls, rfl⟩, Name.labels_ofString_ne name⟩

/-!
### The round trip
-/

theorem toMapping_eq_error_iff (r : Record) (e : CodecError) :
    r.toMapping = .error e ↔
      ¬r.payload.Fits r.rtype ∧ e = .typeMismatch r.rtype.code r.payload.kind := by
  by_cases hfits : r.payload.Fits r.rtype
  · rw [toMapping_of_fits hfits]
    constructor
    · intro h
      cases h
    · intro h
      exact absurd hfits h.left
  · rw [toMapping_of_not_fits hfits]
    constructor
    · intro h
      cases h
      exact ⟨hfits, rfl⟩
    · intro h
      rw [h.right]

/--
A record is not shown exactly if it has a structured payload of another type, and is read back with
its name and codes read back otherwise, so unchanged if these are in normal form.
-/
theorem toMapping_roundTrip (r : Record) :
    (∀ e, r.toMapping = .error e ↔
      (∃ t, r.payload.recordType? = some t ∧ t ≠ r.rtype) ∧
        e = .typeMismatch r.rtype.code r.payload.kind) ∧
    ((∀ t, r.payload.recordType? = some t → t = r.rtype) →
      ∃ m, r.toMapping = .ok m ∧
        ofMapping m = .ok { r with
          name := .ofString r.name.text
          rtype := .ofCode r.rtype.code
          rclass := .ofCode r.rclass.code }) ∧
    ((∀ t, r.payload.recordType? = some t → t = r.rtype) → r.name.labels ≠ ["", ""] →
      RecordType.ofCode r.rtype.code = r.rtype → RecordClass.ofCode r.rclass.code = r.rclass →
      ∃ m, r.toMapping = .ok m ∧ ofMapping m = .ok r) := by
  refine ⟨?_, ?_, ?_⟩
  · intro e
    rw [toMapping_eq_error_iff, Payload.fits_iff]
    simp only [not_forall, exists_prop, ne_eq]
  · intro h
    have hfits := (Payload.fits_iff _ _).mpr h
    refine ⟨_, toMapping_of_fits hfits, ?_⟩
    rw [ofMapping_of_fits hfits, Name.ofString_text, RecordType.ofCode_code,
      RecordClass.ofCode_code]
    rfl
  · intro h hname htype hclass
    have hfits := (Payload.fits_iff _ _).mpr h
    have hnormal : r.IsNormal := ⟨⟨_, htype.symm⟩, ⟨_, hclass.symm⟩, hname⟩
    refine ⟨_, toMapping_of_fits hfits, ?_⟩
    rw [ofMapping_of_fits hfits, hnormal.normal_eq]

theorem toMapping_roundTrip_aaaa :
    ∃ m, toMapping ⟨⟨["a.b", "", "c"]⟩, .aaaa, .unknown 9, 60,
        .aaaa ⟨[0, 0, 0, 0, 0, 0xFFFF, 0x102, 0x304], rfl⟩⟩ = .ok m ∧
      ofMapping m = .ok ⟨⟨["a.b", "", "c"]⟩, .aaaa, .unknown 9, 60,
        .aaaa ⟨[0, 0, 0, 0, 0, 0xFFFF, 0x102, 0x304], rfl⟩⟩ :=
  (toMapping_roundTrip _).right.right
    (fun t h => by
      cases h
      rfl)
    (by decide) rfl rfl

end Record

/-!
## Mappings written anew

Many mappings are read as the same record: further keys are passed over, numbers may be floats, and
names, addresses and raw bytes have several spellings.  Showing the record again picks one of them.
-/

namespace Fields

/-- The mapping that shows the record that a mapping is read as. -/
def canonical (m : Mapping) : Except CodecError Mapping := do
  (← Record.ofMapping m).toMapping

theorem canonical_eq_ok_iff {m n : Mapping} :
    m.canonical = .ok n ↔ ∃ r, Record.ofMapping m = .ok r ∧ r.toMapping = .ok n :=
  bind_eq_ok

end Fields

namespace Record

theorem exists_toMapping_of_ofMapping {m : Mapping} {r : Record} (h : ofMapping m = .ok r) :
    ∃ n, r.toMapping = .ok n ∧ ofMapping n = .ok r := by
  rcases ofMapping_spec h with ⟨hfits, hnormal⟩
  refine ⟨_, toMapping_of_fits hfits, ?_⟩
  rw [ofMapping_of_fits hfits, hnormal.normal_eq]

theorem canonical_eq_error_iff (m : Mapping) (e : CodecError) :
    m.canonical = .error e ↔ ofMapping m = .error e := by
  cases hread : ofMapping m with
  | error e' =>
      simp [Fields.canonical, hread, bind, Except.bind]
  | ok r =>
      rcases exists_toMapping_of_ofMapping hread with ⟨n, hshown, _⟩
      rw [Fields.canonical_eq_ok_iff.mpr ⟨r, hread, hshown⟩]
      simp

/--
Every mapping that is read as a record has one canonical form, which is read as the same record and
is its own canonical form.  Only a mapping that is no record has none: what is read is never refused
when it is shown.
-/
theorem canonical_idempotent (m : Mapping) :
    (∀ r, ofMapping m = .ok r →
      ∃ n, r.toMapping = .ok n ∧ ofMapping n = .ok r ∧ m.canonical = .ok n ∧
        n.canonical = .ok n) ∧
      ∀ e, m.canonical = .error e ↔ ofMapping m = .error e := by
  constructor
  · intro r hread
    rcases exists_toMapping_of_ofMapping hread with ⟨n, hshown, hback⟩
    have hfirst := Fields.canonical_eq_ok_iff.mpr ⟨r, hread, hshown⟩
    have hagain := Fields.canonical_eq_ok_iff.mpr ⟨r, hback, hshown⟩
    exact ⟨n, hshown, hback, hfirst, hagain⟩
  · exact canonical_eq_error_iff m

def looseFields : Mapping := .ofList
  [("Header", .mapping (.ofList
      [("Name", .text "a\\b."), ("Rrtype", .float (.ofInt 16)), ("Class", .integer 1),
        ("Ttl", .integer 60)])),
    ("Rdata", .text "AB"), ("Comment", .null)]

theorem canonical_idempotent_looseFields :
    ofMapping looseFields = .ok ⟨⟨["ab", ""]⟩, .txt, .internet, 60, .raw [0xAB]⟩ ∧
      ∃ n, looseFields.canonical = .ok n ∧ n.canonical = .ok n ∧
        n.get? "Rdata" = some (.text "ab") ∧ n.get? "Comment" = none := by
  have hread : ofMapping looseFields = .ok ⟨⟨["ab", ""]⟩, .txt, .internet, 60, .raw [0xAB]⟩ := rfl
  rcases (canonical_idempotent looseFields).left _ hread with ⟨n, hshown, _, hfirst, hagain⟩
  cases hshown
  exact ⟨hread, _, hfirst, hagain, rfl, rfl⟩

end Record

end DnsView
