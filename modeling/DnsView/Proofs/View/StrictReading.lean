import DnsView.Proofs.View.RecordKeys

/-!
# Strict reading of records

A mapping is read exactly if it has the keys of a record.  They are asked for in a fixed order,
those of the header before those of the payload, and otherwise the error blames the first that is
missing or has a wrong value.
-/

namespace DnsView

open Requirement (Judged)

namespace Fields

/-- What a mapping has to hold to be a record, in the order in which it is asked for. -/
def requirements (fields : Mapping) : List Requirement :=
  ⟨fields, "Header", .mapping⟩ :: (fields.header.requiring Record.headerKeys ++
    fields.requiring (fields.payloadKeys fields.recordType))

end Fields

/-!
## Payloads
-/

namespace Payload

variable (fields : Mapping)

theorem judged_ofTypedFields {t : RecordType} {keys : List (String × ValueShape)}
    (hkeys : t.payloadKeys? = some keys) :
    Judged (fields.requiring keys) (ofTypedFields t fields) := by
  cases t with
  | a =>
      cases hkeys
      apply fields.judged_requireText_bind "A"
      · rintro v ⟨s, _, h, _⟩
        exact ⟨s, h⟩
      · intro s
        apply ValueShape.decides_of_option (ValueShape.accepts_ipv4_iff s)
        cases Ipv4.ofString? s <;> rfl
  | aaaa =>
      cases hkeys
      apply fields.judged_requireText_bind "AAAA"
      · rintro v ⟨s, _, h, _⟩
        exact ⟨s, h⟩
      · intro s
        apply ValueShape.decides_of_option (ValueShape.accepts_ipv6_iff s)
        cases Ipv6.ofString? s <;> rfl
  | cname =>
      cases hkeys
      exact (fields.judged_requireText "Target").map cname
  | ns =>
      cases hkeys
      exact (fields.judged_requireText "Ns").map ns
  | ptr =>
      cases hkeys
      exact (fields.judged_requireText "Ptr").map ptr
  | mx =>
      cases hkeys
      exact (fields.judged_requireUInt16 "Preference").bind fun _ _ =>
        (fields.judged_requireText "Mx").bind fun _ _ => .pure _
  | soa =>
      cases hkeys
      exact (fields.judged_requireText "Ns").bind fun _ _ =>
        (fields.judged_requireText "Mbox").bind fun _ _ =>
        (fields.judged_requireUInt32 "Serial").bind fun _ _ =>
        (fields.judged_requireUInt32 "Refresh").bind fun _ _ =>
        (fields.judged_requireUInt32 "Retry").bind fun _ _ =>
        (fields.judged_requireUInt32 "Expire").bind fun _ _ =>
        (fields.judged_requireUInt32 "Minttl").bind fun _ _ => .pure _
  | srv =>
      cases hkeys
      exact (fields.judged_requireUInt16 "Priority").bind fun _ _ =>
        (fields.judged_requireUInt16 "Weight").bind fun _ _ =>
        (fields.judged_requireUInt16 "Port").bind fun _ _ =>
        (fields.judged_requireText "Target").bind fun _ _ => .pure _
  | txt =>
      cases hkeys
      exact (fields.judged_requireTexts "Txt").map txt
  | _ =>
      cases hkeys

theorem ofTypedFields_of_payloadKeys?_eq_none {t : RecordType} (h : t.payloadKeys? = none) :
    ofTypedFields t fields = .error (.missingField "Rdata") := by
  cases t <;> first | rfl | cases h

theorem judged_ofFields (t : RecordType) :
    Judged (fields.requiring (fields.payloadKeys t)) (ofFields t fields) := by
  unfold Fields.payloadKeys ofFields
  cases hraw : fields.get? "Rdata" with
  | some v =>
      apply fields.judged_requireText_bind "Rdata"
      · rintro v ⟨s, h, _⟩
        exact ⟨s, h⟩
      · intro s
        cases hs : Text.decodeHex s with
        | error e =>
            refine .refused ?_ (.noHex e)
            intro h
            rcases (ValueShape.accepts_bytes_iff s).mp h with ⟨bytes, hbytes⟩
            rw [hs] at hbytes
            cases hbytes
        | ok bytes =>
            exact .taken ((ValueShape.accepts_bytes_iff s).mpr ⟨bytes, hs⟩) (raw bytes)
  | none =>
      cases hkeys : t.payloadKeys? with
      | some keys =>
          exact judged_ofTypedFields fields hkeys
      | none =>
          show Judged [⟨fields, "Rdata", .bytes⟩] (ofTypedFields t fields)
          rw [ofTypedFields_of_payloadKeys?_eq_none fields hkeys]
          exact .blame (.missing hraw)

end Payload

/-!
## Records
-/

namespace Fields

variable {fields : Mapping}

theorem require_eq_ok_iff {key : String} {v : Value} :
    fields.require key = .ok v ↔ fields.get? key = some v := by
  rw [require]
  cases fields.get? key with
  | none =>
      simp [throw, throwThe, MonadExceptOf.throw]
  | some w =>
      simp [pure, Except.pure]

theorem header_of_requireMapping {m : Mapping} (h : fields.requireMapping "Header" = .ok m) :
    fields.header = m := by
  rcases bind_eq_ok.mp h with ⟨v, hv, hm⟩
  rw [require_eq_ok_iff] at hv
  cases v with
  | mapping m' =>
      cases hm
      exact header_of_get? hv
  | _ =>
      cases hm

theorem recordType_of_requireUInt16 {type : UInt16}
    (h : fields.header.requireUInt16 "Rrtype" = .ok type) : fields.recordType = .ofCode type := by
  rcases bind_eq_ok.mp h with ⟨v, hv, htype⟩
  rw [require_eq_ok_iff] at hv
  split at htype
  · rename_i n hn
    cases htype
    exact recordType_of_uint16? hv hn
  · cases htype

theorem forall_requirements_iff :
    (∀ q ∈ fields.requirements, q.Met) ↔
      fields.Has "Header" .mapping ∧ (∀ key ∈ Record.headerKeys, fields.header.Has key.1 key.2) ∧
        ∀ key ∈ fields.payloadKeys fields.recordType, fields.Has key.1 key.2 := by
  rw [requirements, List.forall_mem_cons, List.forall_mem_append,
    Requirement.forall_requiring_iff, Requirement.forall_requiring_iff]
  rfl

theorem forall_payloadKeys_iff (fields : Mapping) (t : RecordType) :
    (∀ key ∈ fields.payloadKeys t, fields.Has key.1 key.2) ↔
      fields.Has "Rdata" .bytes ∨
        fields.get? "Rdata" = none ∧
          ∃ keys, t.payloadKeys? = some keys ∧ ∀ key ∈ keys, fields.Has key.1 key.2 := by
  unfold payloadKeys
  cases hraw : fields.get? "Rdata" with
  | some v =>
      simp
  | none =>
      have hmissing : ¬fields.Has "Rdata" .bytes := by
        rintro ⟨v, hv, _⟩
        rw [hraw] at hv
        cases hv
      cases t.payloadKeys? <;> simp [hmissing]

end Fields

namespace Record

theorem judged_ofMapping (fields : Mapping) : Judged fields.requirements (ofMapping fields) := by
  apply (fields.judged_requireMapping "Header").bind
  intro header hheader
  -- The later requirements are stated about what the mapping holds, not about what was read.
  rw [← Fields.header_of_requireMapping hheader]
  apply (fields.header.judged_requireText "Name").bind
  intro name _
  apply (fields.header.judged_requireUInt16 "Rrtype").bind
  intro type htype
  apply (fields.header.judged_requireUInt16 "Class").bind
  intro cls _
  apply (fields.header.judged_requireUInt32 "Ttl").bind
  intro ttl _
  rw [Fields.recordType_of_requireUInt16 htype, ← List.append_nil (fields.requiring _)]
  exact (Payload.judged_ofFields fields (.ofCode type)).bind fun _ _ => .pure _

end Record

theorem Fields.isRecord_iff (fields : Mapping) :
    fields.IsRecord ↔ ∀ q ∈ fields.requirements, q.Met := by
  rw [forall_requirements_iff]
  constructor
  · rintro ⟨header, v, type, hheader, hname, hget, hv, hclass, httl, hpayload⟩
    have hsame : fields.header = header := header_of_get? hheader
    rw [← hsame] at hname hget hclass httl
    have htype : fields.recordType = .ofCode type :=
      recordType_of_uint16? hget ((v.uint16?_eq_some_iff type).mpr hv)
    refine ⟨⟨_, hheader, header, rfl⟩, ?_, ?_⟩
    · simp only [Record.headerKeys, List.forall_mem_cons]
      exact ⟨hname, ⟨v, hget, type.toNat, hv, type.toNat_lt_size⟩, hclass, httl, by simp⟩
    · rw [htype]
      exact (fields.forall_payloadKeys_iff _).mpr hpayload
  · rintro ⟨⟨w, hheader, header, rfl⟩, hkeys, hpayload⟩
    have hsame : fields.header = header := header_of_get? hheader
    simp only [Record.headerKeys, List.forall_mem_cons] at hkeys
    rcases hkeys with ⟨hname, ⟨v, hget, haccepts⟩, hclass, httl, _⟩
    rcases (ValueShape.accepts_unsigned16_iff v).mp haccepts with ⟨type, hword⟩
    have hv : v.IsInteger type.toNat := (v.uint16?_eq_some_iff type).mp hword
    rw [recordType_of_uint16? hget hword, forall_payloadKeys_iff] at hpayload
    rw [hsame] at hname hget hclass httl
    exact ⟨header, v, type, hheader, hname, hget, hv, hclass, httl, hpayload⟩

/--
A mapping is read exactly if it has the keys of a record.  Otherwise the error blames the first key,
in the order of the header and then of the payload, that is missing or has a wrong value.
-/
theorem Record.ofMapping_strict (fields : Mapping) :
    ((∃ r, ofMapping fields = .ok r) ↔ fields.IsRecord) ∧
      ∀ e, ofMapping fields = .error e →
        (∃ before q after, fields.requirements = before ++ q :: after ∧ (∀ p ∈ before, p.Met) ∧
          q.BlamedBy e) ∧
        ∀ code kind, e ≠ .typeMismatch code kind := by
  have hjudged := judged_ofMapping fields
  constructor
  · rw [Fields.isRecord_iff]
    exact hjudged.exists_ok_iff
  · intro e he
    rw [he] at hjudged
    rcases hjudged.of_error with ⟨before, q, after, hqs, hbefore, hq⟩
    refine ⟨⟨before, q, after, hqs, hbefore, hq⟩, ?_⟩
    rintro code kind rfl
    cases hq

def Record.misplacedFields : Mapping := .ofList
  [("Header", .mapping (.ofList [("Name", .text "a."), ("Rrtype", .integer 16),
      ("Class", .integer 1), ("Ttl", .integer 60)])),
    ("Rdata", .integer 7), ("Txt", .list [.text "a"])]

theorem Record.ofMapping_strict_misplaced :
    ofMapping misplacedFields = .error (.invalidField "Rdata" (.noText "integer")) ∧
      ¬misplacedFields.IsRecord := by
  have hread : ofMapping misplacedFields = .error (.invalidField "Rdata" (.noText "integer")) := rfl
  refine ⟨hread, fun h => ?_⟩
  rcases (ofMapping_strict misplacedFields).left.mpr h with ⟨r, hr⟩
  rw [hread] at hr
  cases hr

end DnsView
