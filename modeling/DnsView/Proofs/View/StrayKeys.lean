import DnsView.Proofs.View.Mappings
import DnsView.Proofs.View.RecordAccounts
import DnsView.Proofs.View.StrictReading

/-!
# Stray keys

A record is read from the header of a mapping and from the keys of its payload.  Two mappings that
agree on these give the same record or the same error, whatever else they hold: the keys of another
type, keys of no type at all, or the structure of a payload that is raw.
-/

namespace DnsView

/-!
## Agreement
-/

namespace Fields

/-- The mappings agree on the keys that a record is read from. -/
structure AgreeAsRecords (f g : Mapping) : Prop where
  shown : f.get? "Header" = g.get? "Header" ∨ f.Has "Header" .mapping ∧ g.Has "Header" .mapping
  header : ∀ key ∈ Record.headerKeys, f.header.get? key.1 = g.header.get? key.1
  raw : f.get? "Rdata" = g.get? "Rdata"
  payload : f.get? "Rdata" = none → ∀ keys, f.recordType.payloadKeys? = some keys →
    ∀ key ∈ keys, f.get? key.1 = g.get? key.1

def recordKeys (fields : Mapping) : List String :=
  "Header" :: "Rdata" :: (fields.payloadKeys fields.recordType).map Prod.fst

end Fields

/-- The views agree on everything that a message is rebuilt from. -/
structure View.AgreeAsMessages (v v' : View) : Prop where
  header : v.header = v'.header
  compress : v.compress = v'.compress
  questions : v.questions = v'.questions
  answers : List.Forall₂ Fields.AgreeAsRecords v.answers v'.answers
  nameservers : List.Forall₂ Fields.AgreeAsRecords v.nameservers v'.nameservers
  extras : List.Forall₂ Fields.AgreeAsRecords v.extras v'.extras

/-!
## The same readings
-/

namespace Fields

variable {f g : Mapping}

section

variable {key : String} (h : f.get? key = g.get? key)
include h

theorem requireText_congr : f.requireText key = g.requireText key := by
  simp only [requireText, require, h]

theorem requireUInt16_congr : f.requireUInt16 key = g.requireUInt16 key := by
  simp only [requireUInt16, require, h]

theorem requireUInt32_congr : f.requireUInt32 key = g.requireUInt32 key := by
  simp only [requireUInt32, require, h]

end

theorem AgreeAsRecords.bind_header {α : Type} (h : f.AgreeAsRecords g)
    {read read' : Mapping → Except CodecError α} (hread : read f.header = read' g.header) :
    f.requireMapping "Header" >>= read = g.requireMapping "Header" >>= read' := by
  rcases h.shown with hsame | ⟨⟨v, hf, m, rfl⟩, ⟨w, hg, n, rfl⟩⟩
  · have hrequire : f.requireMapping "Header" = g.requireMapping "Header" := by
      simp only [requireMapping, require, hsame]
    cases hheader : g.requireMapping "Header" with
    | error e =>
        rw [hrequire, hheader]
        rfl
    | ok m =>
        rw [hheader] at hrequire
        rw [header_of_requireMapping hrequire, header_of_requireMapping hheader] at hread
        rw [hrequire]
        exact hread
  · rw [header_of_get? hf, header_of_get? hg] at hread
    rw [requireMapping_of_get? hf, requireMapping_of_get? hg]
    exact hread

end Fields

open Fields

namespace Payload

variable {f g : Mapping} {t : RecordType}

theorem ofTypedFields_congr {keys : List (String × ValueShape)} (hkeys : t.payloadKeys? = some keys)
    (h : ∀ key ∈ keys, f.get? key.1 = g.get? key.1) : ofTypedFields t f = ofTypedFields t g := by
  cases t with
  | a | aaaa | cname | ns | ptr | mx | soa | srv | txt =>
      cases hkeys
      simp only [List.forall_mem_cons] at h
      simp only [ofTypedFields, requireText, requireUInt16, requireUInt32, requireTexts, require, h]
  | _ =>
      cases hkeys

theorem ofFields_congr (hraw : f.get? "Rdata" = g.get? "Rdata")
    (h : f.get? "Rdata" = none → ∀ keys, t.payloadKeys? = some keys →
      ∀ key ∈ keys, f.get? key.1 = g.get? key.1) : ofFields t f = ofFields t g := by
  unfold ofFields
  rw [← hraw, requireText_congr hraw]
  cases hget : f.get? "Rdata" with
  | some v =>
      rfl
  | none =>
      cases hkeys : t.payloadKeys? with
      | some keys =>
          exact ofTypedFields_congr hkeys (h hget keys hkeys)
      | none =>
          show ofTypedFields t f = ofTypedFields t g
          rw [ofTypedFields_of_payloadKeys?_eq_none f hkeys,
            ofTypedFields_of_payloadKeys?_eq_none g hkeys]

end Payload

theorem Record.ofMapping_congr {f g : Mapping} (h : f.AgreeAsRecords g) :
    ofMapping f = ofMapping g := by
  have hkeys := h.header
  simp only [headerKeys, List.forall_mem_cons] at hkeys
  rcases hkeys with ⟨hname, htype, hclass, httl, _⟩
  apply h.bind_header
  dsimp only
  rw [requireText_congr hname, requireUInt16_congr hclass, requireUInt32_congr httl]
  apply bind_congr_ok
  intro name _
  rw [← requireUInt16_congr htype]
  -- Which keys of the payload have to agree is known only once the type was read.
  apply bind_congr_ok
  intro type hrequired
  have hpayload : Payload.ofFields (.ofCode type) f = Payload.ofFields (.ofCode type) g := by
    apply Payload.ofFields_congr h.raw
    rw [← recordType_of_requireUInt16 hrequired]
    exact h.payload
  rw [hpayload]

/-!
## Stray keys of mappings and views
-/

theorem Fields.agreeAsRecords_of_recordKeys {f g : Mapping}
    (h : ∀ key ∈ f.recordKeys, f.get? key = g.get? key) : f.AgreeAsRecords g := by
  have hheader : f.get? "Header" = g.get? "Header" := h _ (by simp [recordKeys])
  have hsame : f.header = g.header := by
    rw [header, header, hheader]
  refine ⟨.inl hheader, fun _ _ => by rw [hsame], h _ (by simp [recordKeys]), ?_⟩
  intro hraw keys hkeys key hkey
  apply h
  have hread : f.payloadKeys f.recordType = keys := by
    rw [payloadKeys, hraw, hkeys]
    rfl
  rw [recordKeys, hread]
  exact .tail _ (.tail _ (List.mem_map_of_mem hkey))

theorem View.AgreeAsMessages.toMessage_eq {v v' : View} (h : v.AgreeAsMessages v') :
    v.toMessage = v'.toMessage := by
  have hconvert : ∀ part {fs gs : List Mapping}, List.Forall₂ AgreeAsRecords fs gs →
      convertSection part Record.ofMapping fs = convertSection part Record.ofMapping gs :=
    fun part _ _ hsection =>
      convertFrom_congr part (hsection.imp fun _ _ hrecord => Record.ofMapping_congr hrecord) 0
  simp only [toMessage, h.header, h.compress, h.questions, hconvert _ h.answers,
    hconvert _ h.extras, hconvert _ h.nameservers]

/--
A record is read from the keys of its header and of its payload only.  Other keys change neither the
record nor the error, nor what is rebuilt from a view or reported about it, and a payload that is
raw is read from no key but its own.
-/
theorem Record.ofMapping_stray_keys :
    (∀ f g : Mapping, f.AgreeAsRecords g → ofMapping f = ofMapping g) ∧
      (∀ (fields : Mapping) (key : String) (v : Value), key ∉ fields.recordKeys →
        ofMapping (fields.insert key v) = ofMapping fields ∧
          ofMapping (fields.erase key) = ofMapping fields) ∧
      ∀ s s' : Session, s.view.AgreeAsMessages s'.view → s.toMessage = s'.toMessage := by
  refine ⟨fun f g => ofMapping_congr, ?_, ?_⟩
  · intro fields key v hkey
    have hother : ∀ k ∈ fields.recordKeys, key ≠ k := by
      rintro k hk rfl
      exact hkey hk
    constructor
    · symm
      apply ofMapping_congr
      apply agreeAsRecords_of_recordKeys
      intro k hk
      rw [get?_insert, if_neg (hother k hk)]
    · symm
      apply ofMapping_congr
      apply agreeAsRecords_of_recordKeys
      intro k hk
      rw [get?_erase, if_neg (hother k hk)]
  · intro s s' h
    rw [Session.toMessage, Session.toMessage, h.toMessage_eq]

def Record.rawFields (others : List (String × Value)) : Mapping := .ofList
  (("Header", .mapping (.ofList [("Name", .text "a."), ("Rrtype", .integer 1),
      ("Class", .integer 1), ("Ttl", .integer 60)])) ::
    ("Rdata", .text "00FF") :: others)

theorem Record.ofMapping_stray_keys_raw :
    ofMapping (rawFields [("A", .integer 7), ("Mx", .text "b."), ("Comment", .null)]) =
        ofMapping (rawFields []) ∧
      ofMapping (rawFields []) = .ok ⟨⟨["a", ""]⟩, .a, .internet, 60, .raw [0x00, 0xFF]⟩ := by
  refine ⟨ofMapping_stray_keys.left _ _ ⟨.inl rfl, fun _ _ => rfl, rfl, ?_⟩, rfl⟩
  intro hraw
  cases hraw

end DnsView
