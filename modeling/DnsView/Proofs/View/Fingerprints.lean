import DnsView.View.Basic
import DnsView.Proofs.Digest.Streams
import DnsView.Proofs.View.SettledValues
import DnsView.Proofs.View.MessageRoundTrip

/-!
# Fingerprints of views

What two views with one fingerprint have in common, and what this says about a view that a script
has handed back.
-/

/-!
## What fingerprints tell apart

The bytes that are digested of a view determine everything that counts of it, up to floats that are
not finite and null, which have the same text.  The parts are recovered from the left: the end of a
JSON text is told by the text, and the address of the sender is told apart from the flag after it.
-/

namespace DnsView

/-- Two sequences of bytes are different and have the same digest. -/
def Sha256.Collision (bytes bytes' : List UInt8) : Prop :=
  bytes ≠ bytes' ∧ Sha256.digest bytes = Sha256.digest bytes'

/-!
### Headers
-/

theorem Json.ofUInt16_inj {n k : UInt16} (h : (Json.ofUInt16 n).node = (Json.ofUInt16 k).node) :
    n = k := by
  have hint := Json.Numeral.ofInt_injective (Json.Node.number.inj h)
  exact UInt16.toNat_inj.mp (Int.ofNat.inj hint)

theorem Header.eq_of_node {h k : Header} (hnode : h.toJson.node = k.toJson.node) : h = k := by
  simp only [toJson, Json.node, Json.memberNodes, Json.Node.object.injEq,
    Json.Members.cons.injEq, Json.Node.boolean.injEq, true_and, and_true] at hnode
  rcases hnode with ⟨hauthenticated, hauthoritative, hchecking, hid, hopcode, hrcode, havailable,
    hdesired, hresponse, htruncated, hzero⟩
  have hid := Json.ofUInt16_inj hid
  have hopcode := Json.Numeral.ofInt_injective (Json.Node.number.inj hopcode)
  have hopcode := UInt8.toNat_inj.mp (Int.ofNat.inj hopcode)
  have hrcode := Json.ofUInt16_inj hrcode
  cases h
  cases k
  simp only [Header.mk.injEq]
  exact ⟨hauthenticated, hauthoritative, hchecking, hid, hopcode, hrcode, havailable, hdesired,
    hresponse, htruncated, hzero⟩

/-!
### Parts of a stream
-/

theorem Json.printablePart_compact (j : Json) : PrintablePart (Text.utf8 j.compact) := by
  constructor
  · rcases Json.chars_eq_cons .compact 0 j with ⟨c, cs, hcons, _⟩
    rw [Json.compact, Json.render, hcons, Text.utf8_ofList]
    simp
  · exact Json.printable_bytes j

theorem Json.framed_compact {j k : Json} {parts parts' : List (List UInt8)}
    (hj : ∀ rest, Json.Delimits rest j) (hk : ∀ rest, Json.Delimits rest k)
    (h : framed (Text.utf8 j.compact :: parts) = framed (Text.utf8 k.compact :: parts')) :
    j.node = k.node ∧ framed parts = framed parts' :=
  Json.compact_append_injective hj hk (framed_cons_eq h).right

theorem flagByte_small (b : Bool) : (if b then (1 : UInt8) else 0).toNat < 32 := by
  cases b with
  | true =>
      decide
  | false =>
      decide

theorem flagByte_injective {b c : Bool} (h : (if b then (1 : UInt8) else 0) = if c then 1 else 0) :
    b = c := by
  revert b c
  decide

namespace View

/-!
### The digested stream

The answers come first, then the address of the sender and the flag, and after these nothing but
JSON texts.
-/

/-- The bytes that are digested of a view. -/
def stream (v : View) : List UInt8 := framed (v.parts.map Part.content)

theorem fingerprint_eq_digest (v : View) : v.fingerprint = ⟨Sha256.digest v.stream⟩ :=
  rfl

def laterParts (v : View) : List (List UInt8) :=
  [Text.utf8 (mappingsToJson v.extras).compact, Text.utf8 v.header.toJson.compact,
    Text.utf8 (mappingsToJson v.nameservers).compact,
    Text.utf8 (mappingsToJson v.questions).compact]

theorem printablePart_laterParts (v : View) : ∀ part ∈ v.laterParts, PrintablePart part := by
  intro part hpart
  simp only [laterParts, List.mem_cons, List.not_mem_nil, or_false] at hpart
  rcases hpart with rfl | rfl | rfl | rfl
  all_goals exact Json.printablePart_compact _

theorem stream_eq_framed (v : View) :
    v.stream = framed (Text.utf8 (mappingsToJson v.answers).compact :: Text.utf8 v.client.ip ::
      [if v.compress then 1 else 0] :: v.laterParts) :=
  rfl

/--
Two views agree in everything that is digested of them: all but the device that is known for the
sender, where floats that are not finite count as null.
-/
structure SameContent (v w : View) : Prop where
  ip : v.client.ip = w.client.ip
  compress : v.compress = w.compress
  header : v.header = w.header
  answers : v.answers.map Fields.settled = w.answers.map Fields.settled
  extras : v.extras.map Fields.settled = w.extras.map Fields.settled
  nameservers : v.nameservers.map Fields.settled = w.nameservers.map Fields.settled
  questions : v.questions.map Fields.settled = w.questions.map Fields.settled

theorem compact_eq_of_settled {ms ns : List Mapping}
    (h : ms.map Fields.settled = ns.map Fields.settled) :
    (mappingsToJson ms).compact = (mappingsToJson ns).compact := by
  rw [Json.compact, Json.compact, Json.render, Json.render, ← chars_mappings_settled, h,
    chars_mappings_settled]

theorem SameContent.stream_eq {v w : View} (h : v.SameContent w) : v.stream = w.stream := by
  rw [stream_eq_framed, stream_eq_framed, laterParts, laterParts, h.ip, h.compress, h.header,
    compact_eq_of_settled h.answers, compact_eq_of_settled h.extras,
    compact_eq_of_settled h.nameservers, compact_eq_of_settled h.questions]

theorem sameContent_of_stream {v w : View} (h : v.stream = w.stream) : v.SameContent w := by
  have hdelimits : ∀ ms rest, Json.Delimits rest (mappingsToJson ms) := by
    intro ms rest
    trivial
  have hheader : ∀ k : Header, ∀ rest, Json.Delimits rest k.toJson := by
    intro k rest
    trivial
  rw [stream_eq_framed, stream_eq_framed] at h
  rcases Json.framed_compact (hdelimits _) (hdelimits _) h with ⟨hanswers, h⟩
  rcases framed_cons_eq h with ⟨hlength, h⟩
  rcases text_eq_of_framed v.printablePart_laterParts w.printablePart_laterParts
    (flagByte_small v.compress) (flagByte_small w.compress) hlength h with ⟨hip, hflag, h⟩
  rcases Json.framed_compact (hdelimits _) (hdelimits _) h with ⟨hextras, h⟩
  rcases Json.framed_compact (hheader _) (hheader _) h with ⟨hheader, h⟩
  rcases Json.framed_compact (hdelimits _) (hdelimits _) h with ⟨hnameservers, h⟩
  rcases Json.framed_compact (hdelimits _) (hdelimits _) h with ⟨hquestions, _⟩
  exact {
    ip := Text.utf8_injective hip
    compress := flagByte_injective hflag
    header := Header.eq_of_node hheader
    answers := mappings_settled_eq_of_node hanswers
    extras := mappings_settled_eq_of_node hextras
    nameservers := mappings_settled_eq_of_node hnameservers
    questions := mappings_settled_eq_of_node hquestions
  }

theorem stream_eq_iff (v w : View) : v.stream = w.stream ↔ v.SameContent w :=
  ⟨sameContent_of_stream, SameContent.stream_eq⟩

theorem fingerprint_eq_iff {v w : View} (h : ¬Sha256.Collision v.stream w.stream) :
    v.fingerprint = w.fingerprint ↔ v.SameContent w := by
  rw [← stream_eq_iff, fingerprint_eq_digest, fingerprint_eq_digest, Fingerprint.mk.injEq]
  constructor
  · intro hdigest
    by_contra hne
    exact h ⟨hne, hdigest⟩
  · intro hstream
    rw [hstream]

theorem stream_ne_of_fingerprint_ne {v w : View} (h : v.fingerprint ≠ w.fingerprint) :
    v.stream ≠ w.stream := by
  intro hstream
  apply h
  rw [fingerprint_eq_digest, fingerprint_eq_digest, hstream]

theorem not_collision_of_fingerprint_ne {v w : View} (h : v.fingerprint ≠ w.fingerprint) :
    ¬Sha256.Collision v.stream w.stream := by
  intro hcollision
  apply h
  rw [fingerprint_eq_digest, fingerprint_eq_digest, hcollision.right]

/--
What is digested of a view is the same for another view exactly if the two agree in all that counts
for the message.  So are the fingerprints, unless the digest collides on just these two.
-/
theorem fingerprint_sensitivity (v w : View) :
    (v.stream = w.stream ↔ v.SameContent w) ∧
      (¬Sha256.Collision v.stream w.stream →
        (v.fingerprint = w.fingerprint ↔ v.SameContent w)) := by
  constructor
  · exact stream_eq_iff v w
  · intro hclear
    exact fingerprint_eq_iff hclear

def ofAnswer (key : String) (value : Value) : View :=
  { (default : View) with answers := [.ofList [(key, value)]] }

/--
NaN counts as null.  The two zeros have different streams and different digests, so they are told
apart.
-/
theorem fingerprint_sensitivity_floats :
    let nan := ofAnswer "Weight" (.float .nan)
    let null := ofAnswer "Weight" .null
    let zero := ofAnswer "Weight" (.float (.finite false .zero))
    let minusZero := ofAnswer "Weight" (.float (.finite true .zero))
    ¬Sha256.Collision nan.stream null.stream ∧ nan.fingerprint = null.fingerprint ∧
      zero.stream ≠ minusZero.stream ∧ ¬Sha256.Collision zero.stream minusZero.stream ∧
      ¬zero.SameContent minusZero := by
  intro nan null zero minusZero
  have hsame : nan.SameContent null := ⟨rfl, rfl, rfl, rfl, rfl, rfl, rfl⟩
  have hclear : ¬Sha256.Collision nan.stream null.stream :=
    fun h => h.left ((fingerprint_sensitivity _ _).left.mpr hsame)
  have hdigests : zero.fingerprint ≠ minusZero.fingerprint := by decide +kernel
  have hdifferent := not_collision_of_fingerprint_ne hdigests
  refine ⟨hclear, ((fingerprint_sensitivity _ _).right hclear).mpr hsame,
    stream_ne_of_fingerprint_ne hdigests, hdifferent, ?_⟩
  intro h
  exact hdigests (((fingerprint_sensitivity _ _).right hdifferent).mpr h)

end View

/-!
## Views that nobody edited

The view of a message holds integers and texts only, two lists or mappings deep at most.  So it is
the only view with its content, and whoever hands back a view with this content hands back one that
stands for the same message.
-/

/-!
### Mappings of records and questions
-/

def Value.Shown (v : Value) : Prop :=
  v.Leaves Value.Solid ∧ v.depth ≤ 1

namespace Value

@[simp]
theorem shown_text (s : String) : (text s).Shown :=
  ⟨trivial, Nat.zero_le 1⟩

@[simp]
theorem shown_ofUInt16 (n : UInt16) : (ofUInt16 n).Shown :=
  ⟨trivial, Nat.zero_le 1⟩

@[simp]
theorem shown_ofUInt32 (n : UInt32) : (ofUInt32 n).Shown :=
  ⟨trivial, Nat.zero_le 1⟩

theorem shown_texts (l : List String) : (list (l.map text)).Shown := by
  have hitems : ItemLeaves Solid (l.map text) ∧ itemDepth (l.map text) = 0 := by
    induction l with
    | nil =>
        exact ⟨trivial, rfl⟩
    | cons s l ih =>
        refine ⟨⟨trivial, ih.left⟩, ?_⟩
        rw [List.map_cons, itemDepth, ih.right]
        rfl
  refine ⟨hitems.left, ?_⟩
  rw [depth, hitems.right]

end Value

theorem Fields.solid_ofList {n : Nat} {l : List (String × Value)}
    (h : ∀ field ∈ l, field.2.Leaves Value.Solid ∧ field.2.depth ≤ n) :
    (ofList l).Leaves Value.Solid ∧ (ofList l).depth ≤ n := by
  constructor
  · apply (Fields.leaves_iff _).mpr
    exact Fields.all_ofList fun field hfield => (h field hfield).left
  · apply (Fields.depth_le_iff _).mpr
    exact Fields.all_ofList fun field hfield => (h field hfield).right

theorem Payload.shown_toFields (p : Payload) : ∀ field ∈ p.toFields, field.2.Shown := by
  cases p with
  | txt parts =>
      simp [toFields, Value.shown_texts]
  | _ =>
      simp [toFields]

theorem Record.shown_headerFields (r : Record) : (Value.mapping r.headerFields).Shown := by
  have hflat : ∀ field ∈ [("Name", Value.text r.name.text), ("Rrtype", .ofUInt16 r.rtype.code),
      ("Class", .ofUInt16 r.rclass.code), ("Ttl", .ofUInt32 r.ttl)],
      field.2.Leaves Value.Solid ∧ field.2.depth ≤ 0 := by
    simp [Value.ofUInt16, Value.ofUInt32, Value.Leaves, Value.Solid, Value.depth]
  rcases Fields.solid_ofList hflat with ⟨hleaves, hdepth⟩
  exact ⟨hleaves, Nat.succ_le_succ hdepth⟩

theorem Record.solid_of_toMapping {r : Record} {m : Mapping} (h : r.toMapping = .ok m) :
    m.Leaves Value.Solid ∧ m.depth ≤ 1 := by
  by_cases hfits : r.payload.Fits r.rtype
  · rw [toMapping_of_fits hfits, Except.ok.injEq] at h
    subst h
    apply Fields.solid_ofList
    intro field hfield
    rcases List.mem_cons.mp hfield with rfl | hpayload
    · exact r.shown_headerFields
    · exact r.payload.shown_toFields field hpayload
  · rw [toMapping_of_not_fits hfits] at h
    cases h

theorem Record.solid_of_mem_results {part : Section} {rs : List Record} {m : Mapping}
    (h : m ∈ (convertSection part toMapping rs).results) :
    m.Leaves Value.Solid ∧ m.depth ≤ 1 := by
  rcases exists_of_mem_results part h with ⟨r, _, hr⟩
  exact solid_of_toMapping hr

theorem Question.solid_toMapping (q : Question) :
    q.toMapping.Leaves Value.Solid ∧ q.toMapping.depth ≤ 1 := by
  have hshown : ∀ field ∈ [("Name", Value.text q.name.text), ("Qtype", .ofUInt16 q.qtype.code),
      ("Qclass", .ofUInt16 q.qclass.code)], field.2.Shown := by
    simp
  exact Fields.solid_ofList hshown

/-!
### Views of messages
-/

namespace View

theorem solid_ofMessage (m : Message) (client : String) (lookup : Lookup) :
    ∀ fields ∈ (ofMessage m client lookup).1.mappings,
      fields.Leaves Value.Solid ∧ fields.depth ≤ 1 := by
  have hrecords (part : Section) (rs : List Record) :
      ∀ fields ∈ (convertSection part Record.toMapping rs).results,
        fields.Leaves Value.Solid ∧ fields.depth ≤ 1 :=
    fun _ hfields => Record.solid_of_mem_results hfields
  refine forall_mappings.mpr ⟨hrecords _ _, hrecords _ _, hrecords _ _, ?_⟩
  intro fields hfields
  rcases List.mem_map.mp hfields with ⟨q, _, rfl⟩
  exact q.solid_toMapping

/-!
### Views that agree
-/

/-- Two views are the same up to the device that is known for the sender. -/
structure Agrees (v w : View) : Prop where
  answers : v.answers = w.answers
  ip : v.client.ip = w.client.ip
  compress : v.compress = w.compress
  extras : v.extras = w.extras
  header : v.header = w.header
  nameservers : v.nameservers = w.nameservers
  questions : v.questions = w.questions

theorem Agrees.sameContent {v w : View} (h : v.Agrees w) : v.SameContent w where
  ip := h.ip
  compress := h.compress
  header := h.header
  answers := by rw [h.answers]
  extras := by rw [h.extras]
  nameservers := by rw [h.nameservers]
  questions := by rw [h.questions]

theorem SameContent.symm {v w : View} (h : v.SameContent w) : w.SameContent v where
  ip := h.ip.symm
  compress := h.compress.symm
  header := h.header.symm
  answers := h.answers.symm
  extras := h.extras.symm
  nameservers := h.nameservers.symm
  questions := h.questions.symm

theorem SameContent.agrees {v w : View} (h : v.SameContent w)
    (hw : ∀ m ∈ w.mappings, m.Leaves Value.Solid) : v.Agrees w := by
  rcases forall_mappings.mp hw with ⟨hanswers, hextras, hservers, hquestions⟩
  exact {
    answers := mappings_eq_of_settled hanswers h.answers
    ip := h.ip
    compress := h.compress
    extras := mappings_eq_of_settled hextras h.extras
    header := h.header
    nameservers := mappings_eq_of_settled hservers h.nameservers
    questions := mappings_eq_of_settled hquestions h.questions }

/-- What is known of the device of the sender has no part in the message. -/
theorem Agrees.toMessage_eq {v w : View} (h : v.Agrees w) : v.toMessage = w.toMessage := by
  rw [toMessage, toMessage, h.answers, h.compress, h.extras, h.header, h.nameservers, h.questions]

theorem Agrees.stream_eq {v w : View} (h : v.Agrees w) : v.stream = w.stream :=
  h.sameContent.stream_eq

theorem Agrees.fingerprint_eq {v w : View} (h : v.Agrees w) : v.fingerprint = w.fingerprint := by
  rw [fingerprint_eq_digest, fingerprint_eq_digest, h.stream_eq]

theorem agrees_ofMessage (m : Message) (client : String) (lookup lookup' : Lookup) :
    (ofMessage m client lookup).1.Agrees (ofMessage m client lookup').1 where
  answers := rfl
  ip := rfl
  compress := rfl
  extras := rfl
  header := rfl
  nameservers := rfl
  questions := rfl

end View

/-!
### Edited sessions of messages
-/

namespace Session

/-- The session of a message after an edited view was taken over. -/
def edited (m : Message) (client : String) (lookup : Lookup) (v : View) : Session :=
  (ofMessage m client lookup).result.1.apply (.ofView v)

theorem isModified_edited_iff (m : Message) (client : String) (lookup : Lookup) (v : View) :
    (edited m client lookup v).isModified = false ↔
      v.fingerprint = (View.ofMessage m client lookup).1.fingerprint := by
  have hbaseline : (ofMessage m client lookup).result.1.baseline =
      some (View.ofMessage m client lookup).1.fingerprint := rfl
  simp only [isModified, edited, view_apply, baseline_apply, hbaseline, ofView, ne_eq,
    Option.some.injEq, decide_eq_false_iff_not, not_not]
  exact eq_comm

theorem isModified_edited_of_agrees {m : Message} {client : String} {lookup : Lookup} {v : View}
    (h : v.Agrees (View.ofMessage m client lookup).1) :
    (edited m client lookup v).isModified = false :=
  (isModified_edited_iff m client lookup v).mpr h.fingerprint_eq

theorem agrees_of_isModified_edited {m : Message} {client : String} {lookup : Lookup} {v : View}
    (hclear : ¬Sha256.Collision (View.ofMessage m client lookup).1.stream v.stream)
    (h : (edited m client lookup v).isModified = false) :
    v.Agrees (View.ofMessage m client lookup).1 := by
  have hfingerprint := (isModified_edited_iff m client lookup v).mp h
  have hsame := (View.fingerprint_eq_iff hclear).mp hfingerprint.symm
  exact hsame.symm.agrees fun fields hfields =>
    (View.solid_ofMessage m client lookup fields hfields).left

end Session

end DnsView
