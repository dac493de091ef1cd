import DnsView.Proofs.Text.Bytes
import DnsView.Proofs.View.NumberValues
import DnsView.View.Codec
import DnsView.Proofs.Attempts

/-!
# Keys of records and requirements on them

Which keys a record has and what each of them has to hold, and how a sequence of such requirements
is checked.
-/

/-!
## The keys of records

A record is shown by certain keys, each with values of a certain shape.  The header has the same
keys for all records.  A payload has those of its type, or the one of raw bytes, which any type may
have and the types without a structure of their own must have.
-/

namespace DnsView

/-!
### Shapes
-/

/-- What the value of a key is to be. -/
inductive ValueShape where
  | mapping
  | text
  | unsigned (bits : Nat)
  | ipv4
  | ipv6
  | texts
  | bytes

def ValueShape.Accepts : ValueShape → Value → Prop
  | .mapping, v => ∃ m, v = .mapping m
  | .text, v => ∃ s, v = .text s
  | .unsigned bits, v => ∃ n : Nat, v.IsInteger n ∧ n < 2 ^ bits
  | .ipv4, v => ∃ s address, v = .text s ∧ Ipv4.ofString? s = some address
  | .ipv6, v => ∃ s address, v = .text s ∧ Ipv6.ofString? s = some address
  | .texts, v => ∃ l : List String, v = .list (l.map .text)
  | .bytes, v => ∃ s, v = .text s ∧ Text.IsHex s

namespace ValueShape

theorem accepts_mapping_iff (v : Value) : mapping.Accepts v ↔ ∃ m, v.mapping? = some m := by
  cases v <;> simp [Accepts, Value.mapping?]

theorem accepts_text_iff (v : Value) : text.Accepts v ↔ ∃ s, v.text? = some s := by
  cases v <;> simp [Accepts, Value.text?]

theorem accepts_unsigned16_iff (v : Value) :
    (unsigned 16).Accepts v ↔ ∃ n, v.uint16? = some n := by
  constructor
  · rintro ⟨n, hv, hn⟩
    refine ⟨UInt16.ofNat n, (v.uint16?_eq_some_iff _).mpr ?_⟩
    rwa [UInt16.toNat_ofNat_of_lt' hn]
  · rintro ⟨n, hn⟩
    exact ⟨n.toNat, (v.uint16?_eq_some_iff n).mp hn, n.toNat_lt_size⟩

theorem accepts_unsigned32_iff (v : Value) :
    (unsigned 32).Accepts v ↔ ∃ n, v.uint32? = some n := by
  constructor
  · rintro ⟨n, hv, hn⟩
    refine ⟨UInt32.ofNat n, (v.uint32?_eq_some_iff _).mpr ?_⟩
    rwa [UInt32.toNat_ofNat_of_lt' hn]
  · rintro ⟨n, hn⟩
    exact ⟨n.toNat, (v.uint32?_eq_some_iff n).mp hn, n.toNat_lt_size⟩

theorem accepts_ipv4_iff (s : String) :
    ipv4.Accepts (.text s) ↔ ∃ address, Ipv4.ofString? s = some address := by
  simp [Accepts]

theorem accepts_ipv6_iff (s : String) :
    ipv6.Accepts (.text s) ↔ ∃ address, Ipv6.ofString? s = some address := by
  simp [Accepts]

theorem accepts_bytes_iff (s : String) :
    bytes.Accepts (.text s) ↔ ∃ bytes, Text.decodeHex s = .ok bytes := by
  rw [Text.exists_decodeHex_iff]
  simp [Accepts]

theorem accepts_texts_cons_iff (v : Value) (items : List Value) :
    texts.Accepts (.list (v :: items)) ↔ text.Accepts v ∧ texts.Accepts (.list items) := by
  constructor
  · rintro ⟨l, h⟩
    cases l with
    | nil =>
        cases h
    | cons s l =>
        cases h
        exact ⟨⟨s, rfl⟩, ⟨l, rfl⟩⟩
  · rintro ⟨⟨s, rfl⟩, ⟨l, h⟩⟩
    cases h
    exact ⟨s :: l, rfl⟩

end ValueShape

/-!
### Keys

The keys of the header stand in a mapping of their own, beside those of the payload.
-/

def Record.headerKeys : List (String × ValueShape) :=
  [("Name", .text), ("Rrtype", .unsigned 16), ("Class", .unsigned 16), ("Ttl", .unsigned 32)]

/-- The keys that a payload of the type has, for the types that have a structure of their own. -/
def RecordType.payloadKeys? : RecordType → Option (List (String × ValueShape))
  | .a => some [("A", .ipv4)]
  | .aaaa => some [("AAAA", .ipv6)]
  | .cname => some [("Target", .text)]
  | .ns => some [("Ns", .text)]
  | .ptr => some [("Ptr", .text)]
  | .mx => some [("Preference", .unsigned 16), ("Mx", .text)]
  | .soa => some [("Ns", .text), ("Mbox", .text), ("Serial", .unsigned 32),
      ("Refresh", .unsigned 32), ("Retry", .unsigned 32), ("Expire", .unsigned 32),
      ("Minttl", .unsigned 32)]
  | .srv => some [("Priority", .unsigned 16), ("Weight", .unsigned 16), ("Port", .unsigned 16),
      ("Target", .text)]
  | .txt => some [("Txt", .texts)]
  | _ => none

namespace Fields

def Has (fields : Mapping) (key : String) (shape : ValueShape) : Prop :=
  ∃ v, fields.get? key = some v ∧ shape.Accepts v

/--
The mappings of records.  A header gives the name, type, class and time to live.  The payload is
raw, or it has the structure of the type.
-/
def IsRecord (fields : Mapping) : Prop :=
  ∃ header v, ∃ type : UInt16, fields.get? "Header" = some (.mapping header) ∧
    header.Has "Name" .text ∧
    header.get? "Rrtype" = some v ∧ v.IsInteger type.toNat ∧
    header.Has "Class" (.unsigned 16) ∧
    header.Has "Ttl" (.unsigned 32) ∧
    (fields.Has "Rdata" .bytes ∨
      fields.get? "Rdata" = none ∧
        ∃ keys, (RecordType.ofCode type).payloadKeys? = some keys ∧
          ∀ key ∈ keys, fields.Has key.1 key.2)

/-!
### The keys that are read

What is read of a mapping depends on the mapping itself: the type in the header tells which keys the
payload has.
-/

/-- The header that a mapping holds, or no field at all if it holds none. -/
def header (fields : Mapping) : Mapping :=
  ((fields.get? "Header").bind Value.mapping?).getD .nil

def recordType (fields : Mapping) : RecordType :=
  .ofCode (fields.header.uint16D "Rrtype")

def payloadKeys (fields : Mapping) (t : RecordType) : List (String × ValueShape) :=
  match fields.get? "Rdata" with
  | some _ => [("Rdata", .bytes)]
  | none => t.payloadKeys?.getD [("Rdata", .bytes)]

theorem header_of_get? {fields header : Mapping}
    (h : fields.get? "Header" = some (.mapping header)) : fields.header = header := by
  rw [Fields.header, h]
  rfl

theorem recordType_of_uint16? {fields : Mapping} {v : Value} {type : UInt16}
    (hget : fields.header.get? "Rrtype" = some v) (hv : v.uint16? = some type) :
    fields.recordType = .ofCode type := by
  rw [recordType, uint16D, hget, Option.bind_some, hv, Option.getD_some]

end Fields

/-!
## Requirements on mappings

A requirement asks for a key with a value of a shape.  Keys are read one after another, and reading
ends at the first that does not meet its requirement: the error names this key, and tells whether it
is missing or has a wrong value.  Each function that reads a key is judged by one requirement, and a
sequence of steps by the requirements of the steps in their order.
-/

/-- A key that a mapping is to have, with a value of a shape. -/
structure Requirement where
  fields : Mapping
  key : String
  shape : ValueShape

def Fields.requiring (fields : Mapping) (keys : List (String × ValueShape)) : List Requirement :=
  keys.map fun key => ⟨fields, key.1, key.2⟩

namespace Requirement

def Met (q : Requirement) : Prop := q.fields.Has q.key q.shape

theorem forall_requiring_iff (fields : Mapping) (keys : List (String × ValueShape)) :
    (∀ q ∈ fields.requiring keys, q.Met) ↔ ∀ key ∈ keys, fields.Has key.1 key.2 :=
  List.forall_mem_map

/-- The error tells in which way the requirement is not met. -/
inductive BlamedBy (q : Requirement) : CodecError → Prop where
  | missing (h : q.fields.get? q.key = none) : BlamedBy q (.missingField q.key)
  | invalid {v : Value} (h : q.fields.get? q.key = some v) (hv : ¬q.shape.Accepts v)
      (fault : Fault) : BlamedBy q (.invalidField q.key fault)

theorem BlamedBy.not_met {q : Requirement} {e : CodecError} (h : q.BlamedBy e) : ¬q.Met := by
  rintro ⟨w, hget, haccepts⟩
  cases h with
  | missing h =>
      rw [h] at hget
      cases hget
  | invalid h hv =>
      rw [h] at hget
      cases hget
      exact hv haccepts

/-- A result, if all requirements are met, or an error that blames the first that is not. -/
inductive Judged {α : Type} : List Requirement → Except CodecError α → Prop where
  | met {qs : List Requirement} (h : ∀ q ∈ qs, q.Met) (a : α) : Judged qs (.ok a)
  | unmet {before after : List Requirement} {q : Requirement} {e : CodecError}
      (hbefore : ∀ p ∈ before, p.Met) (hq : q.BlamedBy e) :
      Judged (before ++ q :: after) (.error e)

namespace Judged

variable {α β : Type} {qs qs' : List Requirement} {r : Except CodecError α}

theorem pure (a : α) : Judged [] (.ok a) :=
  .met (by simp) a

theorem single {q : Requirement} (h : q.Met) (a : α) : Judged [q] (.ok a) :=
  .met (List.forall_mem_singleton.mpr h) a

theorem blame {q : Requirement} {e : CodecError} (h : q.BlamedBy e) :
    Judged [q] (.error e : Except CodecError α) :=
  @Judged.unmet α [] [] q e (by simp) h

theorem bind (h : Judged qs r) {f : α → Except CodecError β}
    (hf : ∀ a, r = .ok a → Judged qs' (f a)) : Judged (qs ++ qs') (r >>= f) := by
  cases h with
  | met hqs a =>
      show Judged (qs ++ qs') (f a)
      match f a, hf a rfl with
      | .ok b, .met hqs' _ =>
          exact .met (List.forall_mem_append.mpr ⟨hqs, hqs'⟩) b
      | .error _, .unmet hbefore hq =>
          rw [← List.append_assoc]
          exact .unmet (List.forall_mem_append.mpr ⟨hqs, hbefore⟩) hq
  | unmet hbefore hq =>
      rw [List.append_assoc]
      exact .unmet hbefore hq

theorem map (h : Judged qs r) (f : α → β) : Judged qs (f <$> r) := by
  cases h with
  | met hqs a =>
      exact .met hqs (f a)
  | unmet hbefore hq =>
      exact .unmet hbefore hq

theorem exists_ok_iff (h : Judged qs r) : (∃ a, r = .ok a) ↔ ∀ q ∈ qs, q.Met := by
  cases h with
  | met hqs a =>
      exact ⟨fun _ => hqs, fun _ => ⟨a, rfl⟩⟩
  | @unmet before after q e hbefore hq =>
      constructor
      · rintro ⟨a, ha⟩
        cases ha
      · intro hqs
        exact absurd (hqs q (by simp)) hq.not_met

theorem of_error {e : CodecError} (h : Judged qs (.error e : Except CodecError α)) :
    ∃ before q after, qs = before ++ q :: after ∧ (∀ p ∈ before, p.Met) ∧ q.BlamedBy e := by
  cases h with
  | unmet hbefore hq =>
      exact ⟨_, _, _, rfl, hbefore, hq⟩

end Judged

end Requirement

open Requirement (Judged)

/-!
### Single keys
-/

/-- What comes of a value: it is taken if it has the shape, and blamed on its key otherwise. -/
inductive ValueShape.Decides {α : Type} (shape : ValueShape) (key : String) (v : Value) :
    Except CodecError α → Prop where
  | taken (h : shape.Accepts v) (a : α) : Decides shape key v (.ok a)
  | refused (h : ¬shape.Accepts v) (fault : Fault) :
      Decides shape key v (.error (.invalidField key fault))

namespace ValueShape

theorem decides_of_option {α β : Type} {shape : ValueShape} {key : String} {v : Value}
    {read : Option β} (hread : shape.Accepts v ↔ ∃ b, read = some b) {r : Except CodecError α}
    {fault : Fault} {result : β → α}
    (hr : r = read.elim (.error (.invalidField key fault)) fun b => .ok (result b)) :
    shape.Decides key v r := by
  rw [hr]
  cases read with
  | none =>
      refine .refused ?_ fault
      intro h
      rcases hread.mp h with ⟨b, hb⟩
      cases hb
  | some b =>
      exact .taken (hread.mpr ⟨b, rfl⟩) (result b)

end ValueShape

namespace Fields

variable {α : Type} (fields : Mapping) (key : String)

theorem judged_require {shape : ValueShape} {f : Value → Except CodecError α}
    (hf : ∀ v, shape.Decides key v (f v)) :
    Judged [⟨fields, key, shape⟩] (fields.require key >>= f) := by
  cases hget : fields.get? key with
  | none =>
      have hmissing : fields.require key = .error (.missingField key) := by
        simp [require, hget, throw, throwThe, MonadExceptOf.throw]
      rw [hmissing]
      exact .blame (.missing hget)
  | some v =>
      have hfound : fields.require key = .ok v := by
        simp [require, hget, pure, Except.pure]
      rw [hfound]
      show Judged [⟨fields, key, shape⟩] (f v)
      match f v, hf v with
      | .ok a, .taken h _ =>
          exact .single ⟨v, hget, h⟩ a
      | .error _, .refused h fault =>
          exact .blame (.invalid hget h fault)

theorem judged_requireMapping :
    Judged [⟨fields, key, .mapping⟩] (fields.requireMapping key) := by
  apply judged_require
  intro v
  apply ValueShape.decides_of_option (ValueShape.accepts_mapping_iff v)
  cases v.mapping? <;> rfl

theorem judged_requireText : Judged [⟨fields, key, .text⟩] (fields.requireText key) := by
  apply judged_require
  intro v
  apply ValueShape.decides_of_option (ValueShape.accepts_text_iff v)
  cases v.text? <;> rfl

theorem judged_requireUInt16 :
    Judged [⟨fields, key, .unsigned 16⟩] (fields.requireUInt16 key) := by
  apply judged_require
  intro v
  apply ValueShape.decides_of_option (ValueShape.accepts_unsigned16_iff v)
  cases v.uint16? <;> rfl

theorem judged_requireUInt32 :
    Judged [⟨fields, key, .unsigned 32⟩] (fields.requireUInt32 key) := by
  apply judged_require
  intro v
  apply ValueShape.decides_of_option (ValueShape.accepts_unsigned32_iff v)
  cases v.uint32? <;> rfl

theorem judged_requireText_bind {shape : ValueShape}
    (hshape : ∀ v, shape.Accepts v → ∃ s, v = .text s)
    {f : String → Except CodecError α} (hf : ∀ s, shape.Decides key (.text s) (f s)) :
    Judged [⟨fields, key, shape⟩] (fields.requireText key >>= f) := by
  rw [requireText, bind_assoc]
  apply judged_require
  intro v
  cases v with
  | text s =>
      exact hf s
  | _ =>
      refine .refused ?_ _
      intro h
      rcases hshape _ h with ⟨s, hs⟩
      cases hs

theorem decides_textEntries (items : List Value) :
    ValueShape.texts.Decides key (.list items) (textEntries key items) := by
  induction items with
  | nil =>
      have hnil : ValueShape.texts.Accepts (.list []) := ⟨[], rfl⟩
      exact .taken hnil []
  | cons v items ih =>
      have hcons := ValueShape.accepts_texts_cons_iff v items
      rw [textEntries]
      cases v with
      | text s =>
          match textEntries key items, ih with
          | .ok _, .taken hrest rest =>
              exact .taken (hcons.mpr ⟨⟨s, rfl⟩, hrest⟩) (s :: rest)
          | .error _, .refused hrest fault =>
              exact .refused (fun h => hrest (hcons.mp h).right) fault
      | _ =>
          refine .refused (fun h => ?_) _
          rcases (hcons.mp h).left with ⟨s, hs⟩
          cases hs

theorem judged_requireTexts : Judged [⟨fields, key, .texts⟩] (fields.requireTexts key) := by
  apply judged_require
  intro v
  cases v with
  | list items =>
      exact decides_textEntries key items
  | _ =>
      refine .refused ?_ _
      rintro ⟨l, h⟩
      cases h

end Fields

end DnsView
