import DnsView.Proofs.Attempts
import DnsView.Proofs.View.Mappings
import DnsView.View.Basic
import DnsView.Proofs.Text.Bytes
import DnsView.Proofs.View.Contents
import DnsView.Proofs.View.SettledValues
import Mathlib

/-!
# Documents and their canonical forms

Neither the order of members in a document nor the history of edits can be seen in a view.
-/

/-!
## Documents with rearranged members

In a mapping of a document the order of members with different names does not matter, nor does what
stands for a name that comes again, as long as it is a value.  This holds at any depth, so documents
that differ in nothing else are read as the same view.
-/

namespace DnsView

namespace Json

def Members.names : Members → List String
  | .cons (some name) _ rest => name :: rest.names
  | .cons none _ rest => rest.names
  | _ => []

mutual

/--
The members of the mappings in a node come in another order, or there are others among those that a
later one overrides.  What is overridden is to be a value of as many levels as may be opened there.
-/
inductive Node.Rearranged : Nat → Node → Node → Prop where
  | same {levels : Nat} (n : Node) : Node.Rearranged levels n n
  | sequence {levels : Nat} {items items' : Items} (h : Items.Rearranged levels items items') :
      Node.Rearranged (levels + 1) (.sequence items) (.sequence items')
  | object {levels : Nat} {members members' : Members}
      (h : Members.Rearranged levels members members') :
      Node.Rearranged (levels + 1) (.object members) (.object members')

inductive Items.Rearranged : Nat → Items → Items → Prop where
  | same {levels : Nat} (items : Items) : Items.Rearranged levels items items
  | cons {levels : Nat} {head head' : Node} {tail tail' : Items}
      (hhead : Node.Rearranged levels head head') (htail : Items.Rearranged levels tail tail') :
      Items.Rearranged levels (.cons head tail) (.cons head' tail')

inductive Members.Rearranged : Nat → Members → Members → Prop where
  | same {levels : Nat} (members : Members) : Members.Rearranged levels members members
  | cons {levels : Nat} {name : Option String} {value value' : Node} {rest rest' : Members}
      (hvalue : Node.Rearranged levels value value')
      (hrest : Members.Rearranged levels rest rest') :
      Members.Rearranged levels (.cons name value rest) (.cons name value' rest')
  | swap {levels : Nat} {k l : String} (hne : k ≠ l) (value value' : Node) (rest : Members) :
      Members.Rearranged levels (.cons (some k) value (.cons (some l) value' rest))
        (.cons (some l) value' (.cons (some k) value rest))
  | overridden {levels : Nat} {name : String} {value : Node} {rest : Members} {v : Value}
      (hvalue : Value.ofNode levels value = .ok v) (hlater : name ∈ rest.names) :
      Members.Rearranged levels (.cons (some name) value rest) rest
  | symm {levels : Nat} {members members' : Members}
      (h : Members.Rearranged levels members members') :
      Members.Rearranged levels members' members
  | trans {levels : Nat} {members members' members'' : Members}
      (h : Members.Rearranged levels members members')
      (h' : Members.Rearranged levels members' members'') :
      Members.Rearranged levels members members''

end

end Json

open Json (Node Items Members Field Shape)

/-!
### Values
-/

theorem Value.ofMembers_insert {levels : Nat} {name : String} (v : Value) :
    ∀ {rest : Members} (fields : Mapping), name ∈ rest.names →
      ofMembers levels (fields.insert name v) rest = ofMembers levels fields rest
  | .closed, _, h => by
      cases h
  | .broken, _, _ => rfl
  | .unnamed _, _, _ => rfl
  | .cons none _ _, _, _ => rfl
  | .cons (some k) value rest, fields, h => by
      rw [ofMembers, ofMembers]
      cases ofNode levels value with
      | error e =>
          rfl
      | ok w =>
          show ofMembers levels ((fields.insert name v).insert k w) rest =
            ofMembers levels (fields.insert k w) rest
          by_cases hk : name = k
          · rw [hk, Fields.insert_insert]
          · have hlater : name ∈ rest.names := List.mem_of_ne_of_mem hk h
            rw [Fields.insert_comm fields hk, ofMembers_insert v _ hlater]

mutual

theorem Json.Node.Rearranged.ofNode {levels : Nat} {n n' : Node} :
    n.Rearranged levels n' → ∀ v, Value.ofNode levels n = .ok v ↔ Value.ofNode levels n' = .ok v
  | .same n, v => Iff.rfl
  | .sequence h, v => by
      simp only [Value.ofNode, map_eq_ok, h.ofItems]
  | .object h, v => by
      simp only [Value.ofNode, map_eq_ok, h.ofMembers]

theorem Json.Items.Rearranged.ofItems {levels : Nat} {items items' : Items} :
    Items.Rearranged levels items items' →
      ∀ vs, Value.ofItems levels items = .ok vs ↔ Value.ofItems levels items' = .ok vs
  | .same items, vs => Iff.rfl
  | .cons hhead htail, vs => by
      simp only [Value.ofItems, bind_eq_ok, hhead.ofNode, htail.ofItems]

theorem Json.Members.Rearranged.ofMembers {levels : Nat} {members members' : Members} :
    Members.Rearranged levels members members' → ∀ fields m,
      Value.ofMembers levels fields members = .ok m ↔ Value.ofMembers levels fields members' = .ok m
  | .same members, fields, m => Iff.rfl
  | @Members.Rearranged.cons _ none _ _ _ _ _ _, fields, m => Iff.rfl
  | @Members.Rearranged.cons _ (some name) _ _ _ _ hvalue hrest, fields, m => by
      simp only [Value.ofMembers, bind_eq_ok, hvalue.ofNode, hrest.ofMembers]
  | .swap hne value value' rest, fields, m => by
      simp only [Value.ofMembers, bind_eq_ok]
      constructor
      · rintro ⟨v, hv, w, hw, hm⟩
        exact ⟨w, hw, v, hv, Fields.insert_comm fields hne v w ▸ hm⟩
      · rintro ⟨w, hw, v, hv, hm⟩
        exact ⟨v, hv, w, hw, (Fields.insert_comm fields hne v w).symm ▸ hm⟩
  | .overridden hvalue hlater, fields, m => by
      rw [Value.ofMembers, hvalue]
      show Value.ofMembers _ (fields.insert _ _) _ = .ok m ↔ _
      rw [Value.ofMembers_insert _ _ hlater]
  | .symm h, fields, m => (h.ofMembers fields m).symm
  | .trans h h', fields, m => (h.ofMembers fields m).trans (h'.ofMembers fields m)

end

theorem Json.Node.Rearranged.readFields {levels : Nat} {n n' : Node} (h : n.Rearranged levels n')
    (m : Mapping) : Fields.reader levels n = .ok m ↔ Fields.reader levels n' = .ok m := by
  cases h with
  | same =>
      exact Iff.rfl
  | sequence hitems =>
      exact Iff.rfl
  | object hmembers =>
      exact hmembers.ofMembers .nil m

theorem Json.Items.Rearranged.readItems {levels : Nat} : ∀ {items items' : Items},
    Items.Rearranged levels items items' → ∀ ms : List Mapping,
      Json.readItems Fields.reader levels items = .ok ms ↔
        Json.readItems Fields.reader levels items' = .ok ms
  | _, _, .same items, ms => Iff.rfl
  | _, _, .cons hhead htail, ms => by
      simp only [Json.readItems, bind_eq_ok, hhead.readFields, htail.readItems]

theorem Json.Node.Rearranged.readList {levels : Nat} {n n' : Node} (h : n.Rearranged levels n')
    (ms : List Mapping) : Json.readList Fields.reader levels n = .ok ms ↔
      Json.readList Fields.reader levels n' = .ok ms := by
  cases h with
  | same =>
      exact Iff.rfl
  | sequence hitems =>
      exact hitems.readItems ms
  | object hmembers =>
      exact Iff.rfl

/-!
### Records

Two objects or two lists are followed side by side: the members have the same names, the items stand
for the same fields, and what stands for a name is related in a way that may depend on the name.
-/

namespace Json

section Records

variable (R : String → Node → Node → Prop)

/-- The members have the same names, and what stands for a name is related for this name. -/
inductive Members.Along : Members → Members → Prop where
  | same (members : Members) : Members.Along members members
  | cons {name : String} {value value' : Node} {rest rest' : Members}
      (hvalue : R name value value') (hrest : Members.Along rest rest') :
      Members.Along (.cons (some name) value rest) (.cons (some name) value' rest')

inductive Items.Along : List String → Items → Items → Prop where
  | same (names : List String) (items : Items) : Items.Along names items items
  | cons {name : String} {names : List String} {head head' : Node} {tail tail' : Items}
      (hhead : R name head head') (htail : Items.Along names tail tail') :
      Items.Along (name :: names) (.cons head tail) (.cons head' tail')

inductive Node.Along (names : List String) : Node → Node → Prop where
  | same (n : Node) : Node.Along names n n
  | sequence {items items' : Items} (h : Items.Along R names items items') :
      Node.Along names (.sequence items) (.sequence items')
  | object {members members' : Members} (h : Members.Along R members members') :
      Node.Along names (.object members) (.object members')

end Records

namespace Shape

variable {α : Type} {s : Shape α} {levels : Nat} {R : String → Node → Node → Prop}

theorem readFields_along {fields : List (Field α)}
    (hfields : ∀ field ∈ fields, ∀ n n', R field.name n n' →
      ∀ set, field.read levels n = .ok set ↔ field.read levels n' = .ok set)
    {items items' : Items} (h : Items.Along R (fields.map Field.name) items items') (index : Nat)
    (a b : α) : s.readFields levels index a fields items = .ok b ↔
      s.readFields levels index a fields items' = .ok b := by
  induction fields generalizing items items' index a with
  | nil =>
      cases h
      exact Iff.rfl
  | cons field fields ih =>
      rw [List.forall_mem_cons] at hfields
      rw [List.map_cons] at h
      cases h with
      | same =>
          exact Iff.rfl
      | cons hhead htail =>
          simp only [readFields, Items.next?, pure_bind, bind_eq_ok, hfields.left _ _ hhead,
            ih hfields.right htail]

theorem readMembers_along
    (hfields : ∀ field ∈ s.fields, ∀ n n', R field.name n n' →
      ∀ set, field.read levels n = .ok set ↔ field.read levels n' = .ok set)
    (hnames : ∀ name n n', R name n n' → name ∉ s.fields.map Field.name → n = n')
    {members members' : Members} (h : Members.Along R members members') (seen : List String)
    (a b : α) : s.readMembers levels seen a members = .ok b ↔
      s.readMembers levels seen a members' = .ok b := by
  induction h generalizing seen a with
  | same =>
      exact Iff.rfl
  | @cons name value value' rest rest' hvalue _ ih =>
      rw [readMembers, readMembers]
      cases hfind : s.fields.find? fun field => field.name == name with
      | none =>
          have hunknown : name ∉ s.fields.map Field.name := by
            intro hmem
            rcases List.mem_map.mp hmem with ⟨field, hfield, hname⟩
            exact List.find?_eq_none.mp hfind field hfield (beq_iff_eq.mpr hname)
          rw [hnames name value value' hvalue hunknown]
          dsimp only
          split
          · exact ih seen a
          · exact Iff.rfl
      | some field =>
          have hname : field.name = name := by
            simpa using List.find?_some hfind
          have hread := hfields field (List.mem_of_find?_eq_some hfind) value value'
            (hname ▸ hvalue)
          dsimp only
          split
          · exact Iff.rfl
          · simp only [bind_eq_ok, hread, ih]

/-- A record is read the same when what its fields are read from is read the same. -/
theorem read_along
    (hfields : ∀ field ∈ s.fields, ∀ n n', R field.name n n' →
      ∀ set, field.read levels n = .ok set ↔ field.read levels n' = .ok set)
    (hnames : ∀ name n n', R name n n' → name ∉ s.fields.map Field.name → n = n')
    {n n' : Node} (h : n.Along R (s.fields.map Field.name) n') (a : α) :
    s.read (levels + 1) n = .ok a ↔ s.read (levels + 1) n' = .ok a := by
  cases h with
  | same =>
      exact Iff.rfl
  | sequence hitems =>
      exact readFields_along hfields hitems 0 s.blank a
  | object hmembers =>
      exact readMembers_along hfields hnames hmembers [] s.blank a

end Shape

end Json

/-!
### Views

Only four members of a document hold lists of mappings, and in these the mappings may be
rearranged.  What stands for any other name is the same.
-/

namespace View

def listNames : List String :=
  ["Answers", "Extras", "Nameservers", "Questions"]

theorem listNames_subset : listNames ⊆ shape.fields.map Field.name := by
  decide

inductive FieldRearranged (levels : Nat) (name : String) (n n' : Node) : Prop where
  | same (h : n = n')
  | list (hname : name ∈ listNames) (h : n.Rearranged levels n')

/--
The documents of two views differ only in the members of mappings that do not matter.  What stands
for a field of a view may open one level less than a document.
-/
structure DocumentRearranged (d d' : Json.Document) : Prop where
  root : d.root.Along (FieldRearranged 126) (shape.fields.map Field.name) d'.root
  complete : d.complete = d'.complete

theorem FieldRearranged.read {name : String} {set : View → List Mapping → View} {n n' : Node}
    (h : FieldRearranged 126 name n n') (field : View → View) :
    (Field.of name (Json.readList Fields.reader) set false).read 126 n = .ok field ↔
      (Field.of name (Json.readList Fields.reader) set false).read 126 n' = .ok field := by
  cases h with
  | same h =>
      rw [h]
  | list _ h =>
      simp only [Field.of, bind_eq_ok, h.readList]

theorem FieldRearranged.eq {levels : Nat} {name : String} {n n' : Node}
    (h : FieldRearranged levels name n n') (hname : name ∉ listNames) : n = n' := by
  cases h with
  | same h =>
      exact h
  | list hmem _ =>
      exact absurd hmem hname

/-- Documents with rearranged mappings are read as the same view. -/
theorem read_of_rearranged {d d' : Json.Document} (h : DocumentRearranged d d') (v : View) :
    d.read shape.read = .ok v ↔ d'.read shape.read = .ok v := by
  have hfields : ∀ field ∈ shape.fields, ∀ n n', FieldRearranged 126 field.name n n' →
      ∀ set, field.read 126 n = .ok set ↔ field.read 126 n' = .ok set := by
    intro field hfield n n' hvalue set
    simp only [shape, List.mem_cons, List.not_mem_nil, or_false] at hfield
    rcases hfield with rfl | rfl | rfl | rfl | rfl | rfl | rfl
    · exact hvalue.read set
    · rw [hvalue.eq (by decide)]
    · rw [hvalue.eq (by decide)]
    · exact hvalue.read set
    · rw [hvalue.eq (by decide)]
    · exact hvalue.read set
    · exact hvalue.read set
  have hnames : ∀ name n n', FieldRearranged 126 name n n' →
      name ∉ shape.fields.map Field.name → n = n' := by
    intro name n n' hvalue hname
    apply hvalue.eq
    intro hlist
    exact hname (listNames_subset hlist)
  have hroot := Shape.read_along hfields hnames h.root
  simp only [Json.Document.read, Json.maxDepth, bind_eq_ok, hroot, h.complete]

end View

end DnsView

/-!
## Canonical forms

The text of a view shows the keys of each mapping in the order of their bytes.  It depends on what
the view holds, and not on the edits that led there or on the order of members in a document.
-/

namespace DnsView

/-!
### The order of keys
-/

mutual

/-- The names in each object, at any depth, come in strictly ascending order of their bytes. -/
def Json.Ascending : Json → Prop
  | .list items => Json.ItemsAscending items
  | .object members =>
      (members.map Prod.fst).Pairwise (fun k l => Text.utf8 k < Text.utf8 l) ∧
        Json.MembersAscending members
  | _ => True

def Json.ItemsAscending : List Json → Prop
  | [] => True
  | j :: js => j.Ascending ∧ Json.ItemsAscending js

def Json.MembersAscending : List (String × Json) → Prop
  | [] => True
  | (_, j) :: members => j.Ascending ∧ Json.MembersAscending members

end

namespace Fields

theorem above_of_mem_names {lo : Option String} {key : String} : ∀ {fields : Fields lo},
    key ∈ fields.toJsonMembers.map Prod.fst → Above lo key
  | .nil, h => by
      cases h
  | .cons k v rest above, h => by
      rw [toJsonMembers, List.map_cons, List.mem_cons] at h
      rcases h with rfl | hrest
      · exact above
      · have hless : k < key := above_of_mem_names hrest
        exact above.trans hless

theorem pairwise_names {lo : Option String} (fields : Fields lo) :
    (fields.toJsonMembers.map Prod.fst).Pairwise (· < ·) := by
  cases fields with
  | nil =>
      exact .nil
  | cons k v rest above =>
      rw [toJsonMembers, List.map_cons]
      refine .cons ?_ (pairwise_names rest)
      intro key hkey
      exact above_of_mem_names hkey

theorem pairwise_utf8_names {lo : Option String} (fields : Fields lo) :
    (fields.toJsonMembers.map Prod.fst).Pairwise fun k l => Text.utf8 k < Text.utf8 l :=
  (pairwise_names fields).imp Text.utf8_lt_utf8

end Fields

mutual

theorem Value.ascending_toJson : ∀ v : Value, v.toJson.Ascending
  | .null => trivial
  | .boolean _ => trivial
  | .integer _ => trivial
  | .float _ => trivial
  | .text _ => trivial
  | .list items => Value.itemsAscending_toJson items
  | .mapping fields => ⟨fields.pairwise_utf8_names, fields.membersAscending_toJson⟩

theorem Value.itemsAscending_toJson : ∀ vs : List Value,
    Json.ItemsAscending (Value.toJsonItems vs)
  | [] => trivial
  | v :: vs => ⟨Value.ascending_toJson v, Value.itemsAscending_toJson vs⟩

theorem Fields.membersAscending_toJson {lo : Option String} : ∀ fields : Fields lo,
    Json.MembersAscending fields.toJsonMembers
  | .nil => trivial
  | .cons _ v rest _ => ⟨Value.ascending_toJson v, rest.membersAscending_toJson⟩

end

theorem Fields.ascending_toJson (fields : Mapping) : fields.toJson.Ascending :=
  ⟨fields.pairwise_utf8_names, fields.membersAscending_toJson⟩

/-!
### Histories

The examples are a view with one empty mapping that is edited in a roundabout and in a direct way, a
document that repeats a name and one that does not, and a document that holds a single additional
record.
-/

namespace View

theorem after_eq_of_content {v w : View} {edits edits' : List Edit}
    (h : v.content.after edits = w.content.after edits') : v.after edits = w.after edits' := by
  apply content_injective
  rw [content_after, content_after, h]

/--
The form of a view is canonical.  Whatever edits led to its content, its text and its fingerprint
are the same, and the keys of each mapping come in the order of their bytes.  A document with
rearranged mappings is read as the same view, too.
-/
theorem canonical :
    (∀ (v w : View) (edits edits' : List Edit),
      v.content.after edits = w.content.after edits' →
        (∀ s, (v.after edits).toJson.render s = (w.after edits').toJson.render s) ∧
          (v.after edits).fingerprint = (w.after edits').fingerprint) ∧
      (∀ v : View, ∀ m ∈ v.mappings, m.toJson.Ascending) ∧
      ∀ t t' : String, DocumentRearranged (.ofString t) (.ofString t') →
        ∀ v, ofString t = .ok v ↔ ofString t' = .ok v := by
  refine ⟨?_, fun v m _ => m.ascending_toJson, fun t t' h => read_of_rearranged h⟩
  intro v w edits edits' h
  rw [after_eq_of_content h]
  exact ⟨fun _ => rfl, rfl⟩

def blankView : View :=
  { (default : View) with extras := [.nil] }

def roundaboutEdits : List Edit :=
  [.put .extras 0 [.key "é"] (.integer 1), .put .extras 0 [.key "a"] (.mapping .nil),
    .put .extras 0 [.key "a", .key "𝒜"] .null, .put .extras 0 [.key "é"] (.integer 2),
    .put .extras 0 [.key "a", .key "ﬀ"] (.boolean true), .put .extras 0 [.key "x"] .null,
    .remove .extras 0 [.key "x"]]

def directEdits : List Edit :=
  [.put .extras 0 [.key "a"] (.mapping (.ofList [("ﬀ", .boolean true), ("𝒜", .null)])),
    .put .extras 0 [.key "é"] (.integer 2)]

def repetitiveText : String :=
  "\x7b\"Extras\":[\x7b\"é\":1,\"a\":\x7b\"𝒜\":null,\"ﬀ\":true\x7d,\"é\":2\x7d]\x7d"

def conciseText : String :=
  "\x7b\"Extras\":[\x7b\"a\":\x7b\"ﬀ\":true,\"𝒜\":null\x7d,\"é\":2\x7d]\x7d"

def extrasDocument (members : Json.Members) : Json.Document :=
  ⟨.object (.cons (some "Extras") (.sequence (.cons (.object members) .closed)) .closed), true⟩

theorem canonical_roundabout :
    blankView.content.after roundaboutEdits = blankView.content.after directEdits ∧
      (∀ s, (blankView.after roundaboutEdits).toJson.render s =
          (blankView.after directEdits).toJson.render s) ∧
      (blankView.after roundaboutEdits).fingerprint = (blankView.after directEdits).fingerprint ∧
      (∀ m ∈ (blankView.after directEdits).mappings, m.toJson.Ascending) ∧
      DocumentRearranged (.ofString repetitiveText) (.ofString conciseText) ∧
      ofString conciseText = .ok (blankView.after directEdits) ∧
      ofString repetitiveText = .ok (blankView.after directEdits) := by
  rcases canonical with ⟨hhistory, hascending, hdocument⟩
  have hcontent : blankView.content.after roundaboutEdits =
      blankView.content.after directEdits := by
    rw [← content_after, ← content_after]
    rfl
  have hrepetitive : Json.Document.ofString repetitiveText = extrasDocument
      (.cons (some "é") (.number ⟨false, [1], [], none⟩)
        (.cons (some "a") (.object (.cons (some "𝒜") .null
            (.cons (some "ﬀ") (.boolean true) .closed)))
          (.cons (some "é") (.number ⟨false, [2], [], none⟩) .closed))) := by
    cbv
  have hconcise : Json.Document.ofString conciseText = extrasDocument
      (.cons (some "a") (.object (.cons (some "ﬀ") (.boolean true)
          (.cons (some "𝒜") .null .closed)))
        (.cons (some "é") (.number ⟨false, [2], [], none⟩) .closed)) := by
    cbv
  have hrearranged : DocumentRearranged (.ofString repetitiveText) (.ofString conciseText) := by
    rw [hrepetitive, hconcise]
    have hvalue : Value.ofNode 124 (.number ⟨false, [1], [], none⟩) = .ok (.integer 1) := by
      cbv
    refine ⟨.object (.cons (.list (by decide) (.sequence (.cons (.object ?_) (.same _))))
      (.same _)), rfl⟩
    apply Json.Members.Rearranged.trans (.overridden hvalue (by decide))
    exact .cons (.object (.swap (by decide) _ _ _)) (.same _)
  have hread : ofString conciseText = .ok (blankView.after directEdits) := by
    cbv
  rcases hhistory _ _ _ _ hcontent with ⟨htext, hfingerprint⟩
  exact ⟨hcontent, htext, hfingerprint, hascending _, hrearranged, hread,
    (hdocument _ _ hrearranged _).mpr hread⟩

end View

end DnsView
