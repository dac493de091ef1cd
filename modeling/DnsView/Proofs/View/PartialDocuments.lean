import DnsView.Proofs.View.ViewTexts
import Mathlib

/-!
# Documents that show parts of a view

A script may hand back an object in which members of a view are missing, stand in another order, or
stand among others that it has added, and so with the objects of the sender and the header.  A
member that is missing leaves its default, each of them by itself, and a member that is not known is
passed over, whatever it holds.  Mappings are no records: all that stands in them is taken over.
-/

namespace DnsView

/-!
## Objects as lists of members

The members of an object are taken as a list of names with nodes, which is closed after the last of
them.
-/

namespace Json

def Members.ofList : List (String × Node) → Members
  | [] => .closed
  | (name, value) :: rest => .cons (some name) value (.ofList rest)

def parts : Json → List (String × Node)
  | .object members => members.map fun member => (member.1, member.2.node)
  | _ => []

def withMembers (name : String) (members : List (String × Node)) (full : List (String × Node)) :
    List (String × Node) :=
  full.map fun m => if m.1 = name then (name, .object (.ofList members)) else m

/--
Of the members of an object those with certain names were kept and put in any order, and others with
names and values of any kind were added.
-/
def Altered (kept : List String) (full members : List (String × Node)) : Prop :=
  ∃ added : List (String × Node),
    (∀ m ∈ added, m.1 ∉ full.map Prod.fst ∧ m.2.sound = true) ∧
      members.Perm (full.filter (fun m => m.1 ∈ kept) ++ added)

namespace Altered

variable {kept : List String} {full members : List (String × Node)}

theorem mem (h : Altered kept full members) {m : String × Node} (hm : m ∈ members) :
    m ∈ full ∨ m.1 ∉ full.map Prod.fst ∧ m.2.sound = true := by
  rcases h with ⟨added, hadded, hperm⟩
  rcases List.mem_append.mp (hperm.mem_iff.mp hm) with hfull | hmore
  · exact Or.inl (List.mem_of_mem_filter hfull)
  · exact Or.inr (hadded m hmore)

theorem of_reverse (added : List (String × Node))
    (hadded : ∀ m ∈ added, m.1 ∉ full.map Prod.fst ∧ m.2.sound = true)
    (hmembers : members = (full.filter (fun m => m.1 ∈ kept) ++ added).reverse) :
    Altered kept full members :=
  ⟨added, hadded, hmembers ▸ List.reverse_perm _⟩

theorem known (h : Altered kept full members) :
    (members.filter fun m => m.1 ∈ full.map Prod.fst).Perm
      (full.filter fun m => m.1 ∈ kept) := by
  rcases h with ⟨added, hadded, hperm⟩
  have hkept : (full.filter fun m => m.1 ∈ kept).filter (fun m => m.1 ∈ full.map Prod.fst) =
      full.filter fun m => m.1 ∈ kept := by
    apply List.filter_eq_self.mpr
    intro m hm
    exact decide_eq_true (List.mem_map_of_mem (List.mem_of_mem_filter hm))
  have hmore : added.filter (fun m => m.1 ∈ full.map Prod.fst) = [] := by
    apply List.filter_eq_nil_iff.mpr
    intro m hm
    simpa using (hadded m hm).left
  have hfilter := hperm.filter fun m => m.1 ∈ full.map Prod.fst
  rwa [List.filter_append, hkept, hmore, List.append_nil] at hfilter

end Altered

/-!
## Records
-/

variable {α β : Type}

/-- What stands for a field is read, and setting it adds it to the fields that a record has. -/
structure Field.Adds (levels : Nat) (only : List String → α) (field : Field α)
    (part : String × Node) : Prop where
  name : field.name = part.1
  read : ∃ set, field.read levels part.2 = .ok set ∧ ∀ seen, set (only seen) = only (part.1 :: seen)

theorem Field.adds_of {levels : Nat} {only : List String → α} {name : String} {reader : Reader β}
    {set : α → β → α} {required : Bool} {n : Node} {b : β} (hread : reader levels n = .ok b)
    (hset : ∀ seen, set (only seen) b = only (name :: seen)) :
    (Field.of name reader set required).Adds levels only (name, n) where
  name := rfl
  read := by
    refine ⟨fun a => set a b, ?_, hset⟩
    simp [Field.of, hread, bind, Except.bind, pure, Except.pure]

namespace Shape

variable {s : Shape α} {levels : Nat} {only : List String → α} {full : List (String × Node)}

theorem names_of_adds {fields : List (Field α)}
    (h : List.Forall₂ (Field.Adds levels only) fields full) :
    fields.map Field.name = full.map Prod.fst := by
  induction h with
  | nil =>
      rfl
  | cons hfield _ ih =>
      rw [List.map_cons, List.map_cons, hfield.name, ih]

theorem exists_field_of_mem {fields : List (Field α)}
    (h : List.Forall₂ (Field.Adds levels only) fields full) {part : String × Node}
    (hpart : part ∈ full) : ∃ field ∈ fields, field.Adds levels only part := by
  induction h with
  | nil =>
      cases hpart
  | @cons field part' fields full hfield _ ih =>
      rcases List.mem_cons.mp hpart with rfl | hrest
      · exact ⟨field, List.mem_cons_self, hfield⟩
      · rcases ih hrest with ⟨other, hother, hadds⟩
        exact ⟨other, List.mem_cons_of_mem field hother, hadds⟩

def knownNames (full members : List (String × Node)) : List String :=
  (members.filter fun m => m.1 ∈ full.map Prod.fst).map Prod.fst

theorem knownNames_cons_of_known {m : String × Node} (hm : m.1 ∈ full.map Prod.fst)
    (members : List (String × Node)) :
    knownNames full (m :: members) = m.1 :: knownNames full members := by
  simp only [knownNames, List.filter_cons, hm, decide_true, if_true, List.map_cons]

theorem knownNames_cons_of_unknown {m : String × Node} (hm : m.1 ∉ full.map Prod.fst)
    (members : List (String × Node)) :
    knownNames full (m :: members) = knownNames full members := by
  simp only [knownNames, List.filter_cons, hm, decide_false, Bool.false_eq_true, if_false]

theorem complete_of_optional (hoptional : ∀ field ∈ s.fields, field.required = false)
    (seen : List String) (a : α) : s.complete seen a = .ok a := by
  have hnone : (s.fields.find? fun field => field.required && !seen.contains field.name) =
      none := by
    apply List.find?_eq_none.mpr
    intro field hfield
    simp [hoptional field hfield]
  rw [complete, hnone]
  rfl

theorem readMembers_ofList (hnames : (s.fields.map Field.name).Nodup)
    (hoptional : ∀ field ∈ s.fields, field.required = false)
    (hfull : List.Forall₂ (Field.Adds levels only) s.fields full) {members : List (String × Node)}
    (hmembers : ∀ m ∈ members, m ∈ full ∨ m.1 ∉ full.map Prod.fst ∧ m.2.sound = true)
    (hknown : (knownNames full members).Nodup) {seen : List String}
    (hseen : ∀ name ∈ knownNames full members, name ∉ seen) :
    s.readMembers levels seen (only seen) (.ofList members) =
      .ok (only ((knownNames full members).reverse ++ seen)) := by
  have hfields := names_of_adds hfull
  -- On the members; what has been read so far is the record with the fields seen.
  induction members generalizing seen with
  | nil =>
      rw [Members.ofList, readMembers, complete_of_optional hoptional]
      rfl
  | cons m members ih =>
      rw [List.forall_mem_cons] at hmembers
      rcases hmembers with ⟨hhead, hrest⟩
      rw [Members.ofList, readMembers]
      rcases hhead with hm | ⟨hm, hsound⟩
      · rcases exists_field_of_mem hfull hm with ⟨field, hfield, hname, set, hread, hset⟩
        have hfind := find?_name Field.name hnames hfield
        rw [knownNames_cons_of_known (List.mem_map_of_mem hm)] at hknown hseen ⊢
        rw [List.nodup_cons] at hknown
        rw [List.forall_mem_cons] at hseen
        have hunseen : seen.contains m.1 = false := by
          simpa using hseen.left
        have hapart : ∀ name ∈ knownNames full members, name ∉ m.1 :: seen := by
          intro name hknownName hmem
          rcases List.mem_cons.mp hmem with rfl | hmem
          · exact hknown.left hknownName
          · exact hseen.right name hknownName hmem
        rw [← hname, hfind, hname]
        simp only [hunseen, Bool.false_eq_true, if_false, hread]
        change s.readMembers levels (m.1 :: seen) (set (only seen)) (.ofList members) = _
        rw [hset, ih hrest hknown.right hapart, List.reverse_cons, List.append_assoc]
        rfl
      · have hfind : (s.fields.find? fun field => field.name == m.1) = none := by
          apply List.find?_eq_none.mpr
          intro field hfield heq
          apply hm
          rw [← hfields, ← eq_of_beq heq]
          exact List.mem_map_of_mem hfield
        rw [knownNames_cons_of_unknown hm] at hknown hseen ⊢
        simp only [hfind, hsound, if_true]
        exact ih hrest hknown hseen

theorem read_altered (hnames : (s.fields.map Field.name).Nodup)
    (hoptional : ∀ field ∈ s.fields, field.required = false) (hblank : only [] = s.blank)
    (hcongr : ∀ l l', (∀ name ∈ full.map Prod.fst, name ∈ l ↔ name ∈ l') → only l = only l')
    (hfull : List.Forall₂ (Field.Adds levels only) s.fields full) {kept : List String}
    {members : List (String × Node)} (h : Altered kept full members) :
    s.read (levels + 1) (.object (.ofList members)) = .ok (only kept) := by
  have hfields := names_of_adds hfull
  have hperm : (knownNames full members).Perm ((full.filter fun m => m.1 ∈ kept).map Prod.fst) :=
    h.known.map Prod.fst
  have hnodup : (knownNames full members).Nodup := by
    rw [hperm.nodup_iff]
    exact (hfields ▸ hnames).sublist (List.filter_sublist.map Prod.fst)
  have hread := readMembers_ofList hnames hoptional hfull (fun m => h.mem) hnodup
    (fun name _ => List.not_mem_nil)
  rw [read, ← hblank, hread, List.append_nil]
  apply congrArg Except.ok
  apply hcongr
  intro name hname
  rw [List.mem_reverse, hperm.mem_iff]
  constructor
  · intro hmem
    rcases List.mem_map.mp hmem with ⟨m, hm, rfl⟩
    exact of_decide_eq_true (List.mem_filter.mp hm).right
  · intro hkept
    rcases List.mem_map.mp hname with ⟨m, hm, rfl⟩
    exact List.mem_map_of_mem (List.mem_filter.mpr ⟨hm, decide_eq_true hkept⟩)

end Shape

end Json

/-!
## Parts of a view

The sender and the header are shown by some of their members, and the others have their defaults.
-/

def Client.only (kept : List String) (c : Client) : Client where
  ip := if "IP" ∈ kept then c.ip else ""
  mac := if "MAC" ∈ kept then c.mac else ""
  nickname := if "Alias" ∈ kept then c.nickname else ""

def Header.only (kept : List String) (h : Header) : Header where
  id := if "Id" ∈ kept then h.id else 0
  response := if "Response" ∈ kept then h.response else false
  opcode := if "Opcode" ∈ kept then h.opcode else 0
  authoritative := if "Authoritative" ∈ kept then h.authoritative else false
  truncated := if "Truncated" ∈ kept then h.truncated else false
  recursionDesired := if "RecursionDesired" ∈ kept then h.recursionDesired else false
  recursionAvailable := if "RecursionAvailable" ∈ kept then h.recursionAvailable else false
  zero := if "Zero" ∈ kept then h.zero else false
  authenticated := if "AuthenticatedData" ∈ kept then h.authenticated else false
  checkingDisabled := if "CheckingDisabled" ∈ kept then h.checkingDisabled else false
  rcode := if "Rcode" ∈ kept then h.rcode else 0

theorem Client.only_congr (c : Client) {l l' : List String}
    (h : ∀ name ∈ c.toJson.parts.map Prod.fst, name ∈ l ↔ name ∈ l') : c.only l = c.only l' := by
  simp only [toJson, Json.parts, List.map_cons, List.map_nil, List.forall_mem_cons] at h
  simp only [only, h]

theorem Header.only_congr (c : Header) {l l' : List String}
    (h : ∀ name ∈ c.toJson.parts.map Prod.fst, name ∈ l ↔ name ∈ l') :
    c.only l = c.only l' := by
  simp only [toJson, Json.parts, List.map_cons, List.map_nil, List.forall_mem_cons] at h
  simp only [only, h]

theorem Client.read_altered (c : Client) (levels : Nat) {kept : List String}
    {members : List (String × Json.Node)} (h : Json.Altered kept c.toJson.parts members) :
    Client.shape.read (levels + 1) (.object (.ofList members)) = .ok (c.only kept) := by
  have hnames : (Client.shape.fields.map Json.Field.name).Nodup := by decide
  refine Json.Shape.read_altered hnames (by decide) rfl (fun l l' => c.only_congr) ?_ h
  refine .cons (Json.Field.adds_of rfl ?_) (.cons (Json.Field.adds_of rfl ?_)
    (.cons (Json.Field.adds_of rfl ?_) .nil))
  all_goals
    intro seen
    simp [only]

theorem Header.read_altered (c : Header) (levels : Nat) {kept : List String}
    {members : List (String × Json.Node)} (h : Json.Altered kept c.toJson.parts members) :
    Header.shape.read (levels + 1) (.object (.ofList members)) = .ok (c.only kept) := by
  have hnames : (Header.shape.fields.map Json.Field.name).Nodup := by decide
  have hid := Json.readUInt16_ofUInt16 c.id levels
  have hopcode := Json.readUInt8_integer c.opcode levels
  have hrcode := Json.readUInt16_ofUInt16 c.rcode levels
  refine Json.Shape.read_altered hnames (by decide) rfl (fun l l' => c.only_congr) ?_ h
  refine .cons (Json.Field.adds_of rfl ?_) (.cons (Json.Field.adds_of rfl ?_)
    (.cons (Json.Field.adds_of rfl ?_) (.cons (Json.Field.adds_of hid ?_)
    (.cons (Json.Field.adds_of hopcode ?_) (.cons (Json.Field.adds_of hrcode ?_)
    (.cons (Json.Field.adds_of rfl ?_) (.cons (Json.Field.adds_of rfl ?_)
    (.cons (Json.Field.adds_of rfl ?_) (.cons (Json.Field.adds_of rfl ?_)
    (.cons (Json.Field.adds_of rfl ?_) .nil))))))))))
  all_goals
    intro seen
    simp [only]

/-!
## Views

The example is a view with an infinite float and a key that no question has.  Its document has other
members in each object: names that differ from known ones in their case, and a list that is skipped.
-/

namespace View

/--
The view with some members, where the sender and the header have some of their own.  A part that is
missing is as good as one of which all members are missing.
-/
def only (kept keptClient keptHeader : List String) (v : View) : View where
  answers := if "Answers" ∈ kept then v.answers else []
  client := v.client.only (if "Client" ∈ kept then keptClient else [])
  compress := if "Compress" ∈ kept then v.compress else false
  extras := if "Extras" ∈ kept then v.extras else []
  header := v.header.only (if "Header" ∈ kept then keptHeader else [])
  nameservers := if "Nameservers" ∈ kept then v.nameservers else []
  questions := if "Questions" ∈ kept then v.questions else []

def partsWith (client header : List (String × Json.Node)) (v : View) : List (String × Json.Node) :=
  Json.withMembers "Header" header (Json.withMembers "Client" client v.toJson.parts)

theorem partsWith_eq (client header : List (String × Json.Node)) (v : View) :
    v.partsWith client header =
      [("Answers", (mappingsToJson v.answers).node), ("Client", .object (.ofList client)),
        ("Compress", .boolean v.compress), ("Extras", (mappingsToJson v.extras).node),
        ("Header", .object (.ofList header)),
        ("Nameservers", (mappingsToJson v.nameservers).node),
        ("Questions", (mappingsToJson v.questions).node)] := by
  simp [partsWith, Json.withMembers, toJson, Json.parts, Json.node]

variable {kept keptClient keptHeader : List String}

theorem only_congr (v : View) {l l' : List String} {client header : List (String × Json.Node)}
    (h : ∀ name ∈ (v.partsWith client header).map Prod.fst, name ∈ l ↔ name ∈ l') :
    v.only l keptClient keptHeader = v.only l' keptClient keptHeader := by
  simp only [partsWith_eq, List.map_cons, List.map_nil, List.forall_mem_cons] at h
  simp only [only, h]

theorem read_altered {v : View} (hfloats : ∀ m ∈ v.mappings, m.Leaves Value.Unscaled)
    {levels : Nat} (hdepth : ∀ m ∈ v.mappings, m.depth < levels)
    {client header members : List (String × Json.Node)}
    (hclient : Json.Altered keptClient v.client.toJson.parts client)
    (hheader : Json.Altered keptHeader v.header.toJson.parts header)
    (hmembers : Json.Altered kept (v.partsWith client header) members) :
    shape.read (levels + 2) (.object (.ofList members)) =
      .ok (v.only kept keptClient keptHeader).settled := by
  have hnames : (shape.fields.map Json.Field.name).Nodup := by decide
  rcases forall_mappings.mp hfloats with ⟨ha, he, hn, hq⟩
  rcases forall_mappings.mp hdepth with ⟨ha', he', hn', hq'⟩
  have hanswers := (readList_mappings ha levels).trans (if_pos ha')
  have hextras := (readList_mappings he levels).trans (if_pos he')
  have hservers := (readList_mappings hn levels).trans (if_pos hn')
  have hquestions := (readList_mappings hq levels).trans (if_pos hq')
  have hsender := v.client.read_altered levels hclient
  have hfields := v.header.read_altered levels hheader
  have hcongr : ∀ l l', (∀ name ∈ (v.partsWith client header).map Prod.fst,
      name ∈ l ↔ name ∈ l') →
        (v.only l keptClient keptHeader).settled = (v.only l' keptClient keptHeader).settled :=
    fun l l' h => congrArg settled (v.only_congr h)
  refine Json.Shape.read_altered hnames (by decide) rfl hcongr ?_ hmembers
  rw [partsWith_eq]
  refine .cons (Json.Field.adds_of hanswers ?_) (.cons (Json.Field.adds_of hsender ?_)
    (.cons (Json.Field.adds_of rfl ?_) (.cons (Json.Field.adds_of hextras ?_)
    (.cons (Json.Field.adds_of hfields ?_) (.cons (Json.Field.adds_of hservers ?_)
    (.cons (Json.Field.adds_of hquestions ?_) .nil))))))
  all_goals
    intro seen
    simp [only, settled]

/--
A document that shows some members of a view in any order and among others: it is read as the view
with the members that it shows, with null for the floats that are not finite, and no baseline.
-/
theorem ofString_partial {v : View} (hfloats : ∀ m ∈ v.mappings, m.Leaves Value.Unscaled)
    (hdepth : v.toJson.depth ≤ Json.maxDepth) {client header members : List (String × Json.Node)}
    (hclient : Json.Altered keptClient v.client.toJson.parts client)
    (hheader : Json.Altered keptHeader v.header.toJson.parts header)
    (hmembers : Json.Altered kept (v.partsWith client header) members) {text : String}
    (htext : Json.Document.ofString text = ⟨.object (.ofList members), true⟩) :
    Session.ofView <$> ofString text = .ok ⟨(v.only kept keptClient keptHeader).settled, none⟩ := by
  have hmappings : ∀ m ∈ v.mappings, m.depth < 125 := depth_toJson_le.mp hdepth
  have hread := read_altered hfloats hmappings hclient hheader hmembers
  rw [ofString, Json.read, htext, Json.Document.read, Json.maxDepth, hread]
  rfl

def streakedView : View where
  answers := [.ofList [("Ttl", .integer 60)]]
  client := ⟨"10.0.0.9", "aa:bb", "desk"⟩
  compress := true
  extras := []
  header := { (default : Header) with id := 9, response := true, rcode := 3 }
  nameservers := []
  questions := [.ofList [("Odd", .float (.infinite true))]]

def streakedClient : List (String × Json.Node) :=
  [("mac", .boolean false), ("Alias", .text "desk")]

def streakedHeader : List (String × Json.Node) :=
  [("id", .object (.ofList [("Id", (Json.integer 1).node)])), ("Rcode", (Json.integer 3).node),
    ("Id", (Json.integer 9).node)]

def streakedMembers : List (String × Json.Node) :=
  [("zz", .sequence (.cons (.number ⟨false, [1], [], some ⟨false, 999⟩⟩)
      (.cons (.text none) .closed))),
    ("Questions", (mappingsToJson streakedView.questions).node),
    ("Header", .object (.ofList streakedHeader)), ("Client", .object (.ofList streakedClient))]

def streakedText : String :=
  "\x7b\"zz\": [1e999, \"\\ud800\"], \"Questions\": [\x7b\"Odd\": null\x7d], " ++
    "\"Header\": \x7b\"id\": \x7b\"Id\": 1\x7d, \"Rcode\": 3, \"Id\": 9\x7d, " ++
    "\"Client\": \x7b\"mac\": false, \"Alias\": \"desk\"\x7d\x7d"

theorem ofString_partial_streaked :
    Session.ofView <$> ofString streakedText = .ok
      ⟨{ (default : View) with
          client := ⟨"", "", "desk"⟩
          header := { (default : Header) with id := 9, rcode := 3 }
          questions := [.ofList [("Odd", .null)]] }, none⟩ := by
  have hfloats : ∀ m ∈ streakedView.mappings, m.Leaves Value.Unscaled := by
    simp [forall_mappings, streakedView, Fields.ofList, Fields.insert, Fields.place, Fields.Leaves,
      Value.Leaves, Value.Unscaled]
  have hdepth : streakedView.toJson.depth ≤ Json.maxDepth := by
    decide
  have hclient : Json.Altered ["Alias"] streakedView.client.toJson.parts streakedClient :=
    .of_reverse [("mac", .boolean false)] (by decide) rfl
  have hheader : Json.Altered ["Id", "Rcode"] streakedView.header.toJson.parts streakedHeader :=
    .of_reverse [("id", .object (.ofList [("Id", (Json.integer 1).node)]))] (by decide) rfl
  have hmembers : Json.Altered ["Client", "Header", "Questions"]
      (streakedView.partsWith streakedClient streakedHeader) streakedMembers :=
    .of_reverse [("zz", .sequence (.cons (.number ⟨false, [1], [], some ⟨false, 999⟩⟩)
      (.cons (.text none) .closed)))] (by decide) rfl
  have htext : Json.Document.ofString streakedText = ⟨.object (.ofList streakedMembers), true⟩ := by
    cbv
  exact ofString_partial hfloats hdepth hclient hheader hmembers htext

end View

end DnsView
