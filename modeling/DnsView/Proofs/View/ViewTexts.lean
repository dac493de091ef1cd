import DnsView.Proofs.Json.Readings
import DnsView.Proofs.Json.Rereadings
import DnsView.Proofs.View.SettledValues
import DnsView.Proofs.Json.Nesting
import DnsView.View.Session

/-!
# Values and views read back

Views are read back from their texts, value by value.
-/

/-!
## Values read back

A value is read from its JSON form if its depth does not exceed the levels that may be opened.  Null
takes the place of the floats that are not finite, and each other float gets the magnitude that is
read for what is written for it.  The value comes back as its text shows it exactly if each of its
floats does.
-/

namespace DnsView

/-!
### Floats and their neighbours

A float may be read back as another one, since what is written for it can be rounded twice.  A value
is steady if none of its floats is.
-/

def Binary64.reread : Binary64 → Value
  | .finite negative m => .float (.finite negative m.reread)
  | .infinite _ => .null
  | .nan => .null

mutual

/-- The value with each float as it is read back. -/
def Value.reread : Value → Value
  | .null => .null
  | .boolean b => .boolean b
  | .integer n => .integer n
  | .float x => x.reread
  | .text s => .text s
  | .list items => .list (Value.rereadItems items)
  | .mapping fields => .mapping fields.reread

def Value.rereadItems : List Value → List Value
  | [] => []
  | v :: vs => v.reread :: Value.rereadItems vs

def Fields.reread {lo : Option String} : Fields lo → Fields lo
  | .nil => .nil
  | .cons key v rest above => .cons key v.reread rest.reread above

end

def Value.Steady (v : Value) : Prop :=
  ∀ x, v = .float x → x.reread = x.settled

theorem Binary64.reread_eq_settled_iff (x : Binary64) :
    x.reread = x.settled ↔ (Value.float x).Steady := by
  constructor
  · rintro h y heq
    cases heq
    exact h
  · exact fun h => h x rfl

mutual

/-- A value comes back as its text shows it if its floats do. -/
theorem Value.reread_eq_settled_iff :
    ∀ v : Value, v.reread = v.settled ↔ v.Leaves Value.Steady
  | .null => iff_of_true rfl fun _ heq => nomatch heq
  | .boolean _ => iff_of_true rfl fun _ heq => nomatch heq
  | .integer _ => iff_of_true rfl fun _ heq => nomatch heq
  | .float x => x.reread_eq_settled_iff
  | .text _ => iff_of_true rfl fun _ heq => nomatch heq
  | .list items => by
      rw [Value.reread, Value.settled, Value.list.injEq, Value.rereadItems_eq_settled_iff items,
        Value.Leaves]
  | .mapping fields => by
      rw [Value.reread, Value.settled, Value.mapping.injEq, Fields.reread_eq_settled_iff fields,
        Value.Leaves]

theorem Value.rereadItems_eq_settled_iff : ∀ vs : List Value,
    Value.rereadItems vs = Value.settledItems vs ↔ Value.ItemLeaves Value.Steady vs
  | [] => iff_of_true rfl trivial
  | v :: vs => by
      rw [Value.rereadItems, Value.settledItems, List.cons.injEq, Value.reread_eq_settled_iff v,
        Value.rereadItems_eq_settled_iff vs, Value.ItemLeaves]

theorem Fields.reread_eq_settled_iff {lo : Option String} : ∀ fields : Fields lo,
    fields.reread = fields.settled ↔ fields.Leaves Value.Steady
  | .nil => iff_of_true rfl trivial
  | .cons key v rest above => by
      have hvalue := Value.reread_eq_settled_iff v
      have hrest := Fields.reread_eq_settled_iff rest
      rw [Fields.reread, Fields.settled, Fields.Leaves, ← hvalue, ← hrest]
      simp only [Fields.cons.injEq, heq_eq_eq, true_and]

end

/-!
### Reading
-/

theorem Value.ofNumber_toInt (n : Int64) : ofNumber (.integer n.toInt) = .integer n := by
  have hlow : -0x8000000000000000 ≤ n.toInt := n.le_toInt
  have hhigh : n.toInt < 0x8000000000000000 := n.toInt_lt
  rw [ofNumber, if_pos ⟨hlow, hhigh⟩, Int64.ofInt_toInt]

theorem Value.ofNode_integer (n : Int64) (levels : Nat) :
    ofNode levels (integer n).toJson.node = .ok (integer n) := by
  have hlow : -0x8000000000000000 ≤ n.toInt := n.le_toInt
  have hhigh : n.toInt < 0x8000000000000000 := n.toInt_lt
  have hnumber := Json.Numeral.number?_ofInt hlow (Int.lt_trans hhigh (by decide))
  rw [toJson, Json.node, ofNode, hnumber]
  exact congrArg Except.ok (ofNumber_toInt n)

theorem Value.ofNode_float (x : Binary64) (levels : Nat) :
    ofNode levels (float x).toJson.node = .ok x.reread := by
  cases x with
  | finite negative m =>
      have hnumber := Json.Numeral.number?_ofMagnitude negative m
      rw [toJson, Json.node, Json.floatNode, ofNode, hnumber]
      rfl
  | infinite negative =>
      rfl
  | nan =>
      rfl

mutual

theorem Value.ofNode_toJson : ∀ (v : Value) (levels : Nat),
    Value.ofNode levels v.toJson.node =
      if v.depth ≤ levels then .ok v.reread else .error .malformed
  | .null, _ => rfl
  | .boolean _, _ => rfl
  | .integer n, levels => Value.ofNode_integer n levels
  | .float x, levels => Value.ofNode_float x levels
  | .text _, _ => rfl
  | .list items, 0 => rfl
  | .list items, levels + 1 => by
      have hitems := Value.ofItems_toJson items levels
      rw [Value.toJson, Json.node, Value.ofNode, hitems]
      simp only [Value.depth, Nat.add_le_add_iff_right]
      split
      · rfl
      · rfl
  | .mapping fields, 0 => rfl
  | .mapping fields, levels + 1 => by
      have hfields := Fields.ofMembers_toJson fields levels .nil
      rw [Value.toJson, Json.node, Value.ofNode, hfields]
      simp only [Value.depth, Nat.add_le_add_iff_right]
      split
      · rw [Fields.putAll_nil]
        rfl
      · rfl

theorem Value.ofItems_toJson : ∀ (vs : List Value) (levels : Nat),
    Value.ofItems levels (Json.itemNodes (Value.toJsonItems vs)) =
      if Value.itemDepth vs ≤ levels then .ok (Value.rereadItems vs) else .error .malformed
  | [], levels => by
      simp [Value.itemDepth, Value.toJsonItems, Json.itemNodes, Value.ofItems, Value.rereadItems,
        pure, Except.pure]
  | v :: vs, levels => by
      have hhead := Value.ofNode_toJson v levels
      have htail := Value.ofItems_toJson vs levels
      rw [Value.toJsonItems, Json.itemNodes, Value.ofItems, hhead, htail]
      simp only [Value.itemDepth, Nat.max_le]
      by_cases hv : v.depth ≤ levels
      · by_cases hvs : Value.itemDepth vs ≤ levels
        · simp only [hv, hvs, and_self, if_true]
          rfl
        · simp only [hv, hvs, and_false, if_true, if_false]
          rfl
      · simp only [hv, false_and, if_false]
        rfl

theorem Fields.ofMembers_toJson {lo : Option String} :
    ∀ (fields : Fields lo) (levels : Nat) (m : Mapping),
      Value.ofMembers levels m (Json.memberNodes fields.toJsonMembers) =
        if fields.depth ≤ levels then .ok (m.putAll fields.reread) else .error .malformed
  | .nil, levels, m => by
      simp [Fields.depth, Fields.toJsonMembers, Json.memberNodes, Value.ofMembers, Fields.reread,
        Fields.putAll, pure, Except.pure]
  | .cons key v rest above, levels, m => by
      have hhead := Value.ofNode_toJson v levels
      have htail := Fields.ofMembers_toJson rest levels (m.insert key v.reread)
      rw [Fields.toJsonMembers, Json.memberNodes, Value.ofMembers, hhead]
      simp only [Fields.depth, Nat.max_le]
      by_cases hv : v.depth ≤ levels
      · simp only [hv, true_and, if_true]
        exact htail
      · simp only [hv, false_and, if_false]
        rfl

end

theorem Fields.reader_toJson (m : Mapping) (levels : Nat) :
    Fields.reader levels m.toJson.node =
      if m.depth < levels then .ok m.reread else .error .malformed := by
  cases levels with
  | zero =>
      rfl
  | succ levels =>
      have hmembers := Fields.ofMembers_toJson m levels .nil
      rw [Fields.putAll_nil] at hmembers
      simp only [Nat.lt_succ_iff]
      exact hmembers

/-!
## Views read back from their texts

A view is read back from its text together with its header and its sender, if and only if the text
nests no deeper than documents may.  Each float in it comes back as it is read for what is written
for it, so a view without finite floats comes back as its text shows it.
-/

/-!
### Values
-/

/-- No float with a JSON number. -/
def Value.Unscaled (v : Value) : Prop :=
  ∀ negative m, v ≠ .float (.finite negative m)

theorem Value.Solid.unscaled {v : Value} (h : v.Solid) : v.Unscaled := by
  rintro negative m rfl
  exact h

theorem Value.Unscaled.steady {v : Value} (h : v.Unscaled) : v.Steady := by
  rintro x rfl
  cases x with
  | finite negative m =>
      exact absurd rfl (h negative m)
  | infinite negative =>
      rfl
  | nan =>
      rfl

/-!
### Depth

The JSON form of a value is as deep as the value.
-/

mutual

theorem Value.depth_toJson : ∀ v : Value, v.toJson.depth = v.depth
  | .null => rfl
  | .boolean _ => rfl
  | .integer _ => rfl
  | .float _ => rfl
  | .text _ => rfl
  | .list items => by
      rw [Value.toJson, Json.depth, Value.itemDepth_toJson items, Value.depth]
  | .mapping fields => by
      rw [Value.toJson, Json.depth, Fields.memberDepth_toJson fields, Value.depth]

theorem Value.itemDepth_toJson : ∀ vs : List Value,
    Json.itemDepth (Value.toJsonItems vs) = Value.itemDepth vs
  | [] => rfl
  | v :: vs => by
      rw [Value.toJsonItems, Json.itemDepth, Value.depth_toJson v, Value.itemDepth_toJson vs,
        Value.itemDepth]

theorem Fields.memberDepth_toJson {lo : Option String} : ∀ fields : Fields lo,
    Json.memberDepth fields.toJsonMembers = fields.depth
  | .nil => rfl
  | .cons key v rest above => by
      rw [Fields.toJsonMembers, Json.memberDepth, Value.depth_toJson v,
        Fields.memberDepth_toJson rest, Fields.depth]

end

/-!
### Senders and headers
-/

theorem Client.read_toJson (c : Client) (levels : Nat) :
    Client.shape.read (levels + 1) c.toJson.node = .ok c := by
  have hnames : (Client.shape.fields.map Json.Field.name).Nodup := by decide
  exact Json.Shape.read_object hnames (.of rfl (.of rfl (.of rfl .nil)))

theorem Header.read_toJson (h : Header) (levels : Nat) :
    Header.shape.read (levels + 1) h.toJson.node = .ok h := by
  have hnames : (Header.shape.fields.map Json.Field.name).Nodup := by decide
  have hid := Json.readUInt16_ofUInt16 h.id levels
  have hopcode := Json.readUInt8_integer h.opcode levels
  have hrcode := Json.readUInt16_ofUInt16 h.rcode levels
  exact Json.Shape.read_object hnames
    (.of rfl (.of rfl (.of rfl (.of hid (.of hopcode (.of hrcode (.of rfl (.of rfl (.of rfl
      (.of rfl (.of rfl .nil)))))))))))

/-!
### Views

A view is settled and reread mapping by mapping.  The examples are views with an infinite float
inside so many lists.
-/

namespace View

def settled (v : View) : View :=
  { v with
    answers := v.answers.map Fields.settled
    extras := v.extras.map Fields.settled
    nameservers := v.nameservers.map Fields.settled
    questions := v.questions.map Fields.settled }

theorem settled_of_finite {v : View} (h : ∀ m ∈ v.mappings, m.Leaves Value.Finite) :
    v.settled = v := by
  rcases forall_mappings.mp h with ⟨hanswers, hextras, hservers, hquestions⟩
  rw [settled, map_settled_of_finite hanswers, map_settled_of_finite hextras,
    map_settled_of_finite hservers, map_settled_of_finite hquestions]

theorem settled_of_solid {v : View} (h : ∀ m ∈ v.mappings, m.Leaves Value.Solid) :
    v.settled = v :=
  settled_of_finite fun m hm => (h m hm).mono fun _ => Value.Solid.finite

def reread (v : View) : View :=
  { v with
    answers := v.answers.map Fields.reread
    extras := v.extras.map Fields.reread
    nameservers := v.nameservers.map Fields.reread
    questions := v.questions.map Fields.reread }

theorem map_reread_eq_settled_iff (ms : List Mapping) :
    ms.map Fields.reread = ms.map Fields.settled ↔ ∀ m ∈ ms, m.Leaves Value.Steady := by
  rw [List.map_inj_left]
  simp only [Fields.reread_eq_settled_iff]

theorem reread_eq_settled_iff (v : View) :
    v.reread = v.settled ↔ ∀ m ∈ v.mappings, m.Leaves Value.Steady := by
  simp only [reread, settled, View.mk.injEq, map_reread_eq_settled_iff, forall_mappings, true_and]

theorem reread_of_unscaled {v : View} (h : ∀ m ∈ v.mappings, m.Leaves Value.Unscaled) :
    v.reread = v.settled :=
  v.reread_eq_settled_iff.mpr fun m hm => (h m hm).mono fun _ => Value.Unscaled.steady

theorem readList_node (ms : List Mapping) (levels : Nat) :
    Json.readList Fields.reader (levels + 1) (mappingsToJson ms).node =
      if ∀ m ∈ ms, m.depth < levels then .ok (ms.map Fields.reread) else .error .malformed :=
  Json.readItems_map fun m _ => m.reader_toJson levels

theorem readList_mappings {ms : List Mapping} (h : ∀ m ∈ ms, m.Leaves Value.Unscaled)
    (levels : Nat) : Json.readList Fields.reader (levels + 1) (mappingsToJson ms).node =
      if ∀ m ∈ ms, m.depth < levels then .ok (ms.map Fields.settled) else .error .malformed := by
  have hsteady := (map_reread_eq_settled_iff ms).mpr fun m hm =>
    (h m hm).mono fun _ => Value.Unscaled.steady
  rw [readList_node, hsteady]

/-- A view is read from its JSON form unless one of its mappings is too deep for the levels left. -/
theorem read_node (v : View) (levels : Nat) :
    shape.read (levels + 2) v.toJson.node =
      if ∀ m ∈ v.mappings, m.depth < levels then .ok v.reread else .error .malformed := by
  have hnames : (shape.fields.map Json.Field.name).Nodup := by decide
  have hanswers := readList_node v.answers levels
  have hextras := readList_node v.extras levels
  have hservers := readList_node v.nameservers levels
  have hquestions := readList_node v.questions levels
  have hclient := v.client.read_toJson levels
  have hheader := v.header.read_toJson levels
  have hread : shape.read (levels + 2) v.toJson.node = _ := Json.Shape.read_object hnames
    (.of hanswers (.of hclient (.of rfl (.of hextras (.of hheader (.of hservers
      (.of hquestions .nil)))))))
  by_cases hall : ∀ m ∈ v.mappings, m.depth < levels
  · rcases forall_mappings.mp hall with ⟨ha, he, hn, hq⟩
    rw [hread, if_pos ha, if_pos he, if_pos hn, if_pos hq, if_pos hall]
    rfl
  · rw [hread, if_neg hall]
    by_cases ha : ∀ m ∈ v.answers, m.depth < levels
    · by_cases he : ∀ m ∈ v.extras, m.depth < levels
      · by_cases hn : ∀ m ∈ v.nameservers, m.depth < levels
        · have hq : ¬∀ m ∈ v.questions, m.depth < levels :=
            fun hq => hall (forall_mappings.mpr ⟨ha, he, hn, hq⟩)
          rw [if_pos ha, if_pos he, if_pos hn, if_neg hq]
          rfl
        · rw [if_pos ha, if_pos he, if_neg hn]
          rfl
      · rw [if_pos ha, if_neg he]
        rfl
    · rw [if_neg ha]
      rfl

theorem read_toJson {v : View} (h : ∀ m ∈ v.mappings, m.Leaves Value.Unscaled) (levels : Nat) :
    shape.read (levels + 2) v.toJson.node =
      if ∀ m ∈ v.mappings, m.depth < levels then .ok v.settled else .error .malformed := by
  rw [read_node, reread_of_unscaled h]

theorem depth_mappingsToJson_le {ms : List Mapping} {n : Nat} :
    (mappingsToJson ms).depth ≤ n + 1 ↔ ∀ m ∈ ms, m.depth < n := by
  rw [mappingsToJson, Json.depth, Nat.add_le_add_iff_right]
  induction ms with
  | nil =>
      simp [Json.itemDepth]
  | cons m ms ih =>
      rw [List.map_cons, Json.itemDepth, Nat.max_le, ih, List.forall_mem_cons, Fields.toJson,
        Json.depth, Fields.memberDepth_toJson, Nat.succ_le_iff]

theorem depth_toJson_le {v : View} {n : Nat} :
    v.toJson.depth ≤ n + 2 ↔ ∀ m ∈ v.mappings, m.depth < n := by
  have hclient : v.client.toJson.depth = 1 := rfl
  have hheader : v.header.toJson.depth = 1 := rfl
  have hcompress : (Json.boolean v.compress).depth = 0 := rfl
  rw [toJson, Json.depth, Nat.add_le_add_iff_right]
  simp only [Json.memberDepth, hclient, hheader, hcompress, Nat.max_le, depth_mappingsToJson_le,
    forall_mappings]
  constructor
  · rintro ⟨ha, _, _, he, _, hn, hq, _⟩
    exact ⟨ha, he, hn, hq⟩
  · rintro ⟨ha, he, hn, hq⟩
    exact ⟨ha, Nat.le_add_left 1 n, Nat.zero_le _, he, Nat.le_add_left 1 n, hn, hq, Nat.zero_le _⟩

/--
The text of a view without finite floats, in either layout, is read back if and only if it nests at
most 127 levels deep.  What is read has no baseline, and null for each float that is not finite.
-/
theorem ofString_render_of_unscaled {v : View} (h : ∀ m ∈ v.mappings, m.Leaves Value.Unscaled)
    (s : Json.Spacing) :
    Session.ofView <$> ofString (v.toJson.render s) =
      if Json.nesting (v.toJson.render s) ≤ 127 then .ok ⟨v.settled, none⟩
      else .error .malformed := by
  have hread : ofString (v.toJson.render s) =
      if ∀ m ∈ v.mappings, m.depth < 125 then .ok v.settled else .error .malformed := by
    rw [ofString, Json.read, Json.Document.ofString_render, Json.Document.read, Json.maxDepth,
      read_toJson h 125]
    split
    · rfl
    · rfl
  rw [hread, Json.nesting_render]
  by_cases hdepth : v.toJson.depth ≤ 127
  · rw [if_pos hdepth, if_pos (depth_toJson_le.mp hdepth)]
    rfl
  · rw [if_neg hdepth, if_neg fun hall => hdepth (depth_toJson_le.mpr hall)]
    rfl

def nested (v : Value) : Nat → Value
  | 0 => v
  | n + 1 => .list [nested v n]

def nestedView (n : Nat) : View :=
  { (default : View) with
    answers := [.ofList [("\x01\"[", nested (.float (.infinite true)) n)]]
    client := ⟨"[\x7b\\", "", "é"⟩ }

theorem mappings_nestedView (n : Nat) : (nestedView n).mappings =
    [.ofList [("\x01\"[", nested (.float (.infinite true)) n)]] :=
  rfl

theorem unscaled_nestedView (n : Nat) :
    ∀ m ∈ (nestedView n).mappings, m.Leaves Value.Unscaled := by
  have hnested : (nested (.float (.infinite true)) n).Leaves Value.Unscaled := by
    induction n with
    | zero =>
        intro negative x hfinite
        cases hfinite
    | succ n ih =>
        exact ⟨ih, trivial⟩
  intro m hm
  rw [mappings_nestedView, List.mem_singleton] at hm
  rw [hm]
  exact ⟨hnested, trivial⟩

theorem depth_nestedView_lt {n k : Nat} :
    (∀ m ∈ (nestedView n).mappings, m.depth < k) ↔ n < k := by
  have hnested : (nested (.float (.infinite true)) n).depth = n := by
    induction n with
    | zero =>
        rfl
    | succ n ih =>
        rw [nested, Value.depth, Value.itemDepth, ih, Value.itemDepth, Nat.max_zero]
  have hmapping : (Fields.ofList [("\x01\"[", nested (.float (.infinite true)) n)]).depth = n := by
    calc
      (Fields.ofList [("\x01\"[", nested (.float (.infinite true)) n)]).depth =
          max (nested (.float (.infinite true)) n).depth 0 := rfl
      _ = n := by rw [hnested, Nat.max_zero]
  rw [mappings_nestedView, List.forall_mem_singleton, hmapping]

theorem ofString_render_of_unscaled_nested :
    (∀ m ∈ (nestedView 124).mappings, m.Leaves Value.Unscaled) ∧
      Session.ofView <$> ofString ((nestedView 124).toJson.render .indented) =
        .ok ⟨(nestedView 124).settled, none⟩ ∧
      (∀ m ∈ (nestedView 125).mappings, m.Leaves Value.Unscaled) ∧
      Session.ofView <$> ofString ((nestedView 125).toJson.render .compact) =
        .error .malformed := by
  refine ⟨unscaled_nestedView 124, ?_, unscaled_nestedView 125, ?_⟩
  · rw [ofString_render_of_unscaled (unscaled_nestedView 124), if_pos]
    rw [Json.nesting_render, depth_toJson_le, depth_nestedView_lt]
    decide
  · rw [ofString_render_of_unscaled (unscaled_nestedView 125), if_neg]
    rw [Json.nesting_render, depth_toJson_le, depth_nestedView_lt]
    decide

end View

end DnsView
