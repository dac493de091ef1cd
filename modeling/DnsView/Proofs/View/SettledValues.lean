import DnsView.View.Basic
import DnsView.Proofs.Json.Trees
import DnsView.Proofs.View.Mappings

/-!
# Settled values and leaves

A value is known from its JSON text up to what the text does not show, and exactly if it is made of
the right leaves.
-/

/-!
## Values as their JSON texts show them

JSON has no floats that are not finite: they are written as null.  A value is settled when each of
them has been replaced by null.  Settling changes nothing in the JSON text of a value, and two
values whose texts are read alike are the same once they are settled.
-/

namespace DnsView

def Binary64.settled : Binary64 → Value
  | .finite negative m => .float (.finite negative m)
  | .infinite _ => .null
  | .nan => .null

mutual

/-- The value with null in place of every float that is not finite. -/
def Value.settled : Value → Value
  | .null => .null
  | .boolean b => .boolean b
  | .integer n => .integer n
  | .float x => x.settled
  | .text s => .text s
  | .list items => .list (Value.settledItems items)
  | .mapping fields => .mapping fields.settled

def Value.settledItems : List Value → List Value
  | [] => []
  | v :: vs => v.settled :: Value.settledItems vs

def Fields.settled {lo : Option String} : Fields lo → Fields lo
  | .nil => .nil
  | .cons key v rest above => .cons key v.settled rest.settled above

end

/-!
### The text of a settled value
-/

theorem Binary64.chars_settled (s : Json.Spacing) (level : Nat) (x : Binary64) :
    x.settled.toJson.chars s level = Json.numberFormat.text x := by
  cases x with
  | finite negative m =>
      rfl
  | infinite negative =>
      cases negative with
      | true =>
          rfl
      | false =>
          rfl
  | nan =>
      rfl

mutual

theorem Value.chars_settled (s : Json.Spacing) (level : Nat) :
    ∀ v : Value, v.settled.toJson.chars s level = v.toJson.chars s level
  | .null => rfl
  | .boolean _ => rfl
  | .integer _ => rfl
  | .float x => Binary64.chars_settled s level x
  | .text _ => rfl
  | .list [] => rfl
  | .list (v :: vs) => by
      have hhead := Value.chars_settled s (level + 1) v
      have htail := Value.itemChars_settled s (level + 1) vs
      simp only [Value.settled, Value.settledItems, Value.toJson, Value.toJsonItems, Json.chars,
        hhead, htail]
  | .mapping .nil => rfl
  | .mapping (.cons key v rest above) => by
      have hhead := Value.chars_settled s (level + 1) v
      have htail := Fields.memberChars_settled s (level + 1) rest
      simp only [Value.settled, Fields.settled, Value.toJson, Fields.toJsonMembers, Json.chars,
        hhead, htail]

theorem Value.itemChars_settled (s : Json.Spacing) (level : Nat) :
    ∀ vs : List Value, Json.itemChars s level (Value.toJsonItems (Value.settledItems vs)) =
      Json.itemChars s level (Value.toJsonItems vs)
  | [] => rfl
  | v :: vs => by
      have hhead := Value.chars_settled s level v
      have htail := Value.itemChars_settled s level vs
      simp only [Value.settledItems, Value.toJsonItems, Json.itemChars, hhead, htail]

theorem Fields.memberChars_settled (s : Json.Spacing) (level : Nat) {lo : Option String} :
    ∀ fields : Fields lo, Json.memberChars s level fields.settled.toJsonMembers =
      Json.memberChars s level fields.toJsonMembers
  | .nil => rfl
  | .cons key v rest above => by
      have hhead := Value.chars_settled s level v
      have htail := Fields.memberChars_settled s level rest
      simp only [Fields.settled, Fields.toJsonMembers, Json.memberChars, hhead, htail]

end

/-!
### Values with the same node
-/

theorem Binary64.settled_eq_null_of_node {x : Binary64} (h : Json.floatNode x = .null) :
    x.settled = .null := by
  cases x with
  | finite negative m =>
      cases h
  | infinite negative =>
      rfl
  | nan =>
      rfl

theorem Binary64.settled_eq_of_node {x y : Binary64} (h : Json.floatNode x = Json.floatNode y) :
    x.settled = y.settled := by
  cases x with
  | finite negative m =>
      cases y with
      | finite negative' n =>
          simp only [Json.floatNode, Json.Node.number.injEq] at h
          rcases Json.Numeral.ofMagnitude_injective h with ⟨rfl, rfl⟩
          rfl
      | infinite negative' =>
          cases h
      | nan =>
          cases h
  | infinite negative =>
      exact (settled_eq_null_of_node h.symm).symm
  | nan =>
      exact (settled_eq_null_of_node h.symm).symm

theorem Binary64.node_ne_integer (x : Binary64) (n : Int) :
    Json.floatNode x ≠ .number (.ofInt n) := by
  intro h
  cases x with
  | finite negative m =>
      exact Json.Numeral.ofMagnitude_ne_ofInt negative m n (Json.Node.number.inj h)
  | infinite negative =>
      cases h
  | nan =>
      cases h

theorem Binary64.node_ne {x : Binary64} {v : Value} (hnull : v ≠ .null)
    (hfloat : ∀ y, v ≠ .float y) : Json.floatNode x ≠ v.toJson.node := by
  intro h
  cases v with
  | null =>
      exact hnull rfl
  | float y =>
      exact hfloat y rfl
  | integer n =>
      exact x.node_ne_integer n.toInt h
  | _ =>
      cases x <;> cases h

mutual

/-- Values whose texts are read alike are the same once they are settled. -/
theorem Value.settled_eq_of_node : ∀ {v w : Value}, v.toJson.node = w.toJson.node →
    v.settled = w.settled
  | .null, w, h => by
      cases w with
      | null =>
          rfl
      | float y =>
          exact (Binary64.settled_eq_null_of_node h.symm).symm
      | _ =>
          cases h
  | .boolean b, w, h => by
      cases w with
      | boolean c =>
          cases h
          rfl
      | float y =>
          exact absurd h.symm (Binary64.node_ne (by simp) (by simp))
      | _ =>
          cases h
  | .integer n, w, h => by
      cases w with
      | integer k =>
          have hint := Json.Numeral.ofInt_injective (Json.Node.number.inj h)
          rw [Int64.toInt_inj.mp hint]
      | float y =>
          exact absurd h.symm (Binary64.node_ne (by simp) (by simp))
      | _ =>
          cases h
  | .float x, w, h => by
      cases w with
      | null =>
          exact Binary64.settled_eq_null_of_node h
      | float y =>
          exact Binary64.settled_eq_of_node h
      | _ =>
          exact absurd h (Binary64.node_ne (by simp) (by simp))
  | .text s, w, h => by
      cases w with
      | text t =>
          cases h
          rfl
      | float y =>
          exact absurd h.symm (Binary64.node_ne (by simp) (by simp))
      | _ =>
          cases h
  | .list vs, w, h => by
      cases w with
      | list ws =>
          have hitems := Value.settledItems_eq_of_nodes (Json.Node.sequence.inj h)
          simp only [Value.settled, hitems]
      | float y =>
          exact absurd h.symm (Binary64.node_ne (by simp) (by simp))
      | _ =>
          cases h
  | .mapping fields, w, h => by
      cases w with
      | mapping fields' =>
          have hfields := Fields.settled_eq_of_nodes (Json.Node.object.inj h)
          simp only [Value.settled, hfields]
      | float y =>
          exact absurd h.symm (Binary64.node_ne (by simp) (by simp))
      | _ =>
          cases h

theorem Value.settledItems_eq_of_nodes : ∀ {vs ws : List Value},
    Json.itemNodes (Value.toJsonItems vs) = Json.itemNodes (Value.toJsonItems ws) →
      Value.settledItems vs = Value.settledItems ws
  | [], ws, h => by
      cases ws with
      | nil =>
          rfl
      | cons w ws =>
          cases h
  | v :: vs, ws, h => by
      cases ws with
      | nil =>
          cases h
      | cons w ws =>
          simp only [Value.toJsonItems, Json.itemNodes, Json.Items.cons.injEq] at h
          have hhead := Value.settled_eq_of_node h.left
          have htail := Value.settledItems_eq_of_nodes h.right
          simp only [Value.settledItems, hhead, htail]

theorem Fields.settled_eq_of_nodes {lo : Option String} : ∀ {fields fields' : Fields lo},
    Json.memberNodes fields.toJsonMembers = Json.memberNodes fields'.toJsonMembers →
      fields.settled = fields'.settled
  | .nil, fields', h => by
      cases fields' with
      | nil =>
          rfl
      | cons key v rest above =>
          cases h
  | .cons key v rest above, fields', h => by
      cases fields' with
      | nil =>
          cases h
      | cons key' w rest' above' =>
          simp only [Fields.toJsonMembers, Json.memberNodes, Json.Members.cons.injEq,
            Option.some.injEq] at h
          rcases h with ⟨rfl, hvalue, hmembers⟩
          have hhead := Value.settled_eq_of_node hvalue
          have htail := Fields.settled_eq_of_nodes hmembers
          simp only [Fields.settled, hhead, htail]

end

/-!
### Lists of mappings
-/

namespace View

theorem mappingsToJson_eq (ms : List Mapping) :
    mappingsToJson ms = (Value.list (ms.map Value.mapping)).toJson := by
  rw [mappingsToJson, Value.toJson]
  congr 1
  induction ms with
  | nil =>
      rfl
  | cons m ms ih =>
      rw [List.map_cons, List.map_cons, Value.toJsonItems, ih]
      rfl

theorem settled_mappings (ms : List Mapping) :
    (Value.list (ms.map Value.mapping)).settled =
      .list ((ms.map Fields.settled).map Value.mapping) := by
  rw [Value.settled]
  congr 1
  induction ms with
  | nil =>
      rfl
  | cons m ms ih =>
      rw [List.map_cons, List.map_cons, List.map_cons, Value.settledItems, ih]
      rfl

theorem mappings_settled_eq_of_node {ms ns : List Mapping}
    (h : (mappingsToJson ms).node = (mappingsToJson ns).node) :
    ms.map Fields.settled = ns.map Fields.settled := by
  rw [mappingsToJson_eq, mappingsToJson_eq] at h
  have hsettled := Value.settled_eq_of_node h
  rw [settled_mappings, settled_mappings, Value.list.injEq] at hsettled
  apply List.map_injective_iff.mpr _ hsettled
  intro m n hmapping
  exact Value.mapping.inj hmapping

theorem chars_mappings_settled (s : Json.Spacing) (level : Nat) (ms : List Mapping) :
    (mappingsToJson (ms.map Fields.settled)).chars s level = (mappingsToJson ms).chars s level := by
  rw [mappingsToJson_eq, mappingsToJson_eq, ← settled_mappings, Value.chars_settled]

end View

/-!
## What values are made of

The leaves of a value are its parts that hold no further values, and its depth is the number of
lists and mappings around its innermost part.  Settling does not change a value whose floats are
finite.  A value none of whose leaves is null or a float is the only one with its JSON text, since
settling does not lead to it from another value either.
-/

/-!
### Leaves and depth
-/

mutual

/-- Every leaf of a value has a property. -/
def Value.Leaves (p : Value → Prop) : Value → Prop
  | .null => p .null
  | .boolean b => p (.boolean b)
  | .integer n => p (.integer n)
  | .float x => p (.float x)
  | .text s => p (.text s)
  | .list items => Value.ItemLeaves p items
  | .mapping fields => fields.Leaves p

def Value.ItemLeaves (p : Value → Prop) : List Value → Prop
  | [] => True
  | v :: vs => v.Leaves p ∧ Value.ItemLeaves p vs

def Fields.Leaves (p : Value → Prop) {lo : Option String} : Fields lo → Prop
  | .nil => True
  | .cons _ v rest _ => v.Leaves p ∧ rest.Leaves p

end

mutual

/-- The greatest number of lists and mappings around a leaf. -/
def Value.depth : Value → Nat
  | .list items => Value.itemDepth items + 1
  | .mapping fields => fields.depth + 1
  | _ => 0

def Value.itemDepth : List Value → Nat
  | [] => 0
  | v :: vs => max v.depth (Value.itemDepth vs)

def Fields.depth {lo : Option String} : Fields lo → Nat
  | .nil => 0
  | .cons _ v rest _ => max v.depth rest.depth

end

variable {p q : Value → Prop}

theorem Fields.leaves_iff {lo : Option String} (fields : Fields lo) :
    fields.Leaves p ↔ fields.All (Value.Leaves p) := by
  cases fields with
  | nil =>
      exact Iff.rfl
  | cons key v rest above =>
      rw [Fields.Leaves, Fields.All, Fields.leaves_iff rest]

theorem Fields.depth_le_iff {lo : Option String} {n : Nat} (fields : Fields lo) :
    fields.depth ≤ n ↔ fields.All fun v => v.depth ≤ n := by
  cases fields with
  | nil =>
      simp [Fields.depth, Fields.All]
  | cons key v rest above =>
      rw [Fields.depth, Fields.All, Nat.max_le, Fields.depth_le_iff rest]

mutual

theorem Value.Leaves.mono (h : ∀ v, p v → q v) : ∀ {v : Value}, v.Leaves p → v.Leaves q
  | .null, hv => h _ hv
  | .boolean _, hv => h _ hv
  | .integer _, hv => h _ hv
  | .float _, hv => h _ hv
  | .text _, hv => h _ hv
  | .list _, hv => Value.ItemLeaves.mono h hv
  | .mapping _, hv => Fields.Leaves.mono h hv

theorem Value.ItemLeaves.mono (h : ∀ v, p v → q v) :
    ∀ {vs : List Value}, Value.ItemLeaves p vs → Value.ItemLeaves q vs
  | [], _ => trivial
  | _ :: _, hvs => ⟨Value.Leaves.mono h hvs.left, Value.ItemLeaves.mono h hvs.right⟩

theorem Fields.Leaves.mono (h : ∀ v, p v → q v) {lo : Option String} :
    ∀ {fields : Fields lo}, fields.Leaves p → fields.Leaves q
  | .nil, _ => trivial
  | .cons .., hfields => ⟨Value.Leaves.mono h hfields.left, Fields.Leaves.mono h hfields.right⟩

end

/-!
### Finite and solid values
-/

def Value.Finite : Value → Prop
  | .float (.infinite _) => False
  | .float .nan => False
  | _ => True

mutual

theorem Value.settled_of_finite : ∀ {v : Value}, v.Leaves Value.Finite → v.settled = v
  | .null, _ => rfl
  | .boolean _, _ => rfl
  | .integer _, _ => rfl
  | .float (.finite _ _), _ => rfl
  | .text _, _ => rfl
  | .list items, h => by
      rw [Value.settled, Value.settledItems_of_finite h]
  | .mapping fields, h => by
      rw [Value.settled, Fields.settled_of_finite h]

theorem Value.settledItems_of_finite :
    ∀ {vs : List Value}, Value.ItemLeaves Value.Finite vs → Value.settledItems vs = vs
  | [], _ => rfl
  | v :: vs, h => by
      rw [Value.settledItems, Value.settled_of_finite h.left, Value.settledItems_of_finite h.right]

theorem Fields.settled_of_finite {lo : Option String} :
    ∀ {fields : Fields lo}, fields.Leaves Value.Finite → fields.settled = fields
  | .nil, _ => rfl
  | .cons key v rest above, h => by
      rw [Fields.settled, Value.settled_of_finite h.left, Fields.settled_of_finite h.right]

end

/-- Neither null nor a float. -/
def Value.Solid : Value → Prop
  | .null => False
  | .float _ => False
  | _ => True

theorem Value.Solid.finite {v : Value} (h : v.Solid) : v.Finite := by
  cases v with
  | float x =>
      exact h.elim
  | _ =>
      trivial

mutual

theorem Value.solid_of_settled :
    ∀ {v : Value}, v.settled.Leaves Value.Solid → v.Leaves Value.Solid
  | .null, h => h
  | .boolean _, h => h
  | .integer _, h => h
  | .float (.finite _ _), h => h
  | .float (.infinite _), h => h
  | .float .nan, h => h
  | .text _, h => h
  | .list _, h => Value.solidItems_of_settled h
  | .mapping _, h => Fields.solid_of_settled h

theorem Value.solidItems_of_settled : ∀ {vs : List Value},
    Value.ItemLeaves Value.Solid (Value.settledItems vs) → Value.ItemLeaves Value.Solid vs
  | [], _ => trivial
  | _ :: _, h => ⟨Value.solid_of_settled h.left, Value.solidItems_of_settled h.right⟩

theorem Fields.solid_of_settled {lo : Option String} : ∀ {fields : Fields lo},
    fields.settled.Leaves Value.Solid → fields.Leaves Value.Solid
  | .nil, _ => trivial
  | .cons .., h => ⟨Value.solid_of_settled h.left, Fields.solid_of_settled h.right⟩

end

/-!
### Views
-/

namespace View

def mappings (v : View) : List Mapping :=
  v.answers ++ v.extras ++ v.nameservers ++ v.questions

theorem forall_mappings {p : Mapping → Prop} {v : View} :
    (∀ m ∈ v.mappings, p m) ↔ (∀ m ∈ v.answers, p m) ∧ (∀ m ∈ v.extras, p m) ∧
      (∀ m ∈ v.nameservers, p m) ∧ ∀ m ∈ v.questions, p m := by
  simp only [mappings, List.forall_mem_append, and_assoc]

theorem map_settled_of_finite {ms : List Mapping} (h : ∀ m ∈ ms, m.Leaves Value.Finite) :
    ms.map Fields.settled = ms := by
  calc
    ms.map Fields.settled = ms.map id :=
      List.map_congr_left fun m hm => Fields.settled_of_finite (h m hm)
    _ = ms := List.map_id ms

theorem map_settled_of_solid {ms : List Mapping} (h : ∀ m ∈ ms, m.Leaves Value.Solid) :
    ms.map Fields.settled = ms :=
  map_settled_of_finite fun m hm => (h m hm).mono fun _ => Value.Solid.finite

theorem mappings_eq_of_settled {ms ns : List Mapping} (hns : ∀ n ∈ ns, n.Leaves Value.Solid)
    (h : ms.map Fields.settled = ns.map Fields.settled) : ms = ns := by
  have hsettled : ms.map Fields.settled = ns := h.trans (map_settled_of_solid hns)
  have hms : ∀ m ∈ ms, m.Leaves Value.Solid := by
    intro m hm
    apply Fields.solid_of_settled
    apply hns
    rw [← hsettled]
    exact List.mem_map_of_mem hm
  calc
    ms = ms.map Fields.settled := (map_settled_of_solid hms).symm
    _ = ns := hsettled

end View

end DnsView
