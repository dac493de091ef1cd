import DnsView.Json.Reader
import DnsView.Proofs.Attempts
import DnsView.Proofs.Json.Trees

/-!
# What readers give

Readers seen from both sides: what they give for what was written, and what holds of whatever they
give.
-/

/-!
## Readers and what is written

What a reader gives for the node of a written value.  Words are read from the integers that are
written for them, a list is read element by element, a record is read from an object whose members
are its fields in order, and a variant from an object whose one member has its name.  A line that
ends a document makes no difference.
-/

namespace DnsView.Json

/-!
### Documents
-/

/-- A text of a value: in either layout, moved in by some levels, and with blanks around it. -/
def Spells (text : String) (j : Json) : Prop :=
  ∃ (s : Spacing) (level : Nat) (front back : List Char), skipBlanks front = [] ∧
    skipBlanks back = [] ∧ text.toList = front ++ chars s level j ++ back

theorem spells_render (s : Spacing) (j : Json) : Spells (j.render s) j := by
  refine ⟨s, 0, [], [], rfl, rfl, ?_⟩
  rw [render, String.toList_ofList, List.nil_append, List.append_nil]

theorem spells_line (s : Spacing) (j : Json) : Spells (j.render s ++ "\n") j := by
  refine ⟨s, 0, [], ['\n'], rfl, rfl, ?_⟩
  rw [String.toList_append, render, String.toList_ofList]
  rfl

theorem skipBlanks_append {front : List Char} (h : skipBlanks front = []) (cs : List Char) :
    skipBlanks (front ++ cs) = skipBlanks cs := by
  fun_induction skipBlanks front with
  | case1 rest ih | case2 rest ih | case3 rest ih | case4 rest ih =>
      exact ih h
  | case5 =>
      rw [h, List.nil_append]

/-- A list or an object is read as its node, however it is laid out. -/
theorem Document.ofString_of_spells {text : String} {j : Json} (hj : ∀ rest, Delimits rest j)
    (h : Spells text j) : Document.ofString text = ⟨j.node, true⟩ := by
  rcases h with ⟨s, level, front, back, hfront, hback, htext⟩
  have hlength := congrArg List.length htext
  rw [List.length_append, List.length_append] at hlength
  have hblanks : skipBlanks text.toList = skipBlanks (chars s level j ++ back) := by
    rw [htext, List.append_assoc, skipBlanks_append hfront]
  have hread := value_chars s level j (2 * text.toList.length + 2) back (by omega) (hj back)
  simp only [Document.ofString, value_congr hblanks, hread, hback]
  rfl

theorem Document.ofString_line (s : Spacing) {j : Json} (hj : ∀ rest, Delimits rest j) :
    Document.ofString (j.render s ++ "\n") = ⟨j.node, true⟩ :=
  ofString_of_spells hj (spells_line s j)

variable {α β : Type}

theorem read_line (reader : Reader α) (s : Spacing) {j : Json} (hj : ∀ rest, Delimits rest j) :
    read reader (j.render s ++ "\n") = reader maxDepth j.node := by
  rw [read, Document.ofString_line s hj, Document.read]
  cases reader maxDepth j.node with
  | error e =>
      rfl
  | ok a =>
      rfl

/-!
### Words
-/

theorem Numeral.number?_ofInt {n : Int} (hlow : -0x8000000000000000 ≤ n)
    (hhigh : n < UInt64.size) : (ofInt n).number? = some (.integer n) := by
  have hvalue : Text.ofDigits 10 (ofInt n).whole = n.natAbs := (Text.digitsOf_digits n.natAbs).value
  have hfraction : (ofInt n).fraction.isEmpty = true := rfl
  have hexponent : (ofInt n).exponent.isNone = true := rfl
  have hsize : UInt64.size = 18446744073709551616 := rfl
  simp only [number?, hvalue, hfraction, hexponent, Bool.true_and]
  by_cases hsign : n < 0
  · have hnegative : (ofInt n).negative = true := decide_eq_true hsign
    have habs : -(n.natAbs : Int) = n := by omega
    have hpositive : 0 < n.natAbs := by omega
    have hbound : n.natAbs ≤ 0x8000000000000000 := by omega
    simp only [hnegative, hpositive, hbound, habs, Bool.not_true, Bool.false_and, decide_true,
      Bool.and_true, Bool.false_eq_true, if_false, if_true]
  · have hnegative : (ofInt n).negative = false := decide_eq_false hsign
    have habs : (n.natAbs : Int) = n := by omega
    have hbound : n.natAbs < UInt64.size := by omega
    simp only [hnegative, hbound, habs, Bool.not_false, decide_true, Bool.and_true, if_true]

theorem readNat_integer {n limit : Nat} (hn : n < limit) (hlimit : limit ≤ UInt64.size)
    (expected : String) (levels : Nat) :
    readNat limit expected levels (Json.integer n).node = .ok n := by
  have hnumber := Numeral.number?_ofInt (n := n) (by omega) (by omega)
  have hrange : (0 : Int) ≤ n ∧ (n : Int) < limit := by omega
  simp only [node, readNat, hnumber, hrange, and_self, if_true, Int.toNat_natCast]
  rfl

theorem readUInt8_integer (n : UInt8) (levels : Nat) :
    readUInt8 levels (Json.integer n.toNat).node = .ok n := by
  rw [readUInt8, readNat_integer n.toNat_lt_size (by decide)]
  exact congrArg Except.ok UInt8.ofNat_toNat

theorem readUInt16_ofUInt16 (n : UInt16) (levels : Nat) :
    readUInt16 levels (Json.ofUInt16 n).node = .ok n := by
  rw [readUInt16, ofUInt16, readNat_integer n.toNat_lt_size (by decide)]
  exact congrArg Except.ok UInt16.ofNat_toNat

theorem readUInt32_ofUInt32 (n : UInt32) (levels : Nat) :
    readUInt32 levels (Json.ofUInt32 n).node = .ok n := by
  rw [readUInt32, ofUInt32, readNat_integer n.toNat_lt_size (by decide)]
  exact congrArg Except.ok UInt32.ofNat_toNat

/-!
### Names
-/

theorem readNamed_text {what : String} {rule : String → Option α} {s : String} {a : α}
    (h : rule s = some a) (levels : Nat) :
    readNamed what rule levels (Json.text s).node = .ok a := by
  simp only [node, readNamed, readText, pure_bind, h]
  rfl

theorem find?_name (name : α → String) {l : List α} (hnames : (l.map name).Nodup) {a : α}
    (ha : a ∈ l) : (l.find? fun b => name b == name a) = some a := by
  induction l with
  | nil =>
      cases ha
  | cons b l ih =>
      rw [List.map_cons, List.nodup_cons] at hnames
      rcases List.mem_cons.mp ha with rfl | hl
      · exact List.find?_cons_of_pos (beq_self_eq_true _)
      · have hne : name b ≠ name a := fun heq => hnames.left (heq ▸ List.mem_map_of_mem hl)
        rw [List.find?_cons_of_neg (by simpa using hne), ih hnames.right hl]

/-!
### Lists
-/

theorem readItems_map {reader : Reader α} {write : β → Json} {result : β → α} {levels : Nat}
    {p : β → Prop} [DecidablePred p] {e : ReadError} {l : List β}
    (h : ∀ b ∈ l, reader levels (write b).node = if p b then .ok (result b) else .error e) :
    readItems reader levels (itemNodes (l.map write)) =
      if ∀ b ∈ l, p b then .ok (l.map result) else .error e := by
  induction l with
  | nil =>
      rfl
  | cons b l ih =>
      have hhead := h b (by simp)
      have htail := ih fun c hc => h c (by simp [hc])
      simp only [List.map_cons, itemNodes, readItems, hhead, htail, List.forall_mem_cons]
      by_cases hb : p b
      · by_cases hl : ∀ c ∈ l, p c
        · rw [if_pos hb, if_pos hl, if_pos ⟨hb, hl⟩]
          rfl
        · have hnot : ¬(p b ∧ ∀ c ∈ l, p c) := fun h => hl h.right
          rw [if_pos hb, if_neg hl, if_neg hnot]
          rfl
      · have hnot : ¬(p b ∧ ∀ c ∈ l, p c) := fun h => hb h.left
        rw [if_neg hb, if_neg hnot]
        rfl

theorem readList_map {reader : Reader α} {write : β → Json} {result : β → α} {levels : Nat}
    {l : List β} (h : ∀ b ∈ l, reader levels (write b).node = .ok (result b)) :
    readList reader (levels + 1) (Json.list (l.map write)).node = .ok (l.map result) := by
  have hitems := @readItems_map α β reader write result levels (fun _ => True) _ .malformed l
  simp only [if_true, implies_true] at hitems
  exact hitems h

theorem readStrings_ofStrings (l : List String) (levels : Nat) :
    readList readString (levels + 1) (Json.ofStrings l).node = .ok l := by
  have hlist := @readList_map String String readString Json.text id levels l fun s _ => rfl
  rwa [List.map_id] at hlist

theorem readPair_list {what : String} {first : Reader α} {second : Reader β} {levels : Nat}
    {j k : Json} {a : α} {b : β} (ha : first levels j.node = .ok a)
    (hb : second levels k.node = .ok b) :
    readPair what first second (levels + 1) (Json.list [j, k]).node = .ok (a, b) := by
  simp only [node, itemNodes, readPair, Items.next?, Items.finish, pure_bind, ha, hb]
  rfl

/-!
### Records
-/

/--
Members that stand for the fields of a record in their order, and what reading the members does to a
record.
-/
inductive Fills (levels : Nat) :
    List (Field α) → List (String × Json) → (α → Except ReadError α) → Prop where
  | nil : Fills levels [] [] .ok
  | cons {field : Field α} {fields : List (Field α)} {j : Json} {members : List (String × Json)}
      {read : Except ReadError (α → α)} {fill : α → Except ReadError α}
      (hread : field.read levels j.node = read) (hrest : Fills levels fields members fill) :
      Fills levels (field :: fields) ((field.name, j) :: members)
        fun a => read >>= fun set => fill (set a)

theorem Fills.of {levels : Nat} {name : String} {reader : Reader β} {set : α → β → α}
    {required : Bool} {fields : List (Field α)} {j : Json} {members : List (String × Json)}
    {fill : α → Except ReadError α} {read : Except ReadError β}
    (hread : reader levels j.node = read)
    (hrest : Fills levels fields members fill) :
    Fills levels (.of name reader set required :: fields) ((name, j) :: members)
      fun a => read >>= fun b => fill (set a b) := by
  cases read with
  | error e =>
      have hfield : (Field.of name reader set required).read levels j.node = .error e := by
        simp [Field.of, hread, bind, Except.bind]
      exact Fills.cons hfield hrest
  | ok b =>
      have hfield : (Field.of name reader set required).read levels j.node =
          .ok fun a => set a b := by
        simp [Field.of, hread, bind, Except.bind, pure, Except.pure]
      exact Fills.cons hfield hrest

namespace Shape

/-- The fields before the remaining ones have been seen, and the others have not. -/
theorem readMembers_of_fills {s : Shape α} (hnames : (s.fields.map Field.name).Nodup)
    {levels : Nat} {todo : List (Field α)} {members : List (String × Json)}
    {fill : α → Except ReadError α} (h : Fills levels todo members fill) {done : List (Field α)}
    (hfields : s.fields = done ++ todo) {seen : List String}
    (hseen : ∀ name, name ∈ seen ↔ name ∈ done.map Field.name) (a : α) :
    s.readMembers levels seen a (memberNodes members) = fill a := by
  induction h generalizing done seen a with
  | nil =>
      have hcomplete : (s.fields.find? fun field => field.required && !seen.contains field.name) =
          none := by
        apply List.find?_eq_none.mpr
        intro field hfield
        rw [hfields, List.append_nil] at hfield
        have hmem : field.name ∈ seen := (hseen _).mpr (List.mem_map_of_mem hfield)
        simp [hmem]
      rw [memberNodes, readMembers, complete, hcomplete]
      rfl
  | @cons field fields j members read fill hread hrest ih =>
      have hfind := find?_name Field.name hnames (a := field) (by simp [hfields])
      rw [hfields, List.map_append, List.map_cons, List.nodup_append] at hnames
      rcases hnames with ⟨hdone, htodo, hapart⟩
      have hnew : field.name ∉ done.map Field.name :=
        fun hmem => hapart _ hmem _ List.mem_cons_self rfl
      have hunseen : seen.contains field.name = false := by
        simpa [hseen] using hnew
      have hnext : s.fields = (done ++ [field]) ++ fields := by
        rw [hfields, List.append_assoc]
        rfl
      have hseenNext : ∀ name, name ∈ field.name :: seen ↔
          name ∈ (done ++ [field]).map Field.name := by
        intro name
        simp only [List.mem_cons, hseen, List.map_append, List.map_cons, List.map_nil,
          List.mem_append, List.not_mem_nil, or_false]
        exact or_comm
      rw [memberNodes, readMembers, hfind]
      simp only [hunseen, Bool.false_eq_true, if_false, hread]
      cases read with
      | error e =>
          rfl
      | ok set =>
          exact ih hnext hseenNext (set a)

/-- A record is read from an object whose members are its fields in order. -/
theorem read_object {s : Shape α} (hnames : (s.fields.map Field.name).Nodup) {levels : Nat}
    {members : List (String × Json)} {fill : α → Except ReadError α}
    (h : Fills levels s.fields members fill) :
    s.read (levels + 1) (Json.object members).node = fill s.blank := by
  have hnone : ∀ name, name ∈ ([] : List String) ↔ name ∈ ([] : List (Field α)).map Field.name := by
    intro name
    exact Iff.rfl
  exact readMembers_of_fills hnames h rfl hnone s.blank

end Shape

/-!
### Variants
-/

theorem readVariant_object {variants : List (Variant α)}
    (hnames : (variants.map Variant.name).Nodup) {v : Variant α} (hv : v ∈ variants) {levels : Nat}
    {j : Json} {a : α} (hread : v.read levels j.node = .ok a) :
    readVariant variants (levels + 1) (Json.object [(v.name, j)]).node = .ok a := by
  have hfind := find?_name Variant.name hnames hv
  simp only [node, memberNodes, readVariant, findVariant, hfind, pure_bind, hread]
  rfl

end DnsView.Json

/-!
## What readers give

Whatever document is read, what comes out has the properties that the readers see to, which may
depend on how many levels may be opened.  A list has them for each element, and a record has a
property if it has it before any field is set and each field keeps it.
-/

namespace DnsView.Json

variable {α β : Type}

/-- Whatever a reader gives at a level has a property. -/
def GivesAt (levels : Nat) (reader : Reader α) (p : α → Prop) : Prop :=
  ∀ n a, reader levels n = .ok a → p a

/-- Setting a field to what was read for it at a level keeps a property of the record. -/
def Field.KeepsAt (levels : Nat) (field : Field α) (p : α → Prop) : Prop :=
  ∀ n set, field.read levels n = .ok set → ∀ a, p a → p (set a)

def Gives (reader : Reader α) (p : α → Prop) : Prop :=
  ∀ levels n a, reader levels n = .ok a → p a

def Field.Keeps (field : Field α) (p : α → Prop) : Prop :=
  ∀ levels n set, field.read levels n = .ok set → ∀ a, p a → p (set a)

theorem gives_any (reader : Reader α) : Gives reader fun _ => True :=
  fun _ _ _ _ => trivial

theorem mismatch_ne_ok (expected : String) (n : Node) (a : α) : mismatch expected n ≠ .ok a := by
  intro h
  unfold mismatch at h
  split at h
  all_goals try cases h
  split at h
  all_goals cases h

/-!
### Lists
-/

theorem gives_readItems {reader : Reader α} {p : α → Prop} {levels : Nat}
    (h : GivesAt levels reader p) :
    ∀ {items : Items} {as : List α}, readItems reader levels items = .ok as → ∀ a ∈ as, p a
  | .closed, as, hread => by
      cases hread
      simp
  | .broken, as, hread => by
      cases hread
  | .cons head tail, as, hread => by
      rw [readItems, bind_eq_ok] at hread
      rcases hread with ⟨a, hhead, hrest⟩
      rcases bind_eq_ok.mp hrest with ⟨rest, htail, hcons⟩
      cases hcons
      rw [List.forall_mem_cons]
      exact ⟨h head a hhead, gives_readItems h htail⟩

theorem givesAt_readList {reader : Reader α} {p : α → Prop} {levels : Nat}
    (h : GivesAt (levels - 1) reader p) :
    GivesAt levels (readList reader) fun as => ∀ a ∈ as, p a := by
  intro n as hread
  unfold readList at hread
  split at hread
  · cases hread
  · exact gives_readItems h hread
  · exact absurd hread (mismatch_ne_ok _ _ _)

theorem gives_readList {reader : Reader α} {p : α → Prop} (h : Gives reader p) :
    Gives (readList reader) fun as => ∀ a ∈ as, p a :=
  fun levels => givesAt_readList (h (levels - 1))

/-!
### Records
-/

theorem Field.keepsAt_of {name : String} {reader : Reader β} {set : α → β → α} {required : Bool}
    {p : α → Prop} {q : β → Prop} {levels : Nat} (hreader : GivesAt levels reader q)
    (hset : ∀ a b, p a → q b → p (set a b)) :
    (Field.of name reader set required).KeepsAt levels p := by
  intro n f hread a ha
  rcases bind_eq_ok.mp hread with ⟨b, hb, hf⟩
  cases hf
  exact hset a b ha (hreader n b hb)

theorem Field.keeps_of {name : String} {reader : Reader β} {set : α → β → α} {required : Bool}
    {p : α → Prop} {q : β → Prop} (hreader : Gives reader q)
    (hset : ∀ a b, p a → q b → p (set a b)) : (Field.of name reader set required).Keeps p :=
  fun levels => Field.keepsAt_of (hreader levels) hset

namespace Shape

variable {s : Shape α} {p : α → Prop}

theorem gives_readFields (levels : Nat) : ∀ (fields : List (Field α)),
    (∀ field ∈ fields, field.KeepsAt levels p) → ∀ {index : Nat} {a b : α} {items : Items}, p a →
      s.readFields levels index a fields items = .ok b → p b
  | [], _, index, a, b, items, ha, hread => by
      rw [readFields] at hread
      rcases bind_eq_ok.mp hread with ⟨_, _, hb⟩
      cases hb
      exact ha
  | field :: fields, hkeeps, index, a, b, items, ha, hread => by
      rw [List.forall_mem_cons] at hkeeps
      rw [readFields] at hread
      rcases bind_eq_ok.mp hread with ⟨next, _, hnext⟩
      cases next with
      | none =>
          simp only at hnext
          split at hnext
          · cases hnext
          · exact gives_readFields levels fields hkeeps.right ha hnext
      | some found =>
          rcases bind_eq_ok.mp hnext with ⟨set, hset, hrest⟩
          exact gives_readFields levels fields hkeeps.right (hkeeps.left _ _ hset _ ha) hrest

theorem gives_readMembers {levels : Nat} (hkeeps : ∀ field ∈ s.fields, field.KeepsAt levels p) :
    ∀ {members : Members} {seen : List String} {a b : α}, p a →
      s.readMembers levels seen a members = .ok b → p b
  | .closed, seen, a, b, ha, hread => by
      rw [readMembers, complete] at hread
      split at hread
      · cases hread
      · cases hread
        exact ha
  | .broken, seen, a, b, ha, hread => by
      cases hread
  | .unnamed first, seen, a, b, ha, hread => by
      cases hread
  | .cons none value rest, seen, a, b, ha, hread => by
      cases hread
  | .cons (some name) value rest, seen, a, b, ha, hread => by
      rw [readMembers] at hread
      split at hread
      · split at hread
        · exact gives_readMembers hkeeps ha hread
        · cases hread
      · rename_i field hfind
        split at hread
        · cases hread
        · rcases bind_eq_ok.mp hread with ⟨set, hset, hrest⟩
          have hfield := hkeeps field (List.mem_of_find?_eq_some hfind)
          exact gives_readMembers hkeeps (hfield _ _ hset _ ha) hrest

theorem givesAt_read {levels : Nat} (hblank : p s.blank)
    (hkeeps : ∀ field ∈ s.fields, field.KeepsAt (levels - 1) p) : GivesAt levels s.read p := by
  intro n a hread
  unfold read at hread
  split at hread
  · cases hread
  · cases hread
  · exact gives_readFields _ s.fields hkeeps hblank hread
  · exact gives_readMembers hkeeps hblank hread
  · exact absurd hread (mismatch_ne_ok _ _ _)

theorem gives_read (hblank : p s.blank) (hkeeps : ∀ field ∈ s.fields, field.Keeps p) :
    Gives s.read p :=
  fun levels => givesAt_read hblank fun field hfield => hkeeps field hfield (levels - 1)

end Shape

end DnsView.Json
