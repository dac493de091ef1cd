import DnsView.Proofs.Json.Readings
import DnsView.Proofs.View.NumberValues
import DnsView.Proofs.View.Fingerprints
import DnsView.Proofs.View.ViewTexts

/-!
# Views handed on as texts

A view that was read from a document holds no floats but finite ones and is not too deep to be
written and read again.  What comes back is the same view with each float as it is read back, so it
counts as the same view exactly if each of its floats comes back as it was.  Not every float does.
-/

namespace DnsView

/-!
## What documents hold
-/

/-- A value that is no deeper than some levels and holds no floats but finite ones. -/
structure Value.Within (levels : Nat) (v : Value) : Prop where
  depth : v.depth ≤ levels
  finite : v.Leaves Value.Finite

structure Fields.Within (levels : Nat) {lo : Option String} (fields : Fields lo) : Prop where
  depth : fields.depth ≤ levels
  finite : fields.Leaves Value.Finite

theorem Fields.within_nil (levels : Nat) : (nil : Mapping).Within levels :=
  ⟨Nat.zero_le levels, trivial⟩

theorem Fields.Within.insert {levels : Nat} {m : Mapping} (hm : m.Within levels) (key : String)
    {v : Value} (hv : v.Within levels) : (m.insert key v).Within levels := by
  constructor
  · apply (Fields.depth_le_iff _).mpr
    exact ((Fields.depth_le_iff m).mp hm.depth).insert key hv.depth
  · apply (Fields.leaves_iff _).mpr
    exact ((Fields.leaves_iff m).mp hm.finite).insert key hv.finite

theorem Binary64.exists_ofInt {n : Int} (hpos : 0 ≤ n) (hn : n < UInt64.size) :
    ∃ m, ofInt n = .finite false m := by
  lift n to Nat using hpos
  have hfits : n < UInt64.size := by exact_mod_cast hn
  rcases Json.Numeral.exists_nearest?_of_lt hfits with ⟨m, hm⟩
  have hsign : ¬(n : Int) < 0 := by omega
  refine ⟨m, ?_⟩
  rw [ofInt, Int.natAbs_natCast, hm, decide_eq_false hsign, ofMagnitude?]

theorem Json.Numeral.number?_cases {x : Numeral} {n : Number} (h : x.number? = some n) :
    (∃ i : Int, n = .integer i ∧ -0x8000000000000000 ≤ i ∧ i < UInt64.size) ∨
      ∃ negative m, n = .float (.finite negative m) := by
  unfold number? at h
  dsimp only at h
  split at h
  · rename_i hcond
    simp only [Bool.and_eq_true, decide_eq_true_eq] at hcond
    cases h
    left
    refine ⟨_, rfl, by omega, ?_⟩
    exact_mod_cast hcond.right
  · split at h
    · rename_i hcond
      simp only [Bool.and_eq_true, decide_eq_true_eq] at hcond
      cases h
      left
      exact ⟨_, rfl, by omega, by omega⟩
    · rcases Option.map_eq_some_iff.mp h with ⟨m, _, rfl⟩
      exact Or.inr ⟨_, _, rfl⟩

theorem Value.within_ofNumber {x : Json.Numeral} {n : Json.Number} (h : x.number? = some n)
    (levels : Nat) : (ofNumber n).Within levels := by
  rcases Json.Numeral.number?_cases h with ⟨i, rfl, _, hhigh⟩ | ⟨negative, m, rfl⟩
  · rw [ofNumber]
    split
    · exact ⟨Nat.zero_le levels, trivial⟩
    · rcases Binary64.exists_ofInt (by omega) hhigh with ⟨m, hm⟩
      rw [hm]
      exact ⟨Nat.zero_le levels, trivial⟩
  · exact ⟨Nat.zero_le levels, trivial⟩

mutual

theorem Value.within_ofNode : ∀ (n : Json.Node) {levels : Nat} {v : Value},
    Value.ofNode levels n = .ok v → v.Within levels
  | .null, levels, v, h => by
      cases h
      exact ⟨Nat.zero_le levels, trivial⟩
  | .boolean b, levels, v, h => by
      cases h
      exact ⟨Nat.zero_le levels, trivial⟩
  | .number x, levels, v, h => by
      rw [Value.ofNode] at h
      split at h
      · rename_i hnumber
        cases h
        exact Value.within_ofNumber hnumber levels
      · cases h
  | .text (some s), levels, v, h => by
      cases h
      exact ⟨Nat.zero_le levels, trivial⟩
  | .text none, levels, v, h => by
      cases h
  | .sequence items, 0, v, h => by
      cases h
  | .sequence items, levels + 1, v, h => by
      rcases map_eq_ok.mp h with ⟨vs, hitems, rfl⟩
      rcases Value.within_ofItems items hitems with ⟨hdepth, hfinite⟩
      exact ⟨Nat.succ_le_succ hdepth, hfinite⟩
  | .object members, 0, v, h => by
      cases h
  | .object members, levels + 1, v, h => by
      rcases map_eq_ok.mp h with ⟨m, hmembers, rfl⟩
      have hm := Value.within_ofMembers members (Fields.within_nil levels) hmembers
      exact ⟨Nat.succ_le_succ hm.depth, hm.finite⟩
  | .broken, levels, v, h => by
      cases h

theorem Value.within_ofItems : ∀ (items : Json.Items) {levels : Nat} {vs : List Value},
    Value.ofItems levels items = .ok vs →
      Value.itemDepth vs ≤ levels ∧ Value.ItemLeaves Value.Finite vs
  | .closed, levels, vs, h => by
      cases h
      exact ⟨Nat.zero_le levels, trivial⟩
  | .broken, levels, vs, h => by
      cases h
  | .cons head tail, levels, vs, h => by
      rcases bind_eq_ok.mp h with ⟨v, hhead, hrest⟩
      rcases bind_eq_ok.mp hrest with ⟨rest, htail, hcons⟩
      cases hcons
      have hv := Value.within_ofNode head hhead
      rcases Value.within_ofItems tail htail with ⟨hdepth, hfinite⟩
      exact ⟨Nat.max_le.mpr ⟨hv.depth, hdepth⟩, hv.finite, hfinite⟩

theorem Value.within_ofMembers : ∀ (members : Json.Members) {levels : Nat} {m m' : Mapping},
    m.Within levels → Value.ofMembers levels m members = .ok m' → m'.Within levels
  | .closed, levels, m, m', hm, h => by
      cases h
      exact hm
  | .broken, levels, m, m', hm, h => by
      cases h
  | .unnamed first, levels, m, m', hm, h => by
      cases h
  | .cons none value rest, levels, m, m', hm, h => by
      cases h
  | .cons (some name) value rest, levels, m, m', hm, h => by
      rcases bind_eq_ok.mp h with ⟨v, hvalue, hrest⟩
      have hv := Value.within_ofNode value hvalue
      exact Value.within_ofMembers rest (hm.insert name hv) hrest

end

theorem Fields.givesAt_reader (levels : Nat) :
    Json.GivesAt levels Fields.reader fun m => m.Within (levels - 1) := by
  intro n m h
  unfold Fields.reader at h
  split at h
  · cases h
  · exact Value.within_ofMembers _ (Fields.within_nil _) h
  · exact absurd h (Json.mismatch_ne_ok _ _ _)

/-!
## Views
-/

/-- No float with a numeral that is rounded more than once. -/
def Value.Short (v : Value) : Prop :=
  ∀ negative m, v = .float (.finite negative m) → (Json.Numeral.ofMagnitude false m).Short

theorem Value.Short.steady {v : Value} (h : v.Short) : v.Steady := by
  rintro x rfl
  cases x with
  | finite negative m =>
      have hsame : m.reread = m := (h negative m rfl).reread_eq
      rw [Binary64.reread, hsame, Binary64.settled]
  | infinite negative =>
      rfl
  | nan =>
      rfl

theorem Value.short_of_word {v : Value} {n : UInt32} (h : v.uint32? = some n) : v.Short := by
  rintro negative m rfl
  have hnumber := (uint32?_eq_some_iff_number? _ n).mp h
  rw [number?, Binary64.value?, Option.some.injEq] at hnumber
  cases negative with
  | false =>
      have hword := (m.toNat?_eq_some_iff n.toNat).mpr hnumber
      exact Json.Numeral.short_of_word hword n.toNat_lt_size
  | true =>
      have hminus : -m.value = n.toNat := hnumber
      have hzero : m.value = (0 : ℕ) := by
        have hvalue := m.value_nonneg
        have hnonneg : (0 : ℚ) ≤ n.toNat := Nat.cast_nonneg _
        rw [Nat.cast_zero]
        linarith
      exact Json.Numeral.short_of_word ((m.toNat?_eq_some_iff 0).mpr hzero) (by decide)

namespace View

/-- Three of the levels of a document are those of the view, of its lists and of the mappings. -/
theorem within_ofString {text : String} {v : View} (h : ofString text = .ok v) :
    ∀ m ∈ v.mappings, m.Within 124 := by
  have hmappings : Json.GivesAt 126 (Json.readList Fields.reader)
      fun ms => ∀ m ∈ ms, m.Within 124 :=
    Json.givesAt_readList (Fields.givesAt_reader 125)
  have hany {α : Type} (reader : Json.Reader α) : Json.GivesAt 126 reader fun _ => True :=
    Json.gives_any reader 126
  have hread : Json.GivesAt 127 shape.read fun v => ∀ m ∈ v.mappings, m.Within 124 := by
    apply Json.Shape.givesAt_read
    · exact fun m hm => nomatch hm
    · simp only [forall_mappings]
      intro field hfield
      simp only [shape, List.mem_cons, List.not_mem_nil, or_false] at hfield
      rcases hfield with rfl | rfl | rfl | rfl | rfl | rfl | rfl
      · exact Json.Field.keepsAt_of hmappings fun v _ ⟨_, he, hn, hq⟩ hms => ⟨hms, he, hn, hq⟩
      · exact Json.Field.keepsAt_of (hany _) fun v _ hv _ => hv
      · exact Json.Field.keepsAt_of (hany _) fun v _ hv _ => hv
      · exact Json.Field.keepsAt_of hmappings fun v _ ⟨ha, _, hn, hq⟩ hms => ⟨ha, hms, hn, hq⟩
      · exact Json.Field.keepsAt_of (hany _) fun v _ hv _ => hv
      · exact Json.Field.keepsAt_of hmappings fun v _ ⟨ha, he, _, hq⟩ hms => ⟨ha, he, hms, hq⟩
      · exact Json.Field.keepsAt_of hmappings fun v _ ⟨ha, he, hn, _⟩ hms => ⟨ha, he, hn, hms⟩
  rcases bind_eq_ok.mp h with ⟨w, hw, hcomplete⟩
  split at hcomplete
  · cases hcomplete
    exact hread _ _ hw
  · cases hcomplete

theorem finite_ofString {text : String} {v : View} (h : ofString text = .ok v) :
    ∀ m ∈ v.mappings, m.Leaves Value.Finite :=
  fun m hm => (within_ofString h m hm).finite

/-- What is written for a view that is not too deep is read as the view with its floats reread. -/
theorem ofString_render {v : View} (h : ∀ m ∈ v.mappings, m.depth < 125) (s : Json.Spacing) :
    ofString (v.toJson.render s) = .ok v.reread := by
  rw [ofString, Json.read, Json.Document.ofString_render, Json.Document.read, Json.maxDepth,
    read_node v 125, if_pos h]
  rfl

theorem sameContent_reread_iff (v : View) :
    v.reread.SameContent v ↔ v.reread.settled = v.settled := by
  constructor
  · intro h
    simp only [settled, View.mk.injEq]
    exact ⟨h.answers, rfl, rfl, h.extras, rfl, h.nameservers, h.questions⟩
  · intro h
    simp only [settled, View.mk.injEq] at h
    rcases h with ⟨hanswers, _, _, hextras, _, hnameservers, hquestions⟩
    exact ⟨rfl, rfl, rfl, hanswers, hextras, hnameservers, hquestions⟩

theorem isModified_apply_iff (v w : View) :
    ((Session.mk v (some v.fingerprint)).apply (.ofView w)).isModified = true ↔
      w.fingerprint ≠ v.fingerprint := by
  have hbaseline : some v.fingerprint ≠ some w.fingerprint ↔ w.fingerprint ≠ v.fingerprint := by
    rw [Ne, Option.some_inj, eq_comm]
  rw [Session.isModified, decide_eq_true_eq]
  exact hbaseline

/-!
## Questions with a number for their class

A document with one question and a number for its class is read as a view with this number.  A tenth
comes back as it was; 17777777777777777777 is too large for a signed word and is read as a double,
which comes back as the one after it.
-/

def classNode (x : Json.Numeral) : Json.Node :=
  .object (.cons (some "Questions")
    (.sequence (.cons (.object (.cons (some "Qclass") (.number x) .closed)) .closed)) .closed)

def classView (v : Value) : View :=
  { (default : View) with questions := [.ofList [("Qclass", v)]] }

theorem ofString_classNode {text : String} {x : Json.Numeral} {n : Json.Number}
    (htext : Json.Document.ofString text = ⟨classNode x, true⟩) (h : x.number? = some n) :
    ofString text = .ok (classView (.ofNumber n)) := by
  have hvalue : Value.ofNode 124 (.number x) = .ok (.ofNumber n) := by
    rw [Value.ofNode, h]
    rfl
  have hmapping : Fields.reader 125 (.object (.cons (some "Qclass") (.number x) .closed)) =
      .ok (.ofList [("Qclass", .ofNumber n)]) := by
    rw [Fields.reader, Value.ofMembers, hvalue]
    rfl
  have hlist : Json.readList Fields.reader 126
      (.sequence (.cons (.object (.cons (some "Qclass") (.number x) .closed)) .closed)) =
        .ok [.ofList [("Qclass", .ofNumber n)]] := by
    rw [Json.readList, Json.readItems, hmapping]
    rfl
  have hview : shape.read Json.maxDepth (classNode x) = .ok (classView (.ofNumber n)) := by
    have hfield : shape.fields.find? (fun field => field.name == "Questions") =
        some (.of "Questions" (Json.readList Fields.reader)
          (fun v x => { v with questions := x }) false) := rfl
    rw [classNode, Json.maxDepth, Json.Shape.read, Json.Shape.readMembers, hfield]
    simp only [List.contains_nil, Bool.false_eq_true, if_false, Json.Field.of, hlist]
    rfl
  rw [ofString, Json.read, htext, Json.Document.read, hview]
  rfl

/-- The double nearest to a tenth. -/
def tenth : Magnitude := ⟨0x3FB999999999999A, by decide⟩

/-- The double nearest to 17777777777777777777. -/
def wide : Magnitude := ⟨0x43EED6EB565788E4, by decide⟩

def wideAgain : Magnitude := ⟨0x43EED6EB565788E5, by decide⟩

def wideView : View := classView (.float (.finite false wide))

def wideViewAgain : View := classView (.float (.finite false wideAgain))

/-!
## Views that are handed on
-/

/--
A view that was read from a document is read again from its own text, in either layout.  It comes
back as it was exactly if none of its floats is read back as another one, and else it counts as
modified when it takes the place of the view that it was written for.  A float that is a word, or
that is shown with few digits near the point, is never read back as another one.
-/
theorem ofString_render_of_read {text : String} {v : View} (h : ofString text = .ok v)
    (s : Json.Spacing) :
    ofString (v.toJson.render s) = .ok v.reread ∧
      (v.reread = v ↔ ∀ m ∈ v.mappings, m.Leaves Value.Steady) ∧
      (v.reread.stream = v.stream ↔ v.reread = v) ∧
      (¬Sha256.Collision v.reread.stream v.stream →
        (((Session.mk v (some v.fingerprint)).apply (.ofView v.reread)).isModified = true ↔
          v.reread ≠ v)) ∧
      ((∀ m ∈ v.mappings, m.Leaves fun w => w.Short ∨ ∃ n, w.uint32? = some n) →
        v.reread = v) := by
  have hdepth : ∀ m ∈ v.mappings, m.depth < 125 :=
    fun m hm => Nat.lt_succ_of_le (within_ofString h m hm).depth
  have hread := ofString_render hdepth s
  have hsettled := settled_of_finite (finite_ofString h)
  have hsteady : v.reread = v ↔ ∀ m ∈ v.mappings, m.Leaves Value.Steady := by
    rw [← reread_eq_settled_iff, hsettled]
  have hsame : v.reread.SameContent v ↔ v.reread = v := by
    rw [sameContent_reread_iff, settled_of_finite (finite_ofString hread), hsettled]
  refine ⟨hread, hsteady, ?_, ?_, ?_⟩
  · rw [stream_eq_iff, hsame]
  · intro hclear
    rw [isModified_apply_iff, Ne, fingerprint_eq_iff hclear, hsame]
  · intro hleaves
    apply hsteady.mpr
    intro m hm
    apply (hleaves m hm).mono
    rintro w (hshort | ⟨n, hword⟩)
    · exact hshort.steady
    · exact (Value.short_of_word hword).steady

theorem ofString_render_of_read_tenth :
    ofString "\x7b\"Questions\": [\x7b\"Qclass\": -0.1\x7d]\x7d" =
        .ok (classView (.float (.finite true tenth))) ∧
      ofString ((classView (.float (.finite true tenth))).toJson.render .indented) =
        .ok (classView (.float (.finite true tenth))) := by
  have htext : Json.Document.ofString "\x7b\"Questions\": [\x7b\"Qclass\": -0.1\x7d]\x7d" =
      ⟨classNode ⟨true, [0], [1], none⟩, true⟩ := by
    cbv
  have hnumber : (⟨true, [0], [1], none⟩ : Json.Numeral).number? =
      some (.float (.finite true tenth)) := by
    decide +kernel
  have hread := ofString_classNode htext hnumber
  have hshort : (Value.float (.finite true tenth)).Short := by
    intro negative m h
    cases h
    decide +kernel
  rcases ofString_render_of_read hread .indented with ⟨hagain, _, _, _, hkeeps⟩
  refine ⟨hread, ?_⟩
  rw [hkeeps] at hagain
  · exact hagain
  · intro m hm
    cases List.mem_singleton.mp hm
    exact ⟨Or.inl hshort, trivial⟩

/--
An integer that is too large for a signed word is read as a float, and this float is read back as
the one after it.  So the view counts as modified though nobody edited it.
-/
theorem modified_by_number :
    ofString "\x7b\"Questions\": [\x7b\"Qclass\": 17777777777777777777\x7d]\x7d" = .ok wideView ∧
      ofString (wideView.toJson.render .compact) = .ok wideViewAgain ∧
      wideAgain ≠ wide ∧ wideViewAgain.fingerprint ≠ wideView.fingerprint ∧
      ((Session.mk wideView (some wideView.fingerprint)).apply
        (.ofView wideViewAgain)).isModified = true := by
  have htext : Json.Document.ofString
      "\x7b\"Questions\": [\x7b\"Qclass\": 17777777777777777777\x7d]\x7d" =
        ⟨classNode ⟨false, 1 :: List.replicate 19 7, [], none⟩, true⟩ := by
    cbv
  have hnumber : (⟨false, 1 :: List.replicate 19 7, [], none⟩ : Json.Numeral).number? =
      some (.integer 17777777777777777777) := by
    decide +kernel
  have hfloat : Value.ofNumber (.integer 17777777777777777777) = .float (.finite false wide) := by
    have hwide : Binary64.ofInt 17777777777777777777 = .finite false wide := by decide +kernel
    rw [Value.ofNumber, if_neg (by decide), hwide]
  have hdepth : ∀ m ∈ wideView.mappings, m.depth < 125 := by
    intro m hm
    cases List.mem_singleton.mp hm
    decide
  have hreread : wideView.reread = wideViewAgain := by
    have hwide : wide.reread = wideAgain := by decide +kernel
    calc
      wideView.reread = classView (.float (.finite false wide.reread)) := rfl
      _ = wideViewAgain := by rw [hwide, wideViewAgain]
  have hread := ofString_classNode htext hnumber
  have hagain := ofString_render hdepth .compact
  have hfingerprint : wideViewAgain.fingerprint ≠ wideView.fingerprint := by decide +kernel
  rw [hfloat] at hread
  rw [hreread] at hagain
  exact ⟨hread, hagain, by decide, hfingerprint, (isModified_apply_iff _ _).mpr hfingerprint⟩

end View

end DnsView
