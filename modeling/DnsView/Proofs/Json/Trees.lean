import DnsView.Proofs.Json.DoubleNumerals
import DnsView.Proofs.Json.Tokens

/-!
# JSON texts read back

Every JSON value has a node, and the text of the value is read as this node, whatever follows the
text.  Only a numeral has to be followed by something that cannot belong to it.  The same holds of
the compact and of the indented text, since both differ in blanks only, and blanks are passed over.

Doubles that are not finite have the node of null, and this is the only way in which two values
that are written alike can differ.
-/

namespace DnsView.Json

/-!
## Nodes of values

A value is read as one node, with a numeral for each number and a null for each double that is not
finite.  Any text may follow that of a value other than a numeral.
-/

def floatNode : Binary64 → Node
  | .finite negative m => .number (.ofMagnitude negative m)
  | .infinite _ => .null
  | .nan => .null

mutual

/-- The node that a value is read as. -/
def node : Json → Node
  | .null => .null
  | .boolean b => .boolean b
  | .integer n => .number (.ofInt n)
  | .float x => floatNode x
  | .text s => .text (some s)
  | .list items => .sequence (itemNodes items)
  | .object members => .object (memberNodes members)

def itemNodes : List Json → Items
  | [] => .closed
  | j :: js => .cons j.node (itemNodes js)

def memberNodes : List (String × Json) → Members
  | [] => .closed
  | (name, j) :: members => .cons (some name) j.node (memberNodes members)

end

/-- Whether a text can follow that of a value without being taken for a part of it. -/
def Delimits (rest : List Char) : Json → Prop
  | .integer _ => EndsNumeral rest
  | .float _ => EndsNumeral rest
  | _ => True

theorem EndsNumeral.delimits {rest : List Char} (h : EndsNumeral rest) (j : Json) :
    Delimits rest j := by
  cases j with
  | integer n =>
      exact h
  | float x =>
      exact h
  | _ =>
      trivial

/-!
## Blanks
-/

/-- A character that begins a value: neither a blank nor the end of a list. -/
def Begins (c : Char) : Prop := c ∉ [' ', '\n', '\t', '\r', ']']

instance (c : Char) : Decidable (Begins c) := inferInstanceAs (Decidable (c ∉ _))

theorem skipBlanks_of_begins {c : Char} (hc : Begins c) (cs : List Char) :
    skipBlanks (c :: cs) = c :: cs := by
  simp only [Begins, List.mem_cons, List.not_mem_nil, or_false, not_or] at hc
  rcases hc with ⟨hspace, hline, htab, hreturn, _⟩
  rw [skipBlanks]
  all_goals
    intro _ heq
    cases heq
    contradiction

theorem skipBlanks_line (s : Spacing) (level : Nat) (cs : List Char) :
    skipBlanks (s.line level ++ cs) = skipBlanks cs := by
  cases s with
  | compact =>
      rfl
  | indented =>
      have hspaces : ∀ k, skipBlanks (List.replicate k ' ' ++ cs) = skipBlanks cs := by
        intro k
        induction k with
        | zero =>
            rfl
        | succ k ih =>
            exact ih
      exact hspaces (2 * level)

theorem skipBlanks_colon (s : Spacing) (cs : List Char) :
    ∃ after, skipBlanks (s.colon ++ cs) = ':' :: after ∧ skipBlanks after = skipBlanks cs := by
  cases s with
  | compact =>
      exact ⟨cs, rfl, rfl⟩
  | indented =>
      exact ⟨' ' :: cs, rfl, rfl⟩

theorem value_congr {bound : Nat} {cs ds : List Char} (h : skipBlanks cs = skipBlanks ds) :
    value bound cs = value bound ds := by
  cases bound with
  | zero =>
      rfl
  | succ bound =>
      rw [value.eq_def, value.eq_def]
      simp only [h]

/-!
## Single values
-/

theorem begins_of_digit {c : Char} (h : Text.digit? 10 c ≠ none) : Begins c := by
  intro hc
  simp only [List.mem_cons, List.not_mem_nil, or_false] at hc
  rcases hc with rfl | rfl | rfl | rfl | rfl
  all_goals exact h (by decide)

theorem Numeral.Proper.chars_eq_cons {x : Numeral} (hx : x.Proper) :
    ∃ c cs, x.chars = c :: cs ∧ (c = '-' ∨ Text.digit? 10 c ≠ none) := by
  rcases hx.unsignedChars_eq_cons with ⟨c, cs, hcons, hdigit⟩
  cases hsign : x.negative with
  | true =>
      exact ⟨'-', x.unsignedChars, by simp [chars, hsign], Or.inl rfl⟩
  | false =>
      exact ⟨c, cs, by simp [chars, hsign, hcons], Or.inr hdigit⟩

theorem value_numeral {x : Numeral} (hx : x.Proper) {rest : List Char} (hrest : EndsNumeral rest)
    (bound : Nat) : value (bound + 1) (x.chars ++ rest) = (.number x, rest) := by
  have hread := numeral?_chars hx hrest
  rcases hx.chars_eq_cons with ⟨c, cs, hcons, hc⟩
  rw [hcons, List.cons_append] at hread ⊢
  have hbegins : Begins c := by
    rcases hc with rfl | hdigit
    · decide
    · exact begins_of_digit hdigit
  rw [value.eq_def]
  simp only [skipBlanks_of_begins hbegins]
  split
  case h_7 =>
    rw [hread]
  all_goals
    rename_i heq
    have hhead := (List.cons.inj heq).left
    subst hhead
    exact absurd hc (by decide)

theorem value_text (s : String) (rest : List Char) (bound : Nat) :
    value (bound + 1) (literal s ++ rest) = (.text (some s), rest) := by
  rcases literal_spec s rest with ⟨ps, hpieces, htext⟩
  have hopen : literal s ++ rest = '"' :: (s.toList.flatMap escaped ++ '"' :: rest) := by
    simp [literal]
  rw [hopen, value.eq_def]
  simp only [skipBlanks_of_begins (by decide : Begins '"'), hpieces, htext]

theorem value_float (x : Binary64) {rest : List Char} (hrest : EndsNumeral rest) (bound : Nat) :
    value (bound + 1) (numberFormat.text x ++ rest) = (floatNode x, rest) := by
  cases x with
  | finite negative m =>
      rw [← Numeral.chars_ofMagnitude]
      exact value_numeral (Numeral.proper_ofMagnitude negative m) hrest bound
  | infinite negative =>
      have htext : numberFormat.text (.infinite negative) = ['n', 'u', 'l', 'l'] := by
        cases negative with
        | true =>
            rfl
        | false =>
            rfl
      rw [htext]
      rfl
  | nan =>
      rfl

theorem value_integer (n : Int) {rest : List Char} (hrest : EndsNumeral rest) (bound : Nat) :
    value (bound + 1) (Text.decimalInt n ++ rest) = (.number (.ofInt n), rest) := by
  rw [← Numeral.chars_ofInt]
  exact value_numeral (Numeral.proper_ofInt n) hrest bound

theorem chars_eq_cons (s : Spacing) (level : Nat) (j : Json) :
    ∃ c cs, chars s level j = c :: cs ∧ Begins c := by
  have hnumeral : ∀ x : Numeral, x.Proper → ∃ c cs, x.chars = c :: cs ∧ Begins c := by
    intro x hx
    rcases hx.chars_eq_cons with ⟨c, cs, hcons, rfl | hdigit⟩
    · exact ⟨'-', cs, hcons, by decide⟩
    · exact ⟨c, cs, hcons, begins_of_digit hdigit⟩
  cases j with
  | null =>
      exact ⟨'n', _, rfl, by decide⟩
  | boolean b =>
      cases b with
      | true =>
          exact ⟨'t', _, rfl, by decide⟩
      | false =>
          exact ⟨'f', _, rfl, by decide⟩
  | integer n =>
      rw [chars, ← Numeral.chars_ofInt]
      exact hnumeral _ (Numeral.proper_ofInt n)
  | float x =>
      cases x with
      | finite negative m =>
          rw [chars, ← Numeral.chars_ofMagnitude]
          exact hnumeral _ (Numeral.proper_ofMagnitude negative m)
      | infinite negative =>
          cases negative with
          | true =>
              exact ⟨'n', _, rfl, by decide⟩
          | false =>
              exact ⟨'n', _, rfl, by decide⟩
      | nan =>
          exact ⟨'n', _, rfl, by decide⟩
  | text t =>
      exact ⟨'"', _, rfl, by decide⟩
  | list items =>
      cases items with
      | nil =>
          exact ⟨'[', _, rfl, by decide⟩
      | cons j js =>
          exact ⟨'[', _, rfl, by decide⟩
  | object members =>
      cases members with
      | nil =>
          exact ⟨'\x7b', _, rfl, by decide⟩
      | cons member members =>
          exact ⟨'\x7b', _, rfl, by decide⟩

/-!
## Steps through lists and objects
-/

theorem value_list (bound : Nat) (cs : List Char) :
    value (bound + 1) ('[' :: cs) =
      (.sequence (firstItem bound cs).1, (firstItem bound cs).2) := by
  rw [value.eq_def]
  simp only [skipBlanks_of_begins (by decide : Begins '[')]

theorem value_object (bound : Nat) (cs : List Char) :
    value (bound + 1) ('\x7b' :: cs) =
      (.object (firstMember bound cs).1, (firstMember bound cs).2) := by
  rw [value.eq_def]
  simp only [skipBlanks_of_begins (by decide : Begins '\x7b')]

theorem firstItem_line (s : Spacing) (line level : Nat) (j : Json) (cs : List Char) (bound : Nat) :
    firstItem (bound + 1) (s.line line ++ (chars s level j ++ cs)) =
      (.cons (value bound (chars s level j ++ cs)).1
        (nextItem bound (value bound (chars s level j ++ cs)).2).1,
        (nextItem bound (value bound (chars s level j ++ cs)).2).2) := by
  rcases chars_eq_cons s level j with ⟨c, ds, hcons, hc⟩
  rw [firstItem, skipBlanks_line, hcons, List.cons_append, skipBlanks_of_begins hc]
  split
  · rename_i heq
    have hhead := (List.cons.inj heq).left
    subst hhead
    exact absurd hc (by decide)
  · rfl

theorem nextItem_comma (bound : Nat) (cs : List Char) :
    nextItem (bound + 1) (',' :: cs) =
      (.cons (value bound cs).1 (nextItem bound (value bound cs).2).1,
        (nextItem bound (value bound cs).2).2) := by
  rw [nextItem]
  simp only [skipBlanks_of_begins (by decide : Begins ',')]

theorem nextItem_closing (s : Spacing) (line : Nat) (rest : List Char) (bound : Nat) :
    nextItem (bound + 1) (s.line line ++ ']' :: rest) = (.closed, rest) := by
  rw [nextItem, skipBlanks_line]
  rfl

theorem literal_length (name : String) :
    (literal name).length = (name.toList.flatMap escaped).length + 2 := by
  simp [literal]

theorem colon_length_pos (s : Spacing) : 0 < s.colon.length := by
  cases s with
  | compact =>
      decide
  | indented =>
      decide

theorem skipBlanks_literal (name : String) (cs : List Char) :
    skipBlanks (literal name ++ cs) = literal name ++ cs :=
  skipBlanks_of_begins (by decide : Begins '"') _

theorem firstMember_line (s : Spacing) (line : Nat) (name : String) (cs : List Char) (bound : Nat) :
    firstMember (bound + 1) (s.line line ++ (literal name ++ cs)) =
      member bound (literal name ++ cs) := by
  rw [firstMember, skipBlanks_line, skipBlanks_literal]
  rfl

theorem nextMember_comma (bound : Nat) (cs : List Char) :
    nextMember (bound + 1) (',' :: cs) = member bound cs := by
  rw [nextMember]
  simp only [skipBlanks_of_begins (by decide : Begins ',')]

theorem nextMember_closing (s : Spacing) (line : Nat) (rest : List Char) (bound : Nat) :
    nextMember (bound + 1) (s.line line ++ '\x7d' :: rest) = (.closed, rest) := by
  rw [nextMember, skipBlanks_line]
  rfl

theorem member_literal {s : Spacing} {before : List Char} {key : String} {cs : List Char}
    (bound : Nat) (h : skipBlanks before = literal key ++ (s.colon ++ cs)) :
    member (bound + 1) before =
      (.cons (some key) (value bound cs).1 (nextMember bound (value bound cs).2).1,
        (nextMember bound (value bound cs).2).2) := by
  rcases literal_spec key (s.colon ++ cs) with ⟨ps, hpieces, htext⟩
  rcases skipBlanks_colon s cs with ⟨after, hcolon, hafter⟩
  have hopen : literal key ++ (s.colon ++ cs) =
      '"' :: (key.toList.flatMap escaped ++ '"' :: (s.colon ++ cs)) := by
    simp [literal]
  rw [member.eq_def]
  simp only [h, hopen, hpieces, htext, hcolon, value_congr hafter]

/-!
## Whole values

The induction follows the value.  A list and an object are read in two calls before their first
element, so a bound of twice the length of the text leaves enough for the elements.
-/

theorem endsNumeral_line (s : Spacing) (line : Nat) {rest : List Char} (h : EndsNumeral rest) :
    EndsNumeral (s.line line ++ rest) := by
  cases s with
  | compact =>
      exact h
  | indented =>
      exact endsNumeral_cons (by decide) (by decide) (by decide) (by decide)

theorem endsNumeral_items (s : Spacing) (line level : Nat) (js : List Json) (rest : List Char) :
    EndsNumeral (itemChars s level js ++ (s.line line ++ ']' :: rest)) := by
  cases js with
  | nil =>
      apply endsNumeral_line
      exact endsNumeral_cons (by decide) (by decide) (by decide) (by decide)
  | cons j js =>
      exact endsNumeral_cons (by decide) (by decide) (by decide) (by decide)

theorem endsNumeral_members (s : Spacing) (line level : Nat) (members : List (String × Json))
    (rest : List Char) :
    EndsNumeral (memberChars s level members ++ (s.line line ++ '\x7d' :: rest)) := by
  cases members with
  | nil =>
      apply endsNumeral_line
      exact endsNumeral_cons (by decide) (by decide) (by decide) (by decide)
  | cons member members =>
      exact endsNumeral_cons (by decide) (by decide) (by decide) (by decide)

mutual

/-- The text of a value is read as its node. -/
theorem value_chars (s : Spacing) (level : Nat) : ∀ (j : Json) (bound : Nat) (rest : List Char),
    2 * (chars s level j).length ≤ bound → Delimits rest j →
      value bound (chars s level j ++ rest) = (j.node, rest)
  | j, bound, rest, hbound, hrest => by
      have hpositive : 2 ≤ bound := by
        rcases chars_eq_cons s level j with ⟨c, cs, hcons, _⟩
        rw [hcons, List.length_cons] at hbound
        omega
      rcases Nat.exists_eq_add_of_le' hpositive with ⟨b, rfl⟩
      cases j with
      | null =>
          rfl
      | boolean b =>
          cases b with
          | true =>
              rfl
          | false =>
              rfl
      | integer n =>
          exact value_integer n hrest _
      | float x =>
          exact value_float x hrest _
      | text t =>
          exact value_text t rest _
      | list items =>
          cases items with
          | nil =>
              exact value_list _ _
          | cons j js =>
              simp only [chars, List.length_cons, List.length_append] at hbound
              have hhead := value_chars s (level + 1) j b
                (itemChars s (level + 1) js ++ (s.line level ++ ']' :: rest)) (by omega)
                ((endsNumeral_items s level (level + 1) js rest).delimits j)
              have htail := nextItem_itemChars s level (level + 1) js b rest (by omega)
              simp only [chars, List.cons_append, List.append_assoc, List.nil_append]
              rw [value_list, firstItem_line, hhead, htail]
              rfl
      | object members =>
          cases members with
          | nil =>
              exact value_object _ _
          | cons first members =>
              cases first with
              | mk name j =>
                  have hcolon := colon_length_pos s
                  simp only [chars, List.length_cons, List.length_append, literal_length] at hbound
                  rcases Nat.exists_eq_add_of_le' (by omega : 1 ≤ b) with ⟨b, rfl⟩
                  have hhead := value_chars s (level + 1) j b
                    (memberChars s (level + 1) members ++ (s.line level ++ '\x7d' :: rest))
                    (by omega) ((endsNumeral_members s level (level + 1) members rest).delimits j)
                  have htail :=
                    nextMember_memberChars s level (level + 1) members b rest (by omega)
                  simp only [chars, List.cons_append, List.append_assoc, List.nil_append]
                  rw [value_object, firstMember_line, member_literal b (skipBlanks_literal _ _),
                    hhead, htail]
                  rfl

theorem nextItem_itemChars (s : Spacing) (line level : Nat) :
    ∀ (js : List Json) (bound : Nat) (rest : List Char),
      2 * (itemChars s level js).length + 1 ≤ bound →
        nextItem bound (itemChars s level js ++ (s.line line ++ ']' :: rest)) =
          (itemNodes js, rest)
  | [], bound, rest, hbound => by
      rcases Nat.exists_eq_add_of_le' hbound with ⟨b, rfl⟩
      exact nextItem_closing s line rest b
  | j :: js, bound, rest, hbound => by
      simp only [itemChars, List.length_cons, List.length_append] at hbound
      rcases Nat.exists_eq_add_of_le' (by omega : 1 ≤ bound) with ⟨b, rfl⟩
      have hhead := value_chars s level j b
        (itemChars s level js ++ (s.line line ++ ']' :: rest)) (by omega)
        ((endsNumeral_items s line level js rest).delimits j)
      have htail := nextItem_itemChars s line level js b rest (by omega)
      simp only [itemChars, List.cons_append, List.append_assoc]
      rw [nextItem_comma, value_congr (skipBlanks_line s level _), hhead, htail]
      rfl

theorem nextMember_memberChars (s : Spacing) (line level : Nat) :
    ∀ (members : List (String × Json)) (bound : Nat) (rest : List Char),
      2 * (memberChars s level members).length + 1 ≤ bound →
        nextMember bound (memberChars s level members ++ (s.line line ++ '\x7d' :: rest)) =
          (memberNodes members, rest)
  | [], bound, rest, hbound => by
      rcases Nat.exists_eq_add_of_le' hbound with ⟨b, rfl⟩
      exact nextMember_closing s line rest b
  | (name, j) :: members, bound, rest, hbound => by
      have hcolon := colon_length_pos s
      simp only [memberChars, List.length_cons, List.length_append, literal_length] at hbound
      rcases Nat.exists_eq_add_of_le' (by omega : 2 ≤ bound) with ⟨b, rfl⟩
      have hhead := value_chars s level j b
        (memberChars s level members ++ (s.line line ++ '\x7d' :: rest)) (by omega)
        ((endsNumeral_members s line level members rest).delimits j)
      have htail := nextMember_memberChars s line level members b rest (by omega)
      simp only [memberChars, List.cons_append, List.append_assoc]
      rw [nextMember_comma, member_literal b (by rw [skipBlanks_line, skipBlanks_literal]), hhead,
        htail]
      rfl

end

/-- A text that a value is written as holds this value and nothing else. -/
theorem Document.ofString_render (s : Spacing) (j : Json) :
    Document.ofString (j.render s) = ⟨j.node, true⟩ := by
  have hread := value_chars s 0 j (2 * (chars s 0 j).length + 2) [] (by omega)
    (endsNumeral_nil.delimits j)
  rw [List.append_nil] at hread
  rw [Document.ofString, render, String.toList_ofList, hread]
  rfl

/-- No text of a value other than a numeral begins that of another value. -/
theorem node_eq_of_chars_append {s : Spacing} {level : Nat} {j k : Json} {rest : List Char}
    (hj : Delimits rest j) (h : chars s level j ++ rest = chars s level k) :
    j.node = k.node ∧ rest = [] := by
  have hlength := congrArg List.length h
  rw [List.length_append] at hlength
  have hleft := value_chars s level j (2 * (chars s level k).length) rest (by omega) hj
  have hright := value_chars s level k (2 * (chars s level k).length) []
    (Nat.le_refl _) (endsNumeral_nil.delimits k)
  rw [h] at hleft
  rw [List.append_nil, hleft] at hright
  exact ⟨congrArg Prod.fst hright, congrArg Prod.snd hright⟩

end DnsView.Json
