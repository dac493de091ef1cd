import DnsView.Proofs.Json.DoubleNumerals

/-!
# How deep a text nests

The lists and objects that are open at a place of a JSON text are seen from the brackets and braces
before it, except for those that stand inside string literals.  The text of a value nests as deep as
the value itself, in either layout: no string, name or numeral adds to it.
-/

namespace DnsView.Json

/-!
## Texts
-/

inductive Place where
  | outside
  | literal
  | escape

/-- The greatest number of lists and objects open at once, given the number that are open before. -/
def nestingFrom : Place → Nat → List Char → Nat
  | _, level, [] => level
  | .escape, level, _ :: cs => nestingFrom .literal level cs
  | .literal, level, c :: cs =>
      if c = '\\' then nestingFrom .escape level cs
      else if c = '"' then nestingFrom .outside level cs
      else nestingFrom .literal level cs
  | .outside, level, c :: cs =>
      if c = '"' then nestingFrom .literal level cs
      else if c = '[' ∨ c = '\x7b' then nestingFrom .outside (level + 1) cs
      else if c = ']' ∨ c = '\x7d' then max level (nestingFrom .outside (level - 1) cs)
      else nestingFrom .outside level cs

/-- The greatest number of lists and objects that are open at once in a text. -/
def nesting (s : String) : Nat :=
  nestingFrom .outside 0 s.toList

/-!
## Values
-/

mutual

/-- The greatest number of lists and objects around a part of a value, itself included. -/
def depth : Json → Nat
  | .list items => itemDepth items + 1
  | .object members => memberDepth members + 1
  | _ => 0

def itemDepth : List Json → Nat
  | [] => 0
  | j :: js => max j.depth (itemDepth js)

def memberDepth : List (String × Json) → Nat
  | [] => 0
  | (_, j) :: members => max j.depth (memberDepth members)

end

/-!
## Steps through a text
-/

theorem le_nestingFrom (place : Place) (level : Nat) (cs : List Char) :
    level ≤ nestingFrom place level cs := by
  induction cs generalizing place level with
  | nil =>
      simp [nestingFrom]
  | cons c cs ih =>
      cases place with
      | escape =>
          exact ih .literal level
      | literal =>
          rw [nestingFrom]
          split
          · exact ih .escape level
          · split
            · exact ih .outside level
            · exact ih .literal level
      | outside =>
          rw [nestingFrom]
          split
          · exact ih .literal level
          · split
            · exact Nat.le_of_succ_le (ih .outside (level + 1))
            · split
              · exact Nat.le_max_left _ _
              · exact ih .outside level

def marks : List Char := ['"', '[', '\x7b', ']', '\x7d']

theorem nestingFrom_unmarked {cs : List Char} (h : ∀ c ∈ cs, c ∉ marks) (level : Nat)
    (rest : List Char) :
    nestingFrom .outside level (cs ++ rest) = nestingFrom .outside level rest := by
  induction cs with
  | nil =>
      rfl
  | cons c cs ih =>
      have hc := h c List.mem_cons_self
      simp only [marks, List.mem_cons, List.not_mem_nil, or_false, not_or] at hc
      rcases hc with ⟨hquote, hbracket, hbrace, hclosing, hclosing'⟩
      rw [List.cons_append, nestingFrom, if_neg hquote, if_neg (by simp [hbracket, hbrace]),
        if_neg (by simp [hclosing, hclosing'])]
      exact ih fun d hd => h d (List.mem_cons_of_mem c hd)

theorem nestingFrom_bare {cs : List Char} (h : cs ⊆ bareChars) (level : Nat) (rest : List Char) :
    nestingFrom .outside level (cs ++ rest) = nestingFrom .outside level rest := by
  have hbare : ∀ c ∈ bareChars, c ∉ marks := by
    simp [bareChars, marks]
  exact nestingFrom_unmarked (fun c hc => hbare c (h hc)) level rest

theorem nestingFrom_line (s : Spacing) (line level : Nat) (rest : List Char) :
    nestingFrom .outside level (s.line line ++ rest) = nestingFrom .outside level rest := by
  apply nestingFrom_unmarked
  cases s with
  | compact =>
      intro c hc
      cases hc
  | indented =>
      intro c hc
      rcases List.mem_cons.mp hc with rfl | hspace
      · decide
      · rw [List.eq_of_mem_replicate hspace]
        decide

theorem nestingFrom_colon (s : Spacing) (level : Nat) (rest : List Char) :
    nestingFrom .outside level (s.colon ++ rest) = nestingFrom .outside level rest := by
  apply nestingFrom_unmarked
  cases s with
  | compact =>
      simp [Spacing.colon, marks]
  | indented =>
      simp [Spacing.colon, marks]

theorem nestingFrom_escaped (c : Char) (level : Nat) (rest : List Char) :
    nestingFrom .literal level (escaped c ++ rest) = nestingFrom .literal level rest := by
  unfold escaped
  iterate 7
    split
    · rfl
  split
  · rename_i hcontrol
    have hdigit : ∀ d < 16, d.digitChar ≠ '\\' ∧ d.digitChar ≠ '"' := by
      decide
    have hhigh := hdigit (c.toNat / 16) (by omega)
    have hlow := hdigit (c.toNat % 16) (by omega)
    simp [nestingFrom, hhigh, hlow]
  · rename_i hquote hbackslash _ _ _ _ _ _
    simp [nestingFrom, hquote, hbackslash]

theorem nestingFrom_literal (t : String) (level : Nat) (rest : List Char) :
    nestingFrom .outside level (literal t ++ rest) = nestingFrom .outside level rest := by
  have hinside : ∀ cs : List Char, nestingFrom .literal level (cs.flatMap escaped ++ '"' :: rest) =
      nestingFrom .outside level rest := by
    intro cs
    induction cs with
    | nil =>
        rfl
    | cons c cs ih =>
        rw [List.flatMap_cons, List.append_assoc, nestingFrom_escaped]
        exact ih
  have hopen : literal t ++ rest = '"' :: (t.toList.flatMap escaped ++ '"' :: rest) := by
    simp [literal]
  rw [hopen]
  exact hinside t.toList

theorem nestingFrom_list (level : Nat) (cs : List Char) :
    nestingFrom .outside level ('[' :: cs) = nestingFrom .outside (level + 1) cs :=
  rfl

theorem nestingFrom_object (level : Nat) (cs : List Char) :
    nestingFrom .outside level ('\x7b' :: cs) = nestingFrom .outside (level + 1) cs :=
  rfl

theorem nestingFrom_comma (level : Nat) (cs : List Char) :
    nestingFrom .outside level (',' :: cs) = nestingFrom .outside level cs :=
  rfl

theorem nestingFrom_closing (s : Spacing) (line level : Nat) {c : Char} (hc : c = ']' ∨ c = '\x7d')
    (cs : List Char) : nestingFrom .outside (level + 1) (s.line line ++ c :: cs) =
      max (level + 1) (nestingFrom .outside level cs) := by
  rw [nestingFrom_line]
  rcases hc with rfl | rfl
  · rfl
  · rfl

theorem nestingFrom_flat {cs rest : List Char} {level : Nat}
    (h : nestingFrom .outside level (cs ++ rest) = nestingFrom .outside level rest) :
    nestingFrom .outside level (cs ++ rest) =
      max (level + 0) (nestingFrom .outside level rest) := by
  rw [h, Nat.add_zero, Nat.max_eq_right (le_nestingFrom .outside level rest)]

/-!
## Whole values

The induction follows the value.  After a value as many lists and objects are open as before it, and
inside it there were as many more as it is deep.
-/

mutual

theorem nestingFrom_chars (s : Spacing) (line : Nat) :
    ∀ (j : Json) (level : Nat) (rest : List Char),
    nestingFrom .outside level (chars s line j ++ rest) =
      max (level + j.depth) (nestingFrom .outside level rest)
  | .list [], level, rest => nestingFrom_closing .compact 0 level (Or.inl rfl) rest
  | .list (j :: js), level, rest => by
      have hhead := nestingFrom_chars s (line + 1) j (level + 1)
      have htail := nestingFrom_itemChars s (line + 1) js (level + 1)
      simp only [chars, List.cons_append, List.append_assoc, List.nil_append]
      rw [nestingFrom_list, nestingFrom_line, hhead, htail,
        nestingFrom_closing s line level (Or.inl rfl), depth, itemDepth]
      omega
  | .object [], level, rest => nestingFrom_closing .compact 0 level (Or.inr rfl) rest
  | .object ((name, j) :: members), level, rest => by
      have hhead := nestingFrom_chars s (line + 1) j (level + 1)
      have htail := nestingFrom_memberChars s (line + 1) members (level + 1)
      simp only [chars, List.cons_append, List.append_assoc, List.nil_append]
      rw [nestingFrom_object, nestingFrom_line, nestingFrom_literal, nestingFrom_colon, hhead,
        htail, nestingFrom_closing s line level (Or.inr rfl), depth, memberDepth]
      omega
  | .null, level, rest =>
      nestingFrom_flat (@nestingFrom_bare ['n', 'u', 'l', 'l'] (by decide) level rest)
  | .boolean true, level, rest =>
      nestingFrom_flat (@nestingFrom_bare ['t', 'r', 'u', 'e'] (by decide) level rest)
  | .boolean false, level, rest =>
      nestingFrom_flat (@nestingFrom_bare ['f', 'a', 'l', 's', 'e'] (by decide) level rest)
  | .integer n, level, rest =>
      nestingFrom_flat (nestingFrom_bare (integer_subset_bareChars n) level rest)
  | .float x, level, rest =>
      nestingFrom_flat (nestingFrom_bare (float_subset_bareChars x) level rest)
  | .text t, level, rest => nestingFrom_flat (nestingFrom_literal t level rest)

theorem nestingFrom_itemChars (s : Spacing) (line : Nat) :
    ∀ (js : List Json) (level : Nat) (rest : List Char),
      nestingFrom .outside level (itemChars s line js ++ rest) =
        max (level + itemDepth js) (nestingFrom .outside level rest)
  | [], level, rest => (Nat.max_eq_right (le_nestingFrom .outside level rest)).symm
  | j :: js, level, rest => by
      have hhead := nestingFrom_chars s line j level
      have htail := nestingFrom_itemChars s line js level
      simp only [itemChars, List.cons_append, List.append_assoc]
      rw [nestingFrom_comma, nestingFrom_line, hhead, htail, itemDepth]
      omega

theorem nestingFrom_memberChars (s : Spacing) (line : Nat) :
    ∀ (members : List (String × Json)) (level : Nat) (rest : List Char),
      nestingFrom .outside level (memberChars s line members ++ rest) =
        max (level + memberDepth members) (nestingFrom .outside level rest)
  | [], level, rest => (Nat.max_eq_right (le_nestingFrom .outside level rest)).symm
  | (name, j) :: members, level, rest => by
      have hhead := nestingFrom_chars s line j level
      have htail := nestingFrom_memberChars s line members level
      simp only [memberChars, List.cons_append, List.append_assoc]
      rw [nestingFrom_comma, nestingFrom_line, nestingFrom_literal, nestingFrom_colon, hhead, htail,
        memberDepth]
      omega

end

/-- The text of a value nests as deep as the value. -/
theorem nesting_render (s : Spacing) (j : Json) : nesting (j.render s) = j.depth := by
  have hread := nestingFrom_chars s 0 j 0 []
  rw [List.append_nil, Nat.zero_add, nestingFrom, Nat.max_zero] at hread
  rw [nesting, render, String.toList_ofList]
  exact hread

end DnsView.Json
