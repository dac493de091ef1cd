import DnsView.Proofs.Json.Trees
import DnsView.Proofs.Text.Bytes
import DnsView.Digest.Fingerprint

/-!
# Streams and digests

The bytes that are digested can be taken apart into the parts they were put together from, and the
text of a digest determines the digest.
-/

/-!
## Bytes of JSON texts

The compact text of a JSON value has no control characters, so none of its bytes is one either.  The
bytes of a list or an object also tell where they end, whatever bytes follow.
-/

namespace DnsView.Json

/-!
### Control characters
-/

def Printable (cs : List Char) : Prop := ∀ c ∈ cs, 32 ≤ c.toNat

instance (cs : List Char) : Decidable (Printable cs) :=
  List.decidableBAll (fun c : Char => 32 ≤ c.toNat) cs

@[simp]
theorem printable_nil : Printable [] := by
  intro c hc
  cases hc

@[simp]
theorem printable_cons {c : Char} {cs : List Char} :
    Printable (c :: cs) ↔ 32 ≤ c.toNat ∧ Printable cs :=
  List.forall_mem_cons

@[simp]
theorem printable_append {cs ds : List Char} :
    Printable (cs ++ ds) ↔ Printable cs ∧ Printable ds :=
  List.forall_mem_append

theorem printable_digitChar {d : Nat} (hd : d < 16) : 32 ≤ d.digitChar.toNat := by
  interval_cases d <;> decide

theorem printable_of_subset {cs : List Char} (h : cs ⊆ bareChars) : Printable cs := by
  have hbare : Printable bareChars := by
    decide
  intro c hc
  exact hbare c (h hc)

theorem printable_escaped (c : Char) : Printable (escaped c) := by
  unfold escaped
  iterate 7
    split
    · decide
  split
  · rename_i hcontrol
    have hhigh := printable_digitChar (by omega : c.toNat / 16 < 16)
    have hlow := printable_digitChar (by omega : c.toNat % 16 < 16)
    simp [hhigh, hlow]
  · rename_i hcontrol
    exact printable_cons.mpr ⟨Nat.le_of_not_lt hcontrol, printable_nil⟩

theorem printable_literal (s : String) : Printable (literal s) := by
  have hescaped : Printable (s.toList.flatMap escaped) := by
    intro c hc
    rcases List.mem_flatMap.mp hc with ⟨d, _, hd⟩
    exact printable_escaped d c hd
  rw [literal, List.cons_append, printable_cons, printable_append]
  exact ⟨by decide, hescaped, by decide⟩

mutual

theorem printable_chars (level : Nat) : ∀ j : Json, Printable (chars .compact level j)
  | .null => by
      show Printable ['n', 'u', 'l', 'l']
      decide
  | .boolean true => by
      show Printable ['t', 'r', 'u', 'e']
      decide
  | .boolean false => by
      show Printable ['f', 'a', 'l', 's', 'e']
      decide
  | .integer n => printable_of_subset (integer_subset_bareChars n)
  | .float x => printable_of_subset (float_subset_bareChars x)
  | .text t => printable_literal t
  | .list [] => by
      show Printable ['[', ']']
      decide
  | .list (j :: js) => by
      have hhead := printable_chars (level + 1) j
      have htail := printable_itemChars (level + 1) js
      simp [chars, Spacing.line, hhead, htail]
  | .object [] => by
      show Printable ['\x7b', '\x7d']
      decide
  | .object ((name, j) :: members) => by
      have hname := printable_literal name
      have hhead := printable_chars (level + 1) j
      have htail := printable_memberChars (level + 1) members
      simp [chars, Spacing.line, Spacing.colon, hname, hhead, htail]

theorem printable_itemChars (level : Nat) :
    ∀ js : List Json, Printable (itemChars .compact level js)
  | [] => printable_nil
  | j :: js => by
      have hhead := printable_chars level j
      have htail := printable_itemChars level js
      simp [itemChars, Spacing.line, hhead, htail]

theorem printable_memberChars (level : Nat) :
    ∀ members : List (String × Json), Printable (memberChars .compact level members)
  | [] => printable_nil
  | (name, j) :: members => by
      have hname := printable_literal name
      have hhead := printable_chars level j
      have htail := printable_memberChars level members
      simp [memberChars, Spacing.line, Spacing.colon, hname, hhead, htail]

end

theorem bytes_of_printable {c : Char} (hc : 32 ≤ c.toNat) :
    ∀ b ∈ String.utf8EncodeChar c, 32 ≤ b.toNat := by
  have hvalue : 32 ≤ c.val.toNat := hc
  intro b hb
  simp only [String.utf8EncodeChar] at hb
  split at hb
  · simp only [List.mem_singleton] at hb
    rw [hb, UInt8.toNat_ofNat']
    omega
  · have hhigh : ∃ n, 128 ≤ n ∧ n < 256 ∧ b = UInt8.ofNat n := by
      split at hb
      · simp only [List.mem_cons, List.not_mem_nil, or_false] at hb
        rcases hb with rfl | rfl
        all_goals exact ⟨_, by omega, by omega, rfl⟩
      · split at hb
        · simp only [List.mem_cons, List.not_mem_nil, or_false] at hb
          rcases hb with rfl | rfl | rfl
          all_goals exact ⟨_, by omega, by omega, rfl⟩
        · simp only [List.mem_cons, List.not_mem_nil, or_false] at hb
          rcases hb with rfl | rfl | rfl | rfl
          all_goals exact ⟨_, by omega, by omega, rfl⟩
    rcases hhigh with ⟨n, hlow, hbyte, rfl⟩
    rw [UInt8.toNat_ofNat']
    omega

theorem printable_bytes (j : Json) : ∀ b ∈ Text.utf8 j.compact, 32 ≤ b.toNat := by
  intro b hb
  rw [compact, render, Text.utf8_ofList] at hb
  rcases List.mem_flatMap.mp hb with ⟨c, hc, hbyte⟩
  exact bytes_of_printable (printable_chars 0 j c hc) b hbyte

/-!
### Where a text ends
-/

theorem compact_append {j k : Json} {bytes : List UInt8} (hj : ∀ rest, Delimits rest j)
    (h : Text.utf8 j.compact ++ bytes = Text.utf8 k.compact) : j.node = k.node ∧ bytes = [] := by
  rcases Text.prefix_of_utf8_append h with ⟨rest, hrest⟩
  rw [compact, compact, render, render, String.toList_ofList, String.toList_ofList] at hrest
  rcases node_eq_of_chars_append (hj rest) hrest with ⟨hnode, hnil⟩
  refine ⟨hnode, ?_⟩
  rw [hnil, List.append_nil] at hrest
  rw [compact, compact, render, render, hrest] at h
  exact List.append_right_eq_self.mp h

/-- The bytes of two lists or objects are told apart from whatever follows them. -/
theorem compact_append_injective {j k : Json} {before after : List UInt8}
    (hj : ∀ rest, Delimits rest j) (hk : ∀ rest, Delimits rest k)
    (h : Text.utf8 j.compact ++ before = Text.utf8 k.compact ++ after) :
    j.node = k.node ∧ before = after := by
  rcases List.append_eq_append_iff.mp h with ⟨bytes, hlong, hrest⟩ | ⟨bytes, hlong, hrest⟩
  · rcases compact_append hj hlong.symm with ⟨hnode, rfl⟩
    exact ⟨hnode, hrest⟩
  · rcases compact_append hk hlong.symm with ⟨hnode, rfl⟩
    exact ⟨hnode.symm, hrest.symm⟩

end DnsView.Json

/-!
## Streams of framed parts

A part whose length is within the range of eight bytes is told by its length, whatever its own bytes
imitate, so a stream of such parts can be taken apart in one way only.

Beyond this range the length in front of a part is only known up to multiples of it.  A part
whose end is not told by its own bytes can still not be confused with a longer one, because the
longer one would have to contain the length and the flag that follow the shorter one: nine bytes
with the values of control characters in a row, where only eight ever stand together.
-/

namespace DnsView

/-!
### Contents

Bytes are added as they are, texts in UTF-8, a flag as a single byte, and a value as its compact
text or the reason why it has none.  Parts of one kind are told apart by their contents, parts of
two kinds need not be: a true flag and the byte one are added alike.
-/

theorem Part.content_contributed (bs : List UInt8) (s : String) (b : Bool) (j : Json)
    (fault : JsonFault) :
    (Part.bytes bs).content = bs ∧
      (Part.text s).content = s.toList.flatMap String.utf8EncodeChar ∧
      (Part.flag b).content = [b.toUInt8] ∧
      (Part.json (.ok j)).content = (Json.chars .compact 0 j).flatMap String.utf8EncodeChar ∧
      (Part.json (.error fault)).content = (Part.text fault.message).content := by
  refine ⟨rfl, ?_, ?_, ?_, rfl⟩
  · have htext := Text.utf8_ofList s.toList
    rw [String.ofList_toList] at htext
    exact htext
  · cases b
    · rfl
    · rfl
  · show Text.utf8 (String.ofList (Json.chars .compact 0 j)) = _
    rw [Text.utf8_ofList]

theorem Part.content_eq_content_iff (s t : String) (b c : Bool) (j k : Json) :
    ((Part.text s).content = (Part.text t).content ↔ s = t) ∧
      ((Part.flag b).content = (Part.flag c).content ↔ b = c) ∧
      ((Part.json (.ok j)).content = (Part.json (.ok k)).content ↔ j.compact = k.compact) := by
  have htext : ∀ s t : String, Text.utf8 s = Text.utf8 t ↔ s = t := by
    intro s t
    constructor
    · exact Text.utf8_injective
    · intro h
      rw [h]
  refine ⟨htext s t, ?_, htext j.compact k.compact⟩
  revert b c
  decide

/-!
### Lengths
-/

theorem Sha256.length_bytes64 (n : Nat) : (bytes64 n).length = 8 := by
  simp [bytes64]

theorem Sha256.mod_pow_succ (n i : Nat) :
    n % Nat.pow 256 (i + 1) = n % Nat.pow 256 i + Nat.pow 256 i * (n / Nat.pow 256 i % 256) :=
  Nat.mod_pow_succ

theorem Sha256.bytes64_mod {n k : Nat} (h : bytes64 n = bytes64 k) :
    n % UInt64.size = k % UInt64.size := by
  have hbyte : ∀ i < 8, n / Nat.pow 256 i % 256 = k / Nat.pow 256 i % 256 := by
    intro i hi
    have hmap := List.map_inj_left.mp h (7 - i) (List.mem_range.mpr (by omega))
    have hnat := congrArg UInt8.toNat hmap
    rw [UInt8.toNat_ofNat', UInt8.toNat_ofNat', Nat.sub_sub_self (by omega)] at hnat
    exact hnat
  have hbytes : ∀ i ≤ 8, n % Nat.pow 256 i = k % Nat.pow 256 i := by
    intro i hi
    induction i with
    | zero =>
        show n % 1 = k % 1
        rw [Nat.mod_one, Nat.mod_one]
    | succ i ih =>
        rw [mod_pow_succ, mod_pow_succ, ih (by omega), hbyte i (by omega)]
  exact hbytes 8 (Nat.le_refl 8)

theorem framed_cons (part : List UInt8) (parts : List (List UInt8)) :
    framed (part :: parts) = Sha256.bytes64 part.length ++ (part ++ framed parts) := by
  rw [framed, framed, List.flatMap_cons, List.append_assoc]

theorem framed_nil : framed [] = [] :=
  rfl

theorem framed_cons_eq {part part' : List UInt8} {parts parts' : List (List UInt8)}
    (h : framed (part :: parts) = framed (part' :: parts')) :
    part.length % UInt64.size = part'.length % UInt64.size ∧
      part ++ framed parts = part' ++ framed parts' := by
  rw [framed_cons, framed_cons] at h
  have hlength : (Sha256.bytes64 part.length).length = (Sha256.bytes64 part'.length).length := by
    rw [Sha256.length_bytes64, Sha256.length_bytes64]
  rcases List.append_inj h hlength with ⟨hbytes, hrest⟩
  exact ⟨Sha256.bytes64_mod hbytes, hrest⟩

/-!
### Parts within the range
-/

theorem framed_cons_ne_nil (part : List UInt8) (parts : List (List UInt8)) :
    framed (part :: parts) ≠ [] := by
  intro h
  have hlength := congrArg List.length h
  rw [framed_cons, List.length_append, Sha256.length_bytes64, List.length_nil] at hlength
  omega

theorem framed_injective {parts parts' : List (List UInt8)}
    (hparts : ∀ part ∈ parts, part.length < UInt64.size)
    (hparts' : ∀ part ∈ parts', part.length < UInt64.size) (h : framed parts = framed parts') :
    parts = parts' := by
  induction parts generalizing parts' with
  | nil =>
      cases parts' with
      | nil =>
          rfl
      | cons part' parts' =>
          exact absurd h.symm (framed_cons_ne_nil part' parts')
  | cons part parts ih =>
      cases parts' with
      | nil =>
          exact absurd h (framed_cons_ne_nil part parts)
      | cons part' parts' =>
          rw [List.forall_mem_cons] at hparts hparts'
          rcases framed_cons_eq h with ⟨hlength, hrest⟩
          rw [Nat.mod_eq_of_lt hparts.left, Nat.mod_eq_of_lt hparts'.left] at hlength
          rcases List.append_inj hrest hlength with ⟨hpart, hlater⟩
          rw [hpart, ih hparts.right hparts'.right hlater]

/--
Two sequences of parts give the same stream exactly if they are equally many and have the same
bytes one by one, however each of them was added.
-/
theorem Part.framed_contents_eq_iff {parts parts' : List Part}
    (hparts : ∀ part ∈ parts, part.content.length < UInt64.size)
    (hparts' : ∀ part ∈ parts', part.content.length < UInt64.size) :
    framed (parts.map Part.content) = framed (parts'.map Part.content) ↔
      parts.map Part.content = parts'.map Part.content := by
  constructor
  · intro h
    apply framed_injective _ _ h
    · exact List.forall_mem_map.mpr hparts
    · exact List.forall_mem_map.mpr hparts'
  · intro h
    rw [h]

theorem Part.framed_contents_eq_iff_imitation :
    (∀ part ∈ [Part.bytes [], .flag true], part.content.length < UInt64.size) ∧
      (∀ part ∈ [Part.bytes (Sha256.bytes64 1 ++ [1])], part.content.length < UInt64.size) ∧
      framed ([Part.bytes [], .flag true].map Part.content) ≠
        framed ([Part.bytes (Sha256.bytes64 1 ++ [1])].map Part.content) ∧
      framed ([Part.bytes [], .flag true].map Part.content) =
        framed ([Part.text "", .bytes [1]].map Part.content) := by
  have hflag : ∀ part ∈ [Part.bytes [], .flag true], part.content.length < UInt64.size := by
    decide
  have himitation : ∀ part ∈ [Part.bytes (Sha256.bytes64 1 ++ [1])],
      part.content.length < UInt64.size := by
    decide
  have htext : ∀ part ∈ [Part.text "", .bytes [1]], part.content.length < UInt64.size := by
    decide
  refine ⟨hflag, himitation, ?_, ?_⟩
  · rw [Ne, Part.framed_contents_eq_iff hflag himitation]
    decide
  · rw [Part.framed_contents_eq_iff hflag htext]
    decide

/-!
### Texts before a flag
-/

/-- A part with bytes, none of which has the value of a control character. -/
structure PrintablePart (part : List UInt8) : Prop where
  nonempty : part ≠ []
  printable : ∀ b ∈ part, 32 ≤ b.toNat

/-- Of nine bytes in a row one belongs to a part and not to a length. -/
theorem exists_printable_byte {parts : List (List UInt8)}
    (hparts : ∀ part ∈ parts, PrintablePart part) {i : Nat} (hi : i + 9 ≤ (framed parts).length) :
    ∃ k < 9, ∃ b, (framed parts)[i + k]? = some b ∧ 32 ≤ b.toNat := by
  induction parts generalizing i with
  | nil =>
      rw [framed_nil, List.length_nil] at hi
      omega
  | cons part parts ih =>
      have hpart := hparts part (by simp)
      have hpositive := List.length_pos_iff.mpr hpart.nonempty
      have hlength := Sha256.length_bytes64 part.length
      rw [framed_cons] at hi ⊢
      simp only [List.length_append, hlength] at hi
      by_cases hfirst : i < 8 + part.length
      · have hinside : i + (8 - i) - 8 < part.length := by omega
        have hlarge := hpart.printable _ (List.getElem_mem hinside)
        refine ⟨8 - i, by omega, part[i + (8 - i) - 8], ?_, hlarge⟩
        rw [List.getElem?_append_right (by omega), hlength, List.getElem?_append_left hinside,
          List.getElem?_eq_getElem]
      · rcases ih (fun part hmem => hparts part (by simp [hmem])) (i := i - (8 + part.length))
          (by omega) with ⟨k, hk, b, hb, hlarge⟩
        refine ⟨k, hk, b, ?_, hlarge⟩
        rw [List.getElem?_append_right (by omega), hlength, List.getElem?_append_right (by omega)]
        have hindex : i + k - 8 - part.length = i - (8 + part.length) + k := by omega
        rw [hindex, hb]

theorem framed_flag (b : UInt8) (parts : List (List UInt8)) :
    framed ([b] :: parts) = [0, 0, 0, 0, 0, 0, 0, 1, b] ++ framed parts := by
  have hone : Sha256.bytes64 [b].length = [0, 0, 0, 0, 0, 0, 0, 1] := by
    rw [List.length_singleton]
    decide
  rw [framed_cons, hone]
  rfl

theorem not_longer_of_framed {t t' : List UInt8} {b b' : UInt8} {parts parts' : List (List UInt8)}
    (hparts : ∀ part ∈ parts, PrintablePart part) (hb : b'.toNat < 32)
    (h : t ++ framed ([b] :: parts) = t' ++ framed ([b'] :: parts')) :
    ¬t.length + 9 ≤ t'.length := by
  intro hlonger
  rw [framed_flag, framed_flag] at h
  rcases List.append_eq_append_iff.mp h with ⟨gap, hgap, hrest⟩ | ⟨gap, hgap, _⟩
  · -- The shorter stream would have nine small bytes where the parts after its flag are.
    have hlength := congrArg List.length hrest
    rw [hgap, List.length_append] at hlonger
    simp only [List.length_append, List.length_cons, List.length_nil] at hlength
    rcases exists_printable_byte hparts (i := gap.length - 9) (by omega) with
      ⟨k, hk, x, hx, hlarge⟩
    have hsame : ([0, 0, 0, 0, 0, 0, 0, 1, b'] : List UInt8)[k]? = some x := by
      calc
        ([0, 0, 0, 0, 0, 0, 0, 1, b'] : List UInt8)[k]? =
            (gap ++ ([0, 0, 0, 0, 0, 0, 0, 1, b'] ++ framed parts'))[gap.length + k]? := by
          rw [List.getElem?_append_right (by omega), Nat.add_sub_cancel_left,
            List.getElem?_append_left (by simpa using hk)]
        _ = ([0, 0, 0, 0, 0, 0, 0, 1, b] ++ framed parts)[gap.length + k]? := by rw [hrest]
        _ = (framed parts)[gap.length - 9 + k]? := by
          rw [List.getElem?_append_right (by simp; omega)]
          congr 1
          simp
          omega
        _ = some x := hx
    have hsmall : ∀ y ∈ ([0, 0, 0, 0, 0, 0, 0, 1, b'] : List UInt8), y.toNat < 32 := by
      simpa using hb
    have hlow := hsmall x (List.mem_of_getElem? hsame)
    omega
  · rw [hgap, List.length_append] at hlonger
    omega

/-- A text is told apart from the flag and the parts after it, however long it is. -/
theorem text_eq_of_framed {t t' : List UInt8} {b b' : UInt8} {parts parts' : List (List UInt8)}
    (hparts : ∀ part ∈ parts, PrintablePart part) (hparts' : ∀ part ∈ parts', PrintablePart part)
    (hb : b.toNat < 32) (hb' : b'.toNat < 32)
    (hlength : t.length % UInt64.size = t'.length % UInt64.size)
    (h : t ++ framed ([b] :: parts) = t' ++ framed ([b'] :: parts')) :
    t = t' ∧ b = b' ∧ framed parts = framed parts' := by
  have hshort := not_longer_of_framed hparts hb' h
  have hlong := not_longer_of_framed hparts' hb h.symm
  have hsame : t.length = t'.length := by
    simp only [UInt64.size] at hlength
    omega
  rcases List.append_inj h hsame with ⟨htext, hrest⟩
  rw [framed_flag, framed_flag] at hrest
  rcases List.append_inj hrest rfl with ⟨hflag, hparts⟩
  refine ⟨htext, ?_, hparts⟩
  simpa using hflag

/-!
## Texts of fingerprints

A fingerprint is written with two digits for each of thirty-two bytes, and its text determines it.
So no fingerprint has the empty text, which stands for a fingerprint that was never taken.
-/

/-!
### The bytes of a digest
-/

namespace Sha256

theorem bytes32_injective {x y : UInt32} (h : bytes32 x = bytes32 y) : x = y := by
  have hbytes := congrArg (List.map UInt8.toNat) h
  simp only [bytes32, List.map_cons, List.map_nil, List.cons.injEq, and_true] at hbytes
  rcases hbytes with ⟨h0, h1, h2, h3⟩
  simp [Nat.shiftRight_eq_div_pow] at h0 h1 h2 h3
  have hx : x.toNat < 4294967296 := x.toNat_lt
  have hy : y.toNat < 4294967296 := y.toNat_lt
  apply UInt32.toNat_inj.mp
  omega

theorem State.length_bytes (s : State) : s.bytes.length = 32 :=
  rfl

theorem State.bytes_injective {s t : State} (hbytes : s.bytes = t.bytes) : s = t := by
  rcases List.append_inj' hbytes rfl with ⟨hbytes, hh⟩
  rcases List.append_inj' hbytes rfl with ⟨hbytes, hg⟩
  rcases List.append_inj' hbytes rfl with ⟨hbytes, hf⟩
  rcases List.append_inj' hbytes rfl with ⟨hbytes, he⟩
  rcases List.append_inj' hbytes rfl with ⟨hbytes, hd⟩
  rcases List.append_inj' hbytes rfl with ⟨hbytes, hc⟩
  rcases List.append_inj' hbytes rfl with ⟨ha, hb⟩
  cases s
  cases t
  simp only [State.mk.injEq]
  exact ⟨bytes32_injective ha, bytes32_injective hb, bytes32_injective hc, bytes32_injective hd,
    bytes32_injective he, bytes32_injective hf, bytes32_injective hg, bytes32_injective hh⟩

end Sha256

/-!
### The text of a fingerprint
-/

namespace Fingerprint

theorem length_text (f : Fingerprint) : f.text.length = 64 := by
  rw [text, Text.length_encodeHex, Sha256.State.length_bytes]

theorem mem_smallHexDigits_of_text (f : Fingerprint) :
    ∀ c ∈ f.text.toList, c ∈ Text.smallHexDigits :=
  Text.mem_smallHexDigits_of_encodeHex f.digest.bytes

theorem text_ne_empty (f : Fingerprint) : f.text ≠ "" := by
  intro hempty
  have hlength := f.length_text
  rw [hempty] at hlength
  cases hlength

theorem text_injective {f g : Fingerprint} (h : f.text = g.text) : f = g := by
  have hdigest := Sha256.State.bytes_injective (Text.encodeHex_injective h)
  cases f
  cases g
  rw [Fingerprint.mk.injEq]
  exact hdigest

end Fingerprint

end DnsView
