import DnsView.Json.Parser
import DnsView.Json.Basic
import DnsView.Proofs.Text.Bytes

/-!
# Strings and numerals read back

Strings and numerals are the parts of a JSON text that have a grammar of their own.  Each is read
back from what is written for it.
-/

/-!
## String literals read back

Every string is read back from its literal, whatever follows the literal.  A control without a short
escape becomes a numeric piece and every other character a piece of its own, so no surrogate halves
ever arise.
-/

namespace DnsView.Json

def pieceOf (c : Char) : Piece :=
  if c.toNat < 32 ∧ c ∉ ['\x08', '\x0c', '\n', '\r', '\t'] then .unit c.toNat else .char c

theorem hexUnit?_digitChars {high low : Nat} (hhigh : high < 16) (hlow : low < 16) :
    hexUnit? '0' '0' high.digitChar low.digitChar = some (16 * high + low) := by
  have hzero : Text.digit? 16 '0' = some 0 := by decide
  simp [hexUnit?, hzero, Text.digit?_digitChar (Nat.le_refl 16) hhigh,
    Text.digit?_digitChar (Nat.le_refl 16) hlow, Text.ofDigits]

theorem pieces?_plain {c : Char} (hquote : c ≠ '"') (hslash : c ≠ '\\') (hcontrol : ¬c.toNat < 32)
    (cs : List Char) :
    pieces? (c :: cs) = (pieces? cs).map fun p => (.char c :: p.1, p.2) := by
  rw [pieces?.eq_def]
  split
  · rename_i heq
    cases heq
  · rename_i heq
    cases heq
    exact absurd rfl hquote
  · rename_i heq
    cases heq
    exact absurd rfl hslash
  · rename_i heq
    cases heq
    exact absurd rfl hslash
  · rename_i heq
    cases heq
    rw [if_neg hcontrol]
    cases pieces? cs with
    | none =>
        rfl
    | some p =>
        rfl

theorem pieces?_short {letter c : Char} (hunit : letter ≠ 'u') (hc : unescape? letter = some c)
    (cs : List Char) :
    pieces? ('\\' :: letter :: cs) = (pieces? cs).map fun p => (.char c :: p.1, p.2) := by
  rw [pieces?, hc]
  · cases pieces? cs with
    | none =>
        rfl
    | some p =>
        rfl
  · intro _ _ _ _ _ hletter _
    exact hunit hletter

theorem pieces?_unit {high low : Nat} (hhigh : high < 16) (hlow : low < 16) (cs : List Char) :
    pieces? ('\\' :: 'u' :: '0' :: '0' :: high.digitChar :: low.digitChar :: cs) =
      (pieces? cs).map fun p => (.unit (16 * high + low) :: p.1, p.2) := by
  rw [pieces?, hexUnit?_digitChars hhigh hlow]
  cases pieces? cs with
  | none =>
      rfl
  | some p =>
      rfl

theorem pieces?_escaped (c : Char) (cs : List Char) :
    pieces? (escaped c ++ cs) = (pieces? cs).map fun p => (pieceOf c :: p.1, p.2) := by
  unfold escaped
  by_cases hquote : c = '"'
  · subst hquote
    exact pieces?_short (by decide) rfl cs
  by_cases hslash : c = '\\'
  · subst hslash
    exact pieces?_short (by decide) rfl cs
  by_cases hshort : c ∈ ['\x08', '\x0c', '\n', '\r', '\t']
  · simp only [List.mem_cons, List.not_mem_nil, or_false] at hshort
    rcases hshort with rfl | rfl | rfl | rfl | rfl
    all_goals exact pieces?_short (by decide) rfl cs
  have hothers := hshort
  simp only [List.mem_cons, List.not_mem_nil, or_false, not_or] at hothers
  rcases hothers with ⟨hb, hf, hn, hr, ht⟩
  simp only [hquote, hslash, hb, hf, hn, hr, ht, if_false]
  by_cases hcontrol : c.toNat < 32
  · have hvalue : 16 * (c.toNat / 16) + c.toNat % 16 = c.toNat := Nat.div_add_mod c.toNat 16
    have hpiece : pieceOf c = .unit c.toNat := if_pos ⟨hcontrol, hshort⟩
    have hunit := pieces?_unit (by omega : c.toNat / 16 < 16) (by omega : c.toNat % 16 < 16) cs
    rw [hvalue] at hunit
    rw [if_pos hcontrol, hpiece]
    exact hunit
  · have hpiece : pieceOf c = .char c := if_neg fun h => hcontrol h.left
    rw [if_neg hcontrol, hpiece]
    exact pieces?_plain hquote hslash hcontrol cs

theorem pieces?_literal (cs rest : List Char) :
    pieces? (cs.flatMap escaped ++ '"' :: rest) = some (cs.map pieceOf, rest) := by
  induction cs with
  | nil =>
      simp [pieces?]
  | cons c cs ih =>
      rw [List.flatMap_cons, List.append_assoc, pieces?_escaped, ih]
      rfl

theorem text?_map_pieceOf (cs : List Char) : text? (cs.map pieceOf) = some cs := by
  induction cs with
  | nil =>
      rfl
  | cons c cs ih =>
      rw [List.map_cons, pieceOf]
      split
      · rename_i hcontrol
        have hlow : isLowHalf c.toNat = false := by
          have hlt : ¬0xDC00 ≤ c.toNat := by omega
          simp [isLowHalf, hlt]
        have hhigh : isHighHalf c.toNat = false := by
          have hlt : ¬0xD800 ≤ c.toNat := by omega
          simp [isHighHalf, hlt]
        rw [text?.eq_def]
        simp [hlow, hhigh, ih]
      · simp [text?, ih]

/-- The string that a literal stands for, read past its opening quote. -/
theorem literal_spec (s : String) (rest : List Char) :
    ∃ ps, pieces? (s.toList.flatMap escaped ++ '"' :: rest) = some (ps, rest) ∧
      (text? ps).map String.ofList = some s := by
  refine ⟨s.toList.map pieceOf, pieces?_literal s.toList rest, ?_⟩
  rw [text?_map_pieceOf]
  simp

/-!
## Numerals read back

A numeral has a text of its own, from which it is read back when nothing follows that could belong
to it.  Integers are written with the texts of certain numerals, different ones for different
integers.
-/

/-!
### The text of a numeral

A numeral is written with its sign, its digits on both sides of a point, and its exponent, of which
the last two may be missing.
-/

namespace Exponent

def chars (e : Exponent) : List Char :=
  'e' :: (if e.negative then '-' else '+') :: Text.decimal e.size

end Exponent

namespace Numeral

def unsignedChars (x : Numeral) : List Char :=
  x.whole.map Nat.digitChar ++
    (if x.fraction.isEmpty then [] else '.' :: x.fraction.map Nat.digitChar) ++
    x.exponent.elim [] Exponent.chars

def chars (x : Numeral) : List Char :=
  (if x.negative then ['-'] else []) ++ x.unsignedChars

/-- What the digits of a numeral have to be for it to be read back from its text. -/
structure Proper (x : Numeral) : Prop where
  wholeSmall : ∀ d ∈ x.whole, d < 10
  wholeNonempty : x.whole ≠ []
  leading : x.whole.head? = some 0 → x.whole.length = 1
  fractionSmall : ∀ d ∈ x.fraction, d < 10

end Numeral

/-- A text that begins with nothing that could belong to a numeral before it. -/
def EndsNumeral (rest : List Char) : Prop :=
  ∀ c ∈ rest.head?, Text.digit? 10 c = none ∧ c ≠ '.' ∧ c ≠ 'e' ∧ c ≠ 'E'

theorem endsNumeral_nil : EndsNumeral [] := by
  intro c hc
  cases hc

theorem endsNumeral_cons {c : Char} {rest : List Char} (hdigit : Text.digit? 10 c = none)
    (hpoint : c ≠ '.') (he : c ≠ 'e') (hE : c ≠ 'E') : EndsNumeral (c :: rest) := by
  intro d hd
  cases hd
  exact ⟨hdigit, hpoint, he, hE⟩

theorem EndsNumeral.stops {rest : List Char} (h : EndsNumeral rest) : Text.Stops 10 rest :=
  fun c hc => (h c hc).left

/-!
### Reading the text of a numeral
-/

theorem exponentDigits?_decimal (negative : Bool) (size : Nat) {rest : List Char}
    (hrest : Text.Stops 10 rest) :
    exponentDigits? negative (Text.decimal size ++ rest) = some (some ⟨negative, size⟩, rest) := by
  have hdigits := Text.digitsOf_digits size
  rw [exponentDigits?, Text.decimal, hdigits.spanDigits (by decide) hrest]
  cases hlist : Text.digits size with
  | nil =>
      exact absurd hlist hdigits.ne_nil
  | cons d ds =>
      have hvalue := hdigits.value
      rw [hlist] at hvalue
      simp only [hvalue]

theorem exponent?_chars (e : Option Exponent) {rest : List Char} (hrest : EndsNumeral rest) :
    exponent? (e.elim [] Exponent.chars ++ rest) = some (e, rest) := by
  cases e with
  | none =>
      cases rest with
      | nil =>
          rfl
      | cons c rest =>
          rcases hrest c rfl with ⟨_, _, he, hE⟩
          simp [exponent?, he, hE]
  | some e =>
      cases e with
      | mk negative size =>
          cases negative with
          | true =>
              exact exponentDigits?_decimal true size hrest.stops
          | false =>
              exact exponentDigits?_decimal false size hrest.stops

theorem fraction?_chars {ds : List Nat} (hds : ∀ d ∈ ds, d < 10) {rest : List Char}
    (hstops : Text.Stops 10 rest) (hpoint : ∀ c ∈ rest.head?, c ≠ '.') :
    fraction? ((if ds.isEmpty then [] else '.' :: ds.map Nat.digitChar) ++ rest) =
      some (ds, rest) := by
  cases ds with
  | nil =>
      cases rest with
      | nil =>
          rfl
      | cons c rest =>
          have hc : c ≠ '.' := hpoint c rfl
          simp [fraction?, hc]
  | cons d ds =>
      have hspan := Text.spanDigits_map_digitChar (by decide : 10 ≤ 16) hds hstops
      simp only [List.isEmpty_cons, Bool.false_eq_true, if_false, List.cons_append, fraction?]
      rw [hspan]

theorem stops_afterWhole (fraction : List Nat) (e : Option Exponent) {rest : List Char}
    (hrest : EndsNumeral rest) :
    Text.Stops 10 ((if fraction.isEmpty then [] else '.' :: fraction.map Nat.digitChar) ++
      (e.elim [] Exponent.chars ++ rest)) := by
  have hpoint : Text.digit? 10 '.' = none := by decide
  have he : Text.digit? 10 'e' = none := by decide
  cases fraction with
  | cons d ds =>
      simpa using hpoint
  | nil =>
      cases e with
      | none =>
          exact hrest.stops
      | some e =>
          simpa [Exponent.chars] using he

theorem unsigned?_chars {x : Numeral} (hx : x.Proper) {rest : List Char}
    (hrest : EndsNumeral rest) :
    unsigned? x.negative (x.unsignedChars ++ rest) = some (x, rest) := by
  have hwhole := Text.spanDigits_map_digitChar (by decide : 10 ≤ 16) hx.wholeSmall
    (stops_afterWhole x.fraction x.exponent hrest)
  have hfraction := fraction?_chars hx.fractionSmall
    (by simpa using stops_afterWhole [] x.exponent hrest)
    (by
      intro c hc
      cases hexponent : x.exponent with
      | none =>
          rw [hexponent] at hc
          exact (hrest c hc).right.left
      | some e =>
          rw [hexponent] at hc
          cases hc
          decide)
  have hguard : (x.whole.isEmpty || (x.whole.head? == some 0 && x.whole.length != 1)) = false := by
    have hnonempty := hx.wholeNonempty
    have hleading := hx.leading
    simpa [hnonempty] using hleading
  rw [unsigned?, Numeral.unsignedChars, List.append_assoc, List.append_assoc, hwhole]
  simp only [hguard, Bool.false_eq_true, if_false]
  rw [hfraction]
  simp only [bind, Option.bind, exponent?_chars x.exponent hrest]
  rfl

theorem Numeral.Proper.unsignedChars_eq_cons {x : Numeral} (hx : x.Proper) :
    ∃ c cs, x.unsignedChars = c :: cs ∧ Text.digit? 10 c ≠ none := by
  cases hwhole : x.whole with
  | nil =>
      exact absurd hwhole hx.wholeNonempty
  | cons d ds =>
      have hd : d < 10 := hx.wholeSmall d (by simp [hwhole])
      rw [unsignedChars, hwhole, List.map_cons, List.append_assoc, List.cons_append]
      refine ⟨_, _, rfl, ?_⟩
      rw [Text.digit?_digitChar (by decide) hd]
      exact Option.some_ne_none d

theorem numeral?_chars {x : Numeral} (hx : x.Proper) {rest : List Char}
    (hrest : EndsNumeral rest) : numeral? (x.chars ++ rest) = some (x, rest) := by
  have hread := unsigned?_chars hx hrest
  cases hsign : x.negative with
  | true =>
      rw [hsign] at hread
      simp only [Numeral.chars, hsign, if_true, List.cons_append, numeral?]
      exact hread
  | false =>
      rw [hsign] at hread
      simp only [Numeral.chars, hsign, Bool.false_eq_true, if_false, List.nil_append]
      rcases hx.unsignedChars_eq_cons with ⟨c, cs, hcons, hdigit⟩
      rw [hcons, List.cons_append] at hread ⊢
      rw [numeral?]
      · exact hread
      · intro _ heq
        cases heq
        exact hdigit (by decide)

namespace Numeral

/-!
### Integers
-/

def ofInt (n : Int) : Numeral := ⟨n < 0, Text.digits n.natAbs, [], none⟩

theorem proper_ofInt (n : Int) : (ofInt n).Proper := by
  have hdigits := Text.digitsOf_digits n.natAbs
  refine ⟨hdigits.small, hdigits.ne_nil, ?_, ?_⟩
  · intro h
    exact congrArg List.length (hdigits.leading h)
  · intro d hd
    cases hd

theorem chars_ofInt (n : Int) : (ofInt n).chars = Text.decimalInt n := by
  cases n with
  | ofNat n =>
      simp [ofInt, chars, unsignedChars, Text.decimalInt, Text.decimal_eq_map_digits]
  | negSucc n =>
      simp [ofInt, chars, unsignedChars, Text.decimalInt, Text.decimal_eq_map_digits]

theorem ofInt_injective {n k : Int} (h : ofInt n = ofInt k) : n = k := by
  simp only [ofInt, Numeral.mk.injEq, decide_eq_decide] at h
  have hsize : n.natAbs = k.natAbs := by
    rw [← (Text.digitsOf_digits n.natAbs).value, ← (Text.digitsOf_digits k.natAbs).value,
      h.right.left]
  have hsign := h.left
  omega

end Numeral

end DnsView.Json
