import DnsView.Text.Characters
import DnsView.Proofs.Attempts
import Mathlib.Data.List.Induction
import Mathlib.Tactic.IntervalCases
import Mathlib.Tactic.Ring

/-!
# Digits, bytes and texts

Numerals and bytes are read back from what is written for them, and texts are determined and ordered
by their bytes.
-/

/-!
## Numerals read back

What `Nat.toDigits` writes in a base up to sixteen is a list of digits that stands for the number,
has no leading zero, and is read off the front of any text that does not go on with a digit.
-/

namespace DnsView.Text

/-!
### Single digits
-/

theorem digit?_digitChar {base d : Nat} (hbase : base ≤ 16) (hd : d < base) :
    digit? base d.digitChar = some d := by
  have hsmall : d < 16 := by omega
  interval_cases d <;> simp [digit?, Nat.digitChar] <;> omega

/-- A text that does not go on with a digit. -/
def Stops (base : Nat) (rest : List Char) : Prop :=
  ∀ c ∈ rest.head?, digit? base c = none

@[simp]
theorem stops_nil (base : Nat) : Stops base [] := by
  simp [Stops]

@[simp]
theorem stops_cons (base : Nat) (c : Char) (rest : List Char) :
    Stops base (c :: rest) ↔ digit? base c = none := by
  simp [Stops]

/-!
### Lists of digits
-/

@[simp]
theorem ofDigits_nil (base : Nat) : ofDigits base [] = 0 :=
  rfl

theorem ofDigits_concat (base : Nat) (ds : List Nat) (d : Nat) :
    ofDigits base (ds ++ [d]) = base * ofDigits base ds + d := by
  simp [ofDigits]

theorem ofDigits_append (base : Nat) (ds es : List Nat) :
    ofDigits base (ds ++ es) = ofDigits base ds * base ^ es.length + ofDigits base es := by
  induction es using List.reverseRecOn with
  | nil =>
      simp
  | append_singleton es e ih =>
      rw [← List.append_assoc, ofDigits_concat, ih, ofDigits_concat, List.length_append,
        List.length_singleton, Nat.pow_succ]
      ring

theorem ofDigits_cons (base d : Nat) (ds : List Nat) :
    ofDigits base (d :: ds) = d * base ^ ds.length + ofDigits base ds := by
  have happend := ofDigits_append base [d] ds
  have hsingle : ofDigits base [d] = d := by simp [ofDigits]
  rwa [List.singleton_append, hsingle] at happend

theorem ofDigits_lt_pow {base : Nat} {ds : List Nat} (hds : ∀ d ∈ ds, d < base) :
    ofDigits base ds < base ^ ds.length := by
  induction ds with
  | nil =>
      simp
  | cons d ds ih =>
      have hd : (d + 1) * base ^ ds.length ≤ base * base ^ ds.length :=
        Nat.mul_le_mul_right _ (hds d (by simp))
      have hrest := ih fun e he => hds e (by simp [he])
      rw [Nat.succ_mul] at hd
      rw [ofDigits_cons, List.length_cons, Nat.pow_succ']
      omega

theorem ofDigits_replicate_zero (base k : Nat) : ofDigits base (List.replicate k 0) = 0 := by
  induction k with
  | zero =>
      rfl
  | succ k ih =>
      rw [List.replicate_succ', ofDigits_concat, ih, Nat.mul_zero]

theorem spanDigits_map_digitChar {base : Nat} {ds : List Nat} {rest : List Char}
    (hbase : base ≤ 16) (hds : ∀ d ∈ ds, d < base) (hrest : Stops base rest) :
    spanDigits base (ds.map Nat.digitChar ++ rest) = (ds, rest) := by
  induction ds with
  | nil =>
      cases rest with
      | nil =>
          rfl
      | cons c rest =>
          rw [stops_cons] at hrest
          simp [spanDigits, hrest]
  | cons d ds ih =>
      have hd : digit? base d.digitChar = some d := digit?_digitChar hbase (hds d (by simp))
      have hrec := ih fun e he => hds e (by simp [he])
      simp [spanDigits, hd, hrec]

/-!
### Numbers
-/

/-- The digits of a number, most significant first. -/
structure DigitsOf (base n : Nat) (ds : List Nat) : Prop where
  written : Nat.toDigits base n = ds.map Nat.digitChar
  small : ∀ d ∈ ds, d < base
  value : ofDigits base ds = n
  leading : ds.head? = some 0 → ds = [0]

theorem exists_digitsOf {base : Nat} (hbase : 1 < base) (n : Nat) :
    ∃ ds, DigitsOf base n ds := by
  induction n using Nat.strongRecOn with
  | _ n ih =>
      by_cases hn : n < base
      · refine ⟨[n], ?_, by simpa using hn, by simp [ofDigits], ?_⟩
        · rw [Nat.toDigits_of_lt_base hn]
          rfl
        · intro h
          simpa using h
      · have hle : base ≤ n := Nat.le_of_not_lt hn
        have hpos : 0 < n / base := Nat.div_pos hle (by omega)
        rcases ih (n / base) (Nat.div_lt_self (by omega) hbase) with ⟨ds, hds⟩
        have hmod : n % base < base := Nat.mod_lt n (by omega)
        refine ⟨ds ++ [n % base], ?_, ?_, ?_, ?_⟩
        · rw [Nat.toDigits_of_base_le hbase hle, hds.written]
          simp
        · intro d hd
          rcases List.mem_append.mp hd with hd | hd
          · exact hds.small d hd
          · rw [List.mem_singleton.mp hd]
            exact hmod
        · rw [ofDigits_concat, hds.value]
          exact Nat.div_add_mod n base
        · intro h
          have hzero : ds = [0] := by
            apply hds.leading
            cases ds with
            | nil =>
                have hval := hds.value
                simp at hval
                omega
            | cons d ds =>
                simpa using h
          have hval := hds.value
          rw [hzero] at hval
          simp [ofDigits] at hval
          omega

theorem DigitsOf.length_le {base n k : Nat} {ds : List Nat} (h : DigitsOf base n ds)
    (hbase : 1 < base) (hk : 0 < k) (hn : n < base ^ k) : ds.length ≤ k := by
  have hlen := (Nat.length_toDigits_le_iff hbase hk).mpr hn
  rwa [h.written, List.length_map] at hlen

theorem DigitsOf.ne_nil {base n : Nat} {ds : List Nat} (h : DigitsOf base n ds) : ds ≠ [] := by
  intro hnil
  have hw := h.written
  rw [hnil] at hw
  exact Nat.toDigits_ne_nil hw

theorem DigitsOf.spanDigits {base n : Nat} {ds : List Nat} (h : DigitsOf base n ds)
    (hbase : base ≤ 16) {rest : List Char} (hrest : Stops base rest) :
    spanDigits base (Nat.toDigits base n ++ rest) = (ds, rest) := by
  rw [h.written]
  exact spanDigits_map_digitChar hbase h.small hrest

def digits (n : Nat) : List Nat := (spanDigits 10 (decimal n)).1

theorem digitsOf_digits (n : Nat) : DigitsOf 10 n (digits n) := by
  rcases exists_digitsOf (by decide : 1 < 10) n with ⟨ds, hds⟩
  have hspan := hds.spanDigits (by decide) (stops_nil 10)
  rw [List.append_nil] at hspan
  rw [digits, decimal, hspan]
  exact hds

theorem decimal_eq_map_digits (n : Nat) : decimal n = (digits n).map Nat.digitChar :=
  (digitsOf_digits n).written

/-!
## Texts as bytes and bytes as texts

The bytes of a text determine it, also when other bytes follow and the text is one of several of
which none begins another.  Hexadecimal text stands for the bytes it was written for.
-/

/-!
### The bytes of a text
-/

theorem utf8_ofList (cs : List Char) :
    utf8 (String.ofList cs) = cs.flatMap String.utf8EncodeChar := by
  simp [utf8, List.utf8Encode]

theorem utf8EncodeChar_ascii {c : Char} (h : c.toNat < 128) :
    String.utf8EncodeChar c = [UInt8.ofNat c.toNat] := by
  have hone : c.val.toNat ≤ 127 := Nat.le_of_lt_succ h
  rw [String.utf8EncodeChar, if_pos hone]
  rfl

theorem utf8_ofList_ascii {cs : List Char} (h : ∀ c ∈ cs, c.toNat < 128) :
    utf8 (String.ofList cs) = cs.map fun c => UInt8.ofNat c.toNat := by
  rw [utf8_ofList]
  induction cs with
  | nil =>
      rfl
  | cons c cs ih =>
      rw [List.flatMap_cons, utf8EncodeChar_ascii (h c (by simp)),
        ih fun d hd => h d (by simp [hd])]
      rfl

theorem utf8_injective {s t : String} (h : utf8 s = utf8 t) : s = t :=
  String.toByteArray_inj.mp (ByteArray.ext (Array.toList_inj.mp h))

theorem prefix_of_utf8_append {s t : String} {bytes : List UInt8}
    (h : utf8 s ++ bytes = utf8 t) : s.toList <+: t.toList := by
  apply List.isPrefix_of_utf8Encode_append_eq_utf8Encode bytes.toByteArray
  rw [String.utf8Encode_toList, String.utf8Encode_toList]
  apply ByteArray.ext
  apply Array.toList_inj.mp
  simpa [utf8, List.toList_data_toByteArray] using h

/-!
### Hexadecimal text
-/

theorem digitChar_toNat_lt {d : Nat} (hd : d < 16) : d.digitChar.toNat < 128 := by
  interval_cases d <;> decide

theorem hexDigitAt_digitChar {d : Nat} (hd : d < 16) (position : Nat) :
    hexDigitAt position (UInt8.ofNat d.digitChar.toNat) = .ok d := by
  have hback : Char.ofNat (UInt8.ofNat d.digitChar.toNat).toNat = d.digitChar := by
    rw [UInt8.toNat_ofNat_of_lt' (Nat.lt_trans (digitChar_toNat_lt hd) (by decide))]
    exact Char.ofNat_toNat _
  rw [hexDigitAt, hback, digit?_digitChar (Nat.le_refl 16) hd]

theorem exists_digitChar_of_mem {bytes : List UInt8} {c : Char} (hc : c ∈ bytes.flatMap hexByte) :
    ∃ d < 16, c = d.digitChar := by
  rcases List.mem_flatMap.mp hc with ⟨b, _, hcb⟩
  have hb : b.toNat < 256 := b.toNat_lt
  simp only [hexByte, List.mem_cons, List.not_mem_nil, or_false] at hcb
  rcases hcb with hhigh | hlow
  · exact ⟨b.toNat / 16, by omega, hhigh⟩
  · exact ⟨b.toNat % 16, by omega, hlow⟩

theorem utf8_encodeHex (bytes : List UInt8) :
    utf8 (encodeHex bytes) = bytes.flatMap fun b =>
      [UInt8.ofNat (b.toNat / 16).digitChar.toNat, UInt8.ofNat (b.toNat % 16).digitChar.toNat] := by
  rw [encodeHex, utf8_ofList_ascii]
  · rw [List.map_flatMap]
    rfl
  · intro c hc
    rcases exists_digitChar_of_mem hc with ⟨d, hd, rfl⟩
    exact digitChar_toNat_lt hd

theorem hexPairs_encoded (bytes : List UInt8) (position : Nat) :
    hexPairs position (bytes.flatMap fun b =>
      [UInt8.ofNat (b.toNat / 16).digitChar.toNat, UInt8.ofNat (b.toNat % 16).digitChar.toNat]) =
      .ok bytes := by
  induction bytes generalizing position with
  | nil =>
      rfl
  | cons b bytes ih =>
      have hb : b.toNat < 256 := b.toNat_lt
      have hhigh := hexDigitAt_digitChar (d := b.toNat / 16) (by omega) position
      have hlow := hexDigitAt_digitChar (d := b.toNat % 16) (by omega) (position + 1)
      have hbyte : UInt8.ofNat (16 * (b.toNat / 16) + b.toNat % 16) = b := by
        rw [Nat.div_add_mod]
        exact UInt8.ofNat_toNat
      rw [List.flatMap_cons, List.cons_append, List.cons_append, List.nil_append, hexPairs,
        hhigh, hlow, ih]
      simp [bind, Except.bind, pure, Except.pure, hbyte]

theorem decodeHex_encodeHex (bytes : List UInt8) : decodeHex (encodeHex bytes) = .ok bytes := by
  have hlength : (utf8 (encodeHex bytes)).length = 2 * bytes.length := by
    rw [utf8_encodeHex, List.length_flatMap]
    simp [List.map_const', Nat.mul_comm]
  rw [decodeHex, hlength, utf8_encodeHex, hexPairs_encoded]
  simp

theorem encodeHex_injective {bytes bytes' : List UInt8} (h : encodeHex bytes = encodeHex bytes') :
    bytes = bytes' := by
  have hread := decodeHex_encodeHex bytes
  rw [h, decodeHex_encodeHex] at hread
  exact (Except.ok.inj hread).symm

theorem length_encodeHex (bytes : List UInt8) : (encodeHex bytes).length = 2 * bytes.length := by
  rw [encodeHex, String.length_ofList, List.length_flatMap]
  simp [hexByte, List.map_const', Nat.mul_comm]

def smallHexDigits : List Char :=
  ['0', '1', '2', '3', '4', '5', '6', '7', '8', '9', 'a', 'b', 'c', 'd', 'e', 'f']

theorem digitChar_mem_smallHexDigits {d : Nat} (hd : d < 16) : d.digitChar ∈ smallHexDigits := by
  interval_cases d <;> decide

theorem mem_smallHexDigits_of_encodeHex (bytes : List UInt8) :
    ∀ c ∈ (encodeHex bytes).toList, c ∈ smallHexDigits := by
  intro c hc
  rw [encodeHex, String.toList_ofList] at hc
  rcases exists_digitChar_of_mem hc with ⟨d, hd, rfl⟩
  exact digitChar_mem_smallHexDigits hd

/-!
## Texts of hexadecimal digits

Hexadecimal text is read byte by byte, and what is counted and compared are its bytes in UTF-8.
This comes to the same as looking at its characters: a text is read exactly if it has evenly many of
them and each is one of the digits, of which the letters may have either case.
-/

/-!
### Digits
-/

def hexDigits : List Char :=
  smallHexDigits ++ ['A', 'B', 'C', 'D', 'E', 'F']

/-- A text of evenly many hexadecimal digits, each of either case. -/
structure IsHex (s : String) : Prop where
  even : s.length % 2 = 0
  digits : ∀ c ∈ s.toList, c ∈ hexDigits

theorem toNat_lt_of_mem_hexDigits {c : Char} (h : c ∈ hexDigits) : c.toNat < 128 := by
  have hall : hexDigits.all (fun c => c.toNat < 128) = true := by decide
  simpa using List.all_eq_true.mp hall c h

theorem mem_hexDigits_of_range {c : Char} {low high : Nat} (hlow : low ≤ c.toNat)
    (hhigh : c.toNat ≤ high)
    (hdigits : ∀ n < high + 1, low ≤ n → Char.ofNat n ∈ hexDigits) : c ∈ hexDigits := by
  rw [← Char.ofNat_toNat c]
  exact hdigits c.toNat (Nat.lt_succ_of_le hhigh) hlow

theorem exists_digit?_iff (c : Char) : (∃ d, digit? 16 c = some d) ↔ c ∈ hexDigits := by
  constructor
  · rintro ⟨d, hd⟩
    unfold digit? at hd
    dsimp only at hd
    split at hd
    · rename_i hrange
      exact mem_hexDigits_of_range hrange.left hrange.right (by decide)
    split at hd
    · rename_i hrange
      exact mem_hexDigits_of_range hrange.left hrange.right (by decide)
    split at hd
    · rename_i hrange
      exact mem_hexDigits_of_range hrange.left hrange.right (by decide)
    · cases hd
  · intro hc
    have hall : hexDigits.all (fun c => (digit? 16 c).isSome) = true := by decide
    exact Option.isSome_iff_exists.mp (List.all_eq_true.mp hall c hc)

/-!
### Bytes that are digits
-/

theorem exists_hexDigitAt_iff (position : Nat) (b : UInt8) :
    (∃ d, hexDigitAt position b = .ok d) ↔ Char.ofNat b.toNat ∈ hexDigits := by
  rw [← exists_digit?_iff, hexDigitAt]
  cases digit? 16 (Char.ofNat b.toNat) with
  | none =>
      simp
  | some d =>
      simp

theorem exists_hexPairs_iff : ∀ (bytes : List UInt8) (_ : bytes.length % 2 = 0) (position : Nat),
    (∃ read, hexPairs position bytes = .ok read) ↔
      ∀ b ∈ bytes, Char.ofNat b.toNat ∈ hexDigits
  | [], _, _ => by
      simp [hexPairs]
  | [_], heven, _ => by
      simp at heven
  | high :: low :: rest, heven, position => by
      have hrest : rest.length % 2 = 0 := by
        simp only [List.length_cons] at heven
        omega
      simp only [hexPairs, bind_eq_ok, pure_eq_ok, List.forall_mem_cons,
        ← exists_hexPairs_iff rest hrest (position + 2), ← exists_hexDigitAt_iff position high,
        ← exists_hexDigitAt_iff (position + 1) low]
      constructor
      · rintro ⟨_, h, hhigh, l, hlow, bytes, hbytes, _⟩
        exact ⟨⟨h, hhigh⟩, ⟨l, hlow⟩, ⟨bytes, hbytes⟩⟩
      · rintro ⟨⟨h, hhigh⟩, ⟨l, hlow⟩, ⟨bytes, hbytes⟩⟩
        exact ⟨_, h, hhigh, l, hlow, bytes, hbytes, rfl⟩

/-!
### Characters that are digits

A character from the hundred and twenty-eighth on has a byte that is no digit, so the bytes of a
character are digits only if the character is one.
-/

theorem exists_large_byte {c : Char} (h : 128 ≤ c.toNat) :
    ∃ b ∈ String.utf8EncodeChar c, 128 ≤ b.toNat := by
  have hfirst {n : Nat} (rest : List UInt8) (hlarge : 128 ≤ n) (hn : n < 256) :
      ∃ b ∈ UInt8.ofNat n :: rest, 128 ≤ b.toNat := by
    refine ⟨UInt8.ofNat n, List.mem_cons_self, ?_⟩
    rwa [UInt8.toNat_ofNat_of_lt' hn]
  have hone : ¬c.val.toNat ≤ 127 := Nat.not_le.mpr h
  rw [String.utf8EncodeChar, if_neg hone]
  split
  · exact hfirst _ (by omega) (by omega)
  split
  · exact hfirst _ (by omega) (by omega)
  · exact hfirst _ (by omega) (by omega)

theorem lt_of_ofNat_mem_hexDigits : ∀ n < 256, Char.ofNat n ∈ hexDigits → n < 128 := by
  decide +kernel

theorem forall_utf8EncodeChar_iff (c : Char) :
    (∀ b ∈ String.utf8EncodeChar c, Char.ofNat b.toNat ∈ hexDigits) ↔ c ∈ hexDigits := by
  by_cases hsmall : c.toNat < 128
  · have hback : (UInt8.ofNat c.toNat).toNat = c.toNat :=
      UInt8.toNat_ofNat_of_lt' (Nat.lt_trans hsmall (by decide))
    simp [utf8EncodeChar_ascii hsmall, hback, Char.ofNat_toNat]
  · constructor
    · intro h
      rcases exists_large_byte (Nat.le_of_not_lt hsmall) with ⟨b, hb, hlarge⟩
      have hless := lt_of_ofNat_mem_hexDigits b.toNat b.toNat_lt (h b hb)
      exact absurd hless (Nat.not_lt.mpr hlarge)
    · intro h
      exact absurd (toNat_lt_of_mem_hexDigits h) hsmall

theorem forall_utf8_iff (s : String) :
    (∀ b ∈ utf8 s, Char.ofNat b.toNat ∈ hexDigits) ↔ ∀ c ∈ s.toList, c ∈ hexDigits := by
  rw [← String.ofList_toList (s := s), utf8_ofList]
  simp only [List.forall_mem_flatMap, forall_utf8EncodeChar_iff, String.toList_ofList]

theorem length_utf8_of_hexDigits {s : String} (h : ∀ c ∈ s.toList, c ∈ hexDigits) :
    (utf8 s).length = s.length := by
  rw [← String.ofList_toList (s := s), utf8_ofList_ascii, List.length_map, String.length_ofList]
  intro c hc
  exact toNat_lt_of_mem_hexDigits (h c hc)

/-- A text is read as bytes exactly if it has evenly many characters, all of them digits. -/
theorem exists_decodeHex_iff (s : String) : (∃ bytes, decodeHex s = .ok bytes) ↔ IsHex s := by
  unfold decodeHex
  dsimp only
  constructor
  · rintro ⟨bytes, h⟩
    split at h
    · cases h
    · rename_i hodd
      have heven : (utf8 s).length % 2 = 0 := by omega
      have hdigits := (forall_utf8_iff s).mp ((exists_hexPairs_iff _ heven 0).mp ⟨bytes, h⟩)
      rw [length_utf8_of_hexDigits hdigits] at heven
      exact ⟨heven, hdigits⟩
  · rintro ⟨heven, hdigits⟩
    rw [← length_utf8_of_hexDigits hdigits] at heven
    rw [if_neg (by omega)]
    exact (exists_hexPairs_iff _ heven 0).mpr ((forall_utf8_iff s).mpr hdigits)

/-!
## The order of bytes

Texts are ordered by their characters.  In UTF-8 this is also the order of their bytes: a longer
sequence of bytes begins with a greater byte, and within sequences of one length the earlier bytes
hold the higher bits.
-/

/-- Whatever follows, the first bytes come before the second ones. -/
def Precedes (bytes bytes' : List UInt8) : Prop :=
  ∀ rest rest', bytes ++ rest < bytes' ++ rest'

theorem Precedes.head {m n : Nat} (h : m < n) (hn : n < 256) (bytes bytes' : List UInt8) :
    Precedes (UInt8.ofNat m :: bytes) (UInt8.ofNat n :: bytes') := by
  intro rest rest'
  rw [List.cons_append, List.cons_append, List.cons_lt_cons_iff]
  left
  rw [UInt8.lt_iff_toNat_lt, UInt8.toNat_ofNat_of_lt' (Nat.lt_trans h hn),
    UInt8.toNat_ofNat_of_lt' hn]
  exact h

theorem Precedes.tail {bytes bytes' : List UInt8} (h : Precedes bytes bytes') {m n : Nat}
    (hsame : m = n) : Precedes (UInt8.ofNat m :: bytes) (UInt8.ofNat n :: bytes') := by
  intro rest rest'
  rw [List.cons_append, List.cons_append, List.cons_lt_cons_iff]
  right
  exact ⟨congrArg UInt8.ofNat hsame, h rest rest'⟩

theorem precedes_utf8EncodeChar {c d : Char} (h : c < d) :
    Precedes (String.utf8EncodeChar c) (String.utf8EncodeChar d) := by
  have hless : c.val.toNat < d.val.toNat := h
  have hlimit : d.val.toNat < 0x110000 := by
    rcases d.valid with hlow | ⟨_, hhigh⟩
    · exact Nat.lt_trans hlow (by decide)
    · exact hhigh
  have hbits (n : Nat) : c.val.toNat / n < d.val.toNat / n ∨ c.val.toNat / n = d.val.toNat / n :=
    Nat.lt_or_eq_of_le (Nat.div_le_div_right (Nat.le_of_lt hless))
  unfold String.utf8EncodeChar
  dsimp only
  split
  · split
    · exact .head hless (by omega) _ _
    split
    · exact .head (by omega) (by omega) _ _
    split
    · exact .head (by omega) (by omega) _ _
    · exact .head (by omega) (by omega) _ _
  split
  · rw [if_neg (by omega)]
    split
    · rcases hbits 64 with hhigh | hhigh
      · exact .head (by omega) (by omega) _ _
      · exact .tail (.head (by omega) (by omega) _ _) (by omega)
    split
    · exact .head (by omega) (by omega) _ _
    · exact .head (by omega) (by omega) _ _
  split
  · rw [if_neg (by omega), if_neg (by omega)]
    split
    · rcases hbits 4096 with hhigh | hhigh
      · exact .head (by omega) (by omega) _ _
      rcases hbits 64 with hmiddle | hmiddle
      · exact .tail (.head (by omega) (by omega) _ _) (by omega)
      · exact .tail (.tail (.head (by omega) (by omega) _ _) (by omega)) (by omega)
    · exact .head (by omega) (by omega) _ _
  · rw [if_neg (by omega), if_neg (by omega), if_neg (by omega)]
    rcases hbits 262144 with htop | htop
    · exact .head (by omega) (by omega) _ _
    rcases hbits 4096 with hhigh | hhigh
    · exact .tail (.head (by omega) (by omega) _ _) (by omega)
    rcases hbits 64 with hmiddle | hmiddle
    · exact .tail (.tail (.head (by omega) (by omega) _ _) (by omega)) (by omega)
    · exact .tail (.tail (.tail (.head (by omega) (by omega) _ _) (by omega)) (by omega))
        (by omega)

theorem flatMap_utf8EncodeChar_lt {cs ds : List Char} (h : cs < ds) :
    cs.flatMap String.utf8EncodeChar < ds.flatMap String.utf8EncodeChar := by
  induction h with
  | nil =>
      rename_i d ds
      cases hbytes : String.utf8EncodeChar d with
      | nil =>
          exact absurd hbytes String.utf8EncodeChar_ne_nil
      | cons b bytes =>
          rw [List.flatMap_cons, hbytes]
          exact List.nil_lt_cons _ _
  | rel hless =>
      rw [List.flatMap_cons, List.flatMap_cons]
      exact precedes_utf8EncodeChar hless _ _
  | @cons c cs ds _ ih =>
      rw [List.flatMap_cons, List.flatMap_cons]
      exact List.append_left_lt ih

/-- The bytes of two texts are ordered as their characters are. -/
theorem utf8_lt_utf8 {s t : String} (h : s < t) : utf8 s < utf8 t := by
  have hbytes : s.toList.flatMap String.utf8EncodeChar < t.toList.flatMap String.utf8EncodeChar :=
    flatMap_utf8EncodeChar_lt h
  rw [← utf8_ofList, ← utf8_ofList, String.ofList_toList, String.ofList_toList] at hbytes
  exact hbytes

end DnsView.Text
