import DnsView.Number.Binary64
import DnsView.Text.Characters

/-!
# JSON documents

From the text of a document to a tree that holds it as it stands, with numerals and strings taken
apart but not yet judged.
-/

/-!
## JSON numerals

A numeral as it is written, and the number it stands for.  A numeral without fraction and exponent
is an integer if it fits sixty-four bits, signed or unsigned, and minus zero is a double.

Any other numeral is a double that is found in two steps.  The digits are taken into a whole number
as long as it fits sixty-four bits: a digit before the point that does not fit only moves the
point, and digits after the point are dropped from the first one that does not fit.  The
double nearest to this whole number is then multiplied or divided by the double nearest to a power
of ten, which rounds a second time, so the result may be a neighbour of the nearest double.
-/

namespace DnsView.Json

structure Exponent where
  negative : Bool
  size : Nat
deriving DecidableEq, Repr

structure Numeral where
  negative : Bool
  whole : List Nat
  fraction : List Nat
  exponent : Option Exponent
deriving DecidableEq, Repr

inductive Number where
  | integer (n : Int)
  | float (x : Binary64)
deriving DecidableEq

namespace Numeral

/--
Appends digits to a number while the result fits sixty-four bits, and counts the digits from the
first one that does not.
-/
def absorb (n : Nat) : List Nat → Nat × Nat
  | [] => (n, 0)
  | d :: ds => if 10 * n + d < UInt64.size then absorb (10 * n + d) ds else (n, ds.length + 1)

/-- Divides by the greatest power of ten there is until the exponent is within range. -/
def scaleDown : Nat → Magnitude → Nat → Option Magnitude
  | 0, m, _ => some m
  | steps + 1, m, size =>
      if size ≤ 308 then do m.div? (← Magnitude.tenPower? size)
      else if m.val = 0 then some m
      else do scaleDown steps (← m.div? (← Magnitude.tenPower? 308)) (size - 308)

/-- A whole number times a power of ten, or `none` beyond the range of doubles. -/
def scale? (significand : Nat) (exponent : Int) : Option Magnitude := do
  let m ← Magnitude.nearest? significand 1
  if exponent < 0 then scaleDown (exponent.natAbs / 308 + 1) m exponent.natAbs
  else if exponent ≤ 308 then m.mul? (← Magnitude.tenPower? exponent.natAbs)
  else if m.val = 0 then some m
  else none

def magnitude? (x : Numeral) : Option Magnitude :=
  -- Digits that do not fit are lost either way, but those before the point move it.
  let (n, moved) := absorb 0 x.whole
  let (n, dropped) := absorb n x.fraction
  let point : Int := (moved : Int) - (x.fraction.length - dropped : Nat)
  match x.exponent with
  | none => scale? n point
  | some e =>
      if e.size < 0x80000000 then scale? n (if e.negative then point - e.size else point + e.size)
      else if n = 0 ∨ e.negative then some .zero
      else none

def number? (x : Numeral) : Option Number :=
  let n := Text.ofDigits 10 x.whole
  if x.fraction.isEmpty && x.exponent.isNone && !x.negative && n < UInt64.size then
    some (.integer n)
  else if x.fraction.isEmpty && x.exponent.isNone && x.negative && 0 < n &&
      n ≤ 0x8000000000000000 then
    some (.integer (-n))
  -- This includes zero with a sign, which is no integer.
  else x.magnitude?.map fun m => .float (.finite x.negative m)

end Numeral

/-!
## JSON documents as they stand

A document is read into a tree that holds everything up to the first fault in its text, and the
fault as a leaf.  A list or an object therefore ends in one of two ways: it is closed, or its text
breaks off.  Numerals and members are kept as they are written, repeated names included.

A string may name half of a surrogate pair without the other half.  Such a string can be passed
over but not taken as a text, so it is kept apart.
-/

mutual

/-- What stands where a value is expected. -/
inductive Node where
  | null
  | boolean (b : Bool)
  | number (x : Numeral)
  /-- A string, or `none` if half of a surrogate pair stands alone in it. -/
  | text (s : Option String)
  | sequence (items : Items)
  | object (members : Members)
  /-- No value: the text of the document is at fault here. -/
  | broken

inductive Items where
  | closed
  | broken
  | cons (head : Node) (tail : Items)

inductive Members where
  | closed
  | broken
  /-- Something else than a string stands where a name is expected. -/
  | unnamed (first : Node)
  | cons (name : Option String) (value : Node) (rest : Members)

end

mutual

/-- Whether the text of a value has no fault. -/
def Node.sound : Node → Bool
  | .sequence items => items.sound
  | .object members => members.sound
  | .broken => false
  | _ => true

def Items.sound : Items → Bool
  | .closed => true
  | .broken => false
  | .cons head tail => head.sound && tail.sound

def Members.sound : Members → Bool
  | .closed => true
  | .broken => false
  | .unnamed _ => false
  | .cons _ value rest => value.sound && rest.sound

end

/-!
## Reading JSON text

The grammar of JSON, as functions from a text to what stands at its start and the text after it.
Past a fault there is nothing more to read, so the text after it is empty.

The functions for values call each other as the grammar says.  Their first argument bounds the
depth of these calls; twice the length of the text is always enough, since at least every second
call takes a character off the text.
-/

def skipBlanks : List Char → List Char
  | ' ' :: rest => skipBlanks rest
  | '\n' :: rest => skipBlanks rest
  | '\t' :: rest => skipBlanks rest
  | '\r' :: rest => skipBlanks rest
  | cs => cs

/-! ### Strings -/

/-- An element of a string literal: a character, or a numeric escape with its number. -/
inductive Piece where
  | char (c : Char)
  | unit (n : Nat)
deriving DecidableEq, Repr

def unescape? : Char → Option Char
  | '"' => some '"'
  | '\\' => some '\\'
  | '/' => some '/'
  | 'b' => some '\x08'
  | 'f' => some '\x0c'
  | 'n' => some '\n'
  | 'r' => some '\r'
  | 't' => some '\t'
  | _ => none

def hexUnit? (a b c d : Char) : Option Nat := do
  return Text.ofDigits 16
    [← Text.digit? 16 a, ← Text.digit? 16 b, ← Text.digit? 16 c, ← Text.digit? 16 d]

def pieces? : List Char → Option (List Piece × List Char)
  | [] => none
  | '"' :: rest => some ([], rest)
  | '\\' :: 'u' :: a :: b :: c :: d :: rest => do
      let n ← hexUnit? a b c d
      let (ps, after) ← pieces? rest
      return (.unit n :: ps, after)
  | '\\' :: c :: rest => do
      let e ← unescape? c
      let (ps, after) ← pieces? rest
      return (.char e :: ps, after)
  | c :: rest =>
      if c.toNat < 32 then none
      else do
        let (ps, after) ← pieces? rest
        return (.char c :: ps, after)

def isHighHalf (n : Nat) : Bool := 0xD800 ≤ n && n < 0xDC00

def isLowHalf (n : Nat) : Bool := 0xDC00 ≤ n && n < 0xE000

/-- The text of a string literal; both halves of a surrogate pair have to be there. -/
def text? : List Piece → Option (List Char)
  | [] => some []
  | .char c :: rest => (c :: ·) <$> text? rest
  | .unit n :: rest =>
      if isLowHalf n then none
      else if isHighHalf n then
        match rest with
        | .unit m :: rest =>
            if isLowHalf m then
              (Char.ofNat (0x10000 + (n - 0xD800) * 0x400 + (m - 0xDC00)) :: ·) <$> text? rest
            else none
        | _ => none
      else (Char.ofNat n :: ·) <$> text? rest

/-! ### Numerals -/

def fraction? : List Char → Option (List Nat × List Char)
  | '.' :: rest =>
      match Text.spanDigits 10 rest with
      | ([], _) => none
      | (ds, after) => some (ds, after)
  | cs => some ([], cs)

def exponentDigits? (negative : Bool) (cs : List Char) : Option (Option Exponent × List Char) :=
  match Text.spanDigits 10 cs with
  | ([], _) => none
  | (ds, after) => some (some ⟨negative, Text.ofDigits 10 ds⟩, after)

def exponent? : List Char → Option (Option Exponent × List Char)
  | c :: rest =>
      if c = 'e' ∨ c = 'E' then
        match rest with
        | '+' :: rest => exponentDigits? false rest
        | '-' :: rest => exponentDigits? true rest
        | rest => exponentDigits? false rest
      else some (none, c :: rest)
  | [] => some (none, [])

/-- The numeral at the start of a text, after its sign.  A zero in front stands alone. -/
def unsigned? (negative : Bool) (cs : List Char) : Option (Numeral × List Char) := do
  let (whole, rest) := Text.spanDigits 10 cs
  if whole.isEmpty || (whole.head? == some 0 && whole.length != 1) then none
  else
    let (fraction, rest) ← fraction? rest
    let (exponent, rest) ← exponent? rest
    return (⟨negative, whole, fraction, exponent⟩, rest)

def numeral? : List Char → Option (Numeral × List Char)
  | '-' :: rest => unsigned? true rest
  | cs => unsigned? false cs

/-! ### Values -/

mutual

def value : Nat → List Char → Node × List Char
  | 0, _ => (.broken, [])
  | bound + 1, cs =>
      match skipBlanks cs with
      | 'n' :: 'u' :: 'l' :: 'l' :: rest => (.null, rest)
      | 't' :: 'r' :: 'u' :: 'e' :: rest => (.boolean true, rest)
      | 'f' :: 'a' :: 'l' :: 's' :: 'e' :: rest => (.boolean false, rest)
      | '"' :: rest =>
          match pieces? rest with
          | some (ps, after) => (.text ((text? ps).map String.ofList), after)
          | none => (.broken, [])
      | '[' :: rest =>
          let (items, after) := firstItem bound rest
          (.sequence items, after)
      | '\x7b' :: rest =>
          let (members, after) := firstMember bound rest
          (.object members, after)
      | cs =>
          match numeral? cs with
          | some (x, after) => (.number x, after)
          | none => (.broken, [])

def firstItem : Nat → List Char → Items × List Char
  | 0, _ => (.broken, [])
  | bound + 1, cs =>
      match skipBlanks cs with
      | ']' :: rest => (.closed, rest)
      | cs =>
          let (head, rest) := value bound cs
          let (tail, after) := nextItem bound rest
          (.cons head tail, after)

def nextItem : Nat → List Char → Items × List Char
  | 0, _ => (.broken, [])
  | bound + 1, cs =>
      match skipBlanks cs with
      | ']' :: rest => (.closed, rest)
      | ',' :: rest =>
          let (head, rest) := value bound rest
          let (tail, after) := nextItem bound rest
          (.cons head tail, after)
      | _ => (.broken, [])

def firstMember : Nat → List Char → Members × List Char
  | 0, _ => (.broken, [])
  | bound + 1, cs =>
      match skipBlanks cs with
      | '\x7d' :: rest => (.closed, rest)
      | cs => member bound cs

def nextMember : Nat → List Char → Members × List Char
  | 0, _ => (.broken, [])
  | bound + 1, cs =>
      match skipBlanks cs with
      | '\x7d' :: rest => (.closed, rest)
      | ',' :: rest => member bound rest
      | _ => (.broken, [])

def member : Nat → List Char → Members × List Char
  | 0, _ => (.broken, [])
  | bound + 1, cs =>
      match skipBlanks cs with
      | '"' :: rest =>
          match pieces? rest with
          | none => (.broken, [])
          | some (ps, rest) =>
              let name := (text? ps).map String.ofList
              match skipBlanks rest with
              | ':' :: rest =>
                  let (head, rest) := value bound rest
                  let (tail, after) := nextMember bound rest
                  (.cons name head tail, after)
              | _ => (.cons name .broken .broken, [])
      | cs => (.unnamed (value bound cs).1, [])

end

/-- A document: the value it holds, and whether nothing but blanks follows. -/
structure Document where
  root : Node
  complete : Bool

def Document.ofString (s : String) : Document :=
  let cs := s.toList
  let (root, rest) := value (2 * cs.length + 2) cs
  ⟨root, (skipBlanks rest).isEmpty⟩

end DnsView.Json
