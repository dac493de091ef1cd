import DnsView.Text.Characters

/-!
# Doubles

Double-precision numbers with exact arithmetic behind them, the shortest decimal of each, and the
notations in which they are shown.
-/

/-!
## Double-precision numbers

A finite double is a sign and a magnitude.  Magnitudes are numbered from zero upward in the order
of their values, so the number of a magnitude is its pattern of bits: an exponent field over a
fraction of fifty-two bits.  Every operation is exact arithmetic on fractions followed by one
rounding to the nearest magnitude, ties to the even one.
-/

namespace DnsView

namespace Number

abbrev fractions : Nat := 0x10000000000000

/-- The fraction rounded to a whole number, a half to the even neighbour. -/
def roundHalfEven (num den : Nat) : Nat :=
  let q := num / den
  let r := num % den
  if 2 * r < den ∨ (2 * r = den ∧ q % 2 = 0) then q else q + 1

end Number

/-- The finite magnitudes of a double, in ascending order. -/
abbrev Magnitude := Fin (2047 * Number.fractions)

namespace Magnitude

def zero : Magnitude := ⟨0, by decide⟩

def field (m : Magnitude) : Nat := m.val / Number.fractions

def fraction (m : Magnitude) : Nat := m.val % Number.fractions

/-- The whole number that is scaled by a power of two to give the value. -/
def significand (m : Magnitude) : Nat :=
  if m.field = 0 then m.fraction else Number.fractions + m.fraction

def exponent (m : Magnitude) : Int := max (m.field : Int) 1 - 1075

def num (m : Magnitude) : Nat := m.significand * Nat.pow 2 m.exponent.toNat

def den (m : Magnitude) : Nat := Nat.pow 2 (-m.exponent).toNat

/--
The number of the magnitude nearest to a fraction, ties to even.  A fraction beyond the range gets
a number that no finite magnitude has.
-/
def nearestCode (num den : Nat) : Nat :=
  if num = 0 then 0 else
    let low : Int := (num.log2 : Int) - den.log2 - 53
    let scaled (e : Int) : Nat × Nat := (num * Nat.pow 2 (-e).toNat, den * Nat.pow 2 e.toNat)
    let (n, d) := scaled low
    let e := max (if n < 2 * d * Number.fractions then low else low + 1) (-1074)
    let (n, d) := scaled e
    (e + 1074).toNat * Number.fractions + Number.roundHalfEven n d

def nearest? (num den : Nat) : Option Magnitude :=
  let code := nearestCode num den
  if h : code < 2047 * Number.fractions then some ⟨code, h⟩ else none

def mul? (a b : Magnitude) : Option Magnitude :=
  nearest? (a.num * b.num) (a.den * b.den)

def div? (a b : Magnitude) : Option Magnitude :=
  nearest? (a.num * b.den) (a.den * b.num)

def tenPower? (k : Nat) : Option Magnitude :=
  nearest? (Nat.pow 10 k) 1

/--
The magnitude nearest to a whole number times a power of ten, ties to even, or `none` beyond the
range.  Far outside the range of doubles the power is not computed.
-/
def ofDecimal? (digits : Nat) (exponent : Int) : Option Magnitude :=
  let places : Int := (Nat.toDigits 10 digits).length + exponent
  if digits = 0 ∨ places < -400 then some zero
  else if 400 < places then none
  else nearest? (digits * Nat.pow 10 exponent.toNat) (Nat.pow 10 (-exponent).toNat)

def toNat? (m : Magnitude) : Option Nat :=
  if m.num % m.den = 0 then some (m.num / m.den) else none

end Magnitude

/-- A double-precision number.  No operation tells one NaN from another, so there is just one. -/
inductive Binary64 where
  | finite (negative : Bool) (magnitude : Magnitude)
  | infinite (negative : Bool)
  | nan
deriving DecidableEq

namespace Binary64

def ofMagnitude? (negative : Bool) : Option Magnitude → Binary64
  | some m => .finite negative m
  | none => .infinite negative

def ofInt (n : Int) : Binary64 :=
  ofMagnitude? (n < 0) (Magnitude.nearest? n.natAbs 1)

/-- The value as an integer, if it is one.  Both zeros are the integer zero. -/
def toInt? : Binary64 → Option Int
  | .finite negative m => m.toNat?.map fun n => if negative then -(n : Int) else n
  | _ => none

/--
The value as a signed word of sixty-four bits, if it is an integer in their range.  The limits are
compared as doubles.  The upper one is 2^63 as a double, one more than the greatest word, and is
taken for this word.
-/
def toInt64? (x : Binary64) : Option Int64 := do
  let n ← x.toInt?
  if -0x8000000000000000 ≤ n ∧ n ≤ 0x8000000000000000 then
    some (Int64.ofInt (min n 0x7FFFFFFFFFFFFFFF))
  else none

end Binary64

/-!
## The shortest decimal that reads back

Each magnitude stands for an interval of numbers: those that round to it.  Among the decimals in
that interval with the fewest digits, the one nearest to the magnitude is chosen.  Two of them can
be equally near, and then a rule for ties decides.

The search goes through grids of decreasing width, starting with the place of the leading digit,
and tries the two neighbours of the value on each grid.
-/

structure Decimal where
  digits : Nat
  exponent : Int
deriving DecidableEq, Repr

inductive Tie where
  | toEven
  | upward
deriving DecidableEq, Repr

namespace Decimal

def num (d : Decimal) : Nat := d.digits * Nat.pow 10 d.exponent.toNat

def den (d : Decimal) : Nat := Nat.pow 10 (-d.exponent).toNat

end Decimal

namespace Magnitude

/-- Whether the magnitude below is only half as far away as the one above. -/
def narrowBelow (m : Magnitude) : Bool :=
  m.fraction == 0 && 1 < m.field

/--
The ends of the interval that rounds to the magnitude, in units of a quarter of its last place.
-/
def interval (m : Magnitude) : Nat × Nat :=
  (4 * m.significand - (if m.narrowBelow then 1 else 2), 4 * m.significand + 2)

/-- Whether a decimal rounds to the magnitude.  The ends belong to even significands. -/
def Reads (m : Magnitude) (d : Decimal) : Prop :=
  let (low, high) := m.interval
  let unitNum := Nat.pow 2 m.exponent.toNat
  let unitDen := 4 * m.den
  let value := d.num * unitDen
  let least := low * unitNum * d.den
  let greatest := high * unitNum * d.den
  if m.significand % 2 = 0 then least ≤ value ∧ value ≤ greatest
  else least < value ∧ value < greatest

instance (m : Magnitude) (d : Decimal) : Decidable (m.Reads d) := by
  unfold Reads
  exact inferInstance

/-- The number of places before the point, or minus the number of zeros after it. -/
def leadingPlace (m : Magnitude) : Int :=
  let guess := ((m.num.log2 : Int) - m.den.log2) * 30103 / 100000
  let below (k : Int) : Bool := m.num * Nat.pow 10 (-k).toNat < m.den * Nat.pow 10 k.toNat
  (((List.range 5).map fun (i : Nat) => guess - 1 + i).find? below).getD guess

/-- The neighbours of the value on the grid of a power of ten, the lower one first. -/
def gridFloor (m : Magnitude) (place : Int) : Nat :=
  m.num * Nat.pow 10 (-place).toNat / (m.den * Nat.pow 10 place.toNat)

def prefersUpper (tie : Tie) (m : Magnitude) (place : Int) : Bool :=
  let lower := m.gridFloor place
  let twice := 2 * m.num * Nat.pow 10 (-place).toNat
  let middle := (2 * lower + 1) * (m.den * Nat.pow 10 place.toNat)
  match compare twice middle, tie with
  | .lt, _ => false
  | .gt, _ => true
  | .eq, .upward => true
  | .eq, .toEven => lower % 2 == 1

def onGrid? (tie : Tie) (m : Magnitude) (place : Int) : Option Decimal :=
  let lower : Decimal := ⟨m.gridFloor place, place⟩
  let upper : Decimal := ⟨m.gridFloor place + 1, place⟩
  if m.Reads lower then
    if m.Reads upper ∧ m.prefersUpper tie place then some upper else some lower
  else if m.Reads upper then some upper
  else none

def exactDecimal (m : Magnitude) : Decimal :=
  ⟨m.significand * Nat.pow 2 m.exponent.toNat * Nat.pow 5 (-m.exponent).toNat, min m.exponent 0⟩

/--
The shortest decimal that rounds to a magnitude other than zero.  Seventeen digits are enough for
every magnitude; were they not, the exact value would do.
-/
def shortest (tie : Tie) (m : Magnitude) : Decimal :=
  let found := (List.range 17).findSome? fun (n : Nat) => m.onGrid? tie (m.leadingPlace - (n + 1))
  found.getD m.exactDecimal

end Magnitude

/-!
## Decimal notation of doubles

The digits of a double are chosen by `Magnitude.shortest`.  What remains are the decisions of the
format that shows them, which are kept in one record: which magnitudes are written without an
exponent, how an exponent is signed, and what stands for the values that are not finite.
-/

structure NumberFormat where
  tie : Tie
  /-- The least exponent of the leading digit for which the number is written without exponent. -/
  plainFrom : Int
  /-- The least exponent above these for which the number is written with an exponent. -/
  plainBelow : Int
  /-- Whether an exponent that is not negative gets a plus sign. -/
  exponentPlus : Bool
  nan : List Char
  infinity : List Char
  signedInfinity : Bool

namespace NumberFormat

def significant (ds : List Char) : List Char :=
  (ds.reverse.dropWhile (· = '0')).reverse

/-- Digits with the point after so many of them; zeros fill the gaps. -/
def positional (ds : List Char) (point : Int) : List Char :=
  if point ≤ 0 then ['0', '.'] ++ List.replicate (-point).toNat '0' ++ ds
  else
    let whole := ds.take point.toNat ++ List.replicate (point.toNat - ds.length) '0'
    let rest := ds.drop point.toNat
    whole ++ ['.'] ++ (if rest.isEmpty then ['0'] else rest)

def scientific (f : NumberFormat) (ds : List Char) (exponent : Int) : List Char :=
  let mantissa := match ds with
    | d :: rest => if rest.isEmpty then [d] else d :: '.' :: rest
    | [] => []
  let sign := if exponent < 0 then ['-'] else if f.exponentPlus then ['+'] else []
  mantissa ++ ['e'] ++ sign ++ Text.decimal exponent.natAbs

def magnitude (f : NumberFormat) (m : Magnitude) : List Char :=
  if m.val = 0 then ['0', '.', '0'] else
    let d := m.shortest f.tie
    let all := Text.decimal d.digits
    let point := d.exponent + all.length
    let ds := significant all
    if f.plainFrom ≤ point - 1 ∧ point - 1 < f.plainBelow then positional ds point
    else f.scientific ds (point - 1)

def text (f : NumberFormat) : Binary64 → List Char
  | .finite negative m => (if negative then ['-'] else []) ++ f.magnitude m
  | .infinite negative => (if negative && f.signedInfinity then ['-'] else []) ++ f.infinity
  | .nan => f.nan

end NumberFormat

end DnsView
