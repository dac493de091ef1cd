import DnsView.Text.Characters

/-!
# IP addresses

Addresses of four bytes and of eight groups, as they are written and as they are read.  The two
kinds are never equal, not even where one stands for the other.
-/

/-!
## IPv4 addresses

Four bytes, written in decimal with points between them.  A byte is read from one to three digits
without a leading zero.
-/

namespace DnsView

structure Ipv4 where
  first : UInt8
  second : UInt8
  third : UInt8
  fourth : UInt8
deriving DecidableEq, Repr

namespace Ipv4

def chars (a : Ipv4) : List Char :=
  Text.decimal a.first.toNat ++ '.' :: Text.decimal a.second.toNat ++
    '.' :: Text.decimal a.third.toNat ++ '.' :: Text.decimal a.fourth.toNat

def text (a : Ipv4) : String :=
  String.ofList a.chars

def byte? (cs : List Char) : Option (UInt8 × List Char) :=
  let (ds, rest) := Text.spanDigits 10 cs
  let n := Text.ofDigits 10 ds
  if ds.isEmpty || 3 < ds.length || (ds.head? == some 0 && ds.length != 1) || 255 < n then none
  else some (UInt8.ofNat n, rest)

def pointByte? : List Char → Option (UInt8 × List Char)
  | '.' :: rest => byte? rest
  | _ => none

def scan? (cs : List Char) : Option (Ipv4 × List Char) := do
  let (a, rest) ← byte? cs
  let (b, rest) ← pointByte? rest
  let (c, rest) ← pointByte? rest
  let (d, rest) ← pointByte? rest
  return (⟨a, b, c, d⟩, rest)

def ofString? (s : String) : Option Ipv4 :=
  match scan? s.toList with
  | some (a, []) => some a
  | _ => none

end Ipv4

/-!
## IPv6 addresses

Eight groups of sixteen bits, written in hexadecimal with colons between them.  The first of the
longest runs of at least two zero groups is written as a double colon, and the last two groups of a
mapped IPv4 address in its dotted form.

When an address is read, a double colon stands for one or more zero groups, a group has up to four
digits of either case, and the last two groups may be given as an IPv4 address.
-/

structure Ipv6 where
  groups : List UInt16
  length_groups : groups.length = 8
deriving DecidableEq, Repr

namespace Ipv6

/-! ### Writing -/

def joined : List UInt16 → List Char
  | [] => []
  | [g] => Text.hexadecimal g.toNat
  | g :: gs => Text.hexadecimal g.toNat ++ ':' :: joined gs

def zerosAt (gs : List UInt16) (i : Nat) : Nat :=
  ((gs.drop i).takeWhile (· = 0)).length

/-- The position of the first of the longest runs of zero groups. -/
def longestZeros (gs : List UInt16) : Nat :=
  (List.range gs.length).foldl (fun best i => if zerosAt gs best < zerosAt gs i then i else best) 0

/-- Groups with their longest run of zeros written as a double colon. -/
def compressed (gs : List UInt16) : List Char :=
  let start := longestZeros gs
  let size := zerosAt gs start
  if 2 ≤ size then joined (gs.take start) ++ [':', ':'] ++ joined (gs.drop (start + size))
  else joined gs

def lastFour (high low : UInt16) : Ipv4 :=
  ⟨(high >>> 8).toUInt8, high.toUInt8, (low >>> 8).toUInt8, low.toUInt8⟩

def chars (a : Ipv6) : List Char :=
  match a.groups with
  | [0, 0, 0, 0, 0, 0xFFFF, high, low] =>
      [':', ':', 'f', 'f', 'f', 'f', ':'] ++ (lastFour high low).chars
  | gs => compressed gs

def text (a : Ipv6) : String :=
  String.ofList a.chars

/-! ### Reading -/

def group? (cs : List Char) : Option (UInt16 × List Char) :=
  let (ds, rest) := Text.spanDigits 16 cs
  if ds.isEmpty || 4 < ds.length then none else some (UInt16.ofNat (Text.ofDigits 16 ds), rest)

def groupsOfIpv4 (a : Ipv4) : List UInt16 :=
  [a.first.toUInt16 <<< 8 ||| a.second.toUInt16, a.third.toUInt16 <<< 8 ||| a.fourth.toUInt16]

/-- A run of groups, and whether the last two of them were given as an IPv4 address. -/
structure Run where
  groups : List UInt16
  dotted : Bool

/--
The groups at the start of a text, no more than a limit, and what follows them.  All but the first
group need a colon before them.
-/
def run (first : Bool) : Nat → List Char → Run × List Char
  | 0, cs => (⟨[], false⟩, cs)
  | limit + 1, cs =>
      let start? := if first then some cs else match cs with
        | ':' :: rest => some rest
        | _ => none
      match start? with
      | none => (⟨[], false⟩, cs)
      | some start =>
          match if 1 ≤ limit then Ipv4.scan? start else none with
          | some (a, rest) => (⟨groupsOfIpv4 a, true⟩, rest)
          | none =>
              match group? start with
              | some (g, rest) =>
                  let (more, after) := run false limit rest
                  (⟨g :: more.groups, more.dotted⟩, after)
              | none => (⟨[], false⟩, cs)

def ofGroups? (gs : List UInt16) : Option Ipv6 :=
  if h : gs.length = 8 then some ⟨gs, h⟩ else none

def scan? (cs : List Char) : Option (Ipv6 × List Char) := do
  let (head, rest) := run true 8 cs
  if head.groups.length = 8 then return (← ofGroups? head.groups, rest)
  else if head.dotted then none
  else
    match rest with
    | ':' :: ':' :: rest =>
        let (tail, rest) := run true (7 - head.groups.length) rest
        let zeros := List.replicate (8 - head.groups.length - tail.groups.length) 0
        return (← ofGroups? (head.groups ++ zeros ++ tail.groups), rest)
    | _ => none

def ofString? (s : String) : Option Ipv6 :=
  match scan? s.toList with
  | some (a, []) => some a
  | _ => none

end Ipv6

/-!
## IP addresses of either kind

A text is read as an IPv4 address if it is one, and otherwise as an IPv6 address.
-/

/-- An address of either kind.  A mapped IPv4 address is not the IPv4 address that it maps. -/
inductive IpAddress where
  | v4 (a : Ipv4)
  | v6 (a : Ipv6)
deriving DecidableEq, Repr

namespace IpAddress

def ofString? (s : String) : Option IpAddress :=
  match Ipv4.ofString? s with
  | some a => some (.v4 a)
  | none => (Ipv6.ofString? s).map .v6

def text : IpAddress → String
  | .v4 a => a.text
  | .v6 a => a.text

end IpAddress

end DnsView
