import DnsView.Number.Binary64

/-!
# JSON values

What is written as JSON, and how it is written.

The notation of doubles is that of one release of the library that writes them: an exponent that is
not negative has a plus sign.  Other releases of the same series leave the sign out.  It is read
back in either form, so this concerns the bytes that are printed and digested and nothing else.
-/

/-!
## JSON trees

The values that are written as JSON.  Members of an object keep the order in which they are given.
Integers and doubles are kept apart, since they are written differently: a double always shows a
point or an exponent.
-/

namespace DnsView

inductive Json where
  | null
  | boolean (b : Bool)
  | integer (n : Int)
  | float (x : Binary64)
  | text (s : String)
  | list (items : List Json)
  | object (members : List (String × Json))

namespace Json

def ofUInt16 (n : UInt16) : Json := .integer n.toNat

def ofUInt32 (n : UInt32) : Json := .integer n.toNat

def ofStrings (l : List String) : Json := .list (l.map .text)

/--
Doubles have the fewest digits that read back, are written without exponent from 1e-5 up to but not
including 1e16, and carry a signed exponent otherwise.  What is not finite has no JSON number.
-/
def numberFormat : NumberFormat where
  tie := .toEven
  plainFrom := -5
  plainBelow := 16
  exponentPlus := true
  nan := ['n', 'u', 'l', 'l']
  infinity := ['n', 'u', 'l', 'l']
  signedInfinity := false

end Json

end DnsView

/-!
## Writing JSON

A JSON value has a compact text without any blanks and an indented one with two spaces a level.
Both come from one function, which is told what to put before each element and after each colon.
Empty lists and objects stay on one line in either.

Strings are written with the short escapes where JSON has them, numeric ones for the other controls,
and every other character as itself.
-/

namespace DnsView.Json

def escaped (c : Char) : List Char :=
  if c = '"' then ['\\', '"']
  else if c = '\\' then ['\\', '\\']
  else if c = '\x08' then ['\\', 'b']
  else if c = '\x0c' then ['\\', 'f']
  else if c = '\n' then ['\\', 'n']
  else if c = '\r' then ['\\', 'r']
  else if c = '\t' then ['\\', 't']
  else if c.toNat < 32 then
    ['\\', 'u', '0', '0', (c.toNat / 16).digitChar, (c.toNat % 16).digitChar]
  else [c]

def literal (s : String) : List Char :=
  '"' :: s.toList.flatMap escaped ++ ['"']

inductive Spacing where
  | compact
  | indented
deriving DecidableEq, Repr

namespace Spacing

def line : Spacing → Nat → List Char
  | compact, _ => []
  | indented, level => '\n' :: List.replicate (2 * level) ' '

def colon : Spacing → List Char
  | compact => [':']
  | indented => [':', ' ']

end Spacing

mutual

def chars (s : Spacing) (level : Nat) : Json → List Char
  | .null => ['n', 'u', 'l', 'l']
  | .boolean true => ['t', 'r', 'u', 'e']
  | .boolean false => ['f', 'a', 'l', 's', 'e']
  | .integer n => Text.decimalInt n
  | .float x => numberFormat.text x
  | .text t => literal t
  | .list [] => ['[', ']']
  | .list (j :: js) =>
      '[' :: s.line (level + 1) ++ chars s (level + 1) j ++ itemChars s (level + 1) js ++
        s.line level ++ [']']
  | .object [] => ['\x7b', '\x7d']
  | .object ((name, j) :: members) =>
      '\x7b' :: s.line (level + 1) ++ literal name ++ s.colon ++ chars s (level + 1) j ++
        memberChars s (level + 1) members ++ s.line level ++ ['\x7d']

def itemChars (s : Spacing) (level : Nat) : List Json → List Char
  | [] => []
  | j :: js => ',' :: s.line level ++ chars s level j ++ itemChars s level js

def memberChars (s : Spacing) (level : Nat) : List (String × Json) → List Char
  | [] => []
  | (name, j) :: members =>
      ',' :: s.line level ++ literal name ++ s.colon ++ chars s level j ++
        memberChars s level members

end

def render (s : Spacing) (j : Json) : String :=
  String.ofList (j.chars s 0)

def compact (j : Json) : String :=
  j.render .compact

end DnsView.Json
