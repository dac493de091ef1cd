import DnsView.Number.Binary64
import DnsView.Text.Characters

/-!
# TOML documents

TOML documents are read statement by statement.  The tables come first, since what a statement may
do depends on how each table came about; then the words of the language, and then its grammar.
-/

/-!
## TOML tables

A document builds up a table statement by statement.  A statement either opens a table, opens a
further element of an array of tables, or puts a value to a key of the table opened last.

A table may be named in three ways, and that decides how it may be named again: by its own header,
as a step on the way to another table, or by a dotted key.  A table named as a step can still get a
header, once.  A table made by dotted keys can be extended by further dotted keys, and by nothing
else.
-/

namespace DnsView.Toml

inductive Origin where
  | header
  | step
  | dotted
deriving DecidableEq, Repr

inductive Item where
  | text (s : String)
  | integer (n : Int)
  | float (x : Binary64)
  | boolean (b : Bool)
  /-- A date, a time, or both, as it is written. -/
  | moment (s : String)
  | array (items : List Item)
  /-- A table in braces, which is complete as it stands. -/
  | braced (entries : List (String × Item))
  | table (origin : Origin) (entries : List (String × Item))
  /-- An array of tables, each with a header of its own. -/
  | tables (elements : List (List (String × Item)))

structure Table where
  origin : Origin
  entries : List (String × Item)

/-- A value that is put to a key at the end of a dotted path. -/
structure Definition where
  path : List String
  key : String
  value : Item

namespace Table

def root : Table := ⟨.header, []⟩

def get? (t : Table) (key : String) : Option Item :=
  t.entries.lookup key

def setIn (key : String) (item : Item) : List (String × Item) → List (String × Item)
  | [] => [(key, item)]
  | (k, i) :: rest => if k = key then (key, item) :: rest else (k, i) :: setIn key item rest

def set (t : Table) (key : String) (item : Item) : Table :=
  { t with entries := setIn key item t.entries }

/--
Changes the table at the end of a path.  Tables on the way that are not there yet are made, with the
given origin.  In an array of tables the path goes on in the last element.
-/
def modifyAt (made : Origin) (change : Table → Option Table) : List String → Table → Option Table
  | [], t => change t
  | key :: path, t =>
      match t.get? key with
      | none => do
          let s ← modifyAt made change path ⟨made, []⟩
          return t.set key (.table s.origin s.entries)
      | some (.table origin entries) =>
          -- A dotted key does not reach into a table that has a header of its own.
          if made = .dotted ∧ origin = .header then none
          else do
            let s ← modifyAt made change path ⟨origin, entries⟩
            return t.set key (.table s.origin s.entries)
      | some (.tables elements) => do
          let last ← elements.getLast?
          let s ← modifyAt made change path ⟨.header, last⟩
          return t.set key (.tables (elements.dropLast ++ [s.entries]))
      | some _ => none

def openTable (key : String) (t : Table) : Option Table :=
  match t.get? key with
  | none => some (t.set key (.table .header []))
  | some (.table .step entries) => some (t.set key (.table .header entries))
  | some _ => none

def openElement (key : String) (t : Table) : Option Table :=
  match t.get? key with
  | none => some (t.set key (.tables [[]]))
  | some (.tables elements) => some (t.set key (.tables (elements ++ [[]])))
  | some _ => none

def define (d : Definition) (t : Table) : Option Table :=
  let put (t : Table) : Option Table :=
    if (t.origin = .dotted) ↔ d.path = [] then none
    else if (t.get? d.key).isSome then none
    else some (t.set d.key d.value)
  modifyAt .dotted put d.path t

end Table

inductive Statement where
  | openTable (path : List String) (key : String)
  | openElement (path : List String) (key : String)
  | define (d : Definition)

/-- The table of a document so far, and the path of the table opened last. -/
structure Builder where
  table : Table
  current : List String

namespace Builder

/-- The state after a statement, or `none` if the statement is in conflict with one before it. -/
def run (b : Builder) : Statement → Option Builder
  | .openTable path key => do
      let t ← b.table.modifyAt .step (Table.openTable key) path
      return ⟨t, path ++ [key]⟩
  | .openElement path key => do
      let t ← b.table.modifyAt .step (Table.openElement key) path
      return ⟨t, path ++ [key]⟩
  | .define d => do
      let t ← b.table.modifyAt .step (Table.define d) b.current
      return { b with table := t }

end Builder

def Table.ofStatements (statements : List Statement) : Option Table := do
  let b ← statements.foldlM Builder.run ⟨.root, []⟩
  return b.table

def Item.ofDefinitions (definitions : List Definition) : Option Item := do
  let t ← definitions.foldlM (fun t d => Table.define d t) Table.root
  return .braced t.entries

/-!
## The lexical grammar of TOML

Blanks, comments, strings, keys, numbers, dates and times: functions from a text to what stands at
its start and the text after it.
-/

/-! ### Blanks and comments -/

def isBlank (c : Char) : Bool := c == ' ' || c == '\t'

def skipBlanks (cs : List Char) : List Char := cs.dropWhile isBlank

def lineBreak? : List Char → Option (List Char)
  | '\n' :: rest => some rest
  | '\r' :: '\n' :: rest => some rest
  | _ => none

/-- Whether a character may stand in a comment or a literal string: no control but the tab. -/
def isVisible (c : Char) : Bool := c == '\t' || (32 ≤ c.toNat && c.toNat ≠ 127)

def skipComment : List Char → List Char
  | '#' :: rest => rest.dropWhile isVisible
  | cs => cs

/-- The text after the end of a line: blanks, a comment, and a line break or the end of the text. -/
def lineEnd? (cs : List Char) : Option (List Char) :=
  match skipComment (skipBlanks cs) with
  | [] => some []
  | cs => lineBreak? cs

/-- The text after blanks, comments and line breaks; the flag says that a comment is open. -/
def skipLayout : Bool → List Char → List Char
  | _, [] => []
  | _, '\n' :: rest => skipLayout false rest
  | _, '\r' :: '\n' :: rest => skipLayout false rest
  | true, c :: rest => if isVisible c then skipLayout true rest else c :: rest
  | false, c :: rest =>
      if isBlank c then skipLayout false rest
      else if c = '#' then skipLayout true rest
      else c :: rest

/-! ### Strings -/

def scalar? (digits : List Char) : Option Char := do
  let n := Text.ofDigits 16 (← digits.mapM (Text.digit? 16))
  if n.isValidChar then some (Char.ofNat n) else none

def unescape? : Char → Option Char
  | 'b' => some '\x08'
  | 't' => some '\t'
  | 'n' => some '\n'
  | 'f' => some '\x0c'
  | 'r' => some '\r'
  | '"' => some '"'
  | '\\' => some '\\'
  | _ => none

def before (c : Char) (s : Option (List Char × List Char)) : Option (List Char × List Char) :=
  s.map fun (cs, rest) => (c :: cs, rest)

def basic : List Char → Option (List Char × List Char)
  | [] => none
  | '"' :: rest => some ([], rest)
  | '\\' :: 'u' :: a :: b :: c :: d :: rest => do
      before (← scalar? [a, b, c, d]) (basic rest)
  | '\\' :: 'U' :: a :: b :: c :: d :: e :: f :: g :: h :: rest => do
      before (← scalar? [a, b, c, d, e, f, g, h]) (basic rest)
  | '\\' :: c :: rest => do before (← unescape? c) (basic rest)
  | c :: rest => if isVisible c then before c (basic rest) else none

def literal : List Char → Option (List Char × List Char)
  | [] => none
  | '\'' :: rest => some ([], rest)
  | c :: rest => if isVisible c then before c (literal rest) else none

/-- Where a basic string of several lines stands after a backslash that folds lines. -/
inductive Folding where
  | none
  /-- Before the line break that has to follow. -/
  | line
  /-- After it, where blanks and line breaks are dropped. -/
  | lines
deriving DecidableEq, Repr

def basicLines : Folding → List Char → Option (List Char × List Char)
  | _, [] => .none
  | .line, ' ' :: rest => basicLines .line rest
  | .line, '\t' :: rest => basicLines .line rest
  | .line, '\n' :: rest => basicLines .lines rest
  | .line, '\r' :: '\n' :: rest => basicLines .lines rest
  | .line, _ => .none
  | .lines, ' ' :: rest => basicLines .lines rest
  | .lines, '\t' :: rest => basicLines .lines rest
  | .lines, '\n' :: rest => basicLines .lines rest
  | .lines, '\r' :: '\n' :: rest => basicLines .lines rest
  | _, '"' :: '"' :: '"' :: '"' :: '"' :: rest => some (['"', '"'], rest)
  | _, '"' :: '"' :: '"' :: '"' :: rest => some (['"'], rest)
  | _, '"' :: '"' :: '"' :: rest => some ([], rest)
  | _, '\n' :: rest => before '\n' (basicLines .none rest)
  | _, '\r' :: '\n' :: rest => before '\n' (basicLines .none rest)
  | _, '\\' :: 'u' :: a :: b :: c :: d :: rest => do
      before (← scalar? [a, b, c, d]) (basicLines .none rest)
  | _, '\\' :: 'U' :: a :: b :: c :: d :: e :: f :: g :: h :: rest => do
      before (← scalar? [a, b, c, d, e, f, g, h]) (basicLines .none rest)
  | _, '\\' :: ' ' :: rest => basicLines .line rest
  | _, '\\' :: '\t' :: rest => basicLines .line rest
  | _, '\\' :: '\n' :: rest => basicLines .lines rest
  | _, '\\' :: '\r' :: '\n' :: rest => basicLines .lines rest
  | _, '\\' :: c :: rest => do before (← unescape? c) (basicLines .none rest)
  | _, c :: rest => if isVisible c then before c (basicLines .none rest) else .none

def literalLines : List Char → Option (List Char × List Char)
  | [] => none
  | '\'' :: '\'' :: '\'' :: '\'' :: '\'' :: rest => some (['\'', '\''], rest)
  | '\'' :: '\'' :: '\'' :: '\'' :: rest => some (['\''], rest)
  | '\'' :: '\'' :: '\'' :: rest => some ([], rest)
  | '\n' :: rest => before '\n' (literalLines rest)
  | '\r' :: '\n' :: rest => before '\n' (literalLines rest)
  | c :: rest => if isVisible c then before c (literalLines rest) else none

def dropLineBreak (cs : List Char) : List Char := (lineBreak? cs).getD cs

def string? : List Char → Option (List Char × List Char)
  | '"' :: '"' :: '"' :: rest => basicLines .none (dropLineBreak rest)
  | '"' :: rest => basic rest
  | '\'' :: '\'' :: '\'' :: rest => literalLines (dropLineBreak rest)
  | '\'' :: rest => literal rest
  | _ => none

/-! ### Keys -/

def isBare (c : Char) : Bool := c.isAlphanum || c == '-' || c == '_'

def keyPart? : List Char → Option (String × List Char)
  | '"' :: rest => (basic rest).map fun (cs, rest) => (String.ofList cs, rest)
  | '\'' :: rest => (literal rest).map fun (cs, rest) => (String.ofList cs, rest)
  | cs =>
      match cs.takeWhile isBare with
      | [] => none
      | part => some (String.ofList part, cs.dropWhile isBare)

/-- The parts of a key with points between them, at most so many, with blanks around each. -/
def keyParts? : Nat → List Char → Option (List String × List Char)
  | 0, _ => none
  | limit + 1, cs => do
      let (part, rest) ← keyPart? (skipBlanks cs)
      match skipBlanks rest with
      | '.' :: rest => do
          let (parts, rest) ← keyParts? limit rest
          return (part :: parts, rest)
      | rest => return ([part], rest)

def maxDepth : Nat := 79

def key? (cs : List Char) : Option ((List String × String) × List Char) := do
  let (parts, rest) ← keyParts? maxDepth cs
  return ((parts.dropLast, ← parts.getLast?), rest)

/-! ### Numbers -/

def moreDigits (base : Nat) : List Char → List Nat × List Char
  | '_' :: c :: rest =>
      match Text.digit? base c with
      | some d =>
          let (ds, after) := moreDigits base rest
          (d :: ds, after)
      | none => ([], '_' :: c :: rest)
  | c :: rest =>
      match Text.digit? base c with
      | some d =>
          let (ds, after) := moreDigits base rest
          (d :: ds, after)
      | none => ([], c :: rest)
  | [] => ([], [])

def digits? (base : Nat) : List Char → Option (List Nat × List Char)
  | c :: rest => do
      let d ← Text.digit? base c
      let (ds, after) := moreDigits base rest
      return (d :: ds, after)
  | [] => none

def sign : List Char → Bool × List Char
  | '-' :: rest => (true, rest)
  | '+' :: rest => (false, rest)
  | cs => (false, cs)

def wholeDigits? : List Char → Option (List Nat × List Char)
  | '0' :: rest => some ([0], rest)
  | cs => digits? 10 cs

def fraction? : List Char → Option (List Nat × List Char)
  | '.' :: rest => digits? 10 rest
  | _ => none

def exponent? : List Char → Option (Int × List Char)
  | c :: rest =>
      if c = 'e' ∨ c = 'E' then do
        let (negative, rest) := sign rest
        let (ds, rest) ← digits? 10 rest
        let n := Text.ofDigits 10 ds
        return (if negative then -(n : Int) else n, rest)
      else none
  | [] => none

/-- A float that has a value; one that is too large has none, unless it is negative. -/
def decimalFloat? (negative : Bool) (ds : List Nat) (exponent : Int) : Option Item :=
  match Magnitude.ofDecimal? (Text.ofDigits 10 ds) exponent with
  | some m => some (.float (.finite negative m))
  | none => if negative then some (.float (.infinite true)) else none

def float? (cs : List Char) : Option (Item × List Char) :=
  let (negative, rest) := sign cs
  match rest with
  | 'i' :: 'n' :: 'f' :: rest => some (.float (.infinite negative), rest)
  | 'n' :: 'a' :: 'n' :: rest => some (.float .nan, rest)
  | rest => do
      let (whole, rest) ← wholeDigits? rest
      match fraction? rest with
      | some (fraction, rest) =>
          let (exponent, rest) := (exponent? rest).getD (0, rest)
          let x ← decimalFloat? negative (whole ++ fraction) (exponent - fraction.length)
          return (x, rest)
      | none =>
          let (exponent, rest) ← exponent? rest
          return (← decimalFloat? negative whole exponent, rest)

def checked (n : Int) (rest : List Char) : Option (Item × List Char) :=
  if -0x8000000000000000 ≤ n ∧ n < 0x8000000000000000 then some (.integer n, rest) else none

def based? (base : Nat) (cs : List Char) : Option (Item × List Char) := do
  let (ds, rest) ← digits? base cs
  checked (Text.ofDigits base ds) rest

def integer? : List Char → Option (Item × List Char)
  | '0' :: 'x' :: rest => based? 16 rest
  | '0' :: 'o' :: rest => based? 8 rest
  | '0' :: 'b' :: rest => based? 2 rest
  | cs => do
      let (negative, rest) := sign cs
      let (ds, rest) ← wholeDigits? rest
      let n := Text.ofDigits 10 ds
      checked (if negative then -(n : Int) else n) rest

/-! ### Dates and times -/

def fixed? (count : Nat) (cs : List Char) : Option (Nat × List Char) := do
  let ds ← (cs.take count).mapM (Text.digit? 10)
  if ds.length = count then some (Text.ofDigits 10 ds, cs.drop count) else none

def ranged? (low high : Nat) (cs : List Char) : Option (Nat × List Char) := do
  let (n, rest) ← fixed? 2 cs
  if low ≤ n ∧ n ≤ high then some (n, rest) else none

def expect? (c : Char) : List Char → Option (List Char)
  | d :: rest => if d = c then some rest else none
  | [] => none

def daysOf (year month : Nat) : Nat :=
  if month = 2 then
    if year % 4 = 0 ∧ (year % 100 ≠ 0 ∨ year % 400 = 0) then 29 else 28
  else if month = 4 ∨ month = 6 ∨ month = 9 ∨ month = 11 then 30
  else 31

def date? (cs : List Char) : Option (List Char) := do
  let (year, rest) ← fixed? 4 cs
  let rest ← expect? '-' rest
  let (month, rest) ← ranged? 1 12 rest
  let rest ← expect? '-' rest
  let (_, rest) ← ranged? 1 (daysOf year month) rest
  return rest

def secondFraction (cs : List Char) : List Char :=
  match cs with
  | '.' :: rest =>
      match Text.spanDigits 10 rest with
      | ([], _) => cs
      | (_, rest) => rest
  | cs => cs

def time? (cs : List Char) : Option (List Char) := do
  let (_, rest) ← ranged? 0 23 cs
  let rest ← expect? ':' rest
  let (_, rest) ← ranged? 0 59 rest
  let rest ← expect? ':' rest
  let (_, rest) ← ranged? 0 60 rest
  return secondFraction rest

def offset? : List Char → Option (List Char)
  | 'Z' :: rest => some rest
  | 'z' :: rest => some rest
  | c :: rest =>
      if c = '+' ∨ c = '-' then do
        let (_, rest) ← ranged? 0 23 rest
        let rest ← expect? ':' rest
        let (_, rest) ← ranged? 0 59 rest
        return rest
      else none
  | [] => none

def timeAfterDate? : List Char → Option (List Char)
  | c :: rest =>
      if c = 'T' ∨ c = 't' ∨ c = ' ' then do
        let rest ← time? rest
        return (offset? rest).getD rest
      else none
  | [] => none

def moment? (cs : List Char) : Option (Item × List Char) := do
  let rest ← match date? cs with
    | some rest => some ((timeAfterDate? rest).getD rest)
    | none => time? cs
  return (.moment (String.ofList (cs.take (cs.length - rest.length))), rest)

def number? (cs : List Char) : Option (Item × List Char) :=
  moment? cs <|> float? cs <|> integer? cs

/-!
## Reading TOML documents

The grammar of values, statements and documents.  The functions for values call each other as the
grammar says, within a bound on the depth of these calls that the length of the text provides, and
within a limit on the nesting of arrays and tables that belongs to the format.
-/

mutual

/-- A value, which may open so many levels of arrays and tables. -/
def value? : Nat → Nat → List Char → Option (Item × List Char)
  | 0, _, _ => none
  | bound + 1, levels, cs =>
      match cs with
      | '"' :: _ => (string? cs).map fun (s, rest) => (.text (String.ofList s), rest)
      | '\'' :: _ => (string? cs).map fun (s, rest) => (.text (String.ofList s), rest)
      | 't' :: 'r' :: 'u' :: 'e' :: rest => some (.boolean true, rest)
      | 'f' :: 'a' :: 'l' :: 's' :: 'e' :: rest => some (.boolean false, rest)
      | '[' :: rest =>
          match levels with
          | 0 => none
          | levels + 1 =>
              match skipLayout false rest with
              | ']' :: rest => some (.array [], rest)
              | start => (items? bound levels start).map fun (l, rest) => (.array l, rest)
      | '\x7b' :: rest =>
          match levels with
          | 0 => none
          | levels + 1 =>
              match skipBlanks rest with
              | '\x7d' :: rest => some (.braced [], rest)
              | start => do
                  let (l, rest) ← definitions? bound levels start
                  return (← Item.ofDefinitions l, rest)
      | cs => number? cs

def items? : Nat → Nat → List Char → Option (List Item × List Char)
  | 0, _, _ => none
  | bound + 1, levels, cs => do
      let (v, rest) ← value? bound levels cs
      match skipLayout false rest with
      | ']' :: rest => return ([v], rest)
      | ',' :: rest =>
          match skipLayout false rest with
          | ']' :: rest => return ([v], rest)
          | start => do
              let (vs, rest) ← items? bound levels start
              return (v :: vs, rest)
      | _ => none

def definitions? : Nat → Nat → List Char → Option (List Definition × List Char)
  | 0, _, _ => none
  | bound + 1, levels, cs => do
      let ((path, key), rest) ← key? cs
      let rest ← expect? '=' rest
      let (v, rest) ← value? bound levels (skipBlanks rest)
      match skipBlanks rest with
      | '\x7d' :: rest => return ([⟨path, key, v⟩], rest)
      | ',' :: rest => do
          let (l, rest) ← definitions? bound levels rest
          return (⟨path, key, v⟩ :: l, rest)
      | _ => none

end

def statement? (cs : List Char) : Option (Statement × List Char) :=
  match cs with
  | '[' :: '[' :: rest => do
      let ((path, key), rest) ← key? rest
      let rest ← lineEnd? (← expect? ']' (← expect? ']' rest))
      return (.openElement path key, rest)
  | '[' :: rest => do
      let ((path, key), rest) ← key? rest
      let rest ← lineEnd? (← expect? ']' rest)
      return (.openTable path key, rest)
  | cs => do
      let ((path, key), rest) ← key? cs
      let rest ← expect? '=' rest
      let (v, rest) ← value? (2 * cs.length + 2) maxDepth (skipBlanks rest)
      return (.define ⟨path, key, v⟩, ← lineEnd? rest)

/-- The statements of a document, of no more lines than the bound. -/
def statements? : Nat → List Char → Option (List Statement)
  | 0, _ => none
  | bound + 1, cs =>
      match skipBlanks cs with
      | [] => some []
      | '#' :: rest => do statements? bound (← lineEnd? ('#' :: rest))
      | '\n' :: rest => statements? bound rest
      | '\r' :: rest => do statements? bound (← lineBreak? ('\r' :: rest))
      | cs => do
          let (s, rest) ← statement? cs
          return s :: (← statements? bound rest)

/-- The text without the mark that may stand at its start. -/
def dropMark : List Char → List Char
  | '\uFEFF' :: rest => rest
  | cs => cs

def Table.ofString? (s : String) : Option Table := do
  let cs := dropMark s.toList
  Table.ofStatements (← statements? (cs.length + 1) cs)

end DnsView.Toml
