import DnsView.Json.Basic
import DnsView.Text.Characters
import DnsView.Json.Parser

/-!
# Reading data from documents

From the tree of a document to data of a type, or to the reason why it holds none.
-/

/-!
## Why a document cannot be read

Either its text is no JSON, or it is JSON of the wrong shape.  In the second case the error says
what was found and what was expected.
-/

namespace DnsView.Json

/-- What stands in a document where something else is expected. -/
inductive Found where
  | null
  | boolean (b : Bool)
  | integer (n : Int)
  | float (x : Binary64)
  | text (s : String)
  | list
  | object
  | bareVariant
deriving DecidableEq

def Found.message : Found → String
  | .null => "null"
  | .boolean b => "boolean `" ++ (if b then "true" else "false") ++ "`"
  | .integer n => "integer `" ++ String.ofList (Text.decimalInt n) ++ "`"
  | .float x => "floating point `" ++ String.ofList (numberFormat.text x) ++ "`"
  | .text s => "string " ++ Text.quote s
  | .list => "sequence"
  | .object => "map"
  | .bareVariant => "unit variant"

inductive ReadError where
  /-- The text is no JSON, or nests too deeply. -/
  | malformed
  | wrongType (found : Found) (expected : String)
  | wrongValue (found : Found) (expected : String)
  | wrongLength (length : Nat) (expected : String)
  | missingField (name : String)
  | duplicateField (name : String)
  | unknownVariant (name : String) (known : List String)
  /-- A text that does not name what it should. -/
  | unreadable (what : String)
deriving DecidableEq

def ReadError.message? : ReadError → Option String
  | .malformed => none
  | .wrongType found expected =>
      some ("invalid type: " ++ found.message ++ ", expected " ++ expected)
  | .wrongValue found expected =>
      some ("invalid value: " ++ found.message ++ ", expected " ++ expected)
  | .wrongLength length expected =>
      some ("invalid length " ++ String.ofList (Text.decimal length) ++ ", expected " ++ expected)
  | .missingField name => some ("missing field `" ++ name ++ "`")
  | .duplicateField name => some ("duplicate field `" ++ name ++ "`")
  | .unknownVariant name known =>
      some ("unknown variant `" ++ name ++ "`, expected one of " ++
        ", ".intercalate (known.map fun k => "`" ++ k ++ "`"))
  | .unreadable what => some ("invalid " ++ what ++ " syntax")

def ReadError.report? (e : ReadError) : Option String :=
  e.message?.map fun m => "JSON error: " ++ m

/-!
## Reading typed data from JSON documents

A reader turns a node of a document into data or says why it cannot.  It is told how many levels of
lists and objects may still be opened; a document that opens more is not taken for JSON.  Readers
go through a document from front to back, so the first problem in its text is the one reported.

Records are read from an object or from a list of their fields.  An object may hold further
members, in any order, but no field twice.
-/

/-- Reads data from a node, given the number of levels that may still be opened. -/
abbrev Reader (α : Type) := Nat → Node → Except ReadError α

def maxDepth : Nat := 127

def Document.read {α : Type} (reader : Reader α) (d : Document) : Except ReadError α := do
  let a ← reader maxDepth d.root
  if d.complete then return a else throw .malformed

def read {α : Type} (reader : Reader α) (s : String) : Except ReadError α :=
  (Document.ofString s).read reader

/-! ### Single values -/

def mismatch {α : Type} (expected : String) : Node → Except ReadError α
  | .null => throw (.wrongType .null expected)
  | .boolean b => throw (.wrongType (.boolean b) expected)
  | .number x =>
      match x.number? with
      | some (.integer n) => throw (.wrongType (.integer n) expected)
      | some (.float x) => throw (.wrongType (.float x) expected)
      | none => throw .malformed
  | .text (some s) => throw (.wrongType (.text s) expected)
  | .text none => throw .malformed
  | .sequence _ => throw (.wrongType .list expected)
  | .object _ => throw (.wrongType .object expected)
  | .broken => throw .malformed

def readBool : Reader Bool
  | _, .boolean b => return b
  | _, n => mismatch "a boolean" n

def readText (expected : String) : Reader String
  | _, .text (some s) => return s
  | _, n => mismatch expected n

def readString : Reader String :=
  readText "a string"

/-- Reads a string that names something, by the given rule. -/
def readNamed {α : Type} (what : String) (rule : String → Option α) : Reader α
  | levels, n => do
      let s ← readText what levels n
      match rule s with
      | some a => return a
      | none => throw (.unreadable what)

def readNat (limit : Nat) (expected : String) : Reader Nat
  | _, .number x =>
      match x.number? with
      | some (.integer n) =>
          if 0 ≤ n ∧ n < limit then return n.toNat else throw (.wrongValue (.integer n) expected)
      | _ => mismatch expected (.number x)
  | _, n => mismatch expected n

def readUInt8 : Reader UInt8 := fun levels n =>
  UInt8.ofNat <$> readNat UInt8.size "u8" levels n

def readUInt16 : Reader UInt16 := fun levels n =>
  UInt16.ofNat <$> readNat UInt16.size "u16" levels n

def readUInt32 : Reader UInt32 := fun levels n =>
  UInt32.ofNat <$> readNat UInt32.size "u32" levels n

/-! ### Lists -/

def readItems {α : Type} (reader : Reader α) (levels : Nat) : Items → Except ReadError (List α)
  | .closed => return []
  | .broken => throw .malformed
  | .cons head tail => do
      let a ← reader levels head
      let as ← readItems reader levels tail
      return a :: as

def readList {α : Type} (reader : Reader α) : Reader (List α)
  | 0, .sequence _ => throw .malformed
  | levels + 1, .sequence items => readItems reader levels items
  | _, n => mismatch "a sequence" n

def Items.next? : Items → Except ReadError (Option (Node × Items))
  | .closed => return none
  | .broken => throw .malformed
  | .cons head tail => return some (head, tail)

def Items.finish : Items → Except ReadError Unit
  | .closed => return ()
  | _ => throw .malformed

def readPair {α β : Type} (what : String) (first : Reader α) (second : Reader β) :
    Reader (α × β)
  | 0, .sequence _ => throw .malformed
  | levels + 1, .sequence items => do
      let tooShort (n : Nat) : ReadError := .wrongLength n (what ++ " with 2 elements")
      let some (head, items) ← items.next? | throw (tooShort 0)
      let a ← first levels head
      let some (head, items) ← items.next? | throw (tooShort 1)
      let b ← second levels head
      items.finish
      return (a, b)
  | _, n => mismatch what n

/-! ### Records -/

/-- A field of a record: its name, whether it has to be there, and how it is read and set. -/
structure Field (α : Type) where
  name : String
  required : Bool
  read : Reader (α → α)

def Field.of {α β : Type} (name : String) (reader : Reader β) (set : α → β → α)
    (required : Bool) : Field α where
  name := name
  required := required
  read levels n := do
    let b ← reader levels n
    return fun a => set a b

/-- How a record is read: its name, the record before any field is set, and its fields in order. -/
structure Shape (α : Type) where
  name : String
  blank : α
  fields : List (Field α)

namespace Shape

variable {α : Type}

def expected (s : Shape α) : String :=
  "struct " ++ s.name

def expectedList (s : Shape α) : String :=
  s.expected ++ " with " ++ String.ofList (Text.decimal s.fields.length) ++ " elements"

def readFields (s : Shape α) (levels index : Nat) (a : α) :
    List (Field α) → Items → Except ReadError α
  | [], items => do
      items.finish
      return a
  | field :: fields, items => do
      match ← items.next? with
      | some (head, tail) =>
          let set ← field.read levels head
          readFields s levels (index + 1) (set a) fields tail
      | none =>
          if field.required then throw (.wrongLength index s.expectedList)
          else readFields s levels (index + 1) a fields items

def complete (s : Shape α) (seen : List String) (a : α) : Except ReadError α :=
  match s.fields.find? fun field => field.required && !seen.contains field.name with
  | some field => throw (.missingField field.name)
  | none => return a

/-- Reads the members of an object; the names of the fields set so far are given. -/
def readMembers (s : Shape α) (levels : Nat) (seen : List String) (a : α) :
    Members → Except ReadError α
  | .closed => s.complete seen a
  | .broken => throw .malformed
  | .unnamed _ => throw .malformed
  | .cons none _ _ => throw .malformed
  | .cons (some name) value rest =>
      match s.fields.find? fun field => field.name == name with
      | none =>
          if value.sound then readMembers s levels seen a rest else throw .malformed
      | some field =>
          if seen.contains name then throw (.duplicateField name)
          else do
            let set ← field.read levels value
            readMembers s levels (name :: seen) (set a) rest

def read (s : Shape α) : Reader α
  | 0, .sequence _ => throw .malformed
  | 0, .object _ => throw .malformed
  | levels + 1, .sequence items => s.readFields levels 0 s.blank s.fields items
  | levels + 1, .object members => s.readMembers levels [] s.blank members
  | _, n => mismatch s.expected n

end Shape

/-! ### Variants -/

structure Variant (α : Type) where
  name : String
  content : String
  read : Reader α

def findVariant {α : Type} (variants : List (Variant α)) (name : String) :
    Except ReadError (Variant α) :=
  match variants.find? fun v => v.name == name with
  | some v => return v
  | none => throw (.unknownVariant name (variants.map (·.name)))

/-- Reads one of several variants from an object with a single member. -/
def readVariant {α : Type} (variants : List (Variant α)) : Reader α
  | levels + 1, .object (.cons (some name) value rest) => do
      let v ← findVariant variants name
      let a ← v.read levels value
      match rest with
      | .closed => return a
      | _ => throw .malformed
  | _ + 1, .object (.unnamed first) => mismatch "variant identifier" first
  | _, .text (some name) => do
      let v ← findVariant variants name
      throw (.wrongType .bareVariant v.content)
  | _, _ => throw .malformed

end DnsView.Json
