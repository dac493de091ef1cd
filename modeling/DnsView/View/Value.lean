import DnsView.Number.Binary64
import DnsView.Text.Characters
import DnsView.Json.Basic
import DnsView.Json.Reader

/-!
# Script values

What a script works on, and the two forms in which values are shown: in diagnostics and as JSON.
-/

/-!
## Script values

A script sees messages as trees of values.  A mapping holds each key once, in ascending order: every
field is placed above a bound, and the fields after it above its key.  So two mappings with the
same content are equal, whatever was done to them before.
-/

namespace DnsView

def Above : Option String → String → Prop
  | none, _ => True
  | some bound, key => bound < key

theorem Above.trans {lo : Option String} {k l : String} (h : Above lo k) (hkl : k < l) :
    Above lo l := by
  cases lo with
  | none => trivial
  | some bound => exact String.lt_trans h hkl

theorem lt_of_not_lt_of_ne {k l : String} (h : ¬k < l) (hne : k ≠ l) : l < k :=
  Std.lt_of_le_of_ne (String.not_lt.1 h) (Ne.symm hne)

mutual

inductive Value where
  | null
  | boolean (b : Bool)
  | integer (n : Int64)
  | float (x : Binary64)
  | text (s : String)
  | list (items : List Value)
  | mapping (fields : Fields none)

/-- Fields in ascending order of their keys, all above a lower bound. -/
inductive Fields : Option String → Type where
  | nil {lo : Option String} : Fields lo
  | cons {lo : Option String} (key : String) (value : Value) (rest : Fields (some key))
      (above : Above lo key) : Fields lo

end

abbrev Mapping := Fields none

namespace Fields

instance {lo : Option String} : Inhabited (Fields lo) := ⟨.nil⟩

def toList {lo : Option String} : Fields lo → List (String × Value)
  | .nil => []
  | .cons key value rest _ => (key, value) :: rest.toList

def get? {lo : Option String} (key : String) : Fields lo → Option Value
  | .nil => none
  | .cons k v rest _ => if k = key then some v else rest.get? key

def lower {lo : Option String} {bound : String} (h : Above lo bound) :
    Fields (some bound) → Fields lo
  | .nil => .nil
  | .cons k v rest above => .cons k v rest (h.trans above)

def place {lo : Option String} (key : String) (value : Value) (h : Above lo key) :
    Fields lo → Fields lo
  | .nil => .cons key value .nil h
  | .cons k v rest above =>
      if below : key < k then .cons key value (.cons k v rest below) h
      else if same : key = k then .cons k value rest above
      else .cons k v (rest.place key value (lt_of_not_lt_of_ne below same)) above

def erase {lo : Option String} (key : String) : Fields lo → Fields lo
  | .nil => .nil
  | .cons k v rest above =>
      if k = key then rest.lower above else .cons k v (rest.erase key) above

def insert (fields : Mapping) (key : String) (value : Value) : Mapping :=
  fields.place key value trivial

/-- The mapping of a list of keys and values, in which the last value of a key counts. -/
def ofList (l : List (String × Value)) : Mapping :=
  l.foldl (fun fields field => fields.insert field.1 field.2) .nil

end Fields

namespace Value

instance : Inhabited Value := ⟨.null⟩

def typeName : Value → String
  | null => "null"
  | boolean _ => "boolean"
  | integer _ => "integer"
  | float _ => "float"
  | text _ => "string"
  | list _ => "list"
  | mapping _ => "mapping"

def ofUInt16 (n : UInt16) : Value := integer (Int64.ofInt n.toNat)

def ofUInt32 (n : UInt32) : Value := integer (Int64.ofInt n.toNat)

def mapping? : Value → Option Mapping
  | mapping fields => some fields
  | _ => none

def list? : Value → Option (List Value)
  | list items => some items
  | _ => none

def text? : Value → Option String
  | text s => some s
  | _ => none

def boolean? : Value → Option Bool
  | boolean b => some b
  | _ => none

/-- The integer that a number stands for, whether it is written as an integer or as a float. -/
def integer? : Value → Option Int
  | integer n => some n.toInt
  | float x => x.toInt64?.map Int64.toInt
  | _ => none

def uint16? (v : Value) : Option UInt16 := do
  let n ← v.integer?
  if 0 ≤ n ∧ n < UInt16.size then some (UInt16.ofNat n.toNat) else none

def uint32? (v : Value) : Option UInt32 := do
  let n ← v.integer?
  if 0 ≤ n ∧ n < UInt32.size then some (UInt32.ofNat n.toNat) else none

end Value

namespace Fields

def textD (fields : Mapping) (key : String) : String :=
  ((fields.get? key).bind Value.text?).getD ""

def uint16D (fields : Mapping) (key : String) : UInt16 :=
  ((fields.get? key).bind Value.uint16?).getD 0

def uint32D (fields : Mapping) (key : String) : UInt32 :=
  ((fields.get? key).bind Value.uint32?).getD 0

def booleanD (fields : Mapping) (key : String) : Bool :=
  ((fields.get? key).bind Value.boolean?).getD false

end Fields

/-!
## Values in diagnostics

The text of a value in an error message: the kind of the value with its content in brackets.
-/

/--
Doubles in diagnostics have the fewest digits that read back, the upper one of two equally near,
and an exponent below 1e-4 and from 1e16 on.
-/
def diagnosticNumberFormat : NumberFormat where
  tie := .upward
  plainFrom := -4
  plainBelow := 16
  exponentPlus := false
  nan := ['N', 'a', 'N']
  infinity := ['i', 'n', 'f']
  signedInfinity := true

mutual

def Value.described : Value → String
  | .null => "Null"
  | .boolean b => "Bool(" ++ (if b then "true" else "false") ++ ")"
  | .integer n => "Int(" ++ String.ofList (Text.decimalInt n.toInt) ++ ")"
  | .float x => "Float(" ++ String.ofList (diagnosticNumberFormat.text x) ++ ")"
  | .text s => "Str(" ++ Text.quote s ++ ")"
  | .list items => "List([" ++ ", ".intercalate (Value.describedItems items) ++ "])"
  | .mapping fields => "Map(\x7b" ++ ", ".intercalate fields.described ++ "\x7d)"

def Value.describedItems : List Value → List String
  | [] => []
  | v :: vs => v.described :: Value.describedItems vs

def Fields.described {lo : Option String} : Fields lo → List String
  | .nil => []
  | .cons key v rest _ => (Text.quote key ++ ": " ++ v.described) :: rest.described

end

/-!
## Script values as JSON

Every script value has a JSON form, in which the fields of a mapping come in the order of their
keys.  Floats that are not finite turn into null there.

Every JSON value is read as a script value.  A number is an integer if it is one that fits
sixty-four bits with a sign, and a float otherwise; of the members of an object with the same name
the last one counts.
-/

open Json (Reader ReadError Node Items Members)

mutual

def Value.toJson : Value → Json
  | .null => .null
  | .boolean b => .boolean b
  | .integer n => .integer n.toInt
  | .float x => .float x
  | .text s => .text s
  | .list items => .list (Value.toJsonItems items)
  | .mapping fields => .object fields.toJsonMembers

def Value.toJsonItems : List Value → List Json
  | [] => []
  | v :: vs => v.toJson :: Value.toJsonItems vs

def Fields.toJsonMembers {lo : Option String} : Fields lo → List (String × Json)
  | .nil => []
  | .cons key v rest _ => (key, v.toJson) :: rest.toJsonMembers

end

def Fields.toJson (fields : Mapping) : Json := .object fields.toJsonMembers

def Value.ofNumber : Json.Number → Value
  | .integer n =>
      if -0x8000000000000000 ≤ n ∧ n < 0x8000000000000000 then .integer (Int64.ofInt n)
      else .float (Binary64.ofInt n)
  | .float x => .float x

mutual

def Value.ofNode (levels : Nat) : Node → Except ReadError Value
  | .null => return .null
  | .boolean b => return .boolean b
  | .number x =>
      match x.number? with
      | some n => return .ofNumber n
      | none => throw .malformed
  | .text (some s) => return .text s
  | .text none => throw .malformed
  | .sequence items =>
      match levels with
      | 0 => throw .malformed
      | levels + 1 => .list <$> Value.ofItems levels items
  | .object members =>
      match levels with
      | 0 => throw .malformed
      | levels + 1 => .mapping <$> Value.ofMembers levels .nil members
  | .broken => throw .malformed

def Value.ofItems (levels : Nat) : Items → Except ReadError (List Value)
  | .closed => return []
  | .broken => throw .malformed
  | .cons head tail => do
      let v ← Value.ofNode levels head
      let vs ← Value.ofItems levels tail
      return v :: vs

def Value.ofMembers (levels : Nat) (fields : Mapping) : Members → Except ReadError Mapping
  | .closed => return fields
  | .broken => throw .malformed
  | .unnamed _ => throw .malformed
  | .cons none _ _ => throw .malformed
  | .cons (some name) value rest => do
      let v ← Value.ofNode levels value
      Value.ofMembers levels (fields.insert name v) rest

end

def Value.reader : Reader Value := Value.ofNode

def Fields.reader : Reader Mapping
  | 0, .object _ => throw .malformed
  | levels + 1, .object members => Value.ofMembers levels .nil members
  | _, n => Json.mismatch "a map" n

end DnsView
