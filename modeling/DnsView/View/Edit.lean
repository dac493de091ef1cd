import DnsView.View.Session

/-!
# Edits

What a script can do to a view: put and remove values at a path, add, move and clear the mappings of
a list, and assign the header, the sender and the compression flag.  An edit whose path leads
nowhere changes nothing.
-/

namespace DnsView

inductive ViewList where
  | answers | extras | nameservers | questions
deriving DecidableEq, Repr

namespace ViewList

def name : ViewList → String
  | answers => "Answers"
  | extras => "Extras"
  | nameservers => "Nameservers"
  | questions => "Questions"

def ofName? (s : String) : Option ViewList :=
  [answers, extras, nameservers, questions].find? fun l => l.name = s

end ViewList

namespace View

def get (v : View) : ViewList → List Mapping
  | .answers => v.answers
  | .extras => v.extras
  | .nameservers => v.nameservers
  | .questions => v.questions

def set (v : View) (ms : List Mapping) : ViewList → View
  | .answers => { v with answers := ms }
  | .extras => { v with extras := ms }
  | .nameservers => { v with nameservers := ms }
  | .questions => { v with questions := ms }

end View

inductive Step where
  | key (k : String)
  | index (i : Nat)
deriving DecidableEq, Repr

namespace Value

/--
Puts a value at a path.  The last step may name a new key of a mapping or the end of a list; the
steps before it have to lead to parts that are there.
-/
def put? (new : Value) : List Step → Value → Option Value
  | [], _ => some new
  | [.key k], .mapping fields => some (.mapping (fields.insert k new))
  | .key k :: path, .mapping fields => do
      let v ← put? new path (← fields.get? k)
      return .mapping (fields.insert k v)
  | [.index i], .list items =>
      if i < items.length then some (.list (items.set i new))
      else if i = items.length then some (.list (items ++ [new]))
      else none
  | .index i :: path, .list items => do
      let v ← put? new path (← items[i]?)
      return .list (items.set i v)
  | _, _ => none

def remove? : List Step → Value → Option Value
  | [.key k], .mapping fields => do
      let _ ← fields.get? k
      return .mapping (fields.erase k)
  | .key k :: path, .mapping fields => do
      let v ← remove? path (← fields.get? k)
      return .mapping (fields.insert k v)
  | [.index i], .list items =>
      if i < items.length then some (.list (items.eraseIdx i)) else none
  | .index i :: path, .list items => do
      let v ← remove? path (← items[i]?)
      return .list (items.set i v)
  | _, _ => none

end Value

inductive Edit where
  | put (list : ViewList) (index : Nat) (path : List Step) (value : Value)
  | remove (list : ViewList) (index : Nat) (path : List Step)
  | push (list : ViewList) (value : Value)
  | insert (list : ViewList) (index : Nat) (value : Value)
  | swap (list : ViewList) (i j : Nat)
  | clear (list : ViewList)
  | header (assign : Header → Header)
  | client (assign : Client → Client)
  | compress (b : Bool)

def exchange? {α : Type} (i j : Nat) (l : List α) : Option (List α) := do
  let a ← l[i]?
  let b ← l[j]?
  return (l.set i b).set j a

def Edit.run? (v : View) : Edit → Option View
  | put list index path value => do
      let m ← (v.get list)[index]?
      let m ← (← Value.put? value path (.mapping m)).mapping?
      return v.set ((v.get list).set index m) list
  | remove list index [] =>
      if index < (v.get list).length then some (v.set ((v.get list).eraseIdx index) list) else none
  | remove list index path => do
      let m ← (v.get list)[index]?
      let m ← (← Value.remove? path (.mapping m)).mapping?
      return v.set ((v.get list).set index m) list
  | push list value => do
      return v.set (v.get list ++ [← value.mapping?]) list
  | insert list index value => do
      let ms := v.get list
      return v.set (ms.take index ++ (← value.mapping?) :: ms.drop index) list
  | swap list i j => do
      return v.set (← exchange? i j (v.get list)) list
  | clear list => some (v.set [] list)
  | header assign => some { v with header := assign v.header }
  | client assign => some { v with client := assign v.client }
  | compress b => some { v with compress := b }

end DnsView
