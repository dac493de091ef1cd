import DnsView.Net.Addresses
import DnsView.Event
import DnsView.Files.Tree
import DnsView.Text.Characters
import DnsView.Toml.Document

/-!
# Address books

The devices behind addresses come from a document, whose entries are made one after another.
-/

/-!
## Address books

What is known about the devices behind addresses.  Each address has one entry, the latest that was
made.
-/

namespace DnsView

structure Endpoint where
  mac : String
  nickname : String
deriving DecidableEq, Repr, Inhabited

/-- What is known about the devices behind texts that may spell addresses. -/
abbrev Lookup := String → Option Endpoint

/-- The known devices by their addresses, the latest entry first and no address twice. -/
structure AddressBook where
  entries : List (IpAddress × Endpoint)
deriving DecidableEq, Repr

namespace AddressBook

def empty : AddressBook := ⟨[]⟩

def size (b : AddressBook) : Nat := b.entries.length

def isEmpty (b : AddressBook) : Bool := b.entries.isEmpty

def get? (b : AddressBook) (ip : IpAddress) : Option Endpoint :=
  (b.entries.find? fun e => e.1 = ip).map (·.2)

def insert (b : AddressBook) (ip : IpAddress) (e : Endpoint) : AddressBook :=
  ⟨(ip, e) :: b.entries.filter fun e => e.1 ≠ ip⟩

def lookup (b : AddressBook) (s : String) : Option Endpoint :=
  (IpAddress.ofString? s).bind b.get?

instance : CoeFun AddressBook fun _ => Lookup :=
  ⟨lookup⟩

end AddressBook

/-!
## Loading address books

An address book is a TOML document with a table `endpoint` for each device: its address under `ip`,
and what is known about it under `mac` and `alias`.  An entry may also be an array with these three
in order.  Everything else in the document is ignored.

A document is taken as a whole before its addresses are looked at.  If an address comes more than
once, the last entry counts and each repetition is an event.
-/

inductive BookError where
  /-- There is no such file, or it holds no text. -/
  | unreadable
  /-- The text is no TOML document, or one of the wrong shape. -/
  | malformed
  | noAddress (text : String)
deriving DecidableEq, Repr

namespace BookError

def reason? : BookError → Option String
  | unreadable => none
  | malformed => none
  | noAddress text => some ("invalid IP address: " ++ text)

def report? (e : BookError) : Option String :=
  e.reason?.map fun reason => "Address book error: " ++ reason

def described? (e : BookError) : Option String :=
  e.reason?.map fun reason => "AddressBook(" ++ Text.quote reason ++ ")"

end BookError

namespace AddressBook

structure Entry where
  ip : String
  mac : String
  nickname : String
deriving DecidableEq, Repr

def itemText? : Toml.Item → Option String
  | .text s => some s
  | _ => none

def optionalText? (entries : List (String × Toml.Item)) (key : String) : Option String :=
  match entries.lookup key with
  | none => some ""
  | some item => itemText? item

def Entry.ofTable? (entries : List (String × Toml.Item)) : Option Entry := do
  return {
    ip := ← itemText? (← entries.lookup "ip")
    mac := ← optionalText? entries "mac"
    nickname := ← optionalText? entries "alias" }

/-- The entry that an array lists; it may break off after the address. -/
def Entry.ofArray? : List Toml.Item → Option Entry
  | [] => none
  | [ip] => do return ⟨← itemText? ip, "", ""⟩
  | [ip, mac] => do return ⟨← itemText? ip, ← itemText? mac, ""⟩
  | ip :: mac :: nickname :: _ => do
      return ⟨← itemText? ip, ← itemText? mac, ← itemText? nickname⟩

def Entry.ofItem? : Toml.Item → Option Entry
  | .braced entries => Entry.ofTable? entries
  | .table _ entries => Entry.ofTable? entries
  | .array items => Entry.ofArray? items
  | _ => none

def entriesOf? (t : Toml.Table) : Option (List Entry) :=
  match t.get? "endpoint" with
  | none => some []
  | some (.array items) => items.mapM Entry.ofItem?
  | some (.tables elements) => elements.mapM Entry.ofTable?
  | some _ => none

def add (b : AddressBook) (e : Entry) : Attempt BookError AddressBook :=
  match IpAddress.ofString? e.ip with
  | none => ⟨.error (.noAddress e.ip), []⟩
  | some ip =>
      ⟨.ok (b.insert ip ⟨e.mac, e.nickname⟩),
        if (b.get? ip).isSome then [.endpointReplaced ip] else []⟩

def addAll (b : AddressBook) : List Entry → Attempt BookError AddressBook
  | [] => return b
  | e :: es => do (← b.add e).addAll es

def ofEntries (es : List Entry) : Attempt BookError AddressBook := do
  let b ← empty.addAll es
  Logged.tell [.bookLoaded b.size]
  return b

def ofText (s : String) : Attempt BookError AddressBook :=
  match (Toml.Table.ofString? s).bind entriesOf? with
  | none => ⟨.error .malformed, []⟩
  | some es => ofEntries es

def ofFile (files : Files) (path : String) : Attempt BookError AddressBook :=
  match files.text? path with
  | none => ⟨.error .unreadable, []⟩
  | some s => ofText s

def ofToml (s : String) : Except BookError (Logged AddressBook) :=
  (ofText s).settled

def load (files : Files) (path : String) : Except BookError (Logged AddressBook) :=
  (ofFile files path).settled

end AddressBook

end DnsView
