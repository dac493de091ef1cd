import DnsView.View.Basic
import DnsView.Net.Addresses

/-!
# Events

What happens in the course of an operation, besides its result.  Events are data: an operation
returns those it gives rise to, in order, and whoever runs it decides which to show.
-/

namespace DnsView

inductive Level where
  | error | warn | info | debug | trace
deriving DecidableEq, Repr

namespace Level

def rank : Level → Nat
  | error => 0
  | warn => 1
  | info => 2
  | debug => 3
  | trace => 4

/-- The name of a level as it is given in settings. -/
def name : Level → String
  | error => "error"
  | warn => "warn"
  | info => "info"
  | debug => "debug"
  | trace => "trace"

/-- The name of a level as it is shown with events. -/
def label : Level → String
  | error => "ERROR"
  | warn => "WARN"
  | info => "INFO"
  | debug => "DEBUG"
  | trace => "TRACE"

def all : List Level := [trace, debug, info, warn, error]

def ofName? (s : String) : Option Level :=
  all.find? fun l => l.name = s

end Level

inductive Event where
  /-- A record or mapping could not be converted and was left out. -/
  | recordDropped (part : Section) (index : Nat) (error : CodecError)
  /-- An address book names an address once more. -/
  | endpointReplaced (ip : IpAddress)
  | bookLoaded (endpoints : Nat)
  | bookUsed (path : String) (endpoints : Nat)
  | baselineStored (fingerprint : Fingerprint)
  | viewBuilt (id : UInt16) (client : String) (questions records dropped : Nat)
  | messageRebuilt (id : UInt16) (questions records dropped : Nat)
  | editsApplied (modified : Bool) (id : UInt16)
deriving DecidableEq, Repr

namespace Event

def level : Event → Level
  | recordDropped .. => .error
  | endpointReplaced _ => .warn
  | bookLoaded _ => .debug
  | bookUsed .. => .info
  | baselineStored _ => .trace
  | viewBuilt .. => .debug
  | messageRebuilt .. => .debug
  | editsApplied .. => .info

def message : Event → String
  | recordDropped .. => "Failed to convert resource record"
  | endpointReplaced _ => "Duplicate address book entry, keeping the last one"
  | bookLoaded _ => "Address book loaded"
  | bookUsed .. => "Using address book"
  | baselineStored _ => "Stored script view baseline"
  | viewBuilt .. => "Built script view of DNS message"
  | messageRebuilt .. => "Rebuilt DNS message from script view"
  | editsApplied .. => "Script edits applied"

def details : Event → List (String × Json)
  | recordDropped part index error =>
      [("section", .text part.label), ("index", .integer index), ("error", .text error.message)]
  | endpointReplaced ip => [("ip", .text ip.text)]
  | bookLoaded endpoints => [("endpoints", .integer endpoints)]
  | bookUsed path endpoints => [("path", .text path), ("endpoints", .integer endpoints)]
  | baselineStored fingerprint => [("fingerprint", .text fingerprint.text)]
  | viewBuilt id client questions records dropped =>
      [("id", .ofUInt16 id), ("client", .text client), ("questions", .integer questions),
        ("records", .integer records), ("dropped", .integer dropped)]
  | messageRebuilt id questions records dropped =>
      [("id", .ofUInt16 id), ("questions", .integer questions), ("records", .integer records),
        ("dropped", .integer dropped)]
  | editsApplied modified id => [("modified", .boolean modified), ("id", .ofUInt16 id)]

def toJson (e : Event) : Json :=
  .object (("level", .text e.level.label) :: ("message", .text e.message) :: e.details)

end Event

/-- A result together with the events that led to it, in order. -/
structure Logged (α : Type) where
  result : α
  events : List Event

namespace Logged

instance : Monad Logged where
  pure a := ⟨a, []⟩
  bind x f :=
    let y := f x.result
    ⟨y.result, x.events ++ y.events⟩

def tell (events : List Event) : Logged Unit := ⟨(), events⟩

end Logged

/-- What comes of a step that may fail, and the events up to its end or to its failure. -/
structure Attempt (ε α : Type) where
  outcome : Except ε α
  events : List Event

namespace Attempt

variable {ε ε' α : Type}

instance : Monad (Attempt ε) where
  pure a := ⟨.ok a, []⟩
  bind x f :=
    match x.outcome with
    | .error e => ⟨.error e, x.events⟩
    | .ok a => ⟨(f a).outcome, x.events ++ (f a).events⟩

instance : MonadLift (Except ε) (Attempt ε) where
  monadLift x := ⟨x, []⟩

instance : MonadLift Logged (Attempt ε) where
  monadLift x := ⟨.ok x.result, x.events⟩

def mapError (f : ε → ε') (x : Attempt ε α) : Attempt ε' α :=
  ⟨x.outcome.mapError f, x.events⟩

/-- The result with its events, or the failure alone. -/
def settled (x : Attempt ε α) : Except ε (Logged α) :=
  x.outcome.map fun a => ⟨a, x.events⟩

end Attempt

end DnsView
