import DnsView.Event
import DnsView.AddressBook

/-!
# From messages to views and back

A session holds the view of a message while a script works on it, and the fingerprint that the view
had when it was last taken as the baseline.  Records that cannot be converted are left out in
either direction; each is reported with its section and its place there.

The sections are converted in the order answers, additional records, authorities, and reports and
events follow that order.
-/

namespace DnsView

structure Failure where
  part : Section
  index : Nat
  error : CodecError
deriving DecidableEq, Repr

structure Report where
  failures : List Failure
deriving DecidableEq, Repr

namespace Report

def isClean (r : Report) : Bool := r.failures.isEmpty

def failuresIn (r : Report) (part : Section) : List Failure :=
  r.failures.filter fun f => f.part = part

end Report

structure Converted (α : Type) where
  results : List α
  failures : List Failure

/-- Converts the elements of a section, the first of which has the given place. -/
def convertFrom {α β : Type} (part : Section) (convert : α → Except CodecError β) (index : Nat) :
    List α → Converted β
  | [] => ⟨[], []⟩
  | a :: as =>
      let rest := convertFrom part convert (index + 1) as
      match convert a with
      | .ok b => ⟨b :: rest.results, rest.failures⟩
      | .error e => ⟨rest.results, ⟨part, index, e⟩ :: rest.failures⟩

def convertSection {α β : Type} (part : Section) (convert : α → Except CodecError β)
    (as : List α) : Converted β :=
  convertFrom part convert 0 as

def Failure.event (f : Failure) : Event := .recordDropped f.part f.index f.error

/-- A view that a script works on, and the fingerprint of its baseline if there is one. -/
structure Session where
  view : View
  baseline : Option Fingerprint

namespace Session

def ofView (v : View) : Session := ⟨v, none⟩

def updateBaseline (s : Session) : Logged Session := do
  let f := s.view.fingerprint
  Logged.tell [.baselineStored f]
  return { s with baseline := some f }

/-- Whether the view differs from its baseline; without a baseline it does. -/
def isModified (s : Session) : Bool :=
  s.baseline ≠ some s.view.fingerprint

instance : Coe View Session :=
  ⟨ofView⟩

/-- Takes over all that a script sees of an edited session, and keeps the baseline. -/
def apply (s edited : Session) : Session :=
  { s with
    view :=
      { answers := edited.view.answers
        client := edited.view.client
        compress := edited.view.compress
        extras := edited.view.extras
        header := edited.view.header
        nameservers := edited.view.nameservers
        questions := edited.view.questions } }

@[simp]
theorem view_apply (s edited : Session) : (s.apply edited).view = edited.view :=
  rfl

@[simp]
theorem baseline_apply (s edited : Session) : (s.apply edited).baseline = s.baseline :=
  rfl

end Session

namespace View

/-- The view of a message from a client, whose device is looked up, and what it leaves out. -/
def ofMessage (m : Message) (client : String) (lookup : Lookup) : View × Report :=
  let answers := convertSection .answer Record.toMapping m.answers
  let extras := convertSection .additional Record.toMapping m.additionals
  let nameservers := convertSection .authority Record.toMapping m.authorities
  let endpoint := (lookup client).getD default
  ({ answers := answers.results
     client := ⟨client, endpoint.mac, endpoint.nickname⟩
     compress := m.compress
     extras := extras.results
     header := .ofWire m.header
     nameservers := nameservers.results
     questions := m.questions.map Question.toMapping },
    ⟨answers.failures ++ extras.failures ++ nameservers.failures⟩)

def toMessage (v : View) : Message × Report :=
  let answers := convertSection .answer Record.ofMapping v.answers
  let additionals := convertSection .additional Record.ofMapping v.extras
  let authorities := convertSection .authority Record.ofMapping v.nameservers
  ({ header := v.header.toWire
     questions := v.questions.map Question.ofMapping
     answers := answers.results
     authorities := authorities.results
     additionals := additionals.results
     compress := v.compress },
    ⟨answers.failures ++ additionals.failures ++ authorities.failures⟩)

end View

namespace Session

/-- The session of a fresh view of a message, which is its own baseline. -/
def ofMessage (m : Message) (client : String) (lookup : Lookup) :
    Logged (Session × Report) := do
  let (v, report) := View.ofMessage m client lookup
  Logged.tell (report.failures.map Failure.event)
  let s ← (Session.ofView v).updateBaseline
  Logged.tell [.viewBuilt v.header.id v.client.ip v.questions.length v.recordCount
    report.failures.length]
  return (s, report)

def toMessage (s : Session) : Logged (Message × Report) := do
  let (m, report) := s.view.toMessage
  Logged.tell (report.failures.map Failure.event)
  Logged.tell [.messageRebuilt m.header.id m.questions.length m.recordCount
    report.failures.length]
  return (m, report)

end Session

end DnsView
