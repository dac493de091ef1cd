import DnsView.AddressBook
import DnsView.Command.Arguments
import DnsView.Message.Json
import DnsView.Settings
import DnsView.View.Basic
import DnsView.View.Session

/-!
# Running the program

A run reads the settings, the address book, the message, and for the second task the edits, in this
order.  The first of them that is not as it should be is the outcome.  After that nothing can fail:
what cannot be converted is left out and told.

A message that was not modified is passed on as it was read, with the records that no view shows.
-/

namespace DnsView

inductive DocumentError where
  /-- There is no such file, or it holds no text. -/
  | unreadable
  | malformed (e : Json.ReadError)
deriving DecidableEq

/-- Why a run fails, by the stage at which it does. -/
inductive RunError where
  | settings (e : SettingsError)
  | addressBook (e : BookError)
  | message (e : DocumentError)
  | edits (e : DocumentError)
deriving DecidableEq

namespace DocumentError

def report : DocumentError → String
  | unreadable => "the file cannot be read"
  | malformed e => e.report?.getD "the text is not JSON"

end DocumentError

namespace RunError

def described? : RunError → Option String
  | settings e => some e.described
  | addressBook e => e.described?
  | message _ => none
  | edits _ => none

def report : RunError → String
  | settings e => e.described
  | addressBook e => e.described?.getD "the address book cannot be read"
  | message e => e.report
  | edits e => e.report

end RunError

inductive Outcome where
  | printed (text : String)
  | misused
  | failed (e : RunError)
deriving DecidableEq

def Files.read {α : Type} (files : Files) (reader : Json.Reader α) (path : String) :
    Except DocumentError α :=
  match files.text? path with
  | none => throw .unreadable
  | some s => (Json.read reader s).mapError .malformed

namespace Settings

def spacing (s : Settings) : Json.Spacing :=
  if s.prettyOutput then .indented else .compact

def present (s : Settings) (j : Json) : String :=
  j.render s.spacing ++ "\n"

/-- The address book that is used; without a path it is empty. -/
def loadBook (s : Settings) (files : Files) : Attempt BookError AddressBook :=
  match s.addressBook with
  | none => return .empty
  | some path => do
      let book ← AddressBook.ofFile files path
      Logged.tell [.bookUsed path book.size]
      return book

end Settings

/-- What is passed on after edits: whether they modify the message, and the message itself. -/
structure Applied where
  modified : Bool
  message : Message

namespace Applied

def toJson (a : Applied) : Json :=
  .object [("modified", .boolean a.modified), ("message", a.message.toJson)]

def choose (m : Message) (s : Session) : Logged Applied :=
  if s.isModified then do
    let (m, _) ← s.toMessage
    return ⟨true, m⟩
  else return ⟨false, m⟩

def ofSession (m : Message) (s : Session) : Logged Applied := do
  let applied ← choose m s
  Logged.tell [.editsApplied applied.modified applied.message.header.id]
  return applied

end Applied

namespace Request

def run (r : Request) (s : Settings) (files : Files) : Attempt RunError Json := do
  let book ← (s.loadBook files).mapError RunError.addressBook
  let m ← (files.read Message.shape.read r.message).mapError RunError.message
  let (session, _) ← Session.ofMessage m r.client book
  match r.work with
  | .inspect => return session.view.toJson
  | .apply path =>
      let edited ← (files.read View.shape.read path).mapError RunError.edits
      return (← Applied.ofSession m (session.apply edited)).toJson

/-- The settings for a request, as yet unchecked. -/
def settings (r : Request) (environment : Environment) : Settings :=
  (Settings.ofEnvironment environment).withAddressBook r.addressBook

def print (r : Request) (environment : Environment) (files : Files) :
    Attempt RunError String := do
  let s ← (Settings.load environment files r.addressBook).mapError RunError.settings
  return s.present (← r.run s files)

def paths (r : Request) : List String :=
  r.message ::
    match r.work with
    | .inspect => []
    | .apply edits => [edits]

end Request

namespace Outcome

def output : Outcome → String
  | printed text => text
  | misused => ""
  | failed _ => ""

def diagnostics : Outcome → String
  | printed _ => ""
  | misused => Help.text (.scope .program)
  | failed e => "Error: " ++ e.report ++ "\n"

def status : Outcome → UInt32
  | printed _ => 0
  | misused => 2
  | failed _ => 1

def ofPrinting (printing : Attempt RunError String) : Logged Outcome where
  result :=
    match printing.outcome with
    | .error e => .failed e
    | .ok text => .printed text
  events := printing.events

def ofRun (args : List String) (environment : Environment) (files : Files) : Logged Outcome :=
  match Request.ofArguments args with
  | .error .misuse => return .misused
  | .error (.help t) => return .printed (Help.text t)
  | .error .version => return .printed Help.version
  | .ok r => ofPrinting (r.print environment files)

end Outcome

end DnsView
