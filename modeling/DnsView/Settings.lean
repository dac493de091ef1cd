import DnsView.Event
import DnsView.Files.Tree
import DnsView.Text.Characters
import DnsView.Text.Lowercase

/-!
# Settings

How a run is set up: how much of what happens is told, which address book is used, and how the
result is laid out.  Settings come from environment variables; an address book that is named
outright takes the place of the one from the environment.

Settings are checked as a whole, the level before the address book.
-/

namespace DnsView

structure Settings where
  /-- The name of the least severe level that is told. -/
  logLevel : String
  addressBook : Option String
  prettyOutput : Bool
deriving DecidableEq, Repr

inductive SettingsError where
  | logLevel (name : String)
  | addressBook (path : String)
deriving DecidableEq, Repr

namespace SettingsError

def notAFile (path : String) : String := path ++ " is not a readable file"

def message : SettingsError → String
  | logLevel name => "Invalid log level: " ++ name
  | addressBook path => "Invalid address book path: " ++ notAFile path

def described : SettingsError → String
  | logLevel name => "InvalidLogLevel(" ++ Text.quote name ++ ")"
  | addressBook path => "InvalidAddressBook(" ++ Text.quote (notAFile path) ++ ")"

end SettingsError

namespace Settings

def standard : Settings where
  logLevel := "info"
  addressBook := none
  prettyOutput := true

/-- A level as it is meant: without white space around it, in small letters. -/
def cleanLevel (s : String) : String :=
  Text.lowercase (String.ofList (Text.trimBlanks s.toList))

def flag? (s : String) : Option Bool :=
  let s := Text.lowercase s
  if s = "true" ∨ s = "1" ∨ s = "yes" ∨ s = "on" then some true
  else if s = "false" ∨ s = "0" ∨ s = "no" ∨ s = "off" then some false
  else none

def logLevelVariable : String := "DNSBRIDGE_LOG_LEVEL"

def addressBookVariable : String := "DNSBRIDGE_ADDRESS_BOOK"

def prettyOutputVariable : String := "DNSBRIDGE_PRETTY_OUTPUT"

def variableNames : List String := [logLevelVariable, addressBookVariable, prettyOutputVariable]

def ofEnvironment (environment : Environment) : Settings where
  logLevel :=
    match environment.text? logLevelVariable with
    | some s => cleanLevel s
    | none => standard.logLevel
  addressBook := (environment.text? addressBookVariable).filter (· ≠ "")
  prettyOutput :=
    ((environment.text? prettyOutputVariable).bind flag?).getD standard.prettyOutput

def withAddressBook (s : Settings) (path : Option String) : Settings :=
  { s with addressBook := path <|> s.addressBook }

def tells (s : Settings) (l : Level) : Bool :=
  match Level.ofName? s.logLevel with
  | some least => l.rank ≤ least.rank
  | none => false

def error? (s : Settings) (files : Files) : Option SettingsError :=
  if (Level.ofName? s.logLevel).isNone then some (.logLevel s.logLevel)
  else
    match s.addressBook with
    | none => none
    | some path => if files.isFile path then none else some (.addressBook path)

/-- The settings of a run, given the address book that is named outright. -/
def load (environment : Environment) (files : Files) (path : Option String) :
    Except SettingsError Settings :=
  let s := (ofEnvironment environment).withAddressBook path
  match s.error? files with
  | some e => throw e
  | none => return s

end Settings

end DnsView
