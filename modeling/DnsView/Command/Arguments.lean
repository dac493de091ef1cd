/-!
# The command line

The tasks and options of the program, the help that describes them, and how the arguments of a run
are read.  Arguments are texts: what is not Unicode is outside of what is modelled.
-/

/-!
## What the command line offers

The tasks of the program and the options that take a value, with the names and descriptions under
which they are offered.
-/

namespace DnsView

inductive Task where
  | inspect
  | apply
deriving DecidableEq, Repr

namespace Task

def all : List Task := [inspect, apply]

def name : Task → String
  | inspect => "inspect"
  | apply => "apply"

def ofName? (s : String) : Option Task :=
  all.find? fun t => t.name = s

def about : Task → String
  | inspect => "Print the script view of a message"
  | apply => "Apply a script's edited view and print the message to forward"

end Task

inductive Parameter where
  | addressBook
  | message
  | edits
  | client
deriving DecidableEq, Repr

namespace Parameter

def long : Parameter → String
  | addressBook => "address-book"
  | message => "message"
  | edits => "edits"
  | client => "client"

def short? : Parameter → Option Char
  | addressBook => none
  | message => some 'm'
  | edits => some 'e'
  | client => some 'c'

def valueName : Parameter → String
  | client => "IP"
  | _ => "FILE"

def about : Parameter → String
  | addressBook =>
      "TOML address book used to resolve the client (overrides DNSBRIDGE_ADDRESS_BOOK)"
  | message => "Decoded DNS message as JSON"
  | edits => "Script view as handed back by the script, as JSON"
  | client => "Address of the client that sent the message"

/-- Whether an option takes a value.  The name of a file is not empty. -/
def accepts (p : Parameter) (value : String) : Bool :=
  p = client || value ≠ ""

end Parameter

/-- A part of the command line with options of its own. -/
inductive Scope where
  | program
  | task (t : Task)
deriving DecidableEq, Repr

namespace Scope

def required : Scope → List Parameter
  | program => []
  | task .inspect => [.message, .client]
  | task .apply => [.message, .edits, .client]

def parameters (s : Scope) : List Parameter :=
  .addressBook :: s.required

def hasVersion (s : Scope) : Bool := s = program

def ofLong? (s : Scope) (name : String) : Option Parameter :=
  s.parameters.find? fun p => p.long = name

def ofShort? (s : Scope) (name : Char) : Option Parameter :=
  s.parameters.find? fun p => p.short? = some name

end Scope

/-!
## Help texts

What is printed for whoever asks for help or for the version: a sentence, how the command line is
built, and tables of tasks and options in two columns.
-/

inductive Topic where
  | scope (s : Scope)
  | help
deriving DecidableEq, Repr

namespace Help

def program : String := "dnsbridge"

def version : String := program ++ " 0.1.0\n"

def aboutHelp : String := "Print this message or the help of the given subcommand(s)"

/-- A table of two columns, the second of which begins two places after the longest first entry. -/
def table (rows : List (String × String)) : List String :=
  let width := rows.foldl (fun w row => max w row.1.length) 0
  rows.map fun (left, right) =>
    "  " ++ left ++ String.ofList (List.replicate (width - left.length + 2) ' ') ++ right

def valued (p : Parameter) : String :=
  "--" ++ p.long ++ " <" ++ p.valueName ++ ">"

def parameterRow (p : Parameter) : String × String :=
  let short :=
    match p.short? with
    | some c => String.ofList ['-', c, ',', ' ']
    | none => "    "
  (short ++ valued p, p.about)

def options (s : Scope) : List (String × String) :=
  s.parameters.map parameterRow ++ [("-h, --help", "Print help")] ++
    (if s.hasVersion then [("-V, --version", "Print version")] else [])

def tasks : List (String × String) :=
  Task.all.map (fun t => (t.name, t.about)) ++ [("help", aboutHelp)]

def titled (title : String) (lines : List String) : List String :=
  "" :: (title ++ ":") :: lines

def lines : Topic → List String
  | .scope .program =>
      ["Expose decoded DNS messages to scripts and rebuild them after edits", "",
        "Usage: " ++ program ++ " [OPTIONS] <COMMAND>"] ++
      titled "Commands" (table tasks) ++ titled "Options" (table (options .program))
  | .scope (.task t) =>
      [t.about, "",
        "Usage: " ++ " ".intercalate
          ([program, t.name, "[OPTIONS]"] ++ (Scope.task t).required.map valued)] ++
      titled "Options" (table (options (.task t)))
  | .help =>
      [aboutHelp, "", "Usage: " ++ program ++ " help [COMMAND]..."] ++
      titled "Arguments" (table [("[COMMAND]...", "Print help for the subcommand(s)")])

def text (t : Topic) : String :=
  String.join ((lines t).map (· ++ "\n"))

end Help

/-!
## Reading the command line

Arguments are read from left to right.  The first that cannot be right ends the reading, and so does
the first that asks for help or for the version.

An option takes its value from the same argument or from the next one; what begins with a minus and
goes on is never the next value of an option.  No option is given twice in one part of the command
line.  The address book can be named before the task and after it, and then the latter counts.
-/

inductive Work where
  | inspect
  | apply (edits : String)
deriving DecidableEq, Repr

structure Request where
  addressBook : Option String
  message : String
  client : String
  work : Work
deriving DecidableEq, Repr

/-- Why a command line asks for no work. -/
inductive Stop where
  | misuse
  | help (t : Topic)
  | version
deriving DecidableEq, Repr

namespace Request

/-! ### Single arguments -/

inductive Token where
  | help
  | version
  | parameter (p : Parameter) (attached : Option String)
  /-- Two minuses: only words follow. -/
  | onlyWords
  /-- What begins like an option but is none. -/
  | unknown
  | word
deriving DecidableEq, Repr

def splitLong (cs : List Char) : String × Option String :=
  let name := String.ofList (cs.takeWhile (· ≠ '='))
  match cs.dropWhile (· ≠ '=') with
  | [] => (name, none)
  | _ :: value => (name, some (String.ofList value))

def attachedValue : List Char → Option String
  | [] => none
  | '=' :: value => some (String.ofList value)
  | value => some (String.ofList value)

def longToken (s : Scope) (cs : List Char) : Token :=
  match splitLong cs with
  | ("help", none) => .help
  | ("version", none) => if s.hasVersion then .version else .unknown
  | (name, attached) =>
      match s.ofLong? name with
      | some p => .parameter p attached
      | none => .unknown

def shortToken (s : Scope) : Char → List Char → Token
  | 'h', _ => .help
  | 'V', _ => if s.hasVersion then .version else .unknown
  | c, rest =>
      match s.ofShort? c with
      | some p => .parameter p (attachedValue rest)
      | none => .unknown

def token (s : Scope) (arg : String) : Token :=
  match arg.toList with
  | ['-', '-'] => .onlyWords
  | '-' :: '-' :: cs => longToken s cs
  | '-' :: c :: cs => shortToken s c cs
  | _ => .word

/-! ### Options -/

abbrev Given := List (Parameter × String)

/-- The options with a further one, which has to be new and to take its value. -/
def give (given : Given) (p : Parameter) (value : String) : Except Stop Given :=
  if (given.lookup p).isSome || !p.accepts value then throw .misuse
  else return (p, value) :: given

def readTask (t : Task) (given : Given) : List String → Except Stop Given
  | [] => return given
  | arg :: rest =>
      match token (.task t) arg with
      | .help => throw (.help (.scope (.task t)))
      | .parameter p (some value) => do readTask t (← give given p value) rest
      | .parameter p none =>
          match rest with
          | [] => throw .misuse
          | next :: rest =>
              if token (.task t) next = .word then do readTask t (← give given p next) rest
              else throw .misuse
      | .onlyWords => if rest = [] then return given else throw .misuse
      | _ => throw .misuse

def need (given : Given) (p : Parameter) : Except Stop String :=
  match given.lookup p with
  | some value => return value
  | none => throw .misuse

def ofTask (t : Task) (args : List String) : Except Stop Request := do
  let given ← readTask t [] args
  let message ← need given .message
  let work ←
    match t with
    | .inspect => pure Work.inspect
    | .apply => Work.apply <$> need given .edits
  let client ← need given .client
  return ⟨given.lookup .addressBook, message, client, work⟩

/-! ### The whole command line -/

def helpOn : List String → Stop
  | [] => .help (.scope .program)
  | ["help"] => .help .help
  | [name] =>
      match Task.ofName? name with
      | some t => .help (.scope (.task t))
      | none => .misuse
  | _ => .misuse

/-- The options with one whose value stood in an argument of its own, if there is one. -/
def settle (given : Given) : Option (Parameter × String) → Except Stop Given
  | none => return given
  | some (p, value) => give given p value

/--
The request of a command line, given the options before the task.  The value of an option that
stands right before the task is looked at after the task.
-/
def readProgram (given : Given) (pending : Option (Parameter × String)) :
    List String → Except Stop Request
  | [] => throw .misuse
  | arg :: rest =>
      match token .program arg with
      | .help => do
          let _ ← settle given pending
          throw (.help (.scope .program))
      | .version => do
          let _ ← settle given pending
          throw .version
      | .parameter p (some value) => do
          let given ← settle given pending
          readProgram (← give given p value) none rest
      | .parameter p none =>
          match rest with
          | [] => throw .misuse
          | next :: rest =>
              if token .program next = .word then do
                readProgram (← settle given pending) (some (p, next)) rest
              else throw .misuse
      | .word =>
          if arg = "help" then throw (helpOn rest)
          else
            match Task.ofName? arg with
            | none => throw .misuse
            | some t => do
                let r ← ofTask t rest
                let given ← settle given pending
                return { r with addressBook := r.addressBook <|> given.lookup .addressBook }
      | _ => throw .misuse

def ofArguments (args : List String) : Except Stop Request :=
  readProgram [] none args

end Request

end DnsView
