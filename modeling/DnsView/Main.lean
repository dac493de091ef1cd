import DnsView.Command.Run

/-!
# The program

Looks up the environment and the files that a command line is about, and carries out what the run
comes to.  What happens on the way is told on the error stream, one JSON text a line, down to the
level of the settings: a filter of events that the environment may set besides is not modelled.

Arguments and paths are texts, and where they are not Unicode nothing is said about a run.
-/

namespace DnsView

def readEnvironment : IO Environment := do
  let read (name : String) : IO (String × Option ByteArray) := do
    return (name, (← IO.getEnv name).map String.toUTF8)
  let values ← Settings.variableNames.mapM read
  return ⟨fun name => (values.lookup name).join⟩

def attempt? {α : Type} (action : IO α) : IO (Option α) := do
  try
    return some (← action)
  catch _ =>
    return none

/-- A file is what is there without being a folder, whether or not it can be read. -/
def isFile (path : String) : IO Bool := do
  let there ← attempt? (IO.FS.realPath path)
  let within ← attempt? (IO.FS.realPath (path ++ "/."))
  return there.isSome && within.isNone

def readFiles (paths : List String) : IO Files := do
  let found ← paths.filterM isFile
  let contents ← paths.mapM fun path : String => do
    return (path, ← attempt? (IO.FS.readBinFile path))
  return {
    isFile := found.contains
    content? := fun path => (contents.lookup path).join }

def pathsOf (args : List String) (environment : Environment) : List String :=
  match Request.ofArguments args with
  | .error _ => []
  | .ok r => r.paths ++ (r.settings environment).addressBook.toList

def tellEvent (s : Settings) (e : Event) : IO Unit :=
  if s.tells e.level then IO.eprintln e.toJson.compact else return

def conclude (outcome : Outcome) : IO UInt32 := do
  IO.print outcome.output
  IO.eprint outcome.diagnostics
  return outcome.status

end DnsView

open DnsView in
def main (args : List String) : IO UInt32 := do
  let environment ← readEnvironment
  let files ← readFiles (pathsOf args environment)
  let run := Outcome.ofRun args environment files
  let s := Settings.ofEnvironment environment
  run.events.forM (tellEvent s)
  conclude run.result
