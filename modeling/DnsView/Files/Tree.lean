/-!
# Files and folders

Files are known by their paths, which are texts: names of files that are not Unicode are outside of
what is modelled, and so are such arguments.

The program takes its files from the system and needs no trees of folders.  These stand in for the
system where the program is run on files that are given as data.
-/

/-!
## Files and settings from outside

What a run gets to know of the world around it: which paths are those of files and what these hold,
and the values of environment variables by their names.  Contents and values are bytes, which may or
may not be text.
-/

namespace DnsView

/--
The files by their paths: whether there is one, and what it holds if it can be read.  A file may be
there and yet not be readable.
-/
structure Files where
  isFile : String → Bool
  content? : String → Option ByteArray

namespace Files

def text? (files : Files) (path : String) : Option String :=
  (files.content? path).bind String.fromUTF8?

end Files

structure Environment where
  value? : String → Option ByteArray

/-- The text that a variable holds; a variable that holds other bytes counts as absent. -/
def Environment.text? (environment : Environment) (name : String) : Option String :=
  (environment.value? name).bind String.fromUTF8?

/-!
## Trees of folders

Folders that hold files and further folders, and what a path leads to in them.  A path is a sequence
of names with slashes between them.  An empty name and the name of one point stay in the folder
where they stand; the name of two points leads to the folder around it.  Every name but the last
has to lead to a folder, and nothing lies outside the outermost one.
-/

inductive Tree where
  | file (content : ByteArray)
  | folder (entries : List (String × Tree))

namespace Tree

def empty : Tree := .folder []

def entries : Tree → List (String × Tree)
  | .file _ => []
  | .folder es => es

def names : List Char → List (List Char)
  | [] => [[]]
  | '/' :: path => [] :: names path
  | c :: path =>
      match names path with
      | [] => [[c]]
      | name :: rest => (c :: name) :: rest

/-! ### Building trees -/

def setEntry (name : String) (t : Tree) : List (String × Tree) → List (String × Tree)
  | [] => [(name, t)]
  | (n, u) :: rest => if n = name then (n, t) :: rest else (n, u) :: setEntry name t rest

def change (f : Option Tree → Tree) : List String → Option Tree → Tree
  | [], t => f t
  | name :: path, t =>
      let es := (t.getD empty).entries
      .folder (setEntry name (change f path (es.lookup name)) es)

/-- The names that lead somewhere else than where they stand. -/
def steps (path : String) : List String :=
  ((names path.toList).filter fun n => n ≠ [] ∧ n ≠ ['.']).map String.ofList

def makeFolder (path : String) (t : Tree) : Tree :=
  change (·.getD empty) (steps path) (some t)

def write (path : String) (content : ByteArray) (t : Tree) : Tree :=
  change (fun _ => .file content) (steps path) (some t)

/-! ### Following paths -/

/-- What some names lead to from a folder, given the folders around it from the inside out. -/
def follow : List Tree → Tree → List (List Char) → Option Tree
  | _, t, [] => some t
  | _, .file _, _ :: _ => none
  | around, .folder es, name :: rest =>
      if name = [] ∨ name = ['.'] then follow around (.folder es) rest
      else if name = ['.', '.'] then
        match around with
        | [] => none
        | t :: around => follow around t rest
      else
        match es.lookup (String.ofList name) with
        | none => none
        | some t => follow (.folder es :: around) t rest

def pathLimit : Nat := 4096

/-- What a path leads to.  The empty path and a path from the root of everything lead nowhere. -/
def find? (t : Tree) (path : String) : Option Tree :=
  if path.utf8ByteSize < pathLimit then
    match path.toList with
    | [] => none
    | '/' :: _ => none
    | cs => follow [] t (names cs)
  else none

def content? : Tree → Option ByteArray
  | .file content => some content
  | .folder _ => none

def files (t : Tree) : Files where
  isFile path := ((t.find? path).bind content?).isSome
  content? path := (t.find? path).bind content?

end Tree

end DnsView
