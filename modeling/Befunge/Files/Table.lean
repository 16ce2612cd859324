import Befunge.Files.Access

/-!
The files that a program is given and that sessions are saved to: a table from routes to contents.
A path leads from the working directory or, if it starts with `/`, from the root, with `/` between
its names. A directory is there as long as a file is in it; the working directory, those above it and
the root are always there, and what else lies in those is taken to be nothing.
-/
set_option autoImplicit false

namespace Befunge

-- The names on the way from the working directory to a file or directory. A directory above the
-- working directory is reached by `..` once for each level, and the root by `/`.
abbrev Route := List String

structure Files where
  -- The files, each at its route.
  entries : List (Route × Bytes) := []
deriving DecidableEq, Repr, Inhabited

namespace Files

def empty : Files := {}

def find? (route : Route) (files : Files) : Option Bytes :=
  (files.entries.find? (·.1 == route)).map Prod.snd

def isDirectory (route : Route) (files : Files) : Bool :=
  files.entries.any fun entry => route.isPrefixOf entry.1 && entry.1 != route

def write (route : Route) (bytes : Bytes) (files : Files) : Files :=
  ⟨(route, bytes) :: files.entries.filter (·.1 != route)⟩

def names (path : String) : List String :=
  ((path.toList.splitOn '/').filter (!·.isEmpty)).map String.ofList

-- The longest name and the longest path, in bytes, that a directory can hold or lead to.
def maxName : Nat := 255

def maxPath : Nat := 4095

def root : Route := ["/"]

-- The directory that holds the one at the route. The root holds itself.
def above (route : Route) : Route :=
  match route.getLast? with
  | none | some ".." => route ++ [".."]
  | some "/" => route
  | some _ => route.dropLast

inductive Found where
  | directory
  | file (bytes : Bytes)
  | absent
deriving DecidableEq, Repr

def lookUp (files : Files) (directory : Route) (name : String) : Except FileFault Found :=
  if maxName < name.utf8ByteSize then .error .nameTooLong
  else if files.isDirectory (directory ++ [name]) then .ok .directory
  else match files.find? (directory ++ [name]) with
    | some bytes => .ok (.file bytes)
    | none => .ok .absent

def enter (files : Files) (directory : Route) (name : String) : Except FileFault Route :=
  if name = "." then .ok directory
  else if name = ".." then .ok (above directory)
  else match files.lookUp directory name with
    | .error fault => .error fault
    | .ok .directory => .ok (directory ++ [name])
    | .ok (.file _) => .error .notDirectory
    | .ok .absent => .error .missing

-- What a path comes to before its last name is looked up.
inductive Ending where
  -- A directory, because the path ends in `.` or `..` or has no names.
  | directory
  -- A name in the directory at the route.
  | named (directory : Route) (name : String)
deriving DecidableEq, Repr

def follow (files : Files) : Route → List String → Except FileFault Ending
  | _, [] => .ok .directory
  | directory, [name] =>
      if name = "." ∨ name = ".." then .ok .directory else .ok (.named directory name)
  | directory, name :: rest =>
      match files.enter directory name with
      | .error fault => .error fault
      | .ok directory => follow files directory rest

def ending (path : String) (files : Files) : Except FileFault Ending :=
  if path.toList.contains '\x00' then .error .nulInPath
  else if path.isEmpty then .error .missing
  else if maxPath < path.utf8ByteSize then .error .nameTooLong
  else files.follow (if path.toList.head? = some '/' then root else []) (names path)

def endsInSlash (path : String) : Bool :=
  path.toList.getLast? == some '/'

def openRead (path : String) (files : Files) : Except FileFault Opened :=
  match files.ending path with
  | .error fault => .error fault
  | .ok .directory => .ok .directory
  | .ok (.named directory name) =>
      match files.lookUp directory name with
      | .error fault => .error fault
      | .ok .directory => .ok .directory
      | .ok .absent => .error .missing
      | .ok (.file bytes) => if endsInSlash path then .error .notDirectory else .ok (.file bytes)

-- The route of the file that a path creates or replaces. A path that asks for a directory is
-- refused before its last name is looked up.
def openWrite (path : String) (files : Files) : Except FileFault Route :=
  match files.ending path with
  | .error fault => .error fault
  | .ok .directory => .error .isDirectory
  | .ok (.named directory name) =>
      if endsInSlash path then .error .isDirectory
      else match files.lookUp directory name with
        | .error fault => .error fault
        | .ok .directory => .error .isDirectory
        | .ok (.file _) | .ok .absent => .ok (directory ++ [name])

def perform {α : Type} (files : Files) : Access α → α × Files
  | .done a => (a, files)
  | .read path next => (next (files.openRead path), files)
  | .write path bytes next =>
      match files.openWrite path with
      | .error fault => (next (some fault), files)
      | .ok route => (next none, files.write route bytes)

end Files

end Befunge
