import Befunge.Source

/-!
Access to files, without saying which: something is to be read from a path or written to it, and
what follows depends on how that goes.
-/
set_option autoImplicit false

namespace Befunge

inductive FileFault where
  | missing
  | notDirectory
  | isDirectory
  | nameTooLong
  -- The path holds the character U+0000.
  | nulInPath
  | other (message : String)
deriving DecidableEq, Repr

namespace FileFault

def message : FileFault → String
  | .missing => "No such file or directory (os error 2)"
  | .notDirectory => "Not a directory (os error 20)"
  | .isDirectory => "Is a directory (os error 21)"
  | .nameTooLong => "File name too long (os error 36)"
  | .nulInPath => "file name contained an unexpected NUL byte"
  | .other message => message

end FileFault

inductive Opened where
  | file (bytes : Bytes)
  -- A directory can be opened, but not read.
  | directory
deriving DecidableEq, Repr

inductive Access (α : Type) where
  | done (result : α)
  | read (path : String) (next : Except FileFault Opened → α)
  -- Make the bytes the content of the file at the path; `next` learns of the fault, if there is
  -- one.
  | write (path : String) (bytes : Bytes) (next : Option FileFault → α)

namespace Access

def map {α β : Type} (f : α → β) : Access α → Access β
  | .done a => .done (f a)
  | .read path next => .read path (f ∘ next)
  | .write path bytes next => .write path bytes (f ∘ next)

end Access

end Befunge
