import Befunge.Session.Basic

/-!
Images of sessions: what is saved of a session, and what a loaded one brings back.
-/
set_option autoImplicit false

namespace Befunge

structure Image where
  format : UInt32
  source : String
  name : Option String
  machine : Machine
  -- The breakpoints as they are listed; a list that was not made by a session may repeat some.
  breakpoints : List Position
deriving DecidableEq, Repr

namespace Image

def currentFormat : UInt32 := 2

def capture (s : Session) : Image :=
  { format := currentFormat
    source := s.source
    name := s.name
    machine := s.machine
    breakpoints := s.breakpoints.places }

-- The session with the image's program, machine and breakpoints in the place of its own. Its
-- history is dropped; configuration, limit and tracer are kept.
def apply (image : Image) (s : Session) : Session :=
  { (s.setProgram image.source image.name).restore image.machine with
    breakpoints := .ofList image.breakpoints }

end Image

end Befunge
