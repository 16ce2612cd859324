import Befunge.Cell
import Befunge.Position

/-!
What can go wrong, where it went wrong, and the text of both.
-/
set_option autoImplicit false

namespace Befunge

inductive Cause where
  | outOfBounds (x y : Value)
  -- A run was given `limit` steps and did not halt within them.
  | stepLimit (limit : UInt64)
  | serialization (detail : String)
  | io (detail : String)
  | internal (detail : String)
deriving DecidableEq, Repr

namespace Cause

def message : Cause → String
  | .outOfBounds x y =>
      "grid access out of bounds: (" ++ toString x.toInt ++ ", " ++ toString y.toInt ++ ")"
  | .stepLimit limit =>
      "step limit exceeded: program did not halt within " ++ toString limit.toNat ++ " steps"
  | .serialization detail => "serialization error: " ++ detail
  | .io detail => "i/o error: " ++ detail
  | .internal detail => "internal error: " ++ detail

end Cause

-- The circumstances of an error, as far as they are known.
structure Context where
  source : Option String := none
  position : Option Position := none
  steps : Option UInt64 := none
deriving DecidableEq, Repr, Inhabited

namespace Context

def render (c : Context) : String :=
  " ".intercalate <|
    (c.source.map ("in " ++ ·)).toList ++
    (c.position.map ("at " ++ ·.render)).toList ++
    (c.steps.map fun n => "after " ++ toString n.toNat ++ " steps").toList

end Context

structure Error where
  cause : Cause
  context : Option Context := none
deriving DecidableEq, Repr

namespace Error

def message (e : Error) : String :=
  e.cause.message

-- The message, with the circumstances in brackets behind it.
def describe (e : Error) : String :=
  match e.context with
  | some context => e.message ++ " (" ++ context.render ++ ")"
  | none => e.message

def labelled (name : Option String) (e : Error) : Error :=
  match name with
  | some name => { e with context := some { e.context.getD {} with source := some name } }
  | none => e

end Error

end Befunge
