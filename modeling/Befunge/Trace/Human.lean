import Befunge.Text.Binary64
import Befunge.Text.Quoted
import Befunge.Trace.Event

/-!
Trace records as lines for people.
-/
set_option autoImplicit false

namespace Befunge.Trace.Human

-- What stands in front of the event, besides the step number.
structure Columns where
  ids : Bool := false
  times : Bool := false
deriving DecidableEq, Repr, Inhabited

-- A time in the largest of the units second, millisecond and microsecond that it reaches. The two
-- larger ones are given with three decimals.
def duration (nanoseconds : UInt64) : String :=
  let us := nanoseconds.toNat / 1000
  if 1000000 ≤ us then (Text.binaryQuotient us 1000000).toThreeDecimals ++ "s"
  else if 1000 ≤ us then (Text.binaryQuotient us 1000).toThreeDecimals ++ "ms"
  else toString us ++ "us"

def event : Event → String
  | .step position cell instruction direction depth =>
      position.render ++ " " ++ Text.quotedChar cell ++ " " ++ instruction.name ++ " -> " ++
        direction.name ++ " (depth " ++ toString depth ++ ")"
  | .stringPush position value => position.render ++ " string-push " ++ toString value.toInt
  | .output text => "  OUTPUT " ++ Text.quoted text
  | .cellWrite position cell => "  WRITE " ++ position.render ++ " = " ++ Text.quotedChar cell
  | .halt steps => "=== HALT after " ++ toString steps.toNat ++ " steps ==="
  | .breakpointHit position => "  BREAKPOINT " ++ position.render
  | .fault message => "  FAULT " ++ message

def line (columns : Columns) (r : Record) : String :=
  (if columns.ids then "[" ++ Text.zeroPadded 6 r.id ++ "] " else "") ++
    "S" ++ Text.zeroPadded 6 r.step.toNat ++ " " ++
    (if columns.times then Text.padLeft 10 ' ' (duration r.time) ++ " " else "") ++
    event r.event

end Befunge.Trace.Human
