import Befunge.Text.Blank
import Befunge.Trace.Event

/-!
Trace records as JSON objects, one to a line.
-/
set_option autoImplicit false

namespace Befunge.Trace.Json

-- One character of a string literal. Quotes, backslashes and control characters are escaped, all
-- others stand for themselves.
def escaped (c : Char) : List Char :=
  if c = '\\' then ['\\', '\\']
  else if c = '"' then ['\\', '"']
  else if c = '\n' then ['\\', 'n']
  else if c = '\r' then ['\\', 'r']
  else if c = '\t' then ['\\', 't']
  else if Text.isControl c then ['\\', 'u'] ++ (Nat.toDigits 16 c.toNat).leftpad 4 '0'
  else [c]

def escape (text : List Char) : List Char :=
  text.flatMap escaped

def quoted (text : String) : String :=
  "\"" ++ String.ofList (escape text.toList) ++ "\""

def member (key value : String) : String :=
  "\"" ++ key ++ "\":" ++ value

def object (members : List String) : String :=
  "\x7b" ++ ",".intercalate members ++ "\x7d"

def coordinates (p : Position) : List String :=
  [member "x" (toString p.x), member "y" (toString p.y)]

def members : Event → List String
  | .step position cell instruction direction depth =>
      coordinates position ++
        [member "cell" (quoted (String.singleton cell)),
          member "opcode" (quoted instruction.name),
          member "direction" (quoted direction.name),
          member "stack_depth" (toString depth)]
  | .stringPush position value => coordinates position ++ [member "value" (toString value.toInt)]
  | .output text => [member "text" (quoted text)]
  | .cellWrite position cell => coordinates position ++ [member "cell" (quoted (String.singleton cell))]
  | .halt steps => [member "steps" (toString steps.toNat)]
  | .breakpointHit position => coordinates position
  | .fault message => [member "message" (quoted message)]

def line (r : Record) : String :=
  object <|
    [member "id" (toString r.id), member "step" (toString r.step.toNat),
      member "timestamp_ns" (toString r.time.toNat), member "type" (quoted r.kind)] ++
    members r.event

end Befunge.Trace.Json
