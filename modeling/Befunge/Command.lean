import Befunge.Position
import Befunge.Text.Blank
import Befunge.Text.Number

/-!
The commands of the debugger, and how they are read from a line.
-/
set_option autoImplicit false

namespace Befunge

inductive TraceCommand where
  | on
  | off
  | json
  | human
  | recent (count : Nat)
deriving DecidableEq, Repr

inductive Command where
  | step (count : Nat)
  -- Run to the end, past breakpoints.
  | run
  | proceed
  | back (count : Nat)
  -- Set a breakpoint, or list them all.
  | breakpoint (position : Option Position)
  | delete (position : Position)
  | stack
  | grid
  | output
  | location
  | trace (command : TraceCommand)
  | save (path : String)
  | load (path : String)
  | reset
  | help
  | quit
deriving DecidableEq, Repr

namespace Command

def heads : List String :=
  ["step", "s", "run", "continue", "c", "back", "b", "break", "delete", "stack", "grid", "output",
    "where", "trace", "save", "load", "reset", "help", "quit", "exit"]

inductive Refusal where
  | unknownCommand (word : String)
  | badArguments (head : String)
  | notANumber (word : String)
  | zeroCount (word : String)
deriving DecidableEq, Repr

namespace Refusal

def message : Refusal → String
  | .unknownCommand word => "unknown command: " ++ word ++ " (try `help`)"
  | .badArguments head => "bad arguments for `" ++ head ++ "` (try `help`)"
  | .notANumber word => "expected a non-negative number, got `" ++ word ++ "`"
  | .zeroCount word => "expected a count of at least 1, got `" ++ word ++ "`"

end Refusal

def number (word : String) : Except Refusal Nat :=
  match Text.natural? word with
  | some n => .ok n
  | none => .error (.notANumber word)

-- A count of steps is at least one.
def count (word : String) : Except Refusal Nat :=
  match number word with
  | .ok 0 => .error (.zeroCount word)
  | result => result

def position (x y : String) : Except Refusal Position := do
  let x ← number x
  let y ← number y
  return ⟨x, y⟩

def ofWords (head : String) (arguments : List String) : Except Refusal Command :=
  match head, arguments with
  | "step", [] | "s", [] => .ok (.step 1)
  | "step", [n] | "s", [n] => (count n).map .step
  | "run", [] => .ok .run
  | "continue", [] | "c", [] => .ok .proceed
  | "back", [] | "b", [] => .ok (.back 1)
  | "back", [n] | "b", [n] => (count n).map .back
  | "break", [] => .ok (.breakpoint none)
  | "break", [x, y] => (position x y).map fun p => .breakpoint (some p)
  | "delete", [x, y] => (position x y).map .delete
  | "stack", [] => .ok .stack
  | "grid", [] => .ok .grid
  | "output", [] => .ok .output
  | "where", [] => .ok .location
  | "trace", ["on"] => .ok (.trace .on)
  | "trace", ["off"] => .ok (.trace .off)
  | "trace", ["json"] => .ok (.trace .json)
  | "trace", ["human"] => .ok (.trace .human)
  | "trace", ["recent"] => .ok (.trace (.recent 10))
  | "trace", ["recent", n] => (number n).map fun n => .trace (.recent n)
  | "save", [path] => .ok (.save path)
  | "load", [path] => .ok (.load path)
  | "reset", [] => .ok .reset
  | "help", [] => .ok .help
  | "quit", [] | "exit", [] => .ok .quit
  | head, _ =>
      if heads.contains head then .error (.badArguments head) else .error (.unknownCommand head)

def parse (line : String) : Except Refusal (Option Command) :=
  match Text.words line with
  | [] => .ok none
  | head :: arguments => (ofWords head arguments).map some

end Command

end Befunge
