import Befunge.Command
import Befunge.Files.Access
import Befunge.Image.Codec
import Befunge.Screen.GridView
import Befunge.Session.Run

/-!
The debugger: a session, and what each command does to it and shows.
-/
set_option autoImplicit false

namespace Befunge

structure Console where
  session : Session
  style : Screen.Style := .colours

namespace Console

inductive Response where
  | show (text : String)
  | silent
  | quit
deriving DecidableEq, Repr

def help : String :=
  "\n".intercalate
    ["step [n], s [n]    take n steps (default 1)",
      "run                run to halt, ignoring breakpoints",
      "continue, c        run to the next breakpoint or halt",
      "back [n], b [n]    undo n steps (default 1)",
      "break [X Y]        set a breakpoint at column X, row Y, or list breakpoints",
      "delete X Y         remove a breakpoint",
      "stack              show the stack, bottom first",
      "grid               show the program with the pointer highlighted",
      "output             show everything printed so far",
      "where              show the pointer, direction, and step count",
      "trace on|off       record steps and echo them to stderr",
      "trace json|human   choose the trace format",
      "trace recent [n]   show the newest n trace records (default 10)",
      "save PATH          save the session to a file",
      "load PATH          load a session from a file",
      "reset              restart the program, keeping breakpoints",
      "help               show this list",
      "quit               leave the debugger"]

def describe (r : Report) : String :=
  let action := match r.action with
    | .push value => "push " ++ toString value.toInt
    | .execute instruction => instruction.name
  "#" ++ toString r.number.toNat ++ " " ++ r.position.render ++ " " ++ Text.quotedChar r.cell ++ " " ++
    action ++ " -> " ++ r.next.render ++ " moving " ++ r.direction.name

def location (m : Machine) : String :=
  m.pointer.position.render ++ " '" ++ String.singleton m.cell ++ "' moving " ++
    m.pointer.direction.name ++ ", " ++ toString m.steps.toNat ++ " steps" ++
    (if m.stringMode then ", string mode" else "") ++ (if m.halted then ", halted" else "")

def haltSummary (m : Machine) : String :=
  "halted after " ++ toString m.steps.toNat ++ " steps"

-- What was written since the output ended at `mark`, if anything, and a summary.
def withOutput (mark : String.Pos.Raw) (m : Machine) (summary : String) : String :=
  let written := m.outputSince mark
  if written.isEmpty then summary else "output: " ++ Text.quoted written ++ "\n" ++ summary

def dropFinalFeeds (text : String) : String :=
  String.ofList ((text.toList.reverse.dropWhile (· == '\n')).reverse)

def trace (command : TraceCommand) (t : Tracer) : String × Tracer :=
  match command with
  | .on => ("tracing on", { t with enabled := true, echo := true })
  | .off => ("tracing off", { t with enabled := false, echo := false })
  | .json => ("trace format: json", { t with json := true })
  | .human => ("trace format: human", { t with json := false })
  | .recent count =>
      let records := t.log.recent count
      (if records.isEmpty then "no trace records" else t.formatRecords records, t)

def fileError (doing : String) (path : String) (fault : FileFault) : Error :=
  { cause := .io ("failed to " ++ doing ++ " file '" ++ path ++ "': " ++ fault.message) }

def imageIn (path : String) : Except FileFault Opened → Except Error Image
  | .error fault => .error (fileError "open" path fault)
  | .ok .directory => .error (fileError "read" path .isDirectory)
  | .ok (.file bytes) => (Image.decode bytes).mapError Image.Refusal.toError

-- What a command leads to: a response or an error, and the console after it. There is neither when
-- a run has used up its fuel.
abbrev Outcome := Option (Except Error Response) × Console

def answer (c : Console) (text : String) : Outcome :=
  (some (.ok (.show text)), c)

def fail (c : Console) (error : Error) : Outcome :=
  (some (.error error), c)

-- Shows what stepping or running came to, by a text made from its result and the machine after it.
def showing {α : Type} (c : Console) (text : α → Machine → String) :
    Option (Except Error α) × Session → Outcome
  | (none, session) => (none, { c with session })
  | (some (.error error), session) => Console.fail { c with session } error
  | (some (.ok a), session) => answer { c with session } (text a session.machine)

def save (path : String) (c : Console) : Access Outcome :=
  .write path (Image.capture c.session).encode fun
    | none => c.answer ("saved to " ++ path)
    | some fault => c.fail (fileError "create" path fault)

def load (path : String) (c : Console) : Access Outcome :=
  .read path fun opened =>
    match imageIn path opened with
    | .ok image =>
        let session := image.apply c.session
        answer { c with session } ("loaded " ++ path ++ ": " ++ location session.machine)
    | .error error => c.fail error

def step (count : Nat) (c : Console) : Outcome :=
  let mark := c.session.machine.output.rawEndPos
  let (result, session) := c.session.steps count
  c.showing (fun report m =>
    match report with
    | some report => withOutput mark m (describe report)
    | none => "program has halted") (some result, session)

def run (fuel : Nat) (c : Console) : Outcome :=
  let mark := c.session.machine.output.rawEndPos
  c.showing (fun _ m => withOutput mark m (haltSummary m)) (c.session.run fuel)

def proceed (fuel : Nat) (c : Console) : Outcome :=
  let mark := c.session.machine.output.rawEndPos
  c.showing (fun stop m =>
    withOutput mark m <| match stop with
      | .halted => haltSummary m
      | .breakpoint p => "breakpoint at " ++ p.render) (c.session.proceed fuel)

def back (count : Nat) (c : Console) : Outcome :=
  let (undone, session) := c.session.back count
  answer { c with session } <|
    if undone = 0 then "no history to step back through"
    else "stepped back " ++ toString undone ++ ": " ++ location session.machine

def listBreakpoints (c : Console) : Outcome :=
  c.answer <|
    if c.session.breakpoints.isEmpty then "no breakpoints"
    else " ".intercalate (c.session.breakpoints.places.map Position.render)

def addBreakpoint (p : Position) (c : Console) : Outcome :=
  let (added, session) := c.session.addBreakpoint p
  answer { c with session }
    ((if added then "breakpoint set at " else "breakpoint already set at ") ++ p.render)

def removeBreakpoint (p : Position) (c : Console) : Outcome :=
  let (removed, session) := c.session.removeBreakpoint p
  answer { c with session }
    ((if removed then "breakpoint removed at " else "no breakpoint at ") ++ p.render)

def drawing (c : Console) : String :=
  let m := c.session.machine
  dropFinalFeeds (Screen.render c.style m.grid m.pointer.position c.session.breakpoints)

def control (command : TraceCommand) (c : Console) : Outcome :=
  let (text, tracer) := trace command c.session.tracer
  answer { c with session := { c.session with tracer } } text

-- Carries out a command. One that runs the program is given fuel, one unit for each step.
def execute (fuel : Nat) (c : Console) : Command → Access Outcome
  | .step count => .done (c.step count)
  | .run => .done (c.run fuel)
  | .proceed => .done (c.proceed fuel)
  | .back count => .done (c.back count)
  | .breakpoint none => .done c.listBreakpoints
  | .breakpoint (some p) => .done (c.addBreakpoint p)
  | .delete p => .done (c.removeBreakpoint p)
  | .stack => .done (c.answer c.session.machine.stack.render)
  | .grid => .done (c.answer c.drawing)
  | .output => .done (c.answer c.session.machine.output)
  | .location => .done (c.answer (location c.session.machine))
  | .trace command => .done (c.control command)
  | .save path => c.save path
  | .load path => c.load path
  | .reset => .done (answer { c with session := c.session.reset } "program reset")
  | .help => .done (c.answer help)
  | .quit => .done (some (.ok .quit), c)

def eval (fuel : Nat) (line : String) (c : Console) : Access Outcome :=
  match Command.parse line with
  | .error refusal => .done (c.fail { cause := .internal refusal.message })
  | .ok none => .done (some (.ok .silent), c)
  | .ok (some command) => c.execute fuel command

end Console

end Befunge
