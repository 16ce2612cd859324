import Befunge.Console.Loop
import Befunge.Launch.Options
import Befunge.Text.Backspace

/-!
What the command line does: help and version, a run of a program, or a session in the debugger.
-/
set_option autoImplicit false

namespace Befunge.Launch

def bold (text : String) : String :=
  Screen.paint Screen.bold text

def usage : String :=
  "\n".intercalate
    [bold "Torus" ++ " - Befunge-93 interpreter and debugger",
      "",
      bold "USAGE:",
      "    torus [OPTIONS] FILE",
      "",
      bold "ARGUMENTS:",
      "    FILE               Befunge-93 program to run",
      "",
      bold "OPTIONS:",
      "    -h, --help         Print help information",
      "    -V, --version      Print version information",
      "    -d, --debug        Open the program in the stepping debugger",
      "    --seed N           Seed the random direction instruction `?`",
      "    --max-steps N      Fail if the program has not halted after N steps",
      "    --strict           Fail on `g`/`p` outside the program grid",
      "",
      bold "DEBUG OPTIONS:",
      "    --trace            Trace every step to stderr",
      "    --trace-json       Trace every step to stderr as JSON lines",
      "    --dump-state       Print pointer, stack, and step count after the run",
      "",
      bold "EXAMPLES:",
      "    torus programs/hello.bf                 Run a program",
      "    torus --seed 7 --max-steps 10000 a.bf   Reproducible, bounded run",
      "    torus -d programs/sieve.bf              Step through a program",
      "",
      "Type `help` inside the debugger for its commands."]

structure Result where
  code : Nat
  stdout : String := ""
  stderr : String := ""
deriving DecidableEq, Repr

def failure (message : String) : Result :=
  { code := 1, stderr := Console.errorLine message ++ "\n" }

-- The bytes of the program file, as reading it went.
def programIn (path : String) (opened : Except FileFault Opened) : Except Error Bytes :=
  let failed (fault : FileFault) : Except Error Bytes :=
    .error { cause := .io ("failed to read '" ++ path ++ "': " ++ fault.message) }
  match opened with
  | .error fault => failed fault
  | .ok .directory => failed .isDirectory
  | .ok (.file bytes) => .ok bytes

-- The session that the options ask for. Without a seed among them, the given one is taken.
def session (options : Options) (seed : UInt64) (path source : String) : Session :=
  let start := Session.start source
    { seed := (options.seed.map UInt64.ofNat).getD seed
      bounds := if options.strict then .strict else .lenient }
  { start with
    name := some path
    tracer :=
      if options.trace then { Tracer.disabled with enabled := true, echo := true, json := options.traceJson }
      else .disabled
    limit := options.maxSteps.map UInt64.ofNat }

def stateLines (m : Machine) : List String :=
  [Screen.paint Screen.boldCyan "=== Interpreter State ===",
    "Pointer: " ++ m.pointer.position.render ++ " moving " ++ m.pointer.direction.name,
    "Stack: " ++ m.stack.render,
    "Steps: " ++ toString m.steps.toNat,
    "String mode: " ++ toString m.stringMode,
    "Halted: " ++ toString m.halted]

-- Runs a session to its end, without a history, and reports what came of it. The program's output
-- is written whatever the end was. There is no result when the fuel is used up.
def runProgram (fuel : Nat) (options : Options) (s : Session) : Option Result :=
  match ({ s with history := .empty 0 }).run fuel with
  | (none, _) => none
  | (some result, s) =>
      let lines :=
        s.tracer.takeEchoed.1 ++
        (if options.dumpState then stateLines s.machine else []) ++
        (match result with
          | .ok () => []
          | .error error => [Console.errorLine error.describe])
      some
        { code := match result with
            | .ok () => 0
            | .error _ => 1
          stdout := s.machine.output
          stderr := String.join (lines.map (· ++ "\n")) }

def dropReturn (line : List Char) : List Char :=
  match line.getLast? with
  | some '\r' => line.dropLast
  | _ => line

-- The lines of a text, with the backspaces in them carried out. What comes after the last line feed
-- is a line if there is anything. A carriage return before the line feed belongs to the end of the
-- line.
def inputLines (text : String) : List String :=
  match (text.toList.splitOn '\n').reverse with
  | [] => []
  | last :: before =>
      ((before.reverse.map dropReturn ++ if last.isEmpty then [] else [last]).map
        Text.applyBackspaces).map String.ofList

def runDebugger (fuel : Nat) (s : Session) (files : Files) (input : String) : Option Result :=
  let ending := Console.runLoop fuel true ((inputLines input).map .line) { session := s } files
  let t := ending.transcript
  match ending.result with
  | none => none
  | some (.ok ()) => some { code := 0, stdout := t.stdout, stderr := t.stderr }
  | some (.error error) =>
      some { code := 1, stdout := t.stdout, stderr := t.stderr ++ Console.errorLine error.message ++ "\n" }

inductive Task where
  | finish (result : Result)
  | debug (session : Session)
  | run (options : Options) (session : Session)

-- What is to be done for the arguments. The seed is for programs that the options give none.
def task (seed : UInt64) (arguments : List String) : Access Task :=
  match Options.parse arguments with
  | .error refusal => .done (.finish (failure refusal.message))
  | .ok options =>
      if options.help then .done (.finish { code := 0, stdout := usage ++ "\n" })
      else if options.version then
        .done (.finish { code := 0, stdout := "torus " ++ Console.version ++ "\n" })
      else match options.file with
        | none => .done (.finish (failure "missing program file (try --help)"))
        | some path =>
            .read path fun opened =>
              match programIn path opened with
              | .error error => .finish (failure error.message)
              | .ok bytes =>
                  let s := session options seed path (Source.decode bytes).text
                  if options.debug then .debug s else .run options s

-- The whole of the program: what it prints for arguments, files and input, and its exit code.
def run (fuel : Nat) (seed : UInt64) (arguments : List String) (files : Files) (input : String) :
    Option Result :=
  match files.perform (task seed arguments) with
  | (.finish result, _) => some result
  | (.debug s, files) => runDebugger fuel s files input
  | (.run options s, _) => runProgram fuel options s

end Befunge.Launch
