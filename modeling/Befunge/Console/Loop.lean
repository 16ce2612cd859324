import Befunge.Console.Basic
import Befunge.Files.Table
import Befunge.Screen.Paint

/-!
The debugger's loop: it reads lines, carries each one out and prints what there is to show, until a
command leaves it, the input ends or reading fails.
-/
set_option autoImplicit false

namespace Befunge.Console

inductive Reading where
  | line (text : String)
  | interrupted
  | failed (detail : String)
deriving DecidableEq, Repr

structure Transcript where
  stdout : String := ""
  stderr : String := ""
  prompts : Nat := 0
  -- The lines to be remembered by the line editor, newest first.
  newestRemembered : List String := []
deriving DecidableEq, Repr, Inhabited

namespace Transcript

def print (text : String) (t : Transcript) : Transcript :=
  { t with stdout := t.stdout ++ text }

def printLine (text : String) (t : Transcript) : Transcript :=
  t.print (text ++ "\n")

def warnLine (text : String) (t : Transcript) : Transcript :=
  { t with stderr := t.stderr ++ text ++ "\n" }

def warnLines (lines : List String) (t : Transcript) : Transcript :=
  lines.foldl (fun t line => t.warnLine line) t

def ask (t : Transcript) : Transcript :=
  { t with prompts := t.prompts + 1 }

def remember (line : String) (t : Transcript) : Transcript :=
  { t with newestRemembered := line :: t.newestRemembered }

def remembered (t : Transcript) : List String :=
  t.newestRemembered.reverse

end Transcript

def version : String := "0.1.0"

def defaultPrompt : String := "torus> "

def keywords : List String := Command.heads

def banner : String :=
  Screen.paint Screen.boldCyan ("Torus debugger v" ++ version) ++ "\n" ++
    "Type `help` for commands. Use Ctrl+D to exit.\n\n"

def errorLine (message : String) : String :=
  Screen.paint Screen.red ("Error: " ++ message)

def showEchoed (c : Console) (t : Transcript) : Console × Transcript :=
  let (lines, tracer) := c.session.tracer.takeEchoed
  ({ c with session := { c.session with tracer } }, t.warnLines lines)

-- Prints what a command led to, and tells whether the loop goes on; there is no answer to that when
-- a run has used up its fuel.
def report (t : Transcript) (outcome : Outcome) : Option Bool × Console × Transcript :=
  let (result, c) := outcome
  let (c, t) := c.showEchoed t
  match result with
  | none => (none, c, t)
  | some (.ok (.show text)) => (some true, c, t.printLine text)
  | some (.ok .silent) => (some true, c, t)
  | some (.ok .quit) => (some false, c, t)
  | some (.error error) => (some true, c, t.warnLine (errorLine error.describe))

def feed (fuel : Nat) (line : String) (c : Console) (t : Transcript) :
    Access (Option Bool × Console × Transcript) :=
  (c.eval fuel line).map (report (t.remember line))

-- Where the loop has ended: how, and what it leaves behind. It has not ended when a run has used up
-- its fuel.
structure End where
  result : Option (Except Error Unit)
  console : Console
  files : Files
  transcript : Transcript

-- The loop over what reading gives, and then the end of the input. Each command is given the same
-- fuel.
def loop (fuel : Nat) : List Reading → Console → Files → Transcript → End
  | [], c, files, t => ⟨some (.ok ()), c, files, t.ask⟩
  | .interrupted :: rest, c, files, t => loop fuel rest c files t.ask
  | .failed detail :: _, c, files, t =>
      ⟨some (.error { cause := .internal detail }), c, files, t.ask⟩
  | .line text :: rest, c, files, t =>
      if Text.isBlankLine text then loop fuel rest c files t.ask
      else match files.perform (c.feed fuel text t.ask) with
        | ((some true, c, t), files) => loop fuel rest c files t
        | ((some false, c, t), files) => ⟨some (.ok ()), c, files, t⟩
        | ((none, c, t), files) => ⟨none, c, files, t⟩

def opening (showBanner : Bool) : Transcript :=
  if showBanner then Transcript.print banner {} else {}

def runLoop (fuel : Nat) (showBanner : Bool) (readings : List Reading) (c : Console) (files : Files) :
    End :=
  loop fuel readings c files (opening showBanner)

end Befunge.Console
