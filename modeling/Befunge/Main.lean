import Befunge.Launch.Run

/-!
The command line on real files and a real terminal.
-/
set_option autoImplicit false

namespace Befunge.Main

-- Enough for every run that ends.
def fuel : Nat := 1 <<< 62

def systemError? : IO.Error → Option (UInt32 × String)
  | .alreadyExists _ code text | .invalidArgument _ code text | .permissionDenied _ code text
  | .resourceExhausted _ code text | .inappropriateType _ code text | .noSuchThing _ code text
  | .noFileOrDirectory _ code text | .interrupted _ code text | .otherError code text
  | .resourceBusy code text | .resourceVanished code text | .unsupportedOperation code text
  | .hardwareFault code text | .unsatisfiedConstraints code text | .illegalOperation code text
  | .protocolError code text | .timeExpired code text => some (code, text)
  | .unexpectedEof | .userError _ => none

def fault (error : IO.Error) : FileFault :=
  match systemError? error with
  | some (2, _) => .missing
  | some (20, _) => .notDirectory
  | some (21, _) => .isDirectory
  | some (36, _) => .nameTooLong
  | some (code, text) => .other s!"{text} (os error {code})"
  | none => .other (toString error)

def readFile (path : String) : IO (Except FileFault Opened) := do
  if path.toList.contains '\x00' then return .error .nulInPath
  try
    return .ok (.file (← (← IO.FS.Handle.mk path .read).readBinToEnd).toList)
  catch error =>
    match fault error with
    | .isDirectory => return .ok .directory
    | fault => return .error fault

def writeFile (path : String) (bytes : Bytes) : IO (Option FileFault) := do
  if path.toList.contains '\x00' then return some .nulInPath
  try
    let file ← IO.FS.Handle.mk path .write
    file.write bytes.toByteArray
    file.flush
    return none
  catch error => return some (fault error)

def perform {α : Type} : Access α → IO α
  | .done a => return a
  | .read path next => return next (← readFile path)
  | .write path bytes next => return next (← writeFile path bytes)

def print (out err : String) : IO Unit := do
  let stdout ← IO.getStdout
  let stderr ← IO.getStderr
  stdout.putStr out
  stdout.flush
  stderr.putStr err
  stderr.flush

-- Reads and carries out lines until the debugger is left or the input ends.
partial def debug (c : Console) : IO UInt32 := do
  let line ← (← IO.getStdin).getLine
  if line.isEmpty then return 0
  let text := String.join (Launch.inputLines line)
  if Text.isBlankLine text then return (← debug c)
  let (goesOn, c, t) ← perform (c.feed fuel text {})
  print t.stdout t.stderr
  if goesOn = some true then debug c else return 0

def finish (result : Launch.Result) : IO UInt32 := do
  print result.stdout result.stderr
  return UInt32.ofNat result.code

def randomSeed : IO UInt64 := do
  return (← IO.getRandomBytes 8).toList.foldl (fun n b => 256 * n + b.toUInt64) 0

def run (arguments : List String) : IO UInt32 := do
  match ← perform (Launch.task (← randomSeed) arguments) with
  | .finish result => finish result
  | .debug session =>
      print Console.banner ""
      debug { session }
  | .run options session =>
      match Launch.runProgram fuel options session with
      | some result => finish result
      | none => return 1

end Befunge.Main

def main (arguments : List String) : IO UInt32 :=
  Befunge.Main.run arguments
