import Befunge.Text.Number

/-!
The options of the command line.
-/
set_option autoImplicit false

namespace Befunge.Launch

structure Options where
  file : Option String := none
  help : Bool := false
  version : Bool := false
  debug : Bool := false
  seed : Option Nat := none
  maxSteps : Option Nat := none
  strict : Bool := false
  trace : Bool := false
  traceJson : Bool := false
  dumpState : Bool := false
deriving DecidableEq, Repr, Inhabited

inductive Refusal where
  | unknownOption (argument : String)
  -- There is a program file already.
  | unexpectedArgument (argument : String)
  | valueRequired (option : String)
  | invalidValue (option value : String)
deriving DecidableEq, Repr

namespace Refusal

def message : Refusal → String
  | .unknownOption argument => "unknown option: " ++ argument
  | .unexpectedArgument argument => "unexpected argument: " ++ argument
  | .valueRequired option => option ++ " requires a value"
  | .invalidValue option value => "invalid " ++ option ++ " value: " ++ value

end Refusal

namespace Options

-- The options with a flag set, if the argument is one.
def flag? (options : Options) : String → Option Options
  | "-h" | "--help" => some { options with help := true }
  | "-V" | "--version" => some { options with version := true }
  | "-d" | "--debug" => some { options with debug := true }
  | "--strict" => some { options with strict := true }
  | "--trace" => some { options with trace := true }
  | "--trace-json" => some { options with trace := true, traceJson := true }
  | "--dump-state" => some { options with dumpState := true }
  | _ => none

-- The options with a number set, if the argument is one that takes a number.
def setting? (options : Options) : String → Option (Nat → Options)
  | "--seed" => some fun n => { options with seed := some n }
  | "--max-steps" => some fun n => { options with maxSteps := some n }
  | _ => none

-- The options after one argument that takes no number.
def argument (options : Options) (word : String) : Except Refusal Options :=
  match options.flag? word with
  | some options => .ok options
  | none =>
      if word.toList.head? = some '-' then .error (.unknownOption word)
      else if options.file.isSome then .error (.unexpectedArgument word)
      else .ok { options with file := some word }

-- The options after all the arguments. A number belongs to the argument before it, whatever it
-- looks like.
def parseFrom : Options → List String → Except Refusal Options
  | options, [] => .ok options
  | options, [word] =>
      match options.setting? word with
      | some _ => .error (.valueRequired word)
      | none => options.argument word
  | options, word :: value :: rest =>
      match options.setting? word with
      | some set =>
          match Text.natural? value with
          | some n => parseFrom (set n) rest
          | none => .error (.invalidValue word value)
      | none =>
          match options.argument word with
          | .ok options => parseFrom options (value :: rest)
          | .error refusal => .error refusal

def parse (arguments : List String) : Except Refusal Options :=
  parseFrom {} arguments

end Options

end Befunge.Launch
