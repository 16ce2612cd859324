import Befunge.Command
import Befunge.Screen.Paint

/-!
A command line in colours: the first word by whether a command begins with it, and numbers.
-/
set_option autoImplicit false

namespace Befunge.Screen

def paintHead (word : String) : String :=
  paint (if Command.heads.contains word then boldGreen else red) word

def paintArgument (word : String) : String :=
  if (Text.integer? word).isSome then paint magenta word else word

-- Where the run ends that the text starts with.
def runEnd (text : List Char) : Nat :=
  text.findIdx fun c => Text.isBlank c != Text.isBlankRun text

theorem run_end_pos (c : Char) (text : List Char) : 0 < runEnd (c :: text) := by
  rw [runEnd, List.findIdx_cons, Text.isBlankRun, bne_self_eq_false]
  exact Nat.succ_pos _

-- The pieces of what is left of a line, run by run, where `first` says that no word has come yet.
def paintFrom (first : Bool) (rest : List Char) : List String :=
  match rest with
  | [] => []
  | c :: text =>
      let split := runEnd (c :: text)
      let run := String.ofList ((c :: text).take split)
      let rest := (c :: text).drop split
      if Text.isBlank c then run :: paintFrom first rest
      else (if first then paintHead run else paintArgument run) :: paintFrom false rest
termination_by rest.length
decreasing_by
  all_goals
    have progress := run_end_pos c text
    rw [List.length_drop, List.length_cons]
    omega

def commandLine (line : String) : String :=
  if Text.isBlankLine line then line
  else String.join (paintFrom true line.toList)

end Befunge.Screen
