import Befunge.Console.Basic
import Befunge.Files.Table
import Befunge.Proofs.Session.Step

/-!
What a command may touch. Whatever files there are and however access to them goes, a command changes
only what it is for, and one that fails changes nothing, unless it ran the program: then it leaves what
the run left.
-/
set_option autoImplicit false

namespace Befunge

namespace Access

-- What the access may come to, whatever is found at its path and whatever fault it meets.
def Yields {α : Type} (result : α) : Access α → Prop
  | .done a => a = result
  | .read _ next => ∃ opened, next opened = result
  | .write _ _ next => ∃ fault, next fault = result

theorem yields_perform {α : Type} (files : Files) (access : Access α) :
    access.Yields (files.perform access).1 := by
  cases access with
  | done a => rfl
  | read path next => exact ⟨files.openRead path, rfl⟩
  | write path bytes next =>
      rw [Files.perform]
      split
      · exact ⟨some _, rfl⟩
      · exact ⟨none, rfl⟩

end Access

namespace Session

-- Besides what it is set to, a session has only these.
theorem eq_of_settings (s t : Session) (same : t.settings = s.settings) :
    t = { s with machine := t.machine, history := t.history, tracer := t.tracer } := by
  obtain ⟨machine, source, name, config, tracer, breakpoints, history, limit⟩ := t
  cases same
  rfl

theorem settings_steps (count : Nat) (s : Session) : (s.steps count).2.settings = s.settings :=
  steps_keeps (P := fun t => t.settings = s.settings) (fun t same => (settings_step t).trans same) count s rfl

theorem settings_run (fuel : Nat) (s : Session) : (s.run fuel).2.settings = s.settings :=
  run_keeps (P := fun t => t.settings = s.settings) (fun t same => (settings_step t).trans same) fuel s rfl

theorem settings_proceed (fuel : Nat) (s : Session) : (s.proceed fuel).2.settings = s.settings :=
  proceed_keeps (P := fun t => t.settings = s.settings) (fun t same => (settings_step t).trans same)
    (fun _ _ same => same) fuel s rfl

end Session

namespace Command

-- The commands that run the program.
def runs : Command → Bool
  | .step _ | .run | .proceed => true
  | _ => false

-- The session before a command, but for what the command may touch: that is as it is after it.
def touching (before after : Session) : Command → Session
  | .step _ | .run | .proceed =>
      { before with machine := after.machine, history := after.history, tracer := after.tracer }
  | .back _ => { before with machine := after.machine, history := after.history }
  | .breakpoint (some _) | .delete _ => { before with breakpoints := after.breakpoints }
  | .trace .on | .trace .off | .trace .json | .trace .human => { before with tracer := after.tracer }
  | .load _ =>
      { before with
        source := after.source
        name := after.name
        machine := after.machine
        history := after.history
        breakpoints := after.breakpoints }
  | .reset => { before with machine := after.machine, history := after.history, tracer := after.tracer }
  | .breakpoint none | .stack | .grid | .output | .location | .trace (.recent _) | .save _ | .help
  | .quit => before

end Command

namespace Console

section Showing

variable {α : Type} (c : Console) (text : α → Machine → String) (came : Option (Except Error α) × Session)

theorem console_showing : (c.showing text came).2 = { c with session := came.2 } := by
  obtain ⟨result, session⟩ := came
  cases result with
  | none => rfl
  | some answer =>
      cases answer with
      | error error => rfl
      | ok a => rfl

theorem error_of_showing (error : Error) (failed : (c.showing text came).1 = some (.error error)) :
    came.1 = some (.error error) := by
  obtain ⟨result, session⟩ := came
  cases result with
  | none => cases failed
  | some answer =>
      cases answer with
      | error error => cases failed; rfl
      | ok a => cases failed

end Showing

theorem console_step (count : Nat) (c : Console) :
    (c.step count).2 = { c with session := (c.session.steps count).2 } :=
  console_showing c _ (some (c.session.steps count).1, (c.session.steps count).2)

theorem console_run (fuel : Nat) (c : Console) :
    (c.run fuel).2 = { c with session := (c.session.run fuel).2 } :=
  console_showing c _ (c.session.run fuel)

theorem console_proceed (fuel : Nat) (c : Console) :
    (c.proceed fuel).2 = { c with session := (c.session.proceed fuel).2 } :=
  console_showing c _ (c.session.proceed fuel)

variable (fuel : Nat) (c after : Console) (result : Option (Except Error Response))

theorem touches_of_run (command : Command) (session : Session) (running : command.runs = true)
    (console : after = { c with session }) (same : session.settings = c.session.settings) :
    after = { c with session := command.touching c.session after.session } := by
  subst console
  have whole := Session.eq_of_settings c.session session same
  cases command with
  | step | run | proceed => exact congrArg (fun session => { c with session }) whole
  | back | breakpoint | delete | stack | grid | output | location | trace | save | load | reset | help
  | quit => cases running

theorem execute_touches (command : Command) (came : (c.execute fuel command).Yields (result, after)) :
    after = { c with session := command.touching c.session after.session } := by
  cases command with
  | step count =>
      have console := (congrArg Prod.snd came).symm.trans (console_step count c)
      exact touches_of_run c after _ _ rfl console (Session.settings_steps count c.session)
  | run =>
      have console := (congrArg Prod.snd came).symm.trans (console_run fuel c)
      exact touches_of_run c after _ _ rfl console (Session.settings_run fuel c.session)
  | proceed =>
      have console := (congrArg Prod.snd came).symm.trans (console_proceed fuel c)
      exact touches_of_run c after _ _ rfl console (Session.settings_proceed fuel c.session)
  | breakpoint position =>
      cases position with
      | none => cases came; rfl
      | some p => cases came; rfl
  | trace command => cases command <;> cases came <;> rfl
  | save path =>
      obtain ⟨fault, came⟩ := came
      cases fault <;> cases came <;> rfl
  | load path =>
      obtain ⟨opened, came⟩ := came
      dsimp only at came
      split at came
      · cases came; rfl
      · cases came; rfl
  | back | delete | stack | grid | output | location | reset | help | quit => cases came; rfl

theorem execute_error (command : Command) (error : Error)
    (came : (c.execute fuel command).Yields (some (.error error), after)) :
    match command with
    | .step count => c.session.steps count = (.error error, after.session)
    | .run => c.session.run fuel = (some (.error error), after.session)
    | .proceed => c.session.proceed fuel = (some (.error error), after.session)
    | _ => after = c := by
  cases command with
  | step count =>
      have console := (congrArg Prod.snd came).symm.trans (console_step count c)
      have failed := error_of_showing c _ (some (c.session.steps count).1, _) error (congrArg Prod.fst came)
      exact Prod.ext (Option.some.inj failed) (congrArg Console.session console.symm)
  | run =>
      have console := (congrArg Prod.snd came).symm.trans (console_run fuel c)
      have failed := error_of_showing c _ (c.session.run fuel) error (congrArg Prod.fst came)
      exact Prod.ext failed (congrArg Console.session console.symm)
  | proceed =>
      have console := (congrArg Prod.snd came).symm.trans (console_proceed fuel c)
      have failed := error_of_showing c _ (c.session.proceed fuel) error (congrArg Prod.fst came)
      exact Prod.ext failed (congrArg Console.session console.symm)
  | breakpoint position => cases position <;> cases came
  | trace command => cases command <;> cases came
  | save path =>
      obtain ⟨fault, came⟩ := came
      cases fault with
      | none => cases came
      | some fault => cases came; rfl
  | load path =>
      obtain ⟨opened, came⟩ := came
      dsimp only at came
      split at came
      · cases came
      · cases came; rfl
  | back | delete | stack | grid | output | location | reset | help | quit => cases came

-- Whatever the files are, a command changes what it may touch and no more; one that fails changes nothing
-- at all, but that a run of the program which fails leaves what it has come to.
theorem commands_touch_what_they_name (line : String)
    (came : (c.eval fuel line).Yields (result, after)) :
    (∀ command, Command.parse line = .ok (some command) →
      after = { c with session := command.touching c.session after.session }) ∧
    (Command.parse line = .ok none → after = c) ∧
    ∀ error, result = some (.error error) →
      match Command.parse line with
      | .ok (some (.step count)) => c.session.steps count = (.error error, after.session)
      | .ok (some .run) => c.session.run fuel = (some (.error error), after.session)
      | .ok (some .proceed) => c.session.proceed fuel = (some (.error error), after.session)
      | _ => after = c := by
  rw [eval] at came
  cases parsed : Command.parse line with
  | error refusal =>
      rw [parsed] at came
      cases came
      exact ⟨fun _ same => (nomatch same), fun _ => rfl, fun _ _ => rfl⟩
  | ok command =>
      rw [parsed] at came
      cases command with
      | none =>
          cases came
          exact ⟨fun _ same => (nomatch same), fun _ => rfl, fun _ _ => rfl⟩
      | some command =>
          refine ⟨?_, fun same => (nomatch same), ?_⟩
          · intro _ same
            cases same
            exact execute_touches fuel c after result command came
          · intro error failed
            rw [failed] at came
            have left := execute_error fuel c after command error came
            cases command <;> exact left

-- A session one step into its program, and a file with no more than the first bytes of an image.
def started : Console :=
  { session := (Session.start "12@" {}).step.2 }

def shelf : Files :=
  { entries := [(["kept"], (Image.capture started.session).encode.take 20)] }

theorem commands_touch_what_they_name_of_a_truncated_image :
    ∃ error, (shelf.perform (started.eval 0 " load\tkept ")).1 = (some (.error error), started) := by
  have failed : (shelf.perform (started.eval 0 " load\tkept ")).1.1.map (·.toOption.isNone) = some true := by
    decide +kernel
  have parsed : Command.parse " load\tkept " = .ok (some (.load "kept")) := by rfl
  have came := Access.yields_perform shelf (started.eval 0 " load\tkept ")
  generalize (shelf.perform (started.eval 0 " load\tkept ")).1 = outcome at failed came
  obtain ⟨result, after⟩ := outcome
  obtain ⟨_, _, kept⟩ := commands_touch_what_they_name 0 started after result " load\tkept " came
  rw [parsed] at kept
  obtain ⟨answer, same, none⟩ := Option.map_eq_some_iff.1 failed
  cases answer with
  | ok response => cases none
  | error error => exact ⟨error, Prod.ext same (kept error same)⟩

end Console

end Befunge
