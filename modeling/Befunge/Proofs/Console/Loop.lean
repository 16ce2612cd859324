import Befunge.Console.Loop
import Befunge.Proofs.Console.Frame
import Befunge.Proofs.Text.Words

/-!
The debugger's loop as a fold: each line that is not blank is evaluated in turn, up to the one that ends
the loop, and what the loop prints are the replies.
-/
set_option autoImplicit false

namespace Befunge

namespace Access

theorem perform_map {α β : Type} (f : α → β) (files : Files) (access : Access α) :
    files.perform (access.map f) = (f (files.perform access).1, (files.perform access).2) := by
  cases access with
  | done a => rfl
  | read path next => rfl
  | write path bytes next =>
      rw [map, Files.perform, Files.perform]
      split <;> rfl

end Access

namespace Command

-- Whether a line is blank is decided by two means: by its characters before it is kept, and by its words
-- when it is read as a command.
theorem parse_eq_none_iff (line : String) :
    parse line = .ok none ↔ Text.isBlankLine line = true := by
  rw [← Text.words_eq_nil_iff, parse]
  cases Text.words line with
  | nil => simp
  | cons head arguments => cases read : ofWords head arguments <;> simp [read, Except.map]

end Command

namespace Console

namespace Reading

-- The loop goes no further than the first of these.
def ends : Reading → Bool
  | .line text => Command.parse text = .ok (some .quit)
  | .interrupted => false
  | .failed _ => true

def entered? : Reading → Option String
  | .line text => if Text.isBlankLine text then none else some text
  | .interrupted | .failed _ => none

def carried (readings : List Reading) : List String :=
  (readings.takeWhile (!·.ends)).filterMap entered?

-- The lines to be remembered: also the one that leaves the loop.
def kept (readings : List Reading) : List String :=
  carried readings ++
    match readings.find? ends with
    | some (.line text) => [text]
    | _ => []

def result (readings : List Reading) : Except Error Unit :=
  match readings.find? ends with
  | some (.failed detail) => .error { cause := .internal detail }
  | _ => .ok ()

section

variable (reading : Reading) (rest : List Reading)

theorem carried_cons (goesOn : reading.ends = false) :
    carried (reading :: rest) = reading.entered?.toList ++ carried rest := by
  rw [carried, List.takeWhile_cons_of_pos (by rw [goesOn]; rfl), List.filterMap_cons, carried]
  cases reading.entered? <;> rfl

theorem carried_of_ends (ends : reading.ends = true) : carried (reading :: rest) = [] := by
  rw [carried, List.takeWhile_cons_of_neg (by rw [ends]; decide), List.filterMap_nil]

theorem kept_cons (goesOn : reading.ends = false) :
    kept (reading :: rest) = reading.entered?.toList ++ kept rest := by
  rw [kept, carried_cons reading rest goesOn, List.find?_cons_of_neg (by rw [goesOn]; decide), kept,
    List.append_assoc]

theorem result_cons (goesOn : reading.ends = false) : result (reading :: rest) = result rest := by
  rw [result, List.find?_cons_of_neg (by rw [goesOn]; decide), result]

end

theorem kept_of_quit (text : String) (rest : List Reading) (ends : (Reading.line text).ends = true) :
    kept (.line text :: rest) = [text] := by
  rw [kept, carried_of_ends (.line text) rest ends, List.find?_cons_of_pos ends, List.nil_append]

theorem result_of_quit (text : String) (rest : List Reading) (ends : (Reading.line text).ends = true) :
    result (.line text :: rest) = .ok () := by
  rw [result, List.find?_cons_of_pos ends]

theorem goes_on_of_blank (text : String) (blank : Text.isBlankLine text = true) :
    (Reading.line text).ends = false := by
  rw [ends, (Command.parse_eq_none_iff text).2 blank]
  rfl

end Reading

-- What came of a line, and the lines that the tracer echoed meanwhile.
structure Reply where
  result : Option (Except Error Response)
  echoed : List String

namespace Reply

def shown (reply : Reply) : List String :=
  match reply.result with
  | some (.ok (.show text)) => [text]
  | _ => []

def warned (reply : Reply) : List String :=
  reply.echoed ++
    match reply.result with
    | some (.error error) => [errorLine error.describe]
    | _ => []

end Reply

structure Evaluation where
  replies : List Reply
  console : Console
  files : Files

def Evaluation.answered (told : Evaluation) : Bool :=
  told.replies.all fun reply => reply.result.isSome

def quieted (c : Console) : Console :=
  { c with session := { c.session with tracer := c.session.tracer.takeEchoed.2 } }

theorem quieted_of_quiet (c : Console) (quiet : c.session.tracer.echoed = []) : c.quieted = c := by
  rw [quieted, Tracer.takeEchoed, ← quiet]

-- The lines evaluated in turn. After one that does not come to an end there is no other.
def evals (fuel : Nat) : List String → Console → Files → Evaluation
  | [], c, files => ⟨[], c, files⟩
  | line :: rest, c, files =>
      let ((result, c), files) := files.perform (c.eval fuel line)
      let reply := ⟨result, c.session.tracer.takeEchoed.1⟩
      match result with
      | none => ⟨[reply], c.quieted, files⟩
      | some _ =>
          let later := evals fuel rest c.quieted files
          { later with replies := reply :: later.replies }

def unlines (lines : List String) : String :=
  String.join (lines.map (· ++ "\n"))

theorem unlines_cons (line : String) (lines : List String) :
    unlines (line :: lines) = line ++ "\n" ++ unlines lines := by
  rw [unlines, List.map_cons, String.join_cons, unlines]

theorem unlines_append (lines more : List String) :
    unlines (lines ++ more) = unlines lines ++ unlines more := by
  rw [unlines, List.map_append, String.join_append, unlines, unlines]

theorem warn_lines (t : Transcript) (lines : List String) :
    t.warnLines lines = { t with stderr := t.stderr ++ unlines lines } := by
  induction lines generalizing t with
  | nil => simp [Transcript.warnLines, unlines]
  | cons line rest ih =>
      rw [Transcript.warnLines, List.foldl_cons, ← Transcript.warnLines, ih, unlines_cons]
      simp only [Transcript.warnLine, String.append_assoc]

theorem show_echoed (c : Console) (t : Transcript) :
    c.showEchoed t =
      (c.quieted, { t with stderr := t.stderr ++ unlines c.session.tracer.takeEchoed.1 }) :=
  Prod.ext rfl (warn_lines t c.session.tracer.takeEchoed.1)

-- A reply to a line that is neither blank nor the last: a text or an error, if the line came to an end.
def Telling : Option (Except Error Response) → Prop
  | some (.ok .silent) | some (.ok .quit) => False
  | _ => True

theorem telling_showing {α : Type} (c : Console) (text : α → Machine → String)
    (came : Option (Except Error α) × Session) : Telling (c.showing text came).1 := by
  obtain ⟨result, session⟩ := came
  cases result with
  | none => trivial
  | some answer => cases answer <;> trivial

theorem telling_execute (fuel : Nat) (c : Console) (command : Command) (outcome : Outcome)
    (stays : command ≠ .quit) (came : (c.execute fuel command).Yields outcome) : Telling outcome.1 := by
  cases command with
  | step count =>
      cases came
      exact telling_showing c _ (some (c.session.steps count).1, (c.session.steps count).2)
  | run =>
      cases came
      exact telling_showing c _ (c.session.run fuel)
  | proceed =>
      cases came
      exact telling_showing c _ (c.session.proceed fuel)
  | breakpoint position => cases position <;> cases came <;> trivial
  | save path =>
      obtain ⟨fault, came⟩ := came
      cases fault <;> cases came <;> trivial
  | load path =>
      obtain ⟨opened, came⟩ := came
      dsimp only at came
      split at came <;> cases came <;> trivial
  | quit => exact (stays rfl).elim
  | back | delete | stack | grid | output | location | trace | reset | help => cases came; trivial

theorem telling_eval (fuel : Nat) (c : Console) (files : Files) (line : String)
    (written : Text.isBlankLine line = false) (stays : Command.parse line ≠ .ok (some .quit)) :
    Telling (files.perform (c.eval fuel line)).1.1 := by
  have came := Access.yields_perform files (c.eval fuel line)
  generalize (files.perform (c.eval fuel line)).1 = outcome at came ⊢
  rw [eval] at came
  cases parsed : Command.parse line with
  | error refusal =>
      rw [parsed] at came
      cases came
      trivial
  | ok command =>
      rw [parsed] at came stays
      cases command with
      | none =>
          have blank := (Command.parse_eq_none_iff line).1 parsed
          rw [written] at blank
          cases blank
      | some command =>
          exact telling_execute fuel c command outcome (fun same => stays (by rw [same])) came

theorem eval_quit (fuel : Nat) (c : Console) (files : Files) (line : String)
    (parsed : Command.parse line = .ok (some .quit)) :
    files.perform (c.eval fuel line) = ((some (.ok .quit), c), files) := by
  rw [eval, parsed]
  rfl

def Transcript.tell (reply : Reply) (t : Transcript) : Transcript :=
  { t with
    stdout := t.stdout ++ unlines reply.shown
    stderr := t.stderr ++ unlines reply.warned }

theorem report_telling (t : Transcript) (c : Console) (result : Option (Except Error Response))
    (telling : Telling result) :
    report t (result, c) =
      (result.map fun _ => true, c.quieted, t.tell ⟨result, c.session.tracer.takeEchoed.1⟩) := by
  rw [report, show_echoed, Transcript.tell, Reply.warned, unlines_append]
  cases result with
  | none => simp [Reply.shown, unlines]
  | some answer =>
      cases answer with
      | error error => simp [Reply.shown, unlines, Transcript.warnLine, String.append_assoc]
      | ok response =>
          cases response with
          | «show» text => simp [Reply.shown, unlines, Transcript.printLine, Transcript.print]
          | silent | quit => cases telling

section Lines

variable (fuel : Nat) (c : Console) (files : Files) (t : Transcript) (text : String) (rest : List Reading)

theorem loop_blank (blank : Text.isBlankLine text = true) :
    loop fuel (.line text :: rest) c files t = loop fuel rest c files t.ask := by
  rw [loop, if_pos blank]

theorem loop_quit (parsed : Command.parse text = .ok (some .quit)) (quiet : c.session.tracer.echoed = []) :
    loop fuel (.line text :: rest) c files t = ⟨some (.ok ()), c, files, t.ask.remember text⟩ := by
  have written : ¬ Text.isBlankLine text = true := by
    intro blank
    rw [(Command.parse_eq_none_iff text).2 blank] at parsed
    cases parsed
  rw [loop, if_neg written, feed, Access.perform_map, eval_quit fuel c files text parsed, report, show_echoed,
    quieted_of_quiet c quiet]
  simp [Tracer.takeEchoed, quiet, unlines]

theorem perform_feed (result : Option (Except Error Response)) (after : Console) (left : Files)
    (came : files.perform (c.eval fuel text) = ((result, after), left)) (telling : Telling result) :
    files.perform (c.feed fuel text t) =
      ((result.map fun _ => true, after.quieted,
        (t.remember text).tell ⟨result, after.session.tracer.takeEchoed.1⟩), left) := by
  rw [feed, Access.perform_map, came, report_telling _ after result telling]

end Lines

-- What the loop leaves, by what its lines came to one after the other.
structure Concluded (readings : List Reading) (t : Transcript) (told : Evaluation) (ending : End) : Prop where
  telling : ∀ reply ∈ told.replies, Telling reply.result
  result : ending.result = if told.answered then some (Reading.result readings) else none
  console : ending.console = told.console
  files : ending.files = told.files
  remembered : told.answered = true → ending.transcript.remembered = t.remembered ++ Reading.kept readings
  stdout : ending.transcript.stdout = t.stdout ++ unlines (told.replies.flatMap Reply.shown)
  stderr : ending.transcript.stderr = t.stderr ++ unlines (told.replies.flatMap Reply.warned)

section Concluding

variable (reading : Reading) (rest : List Reading) (t : Transcript)

theorem concluded_unfinished (text : String) (echoed : List String) (c : Console) (files : Files) :
    Concluded (reading :: rest) t ⟨[⟨none, echoed⟩], c, files⟩
      ⟨none, c, files, (t.ask.remember text).tell ⟨none, echoed⟩⟩ where
  telling := List.forall_mem_singleton.2 trivial
  result := rfl
  console := rfl
  files := rfl
  remembered := fun answered => nomatch answered
  stdout := by
    rw [List.flatMap_singleton]
    rfl
  stderr := by
    rw [List.flatMap_singleton]
    rfl

variable (told : Evaluation) (ending : End) (goesOn : reading.ends = false)

include goesOn

theorem concluded_skip (skipped : reading.entered? = none) (later : Concluded rest t.ask told ending) :
    Concluded (reading :: rest) t told ending where
  telling := later.telling
  result := by rw [Reading.result_cons reading rest goesOn, later.result]
  console := later.console
  files := later.files
  remembered := by
    rw [Reading.kept_cons reading rest goesOn, skipped]
    exact later.remembered
  stdout := later.stdout
  stderr := later.stderr

theorem concluded_line (text : String) (entered : reading.entered? = some text) (answer : Except Error Response)
    (echoed : List String) (telling : Telling (some answer))
    (later : Concluded rest ((t.ask.remember text).tell ⟨some answer, echoed⟩) told ending) :
    Concluded (reading :: rest) t { told with replies := ⟨some answer, echoed⟩ :: told.replies } ending where
  telling := List.forall_mem_cons.2 ⟨telling, later.telling⟩
  result := by
    rw [Reading.result_cons reading rest goesOn, later.result]
    rfl
  console := later.console
  files := later.files
  remembered := by
    intro answered
    rw [Reading.kept_cons reading rest goesOn, entered, later.remembered answered]
    simp [Transcript.remembered, Transcript.tell, Transcript.remember, Transcript.ask]
  stdout := by
    rw [later.stdout, List.flatMap_cons, unlines_append, ← String.append_assoc]
    rfl
  stderr := by
    rw [later.stderr, List.flatMap_cons, unlines_append, ← String.append_assoc]
    rfl

end Concluding

theorem concluded_at_once (fuel : Nat) (readings : List Reading) (c : Console) (files : Files)
    (t ending : Transcript) (nothing : Reading.carried readings = [])
    (remembered : ending.remembered = t.remembered ++ Reading.kept readings)
    (stdout : ending.stdout = t.stdout) (stderr : ending.stderr = t.stderr) :
    Concluded readings t (evals fuel (Reading.carried readings) c files)
      ⟨some (Reading.result readings), c, files, ending⟩ := by
  rw [nothing]
  exact ⟨by simp [evals], rfl, rfl, rfl, fun _ => remembered, by simp [stdout, evals, unlines],
    by simp [stderr, evals, unlines]⟩

section Lines

variable (fuel : Nat) (rest : List Reading) (text : String) (c : Console) (files : Files) (t : Transcript)

theorem quit_concludes (ends : (Reading.line text).ends = true) (quiet : c.session.tracer.echoed = []) :
    Concluded (.line text :: rest) t (evals fuel (Reading.carried (.line text :: rest)) c files)
      (loop fuel (.line text :: rest) c files t) := by
  have nothing := Reading.carried_of_ends (.line text) rest ends
  rw [loop_quit fuel c files t text rest (of_decide_eq_true ends) quiet, ← Reading.result_of_quit text rest ends]
  refine concluded_at_once fuel (.line text :: rest) c files t (t.ask.remember text) nothing ?_ rfl rfl
  rw [Reading.kept_of_quit text rest ends]
  exact List.reverse_cons

theorem line_concludes (written : Text.isBlankLine text = false) (goesOn : (Reading.line text).ends = false)
    (later : ∀ c files t, c.session.tracer.echoed = [] →
      Concluded rest t (evals fuel (Reading.carried rest) c files) (loop fuel rest c files t)) :
    Concluded (.line text :: rest) t (evals fuel (Reading.carried (.line text :: rest)) c files)
      (loop fuel (.line text :: rest) c files t) := by
  have notBlank : ¬ Text.isBlankLine text = true := by rw [written]; decide
  have entered : (Reading.line text).entered? = some text := by rw [Reading.entered?, if_neg notBlank]
  have telling := telling_eval fuel c files text written (of_decide_eq_false goesOn)
  rw [Reading.carried_cons _ rest goesOn, entered, Option.toList_some, List.singleton_append, evals, loop,
    if_neg notBlank]
  obtain ⟨⟨⟨result, after⟩, left⟩, came⟩ : ∃ outcome, files.perform (c.eval fuel text) = outcome := ⟨_, rfl⟩
  rw [came] at telling
  rw [perform_feed fuel c files t.ask text result after left came telling, came]
  cases result with
  | none => exact concluded_unfinished (.line text) rest t text _ after.quieted left
  | some answer =>
      exact concluded_line (.line text) rest t _ _ goesOn text entered answer _ telling
        (later after.quieted left _ rfl)

end Lines

theorem loop_concludes (fuel : Nat) (readings : List Reading) (c : Console) (files : Files) (t : Transcript)
    (quiet : c.session.tracer.echoed = []) :
    Concluded readings t (evals fuel (Reading.carried readings) c files) (loop fuel readings c files t) := by
  induction readings generalizing c files t with
  | nil => exact concluded_at_once fuel [] c files t t.ask rfl (List.append_nil _).symm rfl rfl
  | cons reading rest ih =>
      cases reading with
      | interrupted => exact concluded_skip .interrupted rest t _ _ rfl rfl (ih c files t.ask quiet)
      | failed detail =>
          exact concluded_at_once fuel (.failed detail :: rest) c files t t.ask rfl (List.append_nil _).symm rfl rfl
      | line text =>
          cases written : Text.isBlankLine text with
          | true =>
              have goesOn := Reading.goes_on_of_blank text written
              have skipped : (Reading.line text).entered? = none := by rw [Reading.entered?, if_pos written]
              rw [loop_blank fuel c files t text rest written, Reading.carried_cons _ rest goesOn, skipped]
              exact concluded_skip (.line text) rest t _ _ goesOn skipped (ih c files t.ask quiet)
          | false =>
              cases ends : (Reading.line text).ends with
              | true => exact quit_concludes fuel rest text c files t ends quiet
              | false => exact line_concludes fuel rest text c files t written ends fun c files t => ih c files t

def script : List Reading :=
  [.line " \u2003", .line "trace on", .interrupted, .line "step 2", .line "jump", .line " exit ", .line "run"]

end Console

end Befunge
