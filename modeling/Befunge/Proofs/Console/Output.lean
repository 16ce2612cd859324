import Befunge.Proofs.Console.Frame
import Befunge.Proofs.Machine.Journal
import Befunge.Proofs.Text.Quoted

/-!
What the debugger shows of a program's output. A command that runs the program shows what its steps wrote,
quoted, in front of its summary. Read back and put together, what such commands show is what has been written,
as long as the program is not taken back.
-/
set_option autoImplicit false

namespace Befunge

theorem Machine.output_since_append (m : Machine) (old text : String) (grown : m.output = old ++ text) :
    m.outputSince old.rawEndPos = text := by
  have written := Machine.output_since_write text { m with output := old }
  have same : ({ m with output := old } : Machine).write text = m := by
    rw [Machine.write, ← grown]
  rw [same] at written
  exact written

namespace Session

-- Steps that succeed, one after the other, and their reports.
inductive Walk : Session → List Report → Session → Prop where
  | nil (s : Session) : Walk s [] s
  | cons (s next last : Session) (report : Report) (rest : List Report)
      (stepped : s.step = (.ok (some report), next)) (onward : Walk next rest last) : Walk s (report :: rest) last

theorem output_of_walk (s last : Session) (reports : List Report) (walk : Walk s reports last) :
    last.machine.output = s.machine.output ++ Report.text reports := by
  induction walk with
  | nil s => exact String.append_empty.symm
  | cons s next last report rest stepped _ ih =>
      obtain ⟨machine, outcome⟩ := stepped_of_answer s report (by rw [stepped])
      have same : next.machine = machine := by
        have attempted := machine_step s
        rwa [stepped, Machine.attempt, outcome] at attempted
      have told := Machine.told_of_stepped _ _ machine report outcome
      rw [ih, same, told.output, String.append_assoc, Report.text, Report.text, List.map_cons, String.join_cons]

theorem steps_after_walks (last result : Option Report) (count : Nat) (s t : Session)
    (came : stepsAfter last count s = (.ok result, t)) :
    ∃ reports, Walk s reports t ∧ result = reports.getLast?.or last ∧
      (reports.length = count ∨ reports.length < count ∧ t.machine.halted = true) := by
  induction count generalizing last s with
  | zero =>
      cases came
      exact ⟨[], .nil _, rfl, .inl rfl⟩
  | succ count ih =>
      rw [stepsAfter] at came
      split at came
      · rename_i next stepEq
        have halted := halted_of_step_none s (by rw [stepEq])
        rw [step_of_halted s halted] at stepEq
        cases stepEq
        cases came
        exact ⟨[], .nil _, rfl, .inr ⟨Nat.succ_pos _, halted⟩⟩
      · rename_i report next stepEq
        obtain ⟨reports, walk, same, taken⟩ := ih (some report) next came
        refine ⟨report :: reports, .cons s next t report reports stepEq walk, ?_, ?_⟩
        · rw [same, List.getLast?_cons]
          cases reports.getLast? <;> rfl
        · exact taken.imp (congrArg Nat.succ) fun early => ⟨Nat.succ_lt_succ early.1, early.2⟩
      · cases came

theorem run_walks (fuel : Nat) (s t : Session) (came : s.run fuel = (some (.ok ()), t)) :
    ∃ reports, Walk s reports t ∧ t.machine.halted = true := by
  induction fuel generalizing s with
  | zero => cases came
  | succ fuel ih =>
      rw [run] at came
      split at came
      · rename_i halted
        cases came
        exact ⟨[], .nil _, halted⟩
      · rename_i running
        split at came
        · cases came
        · split at came
          · rename_i result next stepEq
            obtain ⟨reports, walk, halted⟩ := ih next came
            cases result with
            | none => exact absurd (halted_of_step_none s (by rw [stepEq])) running
            | some report => exact ⟨report :: reports, .cons s next t report reports stepEq walk, halted⟩
          · cases came

-- How a run that heeds breakpoints stops, and what it leaves.
inductive Stopped (breakpoints : Breakpoints) (u : Session) : Stop → Session → Prop where
  | halted (halted : u.machine.halted = true) : Stopped breakpoints u .halted u
  | paused (running : u.machine.halted = false)
      (hit : breakpoints.contains u.machine.pointer.position = true) :
      Stopped breakpoints u (.breakpoint u.machine.pointer.position)
        (u.mapTracer (·.breakpointHit u.machine.pointer.position))

theorem proceed_from_walks (moved : Bool) (fuel : Nat) (s t : Session) (stop : Stop)
    (came : proceedFrom moved fuel s = (some (.ok stop), t)) :
    ∃ reports u, Walk s reports u ∧ Stopped s.breakpoints u stop t ∧
      (moved = true ∨ u.machine.halted = true ∨ reports ≠ []) := by
  induction fuel generalizing moved s with
  | zero => cases came
  | succ fuel ih =>
      rw [proceedFrom] at came
      split at came
      · rename_i halted
        cases came
        exact ⟨[], _, .nil _, .halted halted, .inr (.inl halted)⟩
      · rename_i running
        split at came
        · rename_i pausing
          obtain ⟨after, hit⟩ := Bool.and_eq_true_iff.1 pausing
          cases came
          exact ⟨[], s, .nil s, .paused (Bool.eq_false_iff.2 running) hit, .inl after⟩
        · split at came
          · cases came
          · split at came
            · rename_i result next stepEq
              obtain ⟨reports, u, walk, stopped, _⟩ := ih true next came
              have same : next.breakpoints = s.breakpoints := by
                rw [← breakpoints_step s, stepEq]
              rw [same] at stopped
              cases result with
              | none => exact absurd (halted_of_step_none s (by rw [stepEq])) running
              | some report =>
                  exact ⟨report :: reports, u, .cons s next u report reports stepEq walk, stopped,
                    .inr (.inr (List.cons_ne_nil _ _))⟩
            · cases came

end Session

namespace Command

-- The commands that can take the program back, or to another one.
def rewinds : Command → Bool
  | .back _ | .load _ | .reset => true
  | _ => false

end Command

namespace Console

-- A summary, and in front of it what was written.
def announced (written summary : String) : String :=
  if written = "" then summary else "output: " ++ Text.quoted written ++ "\n" ++ summary

theorem with_output_eq (m : Machine) (old text summary : String) (grown : m.output = old ++ text) :
    withOutput old.rawEndPos m summary = announced text summary := by
  rw [withOutput, Machine.output_since_append m old text grown, announced]
  simp only [String.isEmpty_iff]

def lastStep (reports : List Report) : String :=
  match reports.getLast? with
  | some report => describe report
  | none => "program has halted"

-- What a command that runs the program shows, and the session that it leaves.
inductive Announces (s : Session) : Command → Response → Session → Prop where
  | step (count : Nat) (reports : List Report) (t : Session) (walk : s.Walk reports t)
      (taken : reports.length = count ∨ reports.length < count ∧ t.machine.halted = true) :
      Announces s (.step count) (.show (announced (Report.text reports) (lastStep reports))) t
  | run (reports : List Report) (t : Session) (walk : s.Walk reports t) (halted : t.machine.halted = true) :
      Announces s .run (.show (announced (Report.text reports) (haltSummary t.machine))) t
  | finished (reports : List Report) (t : Session) (walk : s.Walk reports t)
      (halted : t.machine.halted = true) :
      Announces s .proceed (.show (announced (Report.text reports) (haltSummary t.machine))) t
  | paused (reports : List Report) (t : Session) (walk : s.Walk reports t) (moved : reports ≠ [])
      (running : t.machine.halted = false)
      (hit : s.breakpoints.contains t.machine.pointer.position = true) :
      Announces s .proceed
        (.show (announced (Report.text reports) ("breakpoint at " ++ t.machine.pointer.position.render)))
        (t.mapTracer (·.breakpointHit t.machine.pointer.position))

theorem shown_of_showing {α : Type} (c after : Console) (text : α → Machine → String)
    (came : Option (Except Error α) × Session) (response : Response)
    (shown : c.showing text came = (some (.ok response), after)) :
    ∃ a, came = (some (.ok a), after.session) ∧ response = .show (text a after.session.machine) := by
  obtain ⟨result, session⟩ := came
  cases result with
  | none => cases shown
  | some answer =>
      cases answer with
      | error error => cases shown
      | ok a =>
          cases shown
          exact ⟨a, rfl, rfl⟩

theorem announces_step (count : Nat) (c after : Console) (response : Response)
    (came : c.step count = (some (.ok response), after)) :
    Announces c.session (.step count) response after.session := by
  rw [step] at came
  dsimp only at came
  obtain ⟨result, stepped, rfl⟩ := shown_of_showing c after _ _ response came
  obtain ⟨answered, left⟩ := Prod.mk.inj stepped
  have steps : Session.stepsAfter none count c.session = (.ok result, after.session) :=
    Prod.ext (Option.some.inj answered) left
  obtain ⟨reports, walk, same, taken⟩ := Session.steps_after_walks none result count c.session after.session steps
  have grown := Session.output_of_walk c.session after.session reports walk
  have announces := Announces.step count reports after.session walk taken
  rw [Option.or_none] at same
  subst same
  cases last : reports.getLast? with
  | none =>
      cases List.getLast?_eq_none_iff.1 last
      exact announces
  | some report =>
      rw [lastStep, last] at announces
      dsimp only at announces ⊢
      rw [with_output_eq _ _ _ _ grown]
      exact announces

theorem announces_run (fuel : Nat) (c after : Console) (response : Response)
    (came : c.run fuel = (some (.ok response), after)) : Announces c.session .run response after.session := by
  rw [run] at came
  obtain ⟨_, ran, rfl⟩ := shown_of_showing c after _ _ response came
  obtain ⟨reports, walk, halted⟩ := Session.run_walks fuel c.session after.session ran
  have grown := Session.output_of_walk c.session after.session reports walk
  rw [with_output_eq _ _ _ _ grown]
  exact .run reports after.session walk halted

theorem announces_proceed (fuel : Nat) (c after : Console) (response : Response)
    (came : c.proceed fuel = (some (.ok response), after)) :
    Announces c.session .proceed response after.session := by
  rw [proceed] at came
  obtain ⟨stop, proceeded, rfl⟩ := shown_of_showing c after _ _ response came
  obtain ⟨reports, t, walk, stopped, moved⟩ :=
    Session.proceed_from_walks false fuel c.session after.session stop proceeded
  have grown := Session.output_of_walk c.session t reports walk
  generalize after.session = left at stopped
  cases stopped with
  | halted halted =>
      rw [with_output_eq _ _ _ _ grown]
      exact .finished reports t walk halted
  | paused running hit =>
      have some : reports ≠ [] := by
        rcases moved with early | halted | some
        · cases early
        · rw [running] at halted
          cases halted
        · exact some
      have same : (t.mapTracer (·.breakpointHit t.machine.pointer.position)).machine = t.machine := rfl
      rw [same, with_output_eq _ _ _ _ grown]
      exact .paused reports t walk some running hit

theorem announces_of_execute (fuel : Nat) (c after : Console) (command : Command) (response : Response)
    (running : command.runs = true) (came : (c.execute fuel command).Yields (some (.ok response), after)) :
    Announces c.session command response after.session := by
  cases command with
  | step count => exact announces_step count c after response came
  | run => exact announces_run fuel c after response came
  | proceed => exact announces_proceed fuel c after response came
  | back | breakpoint | delete | stack | grid | output | location | trace | save | load | reset | help
  | quit => cases running

-- The text that a response to such a command announces.
def shownOutput : Response → String
  | .show text =>
    if text.toList.take 8 = "output: ".toList then (Text.unquoted? (text.toList.drop 8)).getD "" else ""
  | .silent | .quit => ""

theorem shown_output_announced (written summary : String) (other : summary.toList.head? ≠ some 'o') :
    shownOutput (.show (announced written summary)) = written := by
  by_cases silent : written = ""
  · have plain : summary.toList.take 8 ≠ "output: ".toList := by
      intro same
      have head := congrArg List.head? same
      rw [List.head?_take, if_neg (by decide)] at head
      exact other head
    rw [announced, if_pos silent, shownOutput, if_neg plain, silent]
  · have label : "output: ".toList.length = 8 := rfl
    have spelling : ("output: " ++ Text.quoted written ++ "\n" ++ summary).toList =
        "output: ".toList ++ ((Text.quoted written).toList ++ ("\n" ++ summary).toList) := by
      simp only [String.toList_append, List.append_assoc]
    rw [announced, if_neg silent, shownOutput, spelling, List.take_left' label, if_pos rfl,
      List.drop_left' label, Text.unquoted_quoted, Option.getD_some]

theorem head_of_append (first rest : String) (c : Char) (starts : first.toList.head? = some c) :
    (first ++ rest).toList.head? = some c := by
  rw [String.toList_append, List.head?_append, starts, Option.some_or]

theorem head_of_last_step (reports : List Report) : (lastStep reports).toList.head? ≠ some 'o' := by
  rw [lastStep]
  split
  · simp only [describe, String.append_assoc]
    rw [head_of_append "#" _ '#' rfl]
    decide
  · decide

theorem head_of_halt_summary (m : Machine) : (haltSummary m).toList.head? ≠ some 'o' := by
  rw [haltSummary, String.append_assoc, head_of_append "halted after " _ 'h' rfl]
  decide

theorem output_of_announces (s t : Session) (command : Command) (response : Response)
    (announces : Announces s command response t) :
    t.machine.output = s.machine.output ++ shownOutput response := by
  cases announces with
  | step count reports t walk taken =>
      rw [shown_output_announced _ _ (head_of_last_step reports)]
      exact Session.output_of_walk s t reports walk
  | run reports t walk halted =>
      rw [shown_output_announced _ _ (head_of_halt_summary t.machine)]
      exact Session.output_of_walk s t reports walk
  | finished reports t walk halted =>
      rw [shown_output_announced _ _ (head_of_halt_summary t.machine)]
      exact Session.output_of_walk s t reports walk
  | paused reports t walk moved running hit =>
      have start := head_of_append "breakpoint at " t.machine.pointer.position.render 'b' rfl
      rw [shown_output_announced _ _ (by rw [start]; decide)]
      exact Session.output_of_walk s t reports walk

theorem mark_is_valid (s t : Session) (command : Command) (response : Response)
    (announces : Announces s command response t) :
    s.machine.output.rawEndPos.IsValid t.machine.output :=
  String.Pos.Raw.isValid_iff_exists_append.2
    ⟨s.machine.output, shownOutput response, output_of_announces s t command response announces, rfl⟩

-- Commands that succeed, one after the other, and the responses to them.
inductive Dialogue : Console → List (Command × Response) → Console → Prop where
  | nil (c : Console) : Dialogue c [] c
  | cons (c next last : Console) (fuel : Nat) (command : Command) (response : Response)
      (rest : List (Command × Response))
      (came : (c.execute fuel command).Yields (some (.ok response), next)) (onward : Dialogue next rest last) :
      Dialogue c ((command, response) :: rest) last

-- What is heard of the program's output in an exchange.
def heard (entry : Command × Response) : String :=
  if entry.1.runs then shownOutput entry.2 else ""

theorem machine_of_execute (fuel : Nat) (c after : Console) (command : Command)
    (result : Option (Except Error Response)) (idle : command.runs = false) (stays : command.rewinds = false)
    (came : (c.execute fuel command).Yields (result, after)) : after.session.machine = c.session.machine := by
  have touched := congrArg Console.session (execute_touches fuel c after result command came)
  rw [touched]
  cases command with
  | step | run | proceed => cases idle
  | back | load | reset => cases stays
  | breakpoint position => cases position <;> rfl
  | trace command => cases command <;> rfl
  | delete | stack | grid | output | location | save | help | quit => rfl

theorem output_of_execute (fuel : Nat) (c after : Console) (command : Command) (response : Response)
    (stays : command.rewinds = false) (came : (c.execute fuel command).Yields (some (.ok response), after)) :
    after.session.machine.output = c.session.machine.output ++ heard (command, response) := by
  cases running : command.runs with
  | true =>
      rw [heard, if_pos running]
      exact output_of_announces _ _ command response (announces_of_execute fuel c after command response running came)
  | false =>
      rw [heard, if_neg (by simp [running]), String.append_empty,
        machine_of_execute fuel c after command _ running stays came]

theorem output_of_dialogue (c last : Console) (entries : List (Command × Response))
    (dialogue : Dialogue c entries last) (stays : ∀ entry ∈ entries, entry.1.rewinds = false) :
    last.session.machine.output = c.session.machine.output ++ String.join (entries.map heard) := by
  induction dialogue with
  | nil c => exact String.append_empty.symm
  | cons c next last fuel command response rest came _ ih =>
      obtain ⟨first, later⟩ := List.forall_mem_cons.1 stays
      rw [ih later, output_of_execute fuel c next command response first came, List.map_cons, String.join_cons,
        String.append_assoc]

theorem output_is_shown_once :
    (∀ (fuel : Nat) (c after : Console) (command : Command) (response : Response), command.runs = true →
      (c.execute fuel command).Yields (some (.ok response), after) →
        Announces c.session command response after.session ∧
          c.session.machine.output.rawEndPos.IsValid after.session.machine.output) ∧
    ∀ (c last : Console) (entries : List (Command × Response)), Dialogue c entries last →
      (∀ entry ∈ entries, entry.1.rewinds = false) →
        last.session.machine.output = c.session.machine.output ++ String.join (entries.map heard) := by
  constructor
  · intro fuel c after command response running came
    have announces := announces_of_execute fuel c after command response running came
    exact ⟨announces, mark_is_valid _ _ command response announces⟩
  · intro c last entries dialogue stays
    exact output_of_dialogue c last entries dialogue stays

theorem yields_of_done (access : Access Outcome) (outcome : Outcome) (response : Response)
    (done : access = .done outcome) (kept : outcome.1.map Except.toOption = some (some response)) :
    access.Yields (some (.ok response), outcome.2) := by
  obtain ⟨result, after⟩ := outcome
  cases result with
  | none => cases kept
  | some answer =>
      cases answer with
      | error error => cases kept
      | ok shown =>
          cases kept
          exact done ▸ rfl

theorem yields_output (fuel : Nat) (c : Console) (text : String) (same : c.session.machine.output = text) :
    (c.execute fuel .output).Yields (some (.ok (.show text)), c) := by
  cases same
  rfl

-- A program that prints a Hangul filler, a character of three bytes, and then a line feed and a number.
def filling : Console :=
  { session := Session.start "\"\u3164\",55+,1.@" {} }

def stepping : Response :=
  .show "output: \"\\u\x7b3164\x7d\"\n#4 (3, 0) ',' print-char -> (4, 0) moving right"

def running : Response :=
  .show "output: \"\\n1\"\nhalted after 11 steps"

theorem output_is_shown_once_of_three_bytes_and_a_line_feed :
    ∃ last, Dialogue filling [(.step 4, stepping), (.output, .show "\u3164"), (.run, running)] last ∧
      Announces (filling.step 4).2.session .run running last.session ∧
      [stepping, running].map shownOutput = ["\u3164", "\n1"] ∧
      last.session.machine.output =
        filling.session.machine.output ++ String.join (["\u3164", "", "\n1"] : List String) := by
  obtain ⟨announces, sums⟩ := output_is_shown_once
  have stepped := yields_of_done (filling.execute 0 (.step 4)) (filling.step 4) stepping rfl (by decide +kernel)
  have written := yields_output 0 (filling.step 4).2 "\u3164" (by decide +kernel)
  have ran := yields_of_done ((filling.step 4).2.execute 20 .run) ((filling.step 4).2.run 20) running rfl
    (by decide +kernel)
  have shown : [stepping, running].map shownOutput = ["\u3164", "\n1"] := by decide +kernel
  have dialogue := Dialogue.cons _ _ _ 0 _ _ _ stepped (.cons _ _ _ 0 _ _ _ written (.cons _ _ _ 20 _ _ _ ran (.nil _)))
  have stays : ∀ entry ∈ [(Command.step 4, stepping), (.output, .show "\u3164"), (.run, running)],
      entry.1.rewinds = false := by decide +kernel
  have heard : [(Command.step 4, stepping), (.output, .show "\u3164"), (.run, running)].map heard =
      ["\u3164", "", "\n1"] := by decide +kernel
  have sum := sums _ _ _ dialogue stays
  rw [heard] at sum
  exact ⟨_, dialogue, (announces 20 _ _ .run _ rfl ran).1, shown, sum⟩

end Console

end Befunge
