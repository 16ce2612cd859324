import Befunge.Proofs.Session.TimeTravel

/-!
Two sessions side by side. A relation between sessions that every pair of steps keeps, with the same
answers on both sides, is kept by all that is made of steps, with the same answers again. The relation
that matters most is `Alike`: nothing that a program does, and no move through it, tells such sessions
apart.
-/
set_option autoImplicit false

namespace Befunge

namespace Session

-- A relation strong enough to run on both sides without regard to breakpoints.
structure Lockstep (R : Session → Session → Prop) : Prop where
  machine : ∀ s t, R s t → s.machine = t.machine
  overLimit : ∀ s t, R s t → s.overLimit? = t.overLimit?
  answer : ∀ s t, R s t → s.step.1 = t.step.1
  stepped : ∀ s t, R s t → R s.step.2 t.step.2

section Lockstep

variable {R : Session → Session → Prop} (lockstep : Lockstep R)

include lockstep

theorem steps_after_lockstep (last : Option Report) (count : Nat) (s t : Session) (related : R s t) :
    (stepsAfter last count s).1 = (stepsAfter last count t).1 ∧
      R (stepsAfter last count s).2 (stepsAfter last count t).2 := by
  induction count generalizing last s t with
  | zero => exact ⟨rfl, related⟩
  | succ count ih =>
      have answer := lockstep.answer s t related
      have after := lockstep.stepped s t related
      rw [stepsAfter, stepsAfter]
      generalize s.step = left at answer after
      generalize t.step = right at answer after
      obtain ⟨result, s⟩ := left
      obtain ⟨other, t⟩ := right
      cases answer
      cases result with
      | error error => exact ⟨rfl, after⟩
      | ok report =>
          cases report with
          | none => exact ⟨rfl, after⟩
          | some report => exact ih (some report) s t after

theorem run_lockstep (fuel : Nat) (s t : Session) (related : R s t) :
    (s.run fuel).1 = (t.run fuel).1 ∧ R (s.run fuel).2 (t.run fuel).2 := by
  induction fuel generalizing s t with
  | zero => exact ⟨rfl, related⟩
  | succ fuel ih =>
      have answer := lockstep.answer s t related
      have after := lockstep.stepped s t related
      rw [run, run, lockstep.machine s t related, lockstep.overLimit s t related]
      generalize s.step = left at answer after
      generalize t.step = right at answer after
      obtain ⟨result, s'⟩ := left
      obtain ⟨other, t'⟩ := right
      cases answer
      split
      · exact ⟨rfl, related⟩
      · split
        · exact ⟨rfl, related⟩
        · cases result with
          | error error => exact ⟨rfl, after⟩
          | ok report => exact ih s' t' after

-- A run pauses behind a step only, and nowhere else does a pause have to keep the relation.
theorem proceed_from_lockstep (breakpoints : ∀ s t, R s t → s.breakpoints = t.breakpoints)
    (paused : ∀ s t p, R s t →
      R (s.step.2.mapTracer (·.breakpointHit p)) (t.step.2.mapTracer (·.breakpointHit p)))
    (moved : Bool) (fuel : Nat) (s t : Session) (related : R s t)
    (behind : moved = true →
      ∀ p, R (s.mapTracer (·.breakpointHit p)) (t.mapTracer (·.breakpointHit p))) :
    (proceedFrom moved fuel s).1 = (proceedFrom moved fuel t).1 ∧
      R (proceedFrom moved fuel s).2 (proceedFrom moved fuel t).2 := by
  induction fuel generalizing moved s t with
  | zero => exact ⟨rfl, related⟩
  | succ fuel ih =>
      have answer := lockstep.answer s t related
      have after := lockstep.stepped s t related
      have pausing := fun p => paused s t p related
      rw [proceedFrom, proceedFrom, lockstep.machine s t related, lockstep.overLimit s t related,
        breakpoints s t related]
      generalize s.step = left at answer after pausing
      generalize t.step = right at answer after pausing
      obtain ⟨result, s'⟩ := left
      obtain ⟨other, t'⟩ := right
      cases answer
      split
      · exact ⟨rfl, related⟩
      · split
        · rename_i hit
          exact ⟨rfl, behind (Bool.and_eq_true_iff.1 hit).1 _⟩
        · split
          · exact ⟨rfl, related⟩
          · cases result with
            | error error => exact ⟨rfl, after⟩
            | ok report => exact ih true s' t' after fun _ => pausing

-- Only a run that heeds breakpoints and the way back depend on more than steps.
theorem move_lockstep (s t : Session) (m : Move) (related : R s t)
    (breakpoints : ∀ fuel, m = .proceed fuel → ∀ s t, R s t → s.breakpoints = t.breakpoints)
    (paused : ∀ s t p, R s t →
      R (s.step.2.mapTracer (·.breakpointHit p)) (t.step.2.mapTracer (·.breakpointHit p)))
    (back : ∀ count, m = .back count →
      (s.back count).1 = (t.back count).1 ∧ R (s.back count).2 (t.back count).2) :
    (s.move m).1 = (t.move m).1 ∧ R (s.move m).2 (t.move m).2 := by
  cases m with
  | step =>
      exact ⟨congrArg Answer.stepped (lockstep.answer s t related), lockstep.stepped s t related⟩
  | steps count =>
      obtain ⟨answer, after⟩ := steps_after_lockstep lockstep none count s t related
      exact ⟨congrArg Answer.stepped answer, after⟩
  | run fuel =>
      obtain ⟨answer, after⟩ := run_lockstep lockstep fuel s t related
      exact ⟨congrArg Answer.ran answer, after⟩
  | proceed fuel =>
      obtain ⟨answer, after⟩ :=
        proceed_from_lockstep lockstep (breakpoints fuel rfl) paused false fuel s t related
          fun moved => nomatch moved
      exact ⟨congrArg Answer.stopped answer, after⟩
  | back count =>
      obtain ⟨answer, after⟩ := back count rfl
      exact ⟨congrArg Answer.undone answer, after⟩

end Lockstep

-- Machine, name, bounds and limit are all that an answer depends on, and a halted session stays as it is.
theorem lockstep_of_reads {R : Session → Session → Prop}
    (machine : ∀ s t, R s t → s.machine = t.machine) (name : ∀ s t, R s t → s.name = t.name)
    (bounds : ∀ s t, R s t → s.config.bounds = t.config.bounds) (limit : ∀ s t, R s t → s.limit = t.limit)
    (running : ∀ s t, R s t → s.machine.halted = false → t.machine.halted = false →
      R s.step.2 t.step.2) : Lockstep R where
  machine := machine
  overLimit := by
    intro s t related
    simp only [overLimit?, limit s t related, machine s t related, name s t related]
  answer := by
    intro s t related
    rw [step_answer, step_answer, machine s t related, bounds s t related, name s t related]
  stepped := by
    intro s t related
    have same := machine s t related
    cases ended : s.machine.halted with
    | true =>
        rw [step_of_halted s ended, step_of_halted t (by rw [← same]; exact ended)]
        exact related
    | false => exact running s t related ended (by rw [← same]; exact ended)

-- What decides where steps lead and what they answer. Tracer, breakpoints and text may differ.
structure SameCourse (s t : Session) : Prop where
  machine : s.machine = t.machine
  name : s.name = t.name
  config : s.config = t.config
  limit : s.limit = t.limit
  history : s.history = t.history

theorem lockstep_same_course : Lockstep SameCourse := by
  refine lockstep_of_reads (fun _ _ same => same.machine) (fun _ _ same => same.name)
    (fun _ _ same => congrArg Config.bounds same.config) (fun _ _ same => same.limit) ?_
  intro s t same running otherRunning
  rw [step_of_running s running, step_of_running t otherRunning]
  exact
    { same with
      machine := by rw [same.machine, same.config]
      history := by rw [same.machine, same.history] }

theorem same_course_step_again (n : Nat) (s t : Session) (same : SameCourse s t) :
    SameCourse (stepAgain n s) (stepAgain n t) := by
  induction n generalizing s t with
  | zero => exact same
  | succ n ih => exact ih s.step.2 t.step.2 (lockstep_same_course.stepped s t same)

-- Text, seed and tracer may differ, and so may machines that have left the history.
structure Alike (s t : Session) : Prop where
  machine : s.machine = t.machine
  name : s.name = t.name
  bounds : s.config.bounds = t.config.bounds
  breakpoints : s.breakpoints = t.breakpoints
  limit : s.limit = t.limit
  history : s.history.newestFirst = t.history.newestFirst
  capacity : s.history.capacity = t.history.capacity

theorem lockstep_alike : Lockstep Alike := by
  refine lockstep_of_reads (fun _ _ alike => alike.machine) (fun _ _ alike => alike.name)
    (fun _ _ alike => alike.bounds) (fun _ _ alike => alike.limit) ?_
  intro s t alike running otherRunning
  have history : s.step.2.history.newestFirst = t.step.2.history.newestFirst := by
    rw [history_step s running, history_step t otherRunning, Window.newest_first_push,
      Window.newest_first_push, alike.machine, alike.history, alike.capacity]
  have capacity : s.step.2.history.capacity = t.step.2.history.capacity := by
    rw [history_step s running, history_step t otherRunning, Window.capacity_push,
      Window.capacity_push, alike.capacity]
  rw [step_of_running s running, step_of_running t otherRunning] at history capacity ⊢
  exact
    { alike with
      machine := congrArg₂ Machine.attempt alike.bounds alike.machine
      history
      capacity }

theorem alike_back (s t : Session) (count : Nat) (alike : Alike s t) :
    (s.back count).1 = (t.back count).1 ∧ Alike (s.back count).2 (t.back count).2 := by
  have size : s.history.size = t.history.size := by
    rw [← Window.length_newest_first, ← Window.length_newest_first, alike.history]
  refine ⟨by rw [back_count, back_count, size], ?_⟩
  exact
    { machine := by rw [back_machine, back_machine, alike.machine, alike.history]
      name := alike.name
      bounds := alike.bounds
      breakpoints := alike.breakpoints
      limit := alike.limit
      history := by
        rw [back_history, back_history, Window.newest_first_drop_newest,
          Window.newest_first_drop_newest, alike.history]
      capacity := alike.capacity }

theorem alike_move (s t : Session) (m : Move) (alike : Alike s t) :
    (s.move m).1 = (t.move m).1 ∧ Alike (s.move m).2 (t.move m).2 :=
  move_lockstep lockstep_alike s t m alike (fun _ _ _ _ alike => alike.breakpoints)
    (fun s t _ alike => { lockstep_alike.stepped s t alike with })
    (fun count _ => alike_back s t count alike)

theorem alike_moves (ms : List Move) (s t : Session) (alike : Alike s t) :
    (moves ms s).1 = (moves ms t).1 ∧ Alike (moves ms s).2 (moves ms t).2 := by
  induction ms generalizing s t with
  | nil => exact ⟨rfl, alike⟩
  | cons m rest ih =>
      obtain ⟨answer, after⟩ := alike_move s t m alike
      obtain ⟨answers, last⟩ := ih _ _ after
      refine ⟨?_, last⟩
      simp only [moves, answer, after.machine, answers]

end Session

end Befunge
