import Befunge.Proofs.Session.Lockstep

/-!
To watch a program does not change it. The tracer decides nothing at all, the history only what going
back leads to, and the breakpoints only where a run pauses: sessions that differ in these and in
nothing else answer every sequence of operations alike and go on differing in nothing else.
-/
set_option autoImplicit false

namespace Befunge

namespace Session

namespace Operation

def looksBack : Operation → Bool
  | .move (.back _) => true
  | _ => false

def heedsBreakpoints : Operation → Bool
  | .move (.proceed _) | .apply _ | .addBreakpoint _ | .removeBreakpoint _ | .clearBreakpoints => true
  | _ => false

end Operation

def performs : List Operation → Session → List Answer × Session
  | [], s => ([], s)
  | operation :: rest, s =>
      let after := (s.perform operation).2
      ((s.perform operation).1 :: (performs rest after).1, (performs rest after).2)

-- Sessions that differ in their tracers at most, and in histories and breakpoints only where these two
-- are left open.
structure Agree (histories places : Prop) (s t : Session) : Prop where
  machine : s.machine = t.machine
  source : s.source = t.source
  name : s.name = t.name
  config : s.config = t.config
  limit : s.limit = t.limit
  history : histories → s.history = t.history
  breakpoints : places → s.breakpoints = t.breakpoints

section Agree

variable {histories places : Prop}

theorem lockstep_agree : Lockstep (Agree histories places) := by
  refine lockstep_of_reads (fun _ _ agree => agree.machine) (fun _ _ agree => agree.name)
    (fun _ _ agree => congrArg Config.bounds agree.config) (fun _ _ agree => agree.limit) ?_
  intro s t agree running otherRunning
  rw [step_of_running s running, step_of_running t otherRunning]
  exact
    { agree with
      machine := by rw [agree.machine, agree.config]
      history := fun same => by rw [agree.machine, agree.history same] }

theorem agree_back (s t : Session) (count : Nat) (same : histories) (agree : Agree histories places s t) :
    (s.back count).1 = (t.back count).1 ∧ Agree histories places (s.back count).2 (t.back count).2 := by
  have history := agree.history same
  refine ⟨by rw [back_count, back_count, history], ?_⟩
  exact
    { agree with
      machine := by rw [back_machine, back_machine, agree.machine, history]
      history := fun _ => by rw [back_history, back_history, history] }

theorem agree_move (s t : Session) (m : Move) (agree : Agree histories places s t)
    (back : (Operation.move m).looksBack = true → histories)
    (pausing : (Operation.move m).heedsBreakpoints = true → places) :
    (s.move m).1 = (t.move m).1 ∧ Agree histories places (s.move m).2 (t.move m).2 := by
  apply move_lockstep lockstep_agree s t m agree
  · rintro fuel rfl _ _ agree
    exact agree.breakpoints (pausing rfl)
  · intro s t _ agree
    exact { lockstep_agree.stepped s t agree with }
  · rintro count rfl
    exact agree_back s t count (back rfl) agree

theorem agree_perform (s t : Session) (operation : Operation) (agree : Agree histories places s t)
    (back : operation.looksBack = true → histories)
    (pausing : operation.heedsBreakpoints = true → places) :
    (s.perform operation).1 = (t.perform operation).1 ∧
      Agree histories places (s.perform operation).2 (t.perform operation).2 := by
  cases operation with
  | move m => exact agree_move s t m agree back pausing
  | reset =>
      exact ⟨rfl,
        { agree with
          machine := congrArg₂ Machine.load agree.source agree.config
          history := fun same => congrArg Window.clear (agree.history same) }⟩
  | reseed seed =>
      exact ⟨rfl, { agree with config := congrArg (fun config => { config with seed }) agree.config }⟩
  | restore machine =>
      exact ⟨rfl,
        { agree with
          machine := rfl
          history := fun same => congrArg Window.clear (agree.history same) }⟩
  | apply image =>
      exact ⟨rfl,
        { agree with
          machine := rfl
          source := rfl
          name := rfl
          history := fun same => congrArg Window.clear (agree.history same)
          breakpoints := fun _ => rfl }⟩
  | setProgram source name => exact ⟨rfl, { agree with source := rfl, name := rfl }⟩
  | addBreakpoint p =>
      have breakpoints := agree.breakpoints (pausing rfl)
      exact ⟨by simp only [perform, addBreakpoint, breakpoints],
        { agree with breakpoints := fun _ => congrArg (Breakpoints.insert p) breakpoints }⟩
  | removeBreakpoint p =>
      have breakpoints := agree.breakpoints (pausing rfl)
      exact ⟨by simp only [perform, removeBreakpoint, breakpoints],
        { agree with breakpoints := fun _ => congrArg (Breakpoints.erase p) breakpoints }⟩
  | clearBreakpoints => exact ⟨rfl, { agree with breakpoints := fun _ => rfl }⟩
  | setLimit limit => exact ⟨rfl, { agree with limit := rfl }⟩
  | mapTracer f => exact ⟨rfl, { agree with }⟩

theorem agree_performs (operations : List Operation) (s t : Session) (agree : Agree histories places s t)
    (back : ∀ operation ∈ operations, operation.looksBack = true → histories)
    (pausing : ∀ operation ∈ operations, operation.heedsBreakpoints = true → places) :
    (performs operations s).1 = (performs operations t).1 ∧
      Agree histories places (performs operations s).2 (performs operations t).2 := by
  induction operations generalizing s t with
  | nil => exact ⟨rfl, agree⟩
  | cons operation rest ih =>
      rw [List.forall_mem_cons] at back pausing
      obtain ⟨answer, after⟩ := agree_perform s t operation agree back.1 pausing.1
      obtain ⟨answers, last⟩ := ih _ _ after back.2 pausing.2
      exact ⟨congrArg₂ List.cons answer answers, last⟩

end Agree

theorem breakpoints_perform (s : Session) (operation : Operation)
    (unheeded : operation.heedsBreakpoints = false) :
    (s.perform operation).2.breakpoints = s.breakpoints := by
  cases operation with
  | move m =>
      have kept : ∀ u : Session, u.breakpoints = s.breakpoints → u.step.2.breakpoints = s.breakpoints :=
        fun u same => (breakpoints_step u).trans same
      exact move_keeps kept (fun _ _ same => same) (fun _ _ same => same) s m rfl
  | reset | reseed | restore | setProgram | setLimit | mapTracer => rfl
  | apply | addBreakpoint | removeBreakpoint | clearBreakpoints => cases unheeded

theorem breakpoints_performs (operations : List Operation) (s : Session)
    (unheeded : ∀ operation ∈ operations, operation.heedsBreakpoints = false) :
    (performs operations s).2.breakpoints = s.breakpoints := by
  induction operations generalizing s with
  | nil => rfl
  | cons operation rest ih =>
      rw [List.forall_mem_cons] at unheeded
      exact (ih _ unheeded.2).trans (breakpoints_perform s operation unheeded.1)

variable (s : Session) (operations : List Operation)

-- The other session answers alike, and what it ends with is told from this one but for what is open.
theorem performs_beside (histories places : Prop) (t : Session) (start : Agree histories places s t)
    (back : ∀ operation ∈ operations, operation.looksBack = true → histories)
    (pausing : ∀ operation ∈ operations, operation.heedsBreakpoints = true → places) :
    let last := (performs operations s).2
    ∃ other : Session, performs operations t = ((performs operations s).1,
        { last with tracer := other.tracer, history := other.history, breakpoints := other.breakpoints }) ∧
      (histories → other.history = last.history) ∧ (places → other.breakpoints = last.breakpoints) := by
  intro last
  obtain ⟨answers, agree⟩ := agree_performs operations s t start back pausing
  refine ⟨(performs operations t).2, Prod.ext answers.symm ?_, fun same => (agree.history same).symm,
    fun same => (agree.breakpoints same).symm⟩
  rw [agree.machine, agree.source, agree.name, agree.config, agree.limit]

theorem observation_disturbs_nothing (tracer : Tracer) (history : History) (breakpoints : Breakpoints) :
    let answers := (performs operations s).1
    let last := (performs operations s).2
    (∃ traced, performs operations { s with tracer } = (answers, { last with tracer := traced })) ∧
    ((∀ operation ∈ operations, operation.looksBack = false) →
      ∃ traced recorded, performs operations { s with tracer, history } =
        (answers, { last with tracer := traced, history := recorded })) ∧
    ((∀ operation ∈ operations, operation.looksBack = false ∧ operation.heedsBreakpoints = false) →
      ∃ traced recorded, performs operations { s with tracer, history, breakpoints } =
        (answers, { last with tracer := traced, history := recorded, breakpoints })) := by
  refine ⟨?_, ?_, ?_⟩
  · have start : Agree True True s { s with tracer } :=
      ⟨rfl, rfl, rfl, rfl, rfl, fun _ => rfl, fun _ => rfl⟩
    obtain ⟨other, same, recorded, places⟩ := performs_beside s operations True True _ start
      (fun _ _ _ => trivial) (fun _ _ _ => trivial)
    rw [recorded trivial, places trivial] at same
    exact ⟨other.tracer, same⟩
  · intro forward
    have start : Agree False True s { s with tracer, history } :=
      ⟨rfl, rfl, rfl, rfl, rfl, False.elim, fun _ => rfl⟩
    obtain ⟨other, same, _, places⟩ := performs_beside s operations False True _ start
      (fun operation member back => by simp [forward operation member] at back) (fun _ _ _ => trivial)
    rw [places trivial] at same
    exact ⟨other.tracer, other.history, same⟩
  · intro plain
    have start : Agree False False s { s with tracer, history, breakpoints } :=
      ⟨rfl, rfl, rfl, rfl, rfl, False.elim, False.elim⟩
    obtain ⟨other, same, _, _⟩ := performs_beside s operations False False _ start
      (fun operation member back => by simp [(plain operation member).1] at back)
      (fun operation member heeds => by simp [(plain operation member).2] at heeds)
    have places := breakpoints_performs operations { s with tracer, history, breakpoints }
      fun operation member => (plain operation member).2
    rw [same] at places
    dsimp only at places
    rw [places] at same
    exact ⟨other.tracer, other.history, same⟩

-- A loop that runs into its limit, is reset and started again, once unwatched and once under a full trace
-- of one record, without a history and with a breakpoint.
def circling : Session :=
  construct ">1v\n^ <" {} none .disabled 5 (some 20)

def outing : List Operation :=
  [.move .step, .move (.steps 4), .move (.run 30), .reset, .move (.steps 2)]

def watched : Session :=
  { circling with
    tracer := { enabled := true, json := true, log := .empty 1 }
    history := .empty 0
    breakpoints := .ofList [⟨2, 0⟩] }

theorem observation_disturbs_nothing_of_a_loop :
    (∀ operation ∈ outing, operation.looksBack = false ∧ operation.heedsBreakpoints = false) ∧
      ∃ traced recorded, performs outing watched =
          ((performs outing circling).1,
            { (performs outing circling).2 with
              tracer := traced, history := recorded, breakpoints := .ofList [⟨2, 0⟩] }) ∧
        traced.log.nextId = 22 ∧ recorded.size = 0 ∧ (performs outing circling).2.history.size = 2 ∧
        (performs outing circling).2.machine.stack.topFirst = [1] := by
  have plain : ∀ operation ∈ outing,
      operation.looksBack = false ∧ operation.heedsBreakpoints = false := by
    decide +kernel
  obtain ⟨_, _, unseen⟩ := observation_disturbs_nothing circling outing
    { enabled := true, json := true, log := .empty 1 } (.empty 0) (.ofList [⟨2, 0⟩])
  obtain ⟨traced, recorded, same⟩ := unseen plain
  have made : (performs outing watched).2.tracer.log.nextId = traced.log.nextId :=
    congrArg (·.2.tracer.log.nextId) same
  have held : (performs outing watched).2.history.size = recorded.size :=
    congrArg (·.2.history.size) same
  exact ⟨plain, traced, recorded, same, made.symm.trans (by decide +kernel),
    held.symm.trans (by decide +kernel), by decide +kernel, by decide +kernel⟩

end Session

end Befunge
