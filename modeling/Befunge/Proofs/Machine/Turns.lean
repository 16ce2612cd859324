import Befunge.Proofs.Machine.Bounds
import Befunge.Proofs.Random.Draw

/-!
The random turns of a run are those that its seed draws, one after another. A step that executes `?` makes
one draw, and no other step has anything to do with the generator, so all that a program can choose is how
many of the turns it takes.
-/
set_option autoImplicit false

namespace Befunge

namespace Machine

-- The next step executes `?`.
def AtChoice (m : Machine) : Prop :=
  m.halted = false ∧ m.stringMode = false ∧ m.cell = '?'

instance (m : Machine) : Decidable m.AtChoice :=
  inferInstanceAs (Decidable (_ ∧ _ ∧ _))

-- The direction that a step reports, if it reports that it executed `?`.
def turned? (bounds : Bounds) (m : Machine) : Option Direction :=
  match m.step bounds with
  | .stepped report _ => if report.action = .execute .random then some report.direction else none
  | .halted _ | .faulted _ _ => none

-- The directions that so many steps chose at random, whatever came of the others.
def turns (bounds : Bounds) : Nat → Machine → List Direction
  | 0, _ => []
  | count + 1, m => (m.turned? bounds).toList ++ turns bounds count (m.attempt bounds)

def turnsUnder (bounds : Bounds) (source : String) (seed : UInt64) (n : Nat) : List Direction :=
  (load source { seed, bounds }).turns bounds n

theorem instruction_eq_random_iff (m : Machine) :
    m.instruction? = some .random ↔ m.stringMode = false ∧ m.cell = '?' :=
  instruction_eq_some_iff m .random (by decide) (by decide)

theorem direction_of_finish (m : Machine) : m.finish.pointer.direction = m.pointer.direction := by
  dsimp only [finish]
  split
  · rfl
  · rfl

theorem generator_of_execute (bounds : Bounds) (m after : Machine) (instruction : Instruction)
    (effects : Effects) (other : instruction ≠ .random)
    (done : m.execute bounds instruction = .done after effects) : after.generator = m.generator := by
  cases instruction with
  | random => exact absurd rfl other
  | get =>
      obtain ⟨_, v, rfl⟩ := fetch_cell_done bounds m after effects done
      rw [without_top_eq]
      rfl
  | put =>
      obtain ⟨_, rfl⟩ := store_cell_done bounds m after effects done
      rw [without_top_eq]
  | digit | add | sub | mul | div | mod | not | greater | left | right | up | down
  | horizontalIf | verticalIf | trampoline | stringMode | dup | swap | discard | printInt | printChar
  | halt | nop =>
      cases done
      rfl

theorem step_at_choice (bounds : Bounds) (m : Machine) (choosing : m.AtChoice) :
    ∃ report next, m.step bounds = .stepped report next ∧ report.action = .execute .random ∧
      report.direction = m.generator.direction.1 ∧ next.generator = m.generator.direction.2 := by
  rw [step_of_running bounds m choosing.1, (instruction_eq_random_iff m).2 choosing.2]
  simp only [execute_random]
  refine ⟨_, _, rfl, rfl, direction_of_finish _, ?_⟩
  rw [finish_eq]

theorem attempt_at_choice (bounds : Bounds) (m : Machine) (choosing : m.AtChoice) :
    m.turned? bounds = some m.generator.direction.1 ∧
      (m.attempt bounds).generator = m.generator.direction.2 := by
  obtain ⟨report, next, stepped, action, direction, generator⟩ := step_at_choice bounds m choosing
  rw [turned?, attempt, stepped]
  simp only [action, if_true, direction]
  exact ⟨trivial, generator⟩

-- By the outcome: a halted machine does nothing, a failing access pops its operands, and what is done
-- without a choice is done without the generator.
theorem attempt_without_choice (bounds : Bounds) (m : Machine) (elsewhere : ¬ m.AtChoice) :
    m.turned? bounds = none ∧ (m.attempt bounds).generator = m.generator := by
  rw [turned?, attempt]
  cases outcome : m.step bounds with
  | halted after =>
      have still := attempt_of_halted bounds m (halted_of_step bounds m after outcome)
      rw [attempt, outcome] at still
      exact ⟨rfl, by rw [still]⟩
  | stepped report next =>
      obtain ⟨running, action, effects, after, applied, same⟩ :=
        (step_eq_stepped_iff bounds m next report).1 outcome
      cases same
      dsimp only
      rw [finish_eq]
      cases applied with
      | push pushing => exact ⟨rfl, rfl⟩
      | execute instruction _ _ executing done =>
          have other : instruction ≠ .random := by
            rintro rfl
            exact elsewhere ⟨running, (instruction_eq_random_iff m).1 executing⟩
          exact ⟨by rw [if_neg (by simpa using other)],
            generator_of_execute bounds m after instruction effects other done⟩
  | faulted error next =>
      refine ⟨rfl, ?_⟩
      dsimp only
      rw [(step_eq_faulted bounds m next error outcome).2, without_top_eq]

-- Induction on the steps: each of them takes the first of the turns that are left, or none.
theorem directions_of_turns (bounds : Bounds) (count : Nat) (m : Machine) :
    m.generator.directions (m.turns bounds count).length =
      (m.turns bounds count, (m.attempts bounds count).generator) := by
  induction count generalizing m with
  | zero => rfl
  | succ count ih =>
      have later := ih (m.attempt bounds)
      rw [attempts_succ', turns]
      by_cases choosing : m.AtChoice
      · obtain ⟨turned, generator⟩ := attempt_at_choice bounds m choosing
        rw [generator] at later
        rw [turned, Option.toList_some, List.singleton_append, List.length_cons, Generator.directions]
        dsimp only
        rw [later]
      · obtain ⟨turned, generator⟩ := attempt_without_choice bounds m choosing
        rw [generator] at later
        rw [turned, Option.toList_none, List.nil_append, later]

theorem directions_of_turns_under (bounds : Bounds) (source : String) (seed : UInt64) (n : Nat) :
    (Generator.ofSeed seed).directions (turnsUnder bounds source seed n).length =
      (turnsUnder bounds source seed n, (under bounds source seed n).generator) :=
  directions_of_turns bounds n (load source { seed, bounds })

theorem turns_start_alike (bounds bounds' : Bounds) (source source' : String) (seed : UInt64) (n n' : Nat)
    (fewer : (turnsUnder bounds source seed n).length ≤ (turnsUnder bounds' source' seed n').length) :
    turnsUnder bounds source seed n <+: turnsUnder bounds' source' seed n' := by
  have shared := Generator.directions_start_alike _ _ (Generator.ofSeed seed) fewer
  rwa [directions_of_turns_under, directions_of_turns_under] at shared

theorem turns_follow_the_seed (seed : UInt64) :
    (∀ bounds source n,
      let turns := turnsUnder bounds source seed n
      (Generator.ofSeed seed).directions turns.length =
        (turns, (under bounds source seed n).generator)) ∧
    (∀ count,
      let (drawn, g) := (Generator.ofSeed seed).directions count
      g.Ends → ∃ k d after, g.Draws k after ∧ Direction.all[k]? = some d ∧
        (Generator.ofSeed seed).directions (count + 1) = (drawn ++ [d], after)) ∧
    (∀ bounds (m : Machine), ¬ m.AtChoice →
      m.turned? bounds = none ∧ (m.attempt bounds).generator = m.generator) ∧
    (∀ bounds source n bounds' source' n',
      turnsUnder bounds source seed n <+: turnsUnder bounds' source' seed n' ∨
        turnsUnder bounds' source' seed n' <+: turnsUnder bounds source seed n) := by
  refine ⟨?_, ?_, attempt_without_choice, ?_⟩
  · intro bounds source n
    exact directions_of_turns_under bounds source seed n
  · intro count ends
    exact Generator.directions_of_ends count (Generator.ofSeed seed) ends
  · intro bounds source n bounds' source' n'
    rcases Nat.le_total (turnsUnder bounds source seed n).length
        (turnsUnder bounds' source' seed n').length with fewer | more
    · exact .inl (turns_start_alike bounds bounds' source source' seed n n' fewer)
    · exact .inr (turns_start_alike bounds' bounds source' source seed n' n more)

-- The first program pushes a `?` in string mode, fails on an access outside and only then chooses; the
-- second does nothing but choose. The first draw of the seed refuses four readings.
theorem turns_follow_the_seed_behind_a_fault :
    (under .strict "\"?\"9g?@" 7 4).Fails .strict ∧
      (under .strict "\"?\"9g?@" 7 6).generator = Generator.ofSeed 7 ∧
      turnsUnder .strict "\"?\"9g?@" 7 8 = [.down, .left] ∧
      turnsUnder .lenient "?" 7 4 = [.down, .left, .up, .right] ∧
      (turnsUnder .strict "\"?\"9g?@" 7 8 <+: turnsUnder .lenient "?" 7 4 ∨
        turnsUnder .lenient "?" 7 4 <+: turnsUnder .strict "\"?\"9g?@" 7 8) ∧
      ∃ k after, (Generator.ofSeed 7).Draws k after ∧ Direction.all[k]? = some .down ∧
        after.position = 10 := by
  obtain ⟨follow, rule, _, shared⟩ := turns_follow_the_seed 7
  have none : turnsUnder .strict "\"?\"9g?@" 7 6 = [] := by decide +kernel
  have start := follow .strict "\"?\"9g?@" 6
  rw [none] at start
  have first : (Generator.ofSeed 7).directions 1 = ([.down], { Generator.ofSeed 7 with position := 10 }) := by
    decide +kernel
  obtain ⟨k, d, after, drawn, numbered, same⟩ := rule 0 (Generator.ends_of_accepts 4 _ (by decide +kernel))
  cases first.symm.trans same
  exact ⟨by decide +kernel, (congrArg Prod.snd start).symm, by decide +kernel, by decide +kernel,
    shared _ _ _ _ _ _, k, _, drawn, numbered, rfl⟩

end Machine

end Befunge
