import Mathlib.Data.Int.ModEq
import Befunge.Proofs.Machine.Step

/-!
Arithmetic on the stack. Sums, differences and products are exact modulo 2^64, and so are quotient and
remainder, which are exact as integers too but for one pair of operands, whose quotient no value is. No
operands make any of these instructions fail.
-/
set_option autoImplicit false

namespace Befunge

namespace Arithmetic

-- The value is the only one that is congruent to the number.
def Wraps (n : Int) (v : Value) : Prop :=
  ∀ w : Value, w.toInt ≡ n [ZMOD 2 ^ 64] ↔ w = v

-- The quotient `q` and the remainder `r` of `b` by `a`.
structure Divided (b a q r : Value) : Prop where
  zero : a = 0 → q = 0 ∧ r = 0
  congruent : a ≠ 0 → q.toInt * a.toInt + r.toInt ≡ b.toInt [ZMOD 2 ^ 64]
  small : a ≠ 0 → r.toInt.natAbs < a.toInt.natAbs
  sign : a ≠ 0 → r = 0 ∨ r.toInt.sign = b.toInt.sign
  exact : a ≠ 0 → ¬ (b = Int64.minValue ∧ a = -1) → q.toInt * a.toInt + r.toInt = b.toInt
  largest : b = Int64.minValue → a = -1 → q = Int64.minValue ∧ r = 0

theorem wraps_of_bmod (n : Int) (v : Value) (wrapped : v.toInt = n.bmod (2 ^ 64)) : Wraps n v := by
  intro w
  have same : w.toInt.bmod (2 ^ 64) = w.toInt := w.toInt_bmod
  constructor
  · intro congruent
    rw [← Int64.toInt_inj, wrapped, ← same, ← Int.emod_bmod, ← Int.emod_bmod n]
    exact congrArg (Int.bmod · _) congruent
  · rintro rfl
    rw [wrapped]
    exact Int.bmod_emod

theorem divided (b a : Value) : Divided b a (quotient b a) (remainder b a) := by
  by_cases nothing : a = 0
  · rw [quotient, remainder, if_pos nothing, if_pos nothing]
    have other : a ≠ -1 := by rw [nothing]; decide
    exact
      { zero := fun _ => ⟨rfl, rfl⟩
        congruent := absurd nothing
        small := absurd nothing
        sign := absurd nothing
        exact := absurd nothing
        largest := fun _ minus => absurd minus other }
  · rw [quotient, remainder, if_neg nothing, if_neg nothing]
    have divisor : a.toInt ≠ 0 := fun zero => nothing (Int64.toInt_inj.1 zero)
    have whole : b.toInt.tdiv a.toInt * a.toInt + b.toInt.tmod a.toInt = b.toInt := by
      rw [Int.mul_comm, Int.mul_tdiv_add_tmod]
    have wrapped : (b / a).toInt ≡ b.toInt.tdiv a.toInt [ZMOD 2 ^ 64] := by
      rw [Int64.toInt_div]
      exact Int.bmod_emod
    exact
      { zero := fun zero => absurd zero nothing
        congruent := fun _ => by
          rw [Int64.toInt_mod]
          exact ((wrapped.mul_right a.toInt).add_right _).trans (congrArg (· % 2 ^ 64) whole)
        small := fun _ => by
          rw [Int64.toInt_mod, Int.natAbs_tmod]
          exact Nat.mod_lt _ (Int.natAbs_pos.2 divisor)
        sign := fun _ => by
          rw [← Int64.toInt_inj, Int64.toInt_mod, Int.sign_tmod]
          by_cases divides : a.toInt ∣ b.toInt
          · exact .inl (Int.tmod_eq_zero_of_dvd divides)
          · exact .inr (if_neg divides)
        exact := fun _ fits => by
          rw [Int64.toInt_mod]
          rcases not_and_or.1 fits with left | right
          · rw [Int64.toInt_div_of_ne_left b a left, whole]
          · rw [Int64.toInt_div_of_ne_right b a right, whole]
        largest := fun least minus => by
          rw [least, minus]
          decide }

end Arithmetic

namespace Machine

-- Whatever machine is to execute the instruction on these operands, whatever stands below them: so many
-- values go from its stack, the result comes, and the pointer goes on.
def Computes (symbol : Char) (taken : Nat) (b a result : Value) : Prop :=
  ∀ bounds (m : Machine), m.halted = false → m.stringMode = false → m.cell = symbol →
    m.operand 0 = a → m.operand 1 = b →
    ∃ report next, m.step bounds = .stepped report next ∧ report.effects = {} ∧
      next.stack.topFirst = result :: m.stack.topFirst.drop taken ∧
      next = { m with
        stack := next.stack
        pointer := m.pointer.advance m.grid
        steps := m.steps + 1 }

theorem combine_eq (f : Value → Value → Value) (m : Machine) :
    m.combine f = (m.withoutTop 2).push (f (m.operand 1) (m.operand 0)) := by
  rw [← pop_without_top 0, ← pop_without_top 1]
  rfl

theorem computes_of_execute (instruction : Instruction) (known : instruction ≠ .nop)
    (other : instruction ≠ .stringMode) (taken : Nat) (b a result : Value)
    (done : ∀ bounds (m : Machine), m.operand 0 = a → m.operand 1 = b →
      m.execute bounds instruction = .done ((m.withoutTop taken).push result) {}) :
    Computes instruction.symbol taken b a result := by
  intro bounds m running plain here top below
  have executing := (instruction_eq_some_iff m instruction known other).2 ⟨plain, here⟩
  rw [step_of_running bounds m running, executing]
  simp only [done bounds m top below]
  refine ⟨_, _, rfl, rfl, ?_, ?_⟩
  · rw [finish_eq, ← top_first_without_top]
    rfl
  · rw [without_top_eq, finish]
    simp [running, push, advance]

theorem computes_of_combine (instruction : Instruction) (known : instruction ≠ .nop)
    (other : instruction ≠ .stringMode) (f : Value → Value → Value)
    (combines : ∀ bounds (m : Machine), m.execute bounds instruction = .done (m.combine f) {}) (b a : Value) :
    Computes instruction.symbol 2 b a (f b a) := by
  apply computes_of_execute instruction known other
  rintro bounds m rfl rfl
  rw [combines, combine_eq]

theorem computes_not (b a : Value) : Computes '!' 1 b a (Arithmetic.truth (a = 0)) := by
  apply computes_of_execute .not (by decide) (by decide)
  rintro bounds m rfl _
  rw [← pop_without_top 0]
  rfl

theorem computes_greater (b a : Value) : Computes '\x60' 2 b a (Arithmetic.truth (a.toInt < b.toInt)) := by
  have compared : Arithmetic.truth (a.toInt < b.toInt) = Arithmetic.truth (a < b) := by
    simp only [Arithmetic.truth, Int64.lt_iff_toInt_lt]
  rw [compared]
  exact computes_of_combine .greater (by decide) (by decide) _ (fun _ _ => rfl) b a

theorem arithmetic_is_exact (b a : Value) :
    (∃ sum, Computes '+' 2 b a sum ∧ Arithmetic.Wraps (b.toInt + a.toInt) sum) ∧
    (∃ difference, Computes '-' 2 b a difference ∧ Arithmetic.Wraps (b.toInt - a.toInt) difference) ∧
    (∃ product, Computes '*' 2 b a product ∧ Arithmetic.Wraps (b.toInt * a.toInt) product) ∧
    (∃ q r, Computes '/' 2 b a q ∧ Computes '%' 2 b a r ∧ Arithmetic.Divided b a q r) ∧
    Computes '\x60' 2 b a (if b.toInt > a.toInt then 1 else 0) ∧
    Computes '!' 1 b a (if a = 0 then 1 else 0) := by
  refine ⟨⟨b + a, ?_, ?_⟩, ⟨b - a, ?_, ?_⟩, ⟨b * a, ?_, ?_⟩, ⟨_, _, ?_, ?_, Arithmetic.divided b a⟩,
    computes_greater b a, computes_not b a⟩
  · exact computes_of_combine .add (by decide) (by decide) _ (fun _ _ => rfl) b a
  · exact Arithmetic.wraps_of_bmod _ _ (Int64.toInt_add b a)
  · exact computes_of_combine .sub (by decide) (by decide) _ (fun _ _ => rfl) b a
  · exact Arithmetic.wraps_of_bmod _ _ (Int64.toInt_sub b a)
  · exact computes_of_combine .mul (by decide) (by decide) _ (fun _ _ => rfl) b a
  · exact Arithmetic.wraps_of_bmod _ _ (Int64.toInt_mul b a)
  · exact computes_of_combine .div (by decide) (by decide) _ (fun _ _ => rfl) b a
  · exact computes_of_combine .mod (by decide) (by decide) _ (fun _ _ => rfl) b a

-- The least value divided by minus one, above another value.
def dividing : Machine :=
  { load "/" {} with stack := .ofBottomFirst [7, Int64.minValue, -1] }

-- One operand where two are taken.
def subtracting : Machine :=
  { load "-" {} with stack := .ofBottomFirst [5] }

theorem arithmetic_is_exact_at_the_edges :
    (∃ report next, dividing.step .strict = .stepped report next ∧
      next.stack.topFirst = [Int64.minValue, 7]) ∧
    ∃ report next, subtracting.step .strict = .stepped report next ∧ next.stack.topFirst = [-5] := by
  obtain ⟨_, _, _, ⟨q, r, divides, _, divided⟩, _⟩ := arithmetic_is_exact Int64.minValue (-1)
  obtain ⟨_, ⟨d, subtracts, wraps⟩, _⟩ := arithmetic_is_exact 0 5
  have minus : -5 = d := (wraps (-5)).1 (by decide)
  obtain ⟨report, next, stepped, _, top, _⟩ :=
    divides .strict dividing rfl rfl (by decide +kernel) rfl rfl
  obtain ⟨told, last, taken, _, alone, _⟩ :=
    subtracts .strict subtracting rfl rfl (by decide +kernel) rfl rfl
  refine ⟨⟨report, next, stepped, ?_⟩, told, last, taken, ?_⟩
  · rw [top, (divided.largest rfl rfl).1]
    rfl
  · rw [alone, ← minus]
    rfl

end Machine

end Befunge
