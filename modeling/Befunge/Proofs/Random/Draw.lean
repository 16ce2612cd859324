import Mathlib.Algebra.Group.Nat.Defs
import Mathlib.Data.Nat.Init
import Mathlib.Logic.Function.Iterate
import Befunge.Random.Generator

/-!
A draw is a loop that reads two words of the keystream at a time and stops at the first reading that is
not refused. How many readings that takes depends on the words. The bound on the tries is no limit to it:
after so many the keystream starts again, so a loop that ends at all has ended before.
-/
set_option autoImplicit false

namespace Befunge

namespace Generator

-- The number made of the next two words, the first of them the lower half.
def reading (g : Generator) : Nat :=
  (g.wordAt g.position).toNat + 2 ^ 32 * (g.wordAt (g.position + 1)).toNat

-- The generator two words on.
def onward (g : Generator) : Generator :=
  { g with position := g.position + 2 }

def Accepts (g : Generator) : Prop :=
  4 * g.reading % 2 ^ 64 ≤ 2 ^ 63 - 1

instance (g : Generator) : Decidable g.Accepts :=
  inferInstanceAs (Decidable (_ ≤ _))

-- The loop of a draw below four, without a bound: the number drawn, and the generator that it leaves.
inductive Draws : Generator → Nat → Generator → Prop where
  | accept (g : Generator) (accepted : g.Accepts) : Draws g (4 * g.reading / 2 ^ 64) g.onward
  | refuse (g after : Generator) (k : Nat) (refused : ¬ g.Accepts) (later : Draws g.onward k after) :
      Draws g k after

def Ends (g : Generator) : Prop :=
  ∃ k after, Draws g k after

-- The directions of so many draws, each from where the one before it ended, and what they lead to.
def directions : Nat → Generator → List Direction × Generator
  | 0, g => ([], g)
  | count + 1, g =>
      let (d, g) := g.direction
      let (rest, last) := directions count g
      (d :: rest, last)

theorem reading_lt (g : Generator) : g.reading < 2 ^ 64 := by
  have low := (g.wordAt g.position).toNat_lt
  have high := (g.wordAt (g.position + 1)).toNat_lt
  rw [reading]
  omega

theorem next_eq (g : Generator) : g.next = (UInt64.ofNat g.reading, g.onward) := by
  have low := (g.wordAt g.position).toNat_lt
  have high := (g.wordAt (g.position + 1)).toNat_lt
  rw [next, words_at_eq]
  refine Prod.ext ?_ rfl
  rw [← UInt64.toNat_inj, UInt64.toNat_ofNat_of_lt' g.reading_lt, reading]
  dsimp only
  rw [UInt64.toNat_or, UInt64.toNat_shiftLeft, UInt32.toNat_toUInt64, UInt32.toNat_toUInt64]
  rw [show UInt64.toNat 32 % 64 = 32 from rfl, Nat.shiftLeft_eq, Nat.mod_eq_of_lt (by omega), Nat.or_comm,
    Nat.mul_comm, ← Nat.two_pow_add_eq_or_of_lt low, Nat.add_comm]

theorem quarter_eq (bits : UInt64) :
    quarter? bits =
      if 4 * bits.toNat % 2 ^ 64 ≤ 2 ^ 63 - 1 then
        some ⟨4 * bits.toNat / 2 ^ 64, by have := bits.toNat_lt; omega⟩
      else none := by
  have bound := bits.toNat_lt
  have small : bits <<< 2 < 0x8000000000000000 ↔ 4 * bits.toNat % 2 ^ 64 ≤ 2 ^ 63 - 1 := by
    rw [UInt64.lt_iff_toNat_lt, UInt64.toNat_shiftLeft, show UInt64.toNat 2 % 64 = 2 from rfl,
      Nat.shiftLeft_eq, show UInt64.toNat 0x8000000000000000 = 2 ^ 63 from rfl]
    omega
  have upper : (bits >>> 62).toNat % 4 = 4 * bits.toNat / 2 ^ 64 := by
    rw [UInt64.toNat_shiftRight, show UInt64.toNat 62 % 64 = 62 from rfl, Nat.shiftRight_eq_div_pow]
    omega
  simp only [quarter?, small, upper]

theorem draw_within_try (tries : Nat) (g : Generator) :
    drawWithin (tries + 1) g =
      match quarter? g.next.1 with
      | some k => (k, g.next.2)
      | none => drawWithin tries g.next.2 :=
  rfl

theorem draw_within_succ (tries : Nat) (g : Generator) :
    drawWithin (tries + 1) g =
      if g.Accepts then
        (⟨4 * g.reading / 2 ^ 64, by have := g.reading_lt; omega⟩, g.onward)
      else drawWithin tries g.onward := by
  rw [draw_within_try, next_eq]
  dsimp only
  simp only [quarter_eq, UInt64.toNat_ofNat_of_lt' g.reading_lt]
  by_cases accepted : 4 * g.reading % 2 ^ 64 ≤ 2 ^ 63 - 1
  · rw [if_pos accepted, if_pos (show g.Accepts from accepted)]
  · rw [if_neg accepted, if_neg (show ¬ g.Accepts from accepted)]

-- Induction on the bound: the first try is accepted, or an accepted one is among the rest.
theorem draws_of_accepts (tries t : Nat) (g : Generator) (within : t < tries)
    (accepted : (onward^[t] g).Accepts) :
    Draws g (drawWithin tries g).1 (drawWithin tries g).2 := by
  induction tries generalizing t g with
  | zero => omega
  | succ tries ih =>
      rw [draw_within_succ]
      by_cases first : g.Accepts
      · rw [if_pos first]
        exact .accept g first
      · rw [if_neg first]
        cases t with
        | zero => exact absurd accepted first
        | succ t => exact .refuse _ _ _ first (ih t g.onward (by omega) accepted)

theorem onward_iterate (t : Nat) (g : Generator) :
    onward^[t] g = { g with position := g.position + BitVec.ofNat 68 (2 * t) } := by
  induction t generalizing g with
  | zero => simp
  | succ t ih =>
      rw [Function.iterate_succ_apply, ih, onward, Nat.mul_succ, BitVec.ofNat_add, BitVec.add_assoc,
        BitVec.add_comm 2]
      rfl

theorem onward_mod_period (t : Nat) (g : Generator) : onward^[t % period] g = onward^[t] g := by
  have place : BitVec.ofNat 68 (2 * (t % period)) = BitVec.ofNat 68 (2 * t) := by
    rw [← BitVec.toNat_inj, BitVec.toNat_ofNat, BitVec.toNat_ofNat, period, Nat.shiftLeft_eq]
    omega
  rw [onward_iterate, onward_iterate, place]

theorem accepts_of_draws (g after : Generator) (k : Nat) (drawn : Draws g k after) :
    ∃ t, (onward^[t] g).Accepts := by
  induction drawn with
  | accept g accepted => exact ⟨0, accepted⟩
  | refuse g after k refused later ih =>
      obtain ⟨t, accepted⟩ := ih
      exact ⟨t + 1, accepted⟩

theorem draws_of_ends (g : Generator) (ends : g.Ends) : Draws g g.draw.1 g.draw.2 := by
  obtain ⟨k, after, drawn⟩ := ends
  obtain ⟨t, accepted⟩ := accepts_of_draws g after k drawn
  rw [← onward_mod_period] at accepted
  exact draws_of_accepts period (t % period) g (Nat.mod_lt t (by decide)) accepted

theorem direction_of_ends (g : Generator) (ends : g.Ends) :
    ∃ k, Draws g k g.direction.2 ∧ Direction.all[k]? = some g.direction.1 := by
  refine ⟨g.draw.1, draws_of_ends g ends, ?_⟩
  change Direction.all[g.draw.1.val]? = some (Direction.ofIndex g.draw.1)
  generalize g.draw.1 = k
  revert k
  decide

theorem ends_of_accepts (t : Nat) (g : Generator) (accepted : (onward^[t] g).Accepts) : g.Ends :=
  ⟨_, _, draws_of_accepts (t + 1) t g (by omega) accepted⟩

-- The last of the draws starts from what the others led to.
theorem directions_succ (count : Nat) (g : Generator) :
    directions (count + 1) g =
      let (ds, middle) := directions count g
      (ds ++ [middle.direction.1], middle.direction.2) := by
  induction count generalizing g with
  | zero => rfl
  | succ count ih =>
      rw [directions]
      dsimp only
      rw [ih g.direction.2]
      rfl

theorem directions_start_alike (few many : Nat) (g : Generator) (fewer : few ≤ many) :
    (directions few g).1 <+: (directions many g).1 := by
  induction many, fewer using Nat.le_induction with
  | base => exact List.prefix_rfl
  | succ many _ ih =>
      rw [directions_succ]
      exact ih.trans (List.prefix_append _ _)

-- The rule that makes one more draw of so many.
theorem directions_of_ends (count : Nat) (g : Generator) (ends : (directions count g).2.Ends) :
    ∃ k d after, Draws (directions count g).2 k after ∧ Direction.all[k]? = some d ∧
      directions (count + 1) g = ((directions count g).1 ++ [d], after) := by
  obtain ⟨k, drawn, numbered⟩ := direction_of_ends (directions count g).2 ends
  exact ⟨k, _, _, drawn, numbered, directions_succ count g⟩

end Generator

end Befunge
