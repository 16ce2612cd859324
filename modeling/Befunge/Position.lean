/-!
Places on the playfield.
-/
set_option autoImplicit false

namespace Befunge

-- A column and a row, both counted from zero.
structure Position where
  x : Nat
  y : Nat
deriving DecidableEq, Repr, Inhabited

namespace Position

-- The top-left cell, where a program starts.
def origin : Position := ⟨0, 0⟩

-- Places in the order of their columns, those of one column in the order of their rows.
def before (p q : Position) : Prop :=
  p.x < q.x ∨ (p.x = q.x ∧ p.y < q.y)

instance (p q : Position) : Decidable (before p q) :=
  inferInstanceAs (Decidable (_ ∨ _))

def render (p : Position) : String :=
  "(" ++ toString p.x ++ ", " ++ toString p.y ++ ")"

theorem before_trans {p q r : Position} (left : before p q) (right : before q r) : before p r := by
  simp only [before] at *
  omega

theorem before_irrefl (p : Position) : ¬ before p p := by
  simp only [before]
  omega

theorem before_total (p q : Position) : before p q ∨ p = q ∨ before q p := by
  cases p
  cases q
  simp only [before, mk.injEq]
  omega

end Position

end Befunge
