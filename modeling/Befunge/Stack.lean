import Befunge.Cell

/-!
The value stack. It never runs out: below the values that were pushed there are only zeros.
-/
set_option autoImplicit false

namespace Befunge

-- The number of values is kept beside them, for a trace tells it after every step.
structure Stack where
  -- The values, the one pushed last in front.
  topFirst : List Value := []
  size : Nat := topFirst.length
  size_eq_length : size = topFirst.length := by rfl
deriving DecidableEq, Repr

namespace Stack

def empty : Stack := {}

instance : Inhabited Stack := ⟨empty⟩

def push (v : Value) (s : Stack) : Stack :=
  { topFirst := v :: s.topFirst
    size := s.size + 1
    size_eq_length := by rw [List.length_cons, s.size_eq_length] }

def pop (s : Stack) : Value × Stack :=
  (s.topFirst.headD 0,
    { topFirst := s.topFirst.tail
      size := s.size - 1
      size_eq_length := by rw [List.length_tail, s.size_eq_length] })

def peek? (s : Stack) : Option Value :=
  s.topFirst.head?

def isEmpty (s : Stack) : Bool :=
  s.topFirst.isEmpty

def ofBottomFirst (values : List Value) : Stack :=
  { topFirst := values.reverse }

def bottomFirst (s : Stack) : List Value :=
  s.topFirst.reverse

-- The values in brackets, bottom first, separated by blanks.
def render (s : Stack) : String :=
  "[" ++ " ".intercalate (s.bottomFirst.map fun v => toString v.toInt) ++ "]"

-- The values are all that there is to a stack.
@[ext] theorem ext {s t : Stack} (same : s.topFirst = t.topFirst) : s = t := by
  obtain ⟨values, size, rfl⟩ := s
  obtain ⟨others, size, rfl⟩ := t
  subst same
  rfl

@[simp] theorem pop_push (v : Value) (s : Stack) : (s.push v).pop = (v, s) := rfl

@[simp] theorem pop_empty : empty.pop = (0, empty) := rfl

@[simp] theorem bottom_first_push (v : Value) (s : Stack) :
    (s.push v).bottomFirst = s.bottomFirst ++ [v] := by
  simp [push, bottomFirst]

end Stack

end Befunge
