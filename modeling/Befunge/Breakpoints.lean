import Befunge.Position

/-!
The places at which a run pauses: a set, listed by column and then by row.
-/
set_option autoImplicit false

namespace Befunge

namespace Position

-- The list with another place in its order; a place that is listed already is not listed twice.
def insertInto (p : Position) : List Position → List Position
  | [] => [p]
  | q :: rest =>
      if p.before q then p :: q :: rest
      else if p = q then q :: rest
      else q :: insertInto p rest

theorem mem_insert_into (p r : Position) (places : List Position) :
    r ∈ insertInto p places ↔ r = p ∨ r ∈ places := by
  induction places with
  | nil => simp [insertInto]
  | cons q rest ih =>
      by_cases less : p.before q
      · simp [insertInto, less]
      · by_cases same : p = q
        · subst same
          simp [insertInto, less]
        · simp only [insertInto, if_neg less, if_neg same, List.mem_cons, ih]
          exact or_left_comm

theorem pairwise_insert_into (p : Position) (places : List Position)
    (ordered : places.Pairwise before) : (insertInto p places).Pairwise before := by
  induction places with
  | nil => simp [insertInto]
  | cons q rest ih =>
      rw [List.pairwise_cons] at ordered
      by_cases less : p.before q
      · simp only [insertInto, if_pos less, List.pairwise_cons]
        refine ⟨?_, ordered⟩
        intro r member
        rcases List.mem_cons.1 member with rfl | later
        · exact less
        · exact before_trans less (ordered.1 r later)
      · by_cases same : p = q
        · simpa only [insertInto, if_neg less, if_pos same, List.pairwise_cons] using ordered
        · simp only [insertInto, if_neg less, if_neg same, List.pairwise_cons]
          refine ⟨?_, ih ordered.2⟩
          intro r member
          rcases (mem_insert_into p r rest).1 member with rfl | later
          · exact ((before_total r q).resolve_left less).resolve_left same
          · exact ordered.1 r later

end Position

structure Breakpoints where
  places : List Position := []
  ordered : places.Pairwise Position.before := by exact List.Pairwise.nil
deriving DecidableEq, Repr

namespace Breakpoints

def empty : Breakpoints := {}

instance : Inhabited Breakpoints := ⟨empty⟩

def contains (p : Position) (b : Breakpoints) : Bool :=
  b.places.contains p

def insert (p : Position) (b : Breakpoints) : Breakpoints :=
  ⟨p.insertInto b.places, p.pairwise_insert_into b.places b.ordered⟩

def erase (p : Position) (b : Breakpoints) : Breakpoints :=
  ⟨b.places.filter (· ≠ p), b.ordered.filter _⟩

def size (b : Breakpoints) : Nat :=
  b.places.length

def isEmpty (b : Breakpoints) : Bool :=
  b.places.isEmpty

def ofList (places : List Position) : Breakpoints :=
  places.foldr insert empty

@[ext] theorem ext {a b : Breakpoints} (same : a.places = b.places) : a = b := by
  obtain ⟨places, ordered⟩ := a
  obtain ⟨others, orderedToo⟩ := b
  cases same
  rfl

@[simp] theorem contains_iff (p : Position) (b : Breakpoints) : b.contains p = true ↔ p ∈ b.places := by
  simp [contains]

@[simp] theorem mem_places_insert (p q : Position) (b : Breakpoints) :
    q ∈ (b.insert p).places ↔ q = p ∨ q ∈ b.places :=
  Position.mem_insert_into p q b.places

@[simp] theorem mem_places_erase (p q : Position) (b : Breakpoints) :
    q ∈ (b.erase p).places ↔ q ∈ b.places ∧ q ≠ p := by
  simp [erase]

theorem insert_into_below (p : Position) (places : List Position)
    (below : ∀ q ∈ places, p.before q) : p.insertInto places = p :: places := by
  cases places with
  | nil => rfl
  | cons q rest => rw [Position.insertInto, if_pos (below q List.mem_cons_self)]

-- A set is the set of the places it lists, and lists them as they were listed.
theorem of_list_places (b : Breakpoints) : ofList b.places = b := by
  obtain ⟨places, ordered⟩ := b
  apply ext
  induction places with
  | nil => rfl
  | cons p rest ih =>
      obtain ⟨below, orderedRest⟩ := List.pairwise_cons.1 ordered
      have others : (ofList rest).places = rest := ih orderedRest
      change p.insertInto (ofList rest).places = p :: rest
      rw [others, insert_into_below p rest below]

end Breakpoints

end Befunge
