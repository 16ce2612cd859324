import Mathlib.Data.List.Forall2
import Befunge.Proofs.Screen.Terminal
import Befunge.Proofs.Source.Layout
import Befunge.Screen.GridView

/-!
The two drawings of a playfield. Both show one picture, whose characters know the places that they are the
cells of: the one puts the character of the pointer's place into brackets, the other one marks by codes that
show nothing themselves.
-/
set_option autoImplicit false

namespace Befunge.Screen

-- A character of the picture, and the place whose cell it is, if it is one.
structure Drawn where
  char : Char
  place : Option Position
deriving DecidableEq, Repr

def dotted (c : Char) : Char :=
  if Text.isControl c then '.' else c

def aside (text : List Char) : List Drawn :=
  text.map (⟨·, none⟩)

-- A blank margin over the rows' numbers, and the last digit of each column's number.
def header (width : Nat) : List Char :=
  List.replicate 4 ' ' ++ (List.range width).map fun x => Nat.digitChar (x % 10)

-- The number of a row, in three columns at least, and a space.
def margin (y : Nat) : List Char :=
  List.replicate (3 - (toString y).length) ' ' ++ (toString y).toList ++ [' ']

-- The cells of a row, and the void up to the pointer if it is there.
def rowCells (g : Grid) (pointer : Position) (y : Nat) : List Char :=
  (g.layout[y]?.getD []).map dotted ++
    if pointer.y = y then List.replicate (pointer.x + 1 - g.rowLength y) ' ' else []

def drawnRow (g : Grid) (pointer : Position) (y : Nat) : List Drawn :=
  aside (margin y) ++ (rowCells g pointer y).mapIdx fun x c => ⟨c, some ⟨x, y⟩⟩

def pictureLines (g : Grid) (pointer : Position) : List (List Drawn) :=
  aside (header (max g.width (pointer.x + 1))) ::
    (List.range (max g.rowCount (pointer.y + 1))).map (drawnRow g pointer)

def picture (g : Grid) (pointer : Position) : List Drawn :=
  (pictureLines g pointer).flatMap (· ++ [⟨'\n', none⟩])

def bracketed (pointer : Position) (drawn : Drawn) : List Char :=
  if drawn.place = some pointer then ['[', drawn.char, ']'] else [drawn.char]

-- The glyph is this character, inverse where the pointer is and bold red where a breakpoint is.
structure Lit (pointer : Position) (breakpoints : Breakpoints) (glyph : Glyph) (drawn : Drawn) : Prop where
  char : glyph.char = drawn.char
  pointer : "7" ∈ glyph.codes ↔ drawn.place = some pointer
  breakpoint : "1;31" ∈ glyph.codes ↔ ∃ p, drawn.place = some p ∧ breakpoints.contains p = true

section Drawing

variable (style : Style) (pointer : Position) (breakpoints : Breakpoints)

-- In this style, the text is the drawing of this part of a picture.
def Draws (text : List Char) (drawn : List Drawn) : Prop :=
  match style with
  | .brackets => text = drawn.flatMap (bracketed pointer)
  | .colours => ∃ shown, Shows text shown ∧ List.Forall₂ (Lit pointer breakpoints) shown drawn

theorem draws_nothing : Draws style pointer breakpoints [] [] := by
  cases style with
  | brackets => rfl
  | colours => exact ⟨[], fun rest => rfl, .nil⟩

theorem draws_append (text later : List Char) (drawn drawnLater : List Drawn)
    (first : Draws style pointer breakpoints text drawn)
    (second : Draws style pointer breakpoints later drawnLater) :
    Draws style pointer breakpoints (text ++ later) (drawn ++ drawnLater) := by
  cases style with
  | brackets =>
      rw [Draws, List.flatMap_append]
      exact congrArg₂ _ first second
  | colours =>
      obtain ⟨shown, shows, lit⟩ := first
      obtain ⟨shownLater, showsLater, litLater⟩ := second
      exact ⟨shown ++ shownLater, shows_append _ _ _ _ shows showsLater, List.rel_append lit litLater⟩

theorem draws_join {ι : Type} (pieces : ι → String) (drawn : ι → List Drawn) (parts : List ι)
    (each : ∀ i, Draws style pointer breakpoints (pieces i).toList (drawn i)) :
    Draws style pointer breakpoints (String.join (parts.map pieces)).toList (parts.flatMap drawn) := by
  induction parts with
  | nil => exact draws_nothing style pointer breakpoints
  | cons i parts ih =>
      rw [List.map_cons, String.join_cons, String.toList_append, List.flatMap_cons]
      exact draws_append _ _ _ _ _ _ _ (each i) ih

theorem lit_aside (codes : List String) (text : List Char) (noPointer : "7" ∉ codes)
    (noBreakpoint : "1;31" ∉ codes) :
    List.Forall₂ (Lit pointer breakpoints) (text.map (⟨·, codes⟩)) (aside text) := by
  rw [aside, List.forall₂_map_left_iff, List.forall₂_map_right_iff]
  apply List.forall₂_same.2
  intro c _
  exact ⟨rfl, by simp [noPointer], by simp [noBreakpoint]⟩

theorem draws_aside (text : List Char) (plain : '\x1b' ∉ text) :
    Draws style pointer breakpoints text (aside text) := by
  cases style with
  | brackets =>
      rw [Draws, aside, List.flatMap_map]
      exact (List.flatMap_singleton' text).symm
  | colours => exact ⟨_, shows_plain text plain, lit_aside pointer breakpoints [] text (by simp) (by simp)⟩

theorem draws_dimmed (text : String) (plain : '\x1b' ∉ text.toList) :
    Draws .colours pointer breakpoints (paint dim text).toList (aside text.toList) :=
  ⟨_, shows_paint "2" text (by decide) plain,
    lit_aside pointer breakpoints ["2"] text.toList (by decide) (by decide)⟩

end Drawing

theorem is_control_dotted (c : Char) : Text.isControl (dotted c) = false := by
  rw [dotted]
  by_cases control : Text.isControl c = true
  · rw [if_pos control]
    decide
  · rw [if_neg control]
    exact Bool.not_eq_true _ ▸ control

theorem dotted_ne (c control : Char) (hidden : Text.isControl control = true) : dotted c ≠ control := by
  rintro rfl
  rw [is_control_dotted] at hidden
  cases hidden

theorem not_mem_of_visible (text : List Char) (visible : ∀ c ∈ text, Text.isControl c = false) (control : Char)
    (hidden : Text.isControl control = true) : control ∉ text := by
  intro member
  rw [visible control member] at hidden
  cases hidden

theorem shows_dotted (code : String) (c : Char) (inside : 'm' ∉ code.toList) :
    Shows (paint (escape code) (String.singleton (dotted c))).toList [⟨dotted c, switched [] code⟩] := by
  have plain : '\x1b' ∉ (String.singleton (dotted c)).toList := by
    rw [String.toList_singleton, List.mem_singleton]
    exact (dotted_ne c _ (by decide)).symm
  have shows := shows_paint code _ inside plain
  rwa [String.toList_singleton, List.map_singleton] at shows

-- A cell is marked by the codes that are in force at its character, and leaves none in force.
theorem shows_cell (c : Char) (isPointer isBreakpoint : Bool) :
    Shows (cell .colours c isPointer isBreakpoint).toList
      [⟨dotted c, (if isBreakpoint then ["1;31"] else []) ++ if isPointer then ["7"] else []⟩] := by
  have plain : '\x1b' ∉ [dotted c] := by
    rw [List.mem_singleton]
    exact (dotted_ne c _ (by decide)).symm
  have alone : (String.singleton (dotted c)).toList = [dotted c] := String.toList_singleton _
  cases isPointer with
  | false =>
      cases isBreakpoint with
      | false =>
          change Shows (String.singleton (dotted c)).toList _
          rw [alone]
          exact shows_plain [dotted c] plain
      | true => exact shows_dotted "1;31" c (by decide)
  | true =>
      cases isBreakpoint with
      | false => exact shows_dotted "7" c (by decide)
      | true =>
          intro rest
          change glyphsFrom [] none
            ((escape "1;31" ++ paint (escape "7") (String.singleton (dotted c))).toList ++ rest) = _
          rw [String.toList_append, List.append_assoc, glyphs_escape _ _ "1;31" (by decide),
            glyphs_paint _ _ "7" _ (by decide) (alone ▸ plain), alone]
          rfl

section Rows

variable (style : Style) (g : Grid) (pointer : Position) (breakpoints : Breakpoints) (y : Nat)

theorem draws_cell (c : Char) (p : Position) :
    Draws style pointer breakpoints (cell style c (p = pointer) (breakpoints.contains p)).toList
      [⟨dotted c, some p⟩] := by
  cases style with
  | brackets =>
      by_cases here : p = pointer
      · subst here
        simp [Draws, bracketed, cell, dotted]
      · simp [Draws, bracketed, cell, dotted, here]
  | colours =>
      refine ⟨_, shows_cell c _ _, .cons ⟨rfl, ?_, ?_⟩ .nil⟩
      · cases breakpoints.contains p <;> by_cases here : p = pointer <;> simp [here]
      · simp only [Option.some.injEq, exists_eq_left']
        cases breakpoints.contains p <;> by_cases here : p = pointer <;> simp [here]

theorem row_length_eq_cells : g.rowLength y = (g.layout[y]?.getD []).length := by
  rw [Grid.row_length_eq_layout]
  cases g.layout[y]? <;> rfl

theorem get_eq_cells (x : Nat) : g.get? x y = (g.layout[y]?.getD [])[x]? := by
  rw [Grid.get_eq_layout]
  cases g.layout[y]? <;> rfl

theorem length_row_cells : (rowCells g pointer y).length = drawnLength g pointer y := by
  rw [rowCells, drawnLength, List.length_append, List.length_map, ← row_length_eq_cells]
  by_cases here : pointer.y = y
  · rw [if_pos here, if_pos here, List.length_replicate]
    omega
  · rw [if_neg here, if_neg here]
    exact (Nat.max_zero _).symm

theorem row_cells_get (x : Nat) (inside : x < (rowCells g pointer y).length) :
    (rowCells g pointer y)[x] = dotted ((g.get? x y).getD ' ') := by
  have void : ∀ c ∈ (if pointer.y = y then List.replicate (pointer.x + 1 - g.rowLength y) ' ' else []),
      c = ' ' := by
    intro c member
    split at member
    · exact List.eq_of_mem_replicate member
    · cases member
  rw [get_eq_cells]
  simp only [rowCells] at inside ⊢
  by_cases within : x < (g.layout[y]?.getD []).length
  · rw [List.getElem_append_left (by rwa [List.length_map]), List.getElem_map, List.getElem?_eq_getElem within,
      Option.getD_some]
  · have outside : (g.layout[y]?.getD [])[x]? = none := List.getElem?_eq_none (Nat.le_of_not_lt within)
    rw [outside, List.getElem_append_right (by rw [List.length_map]; omega), void _ (List.getElem_mem _)]
    decide

theorem drawn_row_eq :
    drawnRow g pointer y =
      aside (margin y) ++ (List.range (drawnLength g pointer y)).flatMap fun x =>
        [⟨dotted ((g.get? x y).getD ' '), some ⟨x, y⟩⟩] := by
  rw [drawnRow, ← List.map_eq_flatMap]
  congr 1
  apply List.ext_getElem
  · rw [List.length_mapIdx, List.length_map, List.length_range, length_row_cells]
  · intro x _ _
    rw [List.getElem_mapIdx, List.getElem_map, List.getElem_range, row_cells_get]

theorem margin_eq : (Text.padLeft 3 ' ' (toString y) ++ " ").toList = margin y := by
  simp [Text.padLeft, margin]

theorem visible_digit (c : Char) (digit : c.isDigit = true) : Text.isControl c = false := by
  obtain ⟨low, high⟩ := Char.isDigit_iff_toNat.1 digit
  have digits : 48 ≤ c.toNat ∧ c.toNat ≤ 57 := ⟨low, high⟩
  simp only [Text.isControl, Bool.or_eq_false_iff, Bool.and_eq_false_iff, decide_eq_false_iff_not]
  omega

theorem visible_margin : ∀ c ∈ margin y, Text.isControl c = false := by
  intro c member
  rw [margin, Nat.toString_eq_ofList_toDigits, String.toList_ofList, List.append_assoc, List.mem_append,
    List.mem_append] at member
  rcases member with indent | digit | space
  · rw [List.eq_of_mem_replicate indent]
    decide
  · exact visible_digit c (Nat.isDigit_of_mem_toDigits (by decide) (by decide) digit)
  · rw [List.mem_singleton.1 space]
    decide

theorem draws_row :
    Draws style pointer breakpoints (row style g pointer breakpoints y).toList (drawnRow g pointer y) := by
  rw [row, String.toList_append, margin_eq, drawn_row_eq]
  apply draws_append _ _ _ _ _ _ _ (draws_aside _ _ _ _ (not_mem_of_visible _ (visible_margin y) _ (by decide)))
  apply draws_join
  exact fun x => draws_cell style pointer breakpoints _ ⟨x, y⟩

end Rows

theorem visible_header (width : Nat) : ∀ c ∈ header width, Text.isControl c = false := by
  intro c member
  rcases List.mem_append.1 member with indent | digit
  · rw [List.eq_of_mem_replicate indent]
    decide
  · obtain ⟨x, _, rfl⟩ := List.mem_map.1 digit
    apply visible_digit
    rw [Nat.isDigit_digitChar, decide_eq_true_eq]
    exact Nat.mod_lt x (by decide)

theorem header_eq (width : Nat) :
    ("    " ++ String.ofList ((List.range width).map fun x => Char.ofNat ('0'.toNat + x % 10))).toList =
      header width := by
  have digit : ∀ d < 10, Char.ofNat ('0'.toNat + d) = Nat.digitChar d := by decide
  have indent : "    ".toList = List.replicate 4 ' ' := by decide
  rw [String.toList_append, indent, String.toList_ofList, header]
  apply congrArg (List.replicate 4 ' ' ++ ·)
  exact List.map_congr_left fun x _ => digit _ (Nat.mod_lt x (by decide))

theorem flat_map_range_of_single {α : Type} (n k : Nat) (one : List α) (inside : k < n) :
    (List.range n).flatMap (fun i => if i = k then one else []) = one := by
  induction n with
  | zero => cases inside
  | succ n ih =>
      rw [List.range_succ, List.flatMap_append, List.flatMap_singleton]
      by_cases last : n = k
      · have before : ∀ i ∈ List.range n, (if i = k then one else []) = [] := by
          intro i earlier
          rw [if_neg (last ▸ (List.mem_range.1 earlier).ne)]
        rw [if_pos last, List.flatMap_eq_nil_iff.2 before, List.nil_append]
      · rw [if_neg last, List.append_nil]
        exact ih (by omega)

section Picture

variable (style : Style) (g : Grid) (pointer : Position) (breakpoints : Breakpoints)

theorem draws_ruler (width : Nat) :
    Draws style pointer breakpoints (ruler style width).toList (aside (header width)) := by
  have plain := not_mem_of_visible _ (visible_header width) '\x1b' (by decide)
  cases style with
  | brackets =>
      rw [ruler, header_eq]
      exact draws_aside _ _ _ _ plain
  | colours =>
      rw [← header_eq] at plain ⊢
      exact draws_dimmed pointer breakpoints _ plain

theorem draws_line (line : String) (drawn : List Drawn)
    (draws : Draws style pointer breakpoints line.toList drawn) :
    Draws style pointer breakpoints (line ++ "\n").toList (drawn ++ [⟨'\n', none⟩]) := by
  rw [String.toList_append]
  exact draws_append _ _ _ _ _ _ _ draws (draws_aside style pointer breakpoints ['\n'] (by decide))

theorem draws_render :
    Draws style pointer breakpoints (render style g pointer breakpoints).toList (picture g pointer) := by
  rw [render, String.join_cons, String.toList_append, picture, pictureLines, List.flatMap_cons, List.flatMap_map]
  apply draws_append _ _ _ _ _ _ _ (draws_line _ _ _ _ _ (draws_ruler style pointer breakpoints _))
  apply draws_join
  exact fun y => draws_line style pointer breakpoints _ _ (draws_row style g pointer breakpoints y)

theorem glyphs_render :
    List.Forall₂ (Lit pointer breakpoints) (glyphs (render .colours g pointer breakpoints))
      (picture g pointer) := by
  obtain ⟨shown, shows, lit⟩ := draws_render .colours g pointer breakpoints
  rwa [glyphs_of_shows _ shown shows]

theorem bare_render : bare (render .colours g pointer breakpoints) = (picture g pointer).map Drawn.char := by
  have same : List.Forall₂ (fun (glyph : Glyph) (drawn : Drawn) => glyph.char = drawn.char)
      (glyphs (render .colours g pointer breakpoints)) (picture g pointer) :=
    (glyphs_render g pointer breakpoints).imp fun _ _ lit => lit.char
  rwa [← List.forall₂_eq_eq_eq, bare, List.forall₂_map_left_iff, List.forall₂_map_right_iff]

theorem chars_aside (text : List Char) : (aside text).map Drawn.char = text := by
  rw [aside, List.map_map]
  exact List.map_id' _

theorem chars_drawn_row (y : Nat) : (drawnRow g pointer y).map Drawn.char = margin y ++ rowCells g pointer y := by
  have cells : ((rowCells g pointer y).mapIdx fun x c => (⟨c, some ⟨x, y⟩⟩ : Drawn)).map Drawn.char =
      rowCells g pointer y := List.ext_getElem (by simp) (by simp)
  rw [drawnRow, List.map_append, cells, chars_aside]

theorem chars_picture :
    (picture g pointer).map Drawn.char =
      (header (max g.width (pointer.x + 1)) ::
        (List.range (max g.rowCount (pointer.y + 1))).map fun y =>
          margin y ++ rowCells g pointer y).flatMap (· ++ ['\n']) := by
  rw [picture, pictureLines, List.map_flatMap, List.flatMap_cons, List.flatMap_cons, List.flatMap_map,
    List.flatMap_map]
  simp only [List.map_append, chars_aside, chars_drawn_row, List.map_cons, List.map_nil]

theorem filter_aside (text : List Char) : (aside text).filter (·.place = some pointer) = [] := by
  rw [aside, List.filter_map]
  simp [Function.comp_def]

-- Of the cells of a row, the one at the pointer is the only one there.
theorem filter_drawn_row (y : Nat) :
    (drawnRow g pointer y).filter (·.place = some pointer) =
      if y = pointer.y then [⟨dotted (g.fetch pointer), some pointer⟩] else [] := by
  have cells (x : Nat) :
      [(⟨dotted ((g.get? x y).getD ' '), some ⟨x, y⟩⟩ : Drawn)].filter (·.place = some pointer) =
        if x = pointer.x then (if y = pointer.y then [⟨dotted (g.fetch pointer), some pointer⟩] else [])
        else [] := by
    cases pointer with
    | mk column line =>
        by_cases across : x = column <;> by_cases down : y = line <;> simp [across, down, Grid.fetch]
  rw [drawn_row_eq, List.filter_append, filter_aside, List.nil_append, List.filter_flatMap]
  simp only [cells]
  by_cases line : y = pointer.y
  · apply flat_map_range_of_single
    rw [drawnLength, if_pos line.symm]
    omega
  · simp [line]

theorem filter_picture :
    (picture g pointer).filter (·.place = some pointer) = [⟨dotted (g.fetch pointer), some pointer⟩] := by
  have feed : [(⟨'\n', none⟩ : Drawn)].filter (·.place = some pointer) = [] := filter_aside pointer ['\n']
  rw [picture, pictureLines, List.flatMap_cons, List.flatMap_map, List.filter_append, List.filter_append,
    filter_aside, feed, List.nil_append, List.nil_append, List.filter_flatMap]
  simp only [List.filter_append, filter_drawn_row, feed, List.append_nil]
  apply flat_map_range_of_single
  omega

theorem bracketed_of_unmarked (drawn : List Drawn) (unmarked : ∀ d ∈ drawn, d.place ≠ some pointer) :
    drawn.flatMap (bracketed pointer) = drawn.map Drawn.char := by
  rw [List.map_eq_flatMap]
  apply List.flatMap_congr
  intro d member
  rw [bracketed, if_neg (unmarked d member)]

theorem unbroken_cell (c : Char) (isPointer isBreakpoint : Bool) :
    '\n' ∉ (cell style c isPointer isBreakpoint).toList := by
  have other := (dotted_ne c '\n' (by decide)).symm
  rw [dotted] at other
  cases style <;> cases isPointer <;> cases isBreakpoint <;>
    simp [cell, paint, inverse, boldRed, plain, escape, other]

theorem unbroken_row (y : Nat) : '\n' ∉ (row style g pointer breakpoints y).toList := by
  have number := not_mem_of_visible _ (visible_margin y) '\n' (by decide)
  rw [row, String.toList_append, margin_eq, String.toList_join, List.mem_append, List.mem_flatMap]
  rintro (there | ⟨piece, member, there⟩)
  · exact number there
  · obtain ⟨x, _, rfl⟩ := List.mem_map.1 member
    exact unbroken_cell style _ _ _ there

theorem unbroken_ruler (width : Nat) : '\n' ∉ (ruler style width).toList := by
  have digits := not_mem_of_visible _ (visible_header width) '\n' (by decide)
  cases style with
  | brackets => rwa [ruler, header_eq]
  | colours =>
      rw [ruler, paint, String.toList_append, String.toList_append, header_eq, List.mem_append, List.mem_append,
        or_assoc, not_or, not_or]
      exact ⟨by decide, digits, by decide⟩

theorem lines_render :
    ∃ lines : List (List Char),
      lines.length = 1 + max g.rowCount (pointer.y + 1) ∧ (∀ line ∈ lines, '\n' ∉ line) ∧
        (render style g pointer breakpoints).toList = lines.flatMap (· ++ ['\n']) := by
  refine ⟨(ruler style (max g.width (pointer.x + 1))).toList ::
    (List.range (max g.rowCount (pointer.y + 1))).map fun y => (row style g pointer breakpoints y).toList,
    ?_, ?_, ?_⟩
  · rw [List.length_cons, List.length_map, List.length_range, Nat.add_comm]
  · rw [List.forall_mem_cons, List.forall_mem_map]
    exact ⟨unbroken_ruler style _, fun y _ => unbroken_row style g pointer breakpoints y⟩
  · rw [render, String.join_cons, String.toList_append, String.toList_append, String.toList_join,
      List.flatMap_cons, List.flatMap_map, List.flatMap_map]
    simp only [String.toList_append]
    rfl

theorem render_is_one_picture :
    (∀ style, ∃ lines : List (List Char),
      lines.length = 1 + max g.rowCount (pointer.y + 1) ∧ (∀ line ∈ lines, '\n' ∉ line) ∧
        (render style g pointer breakpoints).toList = lines.flatMap (· ++ ['\n'])) ∧
    bare (render .colours g pointer breakpoints) =
      (header (max g.width (pointer.x + 1)) ::
        (List.range (max g.rowCount (pointer.y + 1))).map fun y =>
          margin y ++ rowCells g pointer y).flatMap (· ++ ['\n']) ∧
    (∃ before after : List Drawn,
      picture g pointer = before ++ ⟨dotted (g.fetch pointer), some pointer⟩ :: after ∧
      (∀ d ∈ before ++ after, d.place ≠ some pointer) ∧
      (render .brackets g pointer breakpoints).toList =
        before.map Drawn.char ++ ['[', dotted (g.fetch pointer), ']'] ++ after.map Drawn.char ∧
      bare (render .colours g pointer breakpoints) =
        before.map Drawn.char ++ [dotted (g.fetch pointer)] ++ after.map Drawn.char) ∧
    List.Forall₂ (Lit pointer breakpoints) (glyphs (render .colours g pointer breakpoints))
      (picture g pointer) := by
  have shown := bare_render g pointer breakpoints
  refine ⟨fun style => lines_render style g pointer breakpoints, shown.trans (chars_picture g pointer), ?_,
    glyphs_render g pointer breakpoints⟩
  obtain ⟨before, after, whole, unmarkedBefore, -, later⟩ :=
    List.filter_eq_cons_iff.1 (filter_picture g pointer)
  have unmarked : (∀ d ∈ before, d.place ≠ some pointer) ∧ ∀ d ∈ after, d.place ≠ some pointer := by
    rw [List.filter_eq_nil_iff] at later
    simpa only [decide_eq_true_eq] using And.intro unmarkedBefore later
  have drawn : (render .brackets g pointer breakpoints).toList = (picture g pointer).flatMap (bracketed pointer) :=
    draws_render .brackets g pointer breakpoints
  refine ⟨before, after, whole, List.forall_mem_append.2 unmarked, ?_, ?_⟩
  · rw [drawn, whole, List.flatMap_append, List.flatMap_cons, bracketed_of_unmarked pointer before unmarked.1,
      bracketed_of_unmarked pointer after unmarked.2, bracketed, if_pos rfl, List.append_assoc]
  · rw [shown, whole, List.map_append, List.map_cons, List.append_assoc, List.singleton_append]

end Picture

-- The pointer is in the void of a row whose cell shows a bracket of its own.
example : render .brackets (Grid.parse "1\n[") ⟨2, 1⟩ .empty = "    012\n  0 1\n  1 [ [ ]\n" := by decide

end Befunge.Screen
