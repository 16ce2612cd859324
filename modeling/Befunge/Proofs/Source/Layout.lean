import Mathlib.Data.List.DropRight
import Befunge.Proofs.Machine.Bounds

/-!
Program text and playfield. Drawing the playfield of a text gives the text back but for the line feeds at
its end. A playfield comes back from its drawing if it is one that a text can have, and only then; a
program that stores a line feed makes it one that no text has.
-/
set_option autoImplicit false

namespace Befunge

namespace Grid

-- A playfield that a text can have.
structure Legible (g : Grid) : Prop where
  unbroken : ∀ x y, g.get? x y ≠ some '\n'
  ends : g.rowCount = 0 ∨ 0 < g.rowLength (g.rowCount - 1)

def layout (g : Grid) : List (List Char) :=
  g.rows.toList.map Array.toList

theorem layout_parse (text : String) : (parse text).layout = dropEmptyTail (text.toList.splitOn '\n') := by
  rw [layout, parse, List.toList_toArray, List.map_map]
  exact List.map_id _

theorem eq_of_layout (g h : Grid) (same : g.layout = h.layout) : g = h := by
  have rows := List.map_injective_iff.2 (fun _ _ => Array.toList_inj.1) same
  cases g
  cases h
  exact congrArg Grid.mk (Array.toList_inj.1 rows)

theorem to_list_render (g : Grid) : g.render.toList = ['\n'].intercalate g.layout := by
  rw [render, String.toList_intercalate, lines, List.map_map, layout]
  simp [Function.comp_def]

theorem row_count_eq_layout (g : Grid) : g.rowCount = g.layout.length := by
  simp [rowCount, layout]

theorem row_length_eq_layout (g : Grid) (y : Nat) : g.rowLength y = (g.layout[y]?.map List.length).getD 0 := by
  rw [rowLength, layout, List.getElem?_map, Array.getElem?_toList, Option.map_map]
  rfl

theorem get_eq_layout (g : Grid) (x y : Nat) : g.get? x y = g.layout[y]?.bind (·[x]?) := by
  rw [get?, layout, List.getElem?_map, Array.getElem?_toList]
  cases g.rows[y]? with
  | none => rfl
  | some row => simp

theorem unbroken_iff (g : Grid) : (∀ x y, g.get? x y ≠ some '\n') ↔ ∀ row ∈ g.layout, '\n' ∉ row := by
  simp only [get_eq_layout, List.mem_iff_getElem?]
  constructor
  · rintro unbroken row ⟨y, found⟩ ⟨x, feed⟩
    exact unbroken x y (by rw [found, Option.bind_some, feed])
  · intro unbroken x y feed
    obtain ⟨row, found, there⟩ := Option.bind_eq_some_iff.1 feed
    exact unbroken row ⟨y, found⟩ ⟨x, there⟩

theorem drop_empty_tail_eq (rows : List (List Char)) : dropEmptyTail rows = rows.rdropWhile List.isEmpty :=
  rfl

theorem ends_iff (g : Grid) :
    (g.rowCount = 0 ∨ 0 < g.rowLength (g.rowCount - 1)) ↔ dropEmptyTail g.layout = g.layout := by
  rw [drop_empty_tail_eq, List.rdropWhile_eq_self_iff, row_length_eq_layout, row_count_eq_layout,
    ← List.getLast?_eq_getElem?]
  rcases g.layout.eq_nil_or_concat with none | ⟨front, row, rows⟩
  · simp [none]
  · simp [rows, List.length_pos_iff]

theorem legible_iff (g : Grid) :
    g.Legible ↔ (∀ row ∈ g.layout, '\n' ∉ row) ∧ dropEmptyTail g.layout = g.layout := by
  rw [← unbroken_iff, ← ends_iff]
  exact ⟨fun legible => ⟨legible.unbroken, legible.ends⟩, fun both => ⟨both.1, both.2⟩⟩

theorem unbroken_split (text : List Char) : ∀ row ∈ text.splitOn '\n', '\n' ∉ row := by
  induction text with
  | nil => simp
  | cons c text ih =>
      rw [List.splitOn_cons_eq_if_modifyHead]
      by_cases feed : c = '\n'
      · simpa [feed] using ih
      · rw [if_neg (by simpa using feed)]
        cases split : text.splitOn '\n' with
        | nil => simp
        | cons row rows =>
            rw [split, List.forall_mem_cons] at ih
            rw [List.modifyHead_cons, List.forall_mem_cons, List.mem_cons, not_or]
            exact ⟨⟨Ne.symm feed, ih.1⟩, ih.2⟩

theorem intercalate_concat (front : List (List Char)) (row : List Char) (before : front ≠ []) :
    ['\n'].intercalate (front ++ [row]) = ['\n'].intercalate front ++ '\n' :: row := by
  induction front with
  | nil => exact absurd rfl before
  | cons first front ih =>
      cases front with
      | nil => simp
      | cons next front =>
          rw [List.cons_append, List.cons_append, List.intercalate_cons_cons, ← List.cons_append,
            ih (List.cons_ne_nil _ _), List.intercalate_cons_cons]
          simp only [List.append_assoc]

-- Induction from the end: an empty row there is one line feed more, and with any other row both stop.
theorem intercalate_drop_empty_tail (rows : List (List Char)) (unbroken : ∀ row ∈ rows, '\n' ∉ row) :
    ['\n'].intercalate (dropEmptyTail rows) = (['\n'].intercalate rows).rdropWhile (· == '\n') := by
  rw [drop_empty_tail_eq]
  induction rows using List.reverseRecOn with
  | nil => rfl
  | append_singleton front row ih =>
      have earlier := ih fun row member => unbroken row (List.mem_append_left _ member)
      have last := unbroken row (by simp)
      cases row using List.reverseRecOn with
      | nil =>
          rw [List.rdropWhile_concat_pos _ _ _ rfl, earlier]
          by_cases before : front = []
          · simp [before]
          · rw [intercalate_concat front [] before, List.rdropWhile_concat_pos (· == '\n') _ _ rfl]
      | append_singleton start c =>
          have other : c ≠ '\n' := by
            rintro rfl
            exact last (by simp)
          have ending : ∃ text, ['\n'].intercalate (front ++ [start ++ [c]]) = text ++ [c] := by
            by_cases before : front = []
            · exact ⟨start, by simp [before]⟩
            · rw [intercalate_concat front _ before, ← List.cons_append, ← List.append_assoc]
              exact ⟨_, rfl⟩
          obtain ⟨text, ending⟩ := ending
          rw [List.rdropWhile_concat_neg _ _ _ (by simp), ending,
            List.rdropWhile_concat_neg _ _ _ (by simpa using other)]

theorem legible_parse (text : String) : (parse text).Legible := by
  rw [legible_iff, layout_parse, drop_empty_tail_eq, drop_empty_tail_eq]
  have kept := List.rdropWhile_prefix List.isEmpty (text.toList.splitOn '\n')
  exact ⟨fun row member => unbroken_split _ row (kept.subset member), List.rdropWhile_idempotent _ _⟩

theorem render_parse (text : String) :
    (parse text).render = String.ofList (text.toList.rdropWhile (· == '\n')) := by
  rw [← String.toList_inj, String.toList_ofList, to_list_render, layout_parse,
    intercalate_drop_empty_tail _ (unbroken_split _), List.intercalate_splitOn]

theorem parse_render (g : Grid) (legible : g.Legible) : parse g.render = g := by
  obtain ⟨unbroken, ends⟩ := (legible_iff g).1 legible
  apply eq_of_layout
  rw [layout_parse, to_list_render]
  by_cases empty : g.layout = []
  · rw [empty]
    rfl
  · rw [List.splitOn_intercalate '\n' unbroken empty, ends]

theorem parse_and_render_are_inverse :
    (∀ text, (parse text).render = String.ofList (text.toList.rdropWhile (· == '\n')) ∧
      (parse text).Legible) ∧
    ∀ g : Grid, parse g.render = g ↔ g.Legible := by
  refine ⟨fun text => ⟨render_parse text, legible_parse text⟩, ?_⟩
  intro g
  constructor
  · intro same
    rw [← same]
    exact legible_parse g.render
  · exact parse_render g

-- The program stores ten, a line feed, over its first cell.
theorem parse_and_render_are_inverse_until_a_line_feed_is_stored :
    (parse "a\n\nb\r\n\n").render = "a\n\nb\r" ∧
      parse (Machine.under .lenient "55+00p@" 7 5).grid.render = (Machine.under .lenient "55+00p@" 7 5).grid ∧
      parse (Machine.under .lenient "55+00p@" 7 6).grid.render ≠ (Machine.under .lenient "55+00p@" 7 6).grid := by
  obtain ⟨texts, grids⟩ := parse_and_render_are_inverse
  refine ⟨(texts _).1.trans (by decide +kernel), ?_, ?_⟩
  · have same : (Machine.under .lenient "55+00p@" 7 5).grid = parse "55+00p@" := by decide +kernel
    rw [grids, same]
    exact (texts _).2
  · rw [Ne, grids]
    intro legible
    exact legible.unbroken 0 0 (by decide +kernel)

end Grid

end Befunge
