import Befunge.Proofs.Command.Grammar
import Befunge.Proofs.Screen.Terminal
import Befunge.Proofs.Text.Runs
import Befunge.Screen.CommandLine

/-!
What a coloured command line says. It is the line cut into its runs: blanks as they are, the first word green
or red as a command begins with it or not, and a later word coloured if it is a number. Without the colours it
is the line itself.
-/
set_option autoImplicit false

namespace Befunge.Screen

open Text (isBlank isBlankRun MaximalRuns)

-- The colour of a run that stands behind these others.
def colour? (before : List (List Char)) (run : List Char) : Option String :=
  if isBlankRun run then none
  else if before.all isBlankRun then some (if String.ofList run ∈ Command.heads then boldGreen else red)
  else if Text.IsSignedNumeral (String.ofList run) then some magenta
  else none

def tinted (before : List (List Char)) (run : List Char) : String :=
  match colour? before run with
  | some colour => paint colour (String.ofList run)
  | none => String.ofList run

-- The runs of a line, each as what stands before it has it.
def tintedRuns (before : List (List Char)) : List (List Char) → List String
  | [] => []
  | run :: cut => tinted before run :: tintedRuns (before ++ [run]) cut

section Cutting

variable (before cut : List (List Char)) (run : List Char)

theorem maximal_runs_tail (maximal : MaximalRuns (run :: cut).flatten (run :: cut)) :
    MaximalRuns cut.flatten cut where
  flatten := rfl
  nonempty later member := maximal.nonempty later (List.mem_cons_of_mem _ member)
  alike later member := maximal.alike later (List.mem_cons_of_mem _ member)
  alternating := maximal.alternating.tail

theorem next_is_other (maximal : MaximalRuns (run :: cut).flatten (run :: cut)) :
    ∀ c ∈ cut.flatten.head?, isBlank c ≠ isBlankRun run := by
  cases cut with
  | nil => simp
  | cons next cut =>
      have there : next ∈ run :: next :: cut := by simp
      have other := (List.isChain_cons_cons.1 maximal.alternating).1
      cases next with
      | nil => exact absurd rfl (maximal.nonempty [] there)
      | cons d next =>
          intro c head
          cases head
          exact other.symm

-- A run is cut off where it ends.
theorem run_end_append (rest : List Char) (nonempty : run ≠ []) (alike : ∀ c ∈ run, isBlank c = isBlankRun run)
    (other : ∀ c ∈ rest.head?, isBlank c ≠ isBlankRun run) : runEnd (run ++ rest) = run.length := by
  have start : isBlankRun (run ++ rest) = isBlankRun run := by
    cases run with
    | nil => exact absurd rfl nonempty
    | cons c run => rfl
  have within : run.findIdx (fun c => isBlank c != isBlankRun run) = run.length := by
    rw [List.findIdx_eq_length]
    intro c member
    rw [alike c member, bne_self_eq_false]
  rw [runEnd, start, List.findIdx_append, within, if_neg (Nat.lt_irrefl _)]
  cases rest with
  | nil => rw [List.findIdx_nil, Nat.zero_add]
  | cons c rest =>
      have ends : (isBlank c != isBlankRun run) = true := bne_iff_ne.2 (other c rfl)
      rw [List.findIdx_cons, ends, cond_true, Nat.zero_add]

theorem paint_from_run (first : Bool) (rest : List Char) (nonempty : run ≠ [])
    (ends : runEnd (run ++ rest) = run.length) :
    paintFrom first (run ++ rest) =
      if isBlankRun run then String.ofList run :: paintFrom first rest
      else (if first then paintHead (String.ofList run) else paintArgument (String.ofList run)) ::
        paintFrom false rest := by
  cases run with
  | nil => exact absurd rfl nonempty
  | cons c run =>
      rw [List.cons_append] at ends ⊢
      rw [paintFrom.eq_def]
      simp only [ends]
      rw [← List.cons_append, List.take_left, List.drop_left]
      rfl

-- The loop knows of the runs before only whether all of them were blank.
theorem tinted_eq :
    tinted before run =
      if isBlankRun run then String.ofList run
      else if before.all isBlankRun then paintHead (String.ofList run)
      else paintArgument (String.ofList run) := by
  rw [tinted, colour?]
  by_cases blank : isBlankRun run = true
  · simp only [if_pos blank]
  · simp only [if_neg blank]
    by_cases first : before.all isBlankRun = true
    · simp only [if_pos first, paintHead, List.contains_iff_mem]
    · simp only [if_neg first, paintArgument, Text.integer_is_some_iff]
      split <;> simp_all

theorem paint_from_cut (maximal : MaximalRuns cut.flatten cut) :
    paintFrom (before.all isBlankRun) cut.flatten = tintedRuns before cut := by
  induction cut generalizing before with
  | nil => rw [List.flatten_nil, paintFrom.eq_def, tintedRuns]
  | cons run cut ih =>
      have here : run ∈ run :: cut := List.mem_cons_self
      have ends := run_end_append run cut.flatten (maximal.nonempty run here) (maximal.alike run here)
        (next_is_other cut run maximal)
      have rest := ih (before ++ [run]) (maximal_runs_tail cut run maximal)
      rw [List.all_append, List.all_cons, List.all_nil, Bool.and_true] at rest
      rw [List.flatten_cons, paint_from_run run _ _ (maximal.nonempty run here) ends, tintedRuns, tinted_eq]
      by_cases blank : isBlankRun run = true
      · rw [blank, Bool.and_true] at rest
        rw [if_pos blank, if_pos blank, rest]
      · rw [Bool.not_eq_true] at blank
        rw [blank, Bool.and_false] at rest
        rw [blank, rest]
        rfl

end Cutting

section Bare

variable (before cut : List (List Char)) (run : List Char)

theorem colour_of_run (colour : String) (some : colour? before run = some colour) :
    colour = boldGreen ∨ colour = red ∨ colour = magenta := by
  rw [colour?] at some
  split at some
  · cases some
  · split at some
    · cases some
      by_cases known : String.ofList run ∈ Command.heads
      · exact .inl (if_pos known)
      · exact .inr (.inl (if_neg known))
    · split at some
      · cases some
        exact .inr (.inr rfl)
      · cases some

theorem colour_is_code (colour : String) (some : colour? before run = some colour) :
    ∃ code : String, colour = escape code ∧ 'm' ∉ code.toList := by
  rcases colour_of_run before run colour some with rfl | rfl | rfl
  · exact ⟨"1;32", rfl, by decide⟩
  · exact ⟨"31", rfl, by decide⟩
  · exact ⟨"35", rfl, by decide⟩

theorem shows_tinted (plain : '\x1b' ∉ run) :
    ∃ codes, Shows (tinted before run).toList (run.map (⟨·, codes⟩)) := by
  rw [tinted]
  split
  · rename_i colour some
    obtain ⟨code, rfl, inside⟩ := colour_is_code before run colour some
    have painted := shows_paint code (String.ofList run) inside (by rwa [String.toList_ofList])
    rw [String.toList_ofList] at painted
    exact ⟨_, painted⟩
  · rw [String.toList_ofList]
    exact ⟨[], shows_plain run plain⟩

theorem shows_tinted_runs (plain : '\x1b' ∉ cut.flatten) :
    ∃ shown, Shows (String.join (tintedRuns before cut)).toList shown ∧ shown.map Glyph.char = cut.flatten := by
  induction cut generalizing before with
  | nil => exact ⟨[], fun rest => rfl, rfl⟩
  | cons run cut ih =>
      rw [List.flatten_cons, List.mem_append, not_or] at plain
      obtain ⟨codes, first⟩ := shows_tinted before run plain.1
      obtain ⟨shown, second, chars⟩ := ih (before ++ [run]) plain.2
      refine ⟨run.map (⟨·, codes⟩) ++ shown, ?_, ?_⟩
      · rw [tintedRuns, String.join_cons, String.toList_append]
        exact shows_append _ _ _ _ first second
      · rw [List.map_append, List.map_map, chars, List.flatten_cons]
        congr 1
        exact List.map_id run

end Bare

theorem command_line_of_cut (line : String) (cut : List (List Char)) (maximal : MaximalRuns line.toList cut)
    (some : Text.isBlankLine line = false) : commandLine line = String.join (tintedRuns [] cut) := by
  have whole : MaximalRuns cut.flatten cut := maximal.flatten ▸ maximal
  rw [commandLine, some, ← maximal.flatten, ← paint_from_cut [] cut whole]
  rfl

theorem bare_command_line (line : String) (plain : '\x1b' ∉ line.toList) :
    bare (commandLine line) = line.toList := by
  cases blank : Text.isBlankLine line with
  | true =>
      rw [commandLine, if_pos blank, bare, glyphs_of_shows line _ (shows_plain line.toList plain), List.map_map]
      exact List.map_id line.toList
  | false =>
      have maximal := (Text.runs_eq_iff line _).1 rfl
      rw [← maximal.flatten] at plain ⊢
      obtain ⟨shown, shows, chars⟩ := shows_tinted_runs [] _ plain
      rw [command_line_of_cut line _ maximal blank, bare, glyphs_of_shows _ shown shows, chars]

section FirstWord

variable (line : String) (before after : List (List Char)) (word : List Char)

theorem first_word_of_runs (runs : Text.runs line = before ++ word :: after)
    (first : before.all isBlankRun = true) (written : isBlankRun word = false) :
    (Text.words line).head? = some (String.ofList word) := by
  have skipped : before.filter (!isBlankRun ·) = [] := by
    rw [List.filter_eq_nil_iff]
    intro run member
    simp [List.all_eq_true.1 first run member]
  rw [Text.words, runs, List.filter_append, skipped, List.filter_cons, written]
  rfl

theorem green_iff (runs : Text.runs line = before ++ word :: after) (first : before.all isBlankRun = true)
    (written : isBlankRun word = false) :
    colour? before word = some boldGreen ↔ ∀ name, Command.parse line ≠ .error (.unknownCommand name) := by
  have head := first_word_of_runs line before after word runs first written
  have different : red ≠ boldGreen := by decide
  simp only [colour?, written, first, Bool.false_eq_true, if_false, if_true, ne_eq, Command.parse_eq_unknown_iff,
    head, Option.some.injEq, not_and, not_not, forall_eq', ite_eq_left_iff, different, imp_false]

theorem first_word_of_line (some : Text.isBlankLine line = false) :
    ∃ before word after, Text.runs line = before ++ word :: after ∧ before.all isBlankRun = true ∧
      isBlankRun word = false := by
  cases found : (Text.runs line).find? (!isBlankRun ·) with
  | none =>
      have none : Text.words line = [] := by
        rw [Text.words, List.map_eq_nil_iff, List.filter_eq_nil_iff]
        exact List.find?_eq_none.1 found
      rw [(Text.words_eq_nil_iff line).1 none] at some
      cases some
  | some word =>
      obtain ⟨written, before, after, runs, blank⟩ := List.find?_eq_some_iff_append.1 found
      exact ⟨before, word, after, runs, by simpa using blank, by simpa using written⟩

end FirstWord

theorem command_line_keeps_the_text (line : String) :
    (Text.isBlankLine line = true → commandLine line = line) ∧
    (Text.isBlankLine line = false → ∃ cut, MaximalRuns line.toList cut ∧
      (∀ other, MaximalRuns line.toList other → other = cut) ∧
      commandLine line = String.join (tintedRuns [] cut) ∧
      ∃ before word after, cut = before ++ word :: after ∧ before.all isBlankRun = true ∧ isBlankRun word = false ∧
        (colour? before word = some boldGreen ↔ ∀ name, Command.parse line ≠ .error (.unknownCommand name))) ∧
    ('\x1b' ∉ line.toList → bare (commandLine line) = line.toList) := by
  refine ⟨fun blank => if_pos blank, fun some => ?_, bare_command_line line⟩
  have maximal := (Text.runs_eq_iff line _).1 rfl
  obtain ⟨before, word, after, runs, first, written⟩ := first_word_of_line line some
  exact ⟨Text.runs line, maximal, fun other another => ((Text.runs_eq_iff line other).2 another).symm,
    command_line_of_cut line _ maximal some, before, word, after, runs, first, written,
    green_iff line before after word runs first written⟩

-- Blanks of two kinds around words, a number with a sign and a bracket that begins no sequence.
theorem command_line_keeps_the_text_of_numbers_between_blanks :
    Text.isBlankLine "\tback  -07 \u2003[1m" = false ∧ '\x1b' ∉ "\tback  -07 \u2003[1m".toList ∧
      commandLine "\tback  -07 \u2003[1m" =
        "\t\x1b[1;32mback\x1b[0m  \x1b[35m-07\x1b[0m \u2003[1m" ∧
      bare (commandLine "\tback  -07 \u2003[1m") = "\tback  -07 \u2003[1m".toList ∧
      commandLine " \u2003" = " \u2003" := by
  obtain ⟨_, painted, undone⟩ := command_line_keeps_the_text "\tback  -07 \u2003[1m"
  obtain ⟨unchanged, _⟩ := command_line_keeps_the_text " \u2003"
  have some : Text.isBlankLine "\tback  -07 \u2003[1m" = false := by decide
  have plain : '\x1b' ∉ "\tback  -07 \u2003[1m".toList := by decide
  obtain ⟨cut, _, only, shown, _⟩ := painted some
  obtain rfl := only _ ((Text.runs_eq_iff _ _).1 rfl)
  exact ⟨some, plain, shown.trans (by decide +kernel), undone plain, unchanged (by decide)⟩

end Befunge.Screen
