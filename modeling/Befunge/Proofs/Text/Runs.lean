import Mathlib.Data.List.Chain
import Befunge.Proofs.Text.Words

/-!
The cut of a text into runs. A run is blank throughout or not at all and goes as far as it can, so a text has
only one such cut; the runs that are not blank are the words.
-/
set_option autoImplicit false

namespace Befunge.Text

-- The text is these runs, each of them as long as it can be: the next one is of the other kind.
structure MaximalRuns (text : List Char) (cut : List (List Char)) : Prop where
  flatten : cut.flatten = text
  nonempty : ∀ run ∈ cut, run ≠ []
  alike : ∀ run ∈ cut, ∀ c ∈ run, isBlank c = isBlankRun run
  alternating : cut.IsChain fun run next => isBlankRun run ≠ isBlankRun next

theorem is_blank_run_head (run : List Char) (nonempty : run ≠ []) : isBlank (run.head nonempty) = isBlankRun run := by
  cases run with
  | nil => exact absurd rfl nonempty
  | cons c run => rfl

-- Two runs meet where a blank and another character do.
theorem meet_iff (run next : List Char) (nonempty : run ≠ []) (nextNonempty : next ≠ [])
    (alike : ∀ c ∈ run, isBlank c = isBlankRun run) :
    (∃ ha hb, (isBlank (run.getLast ha) == isBlank (next.head hb)) = false) ↔ isBlankRun run ≠ isBlankRun next := by
  simp only [nonempty, nextNonempty, not_false_eq_true, exists_true_left, ne_eq, beq_eq_false_iff_ne,
    is_blank_run_head, alike _ (List.getLast_mem nonempty)]

theorem runs_eq_iff (line : String) (cut : List (List Char)) : runs line = cut ↔ MaximalRuns line.toList cut := by
  rw [runs, List.splitBy_eq_iff]
  constructor
  · rintro ⟨whole, noneEmpty, chains, meets⟩
    have nonempty : ∀ run ∈ cut, run ≠ [] := fun run member => ne_of_mem_of_not_mem member noneEmpty
    have alike : ∀ run ∈ cut, ∀ c ∈ run, isBlank c = isBlankRun run :=
      fun run member => blank_of_chain run (chains run member)
    refine ⟨whole.symm, nonempty, alike, meets.imp_of_mem_imp ?_⟩
    exact fun run next here there => (meet_iff run next (nonempty _ here) (nonempty _ there) (alike _ here)).1
  · rintro ⟨whole, nonempty, alike, alternating⟩
    refine ⟨whole.symm, fun member => nonempty [] member rfl, ?_, alternating.imp_of_mem_imp ?_⟩
    · exact fun run member => chain_of_alike run _ (alike run member)
    · exact fun run next here there => (meet_iff run next (nonempty _ here) (nonempty _ there) (alike _ here)).2

end Befunge.Text
