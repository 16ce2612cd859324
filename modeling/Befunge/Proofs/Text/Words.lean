import Mathlib.Data.List.SplitBy
import Befunge.Text.Blank

/-!
The cut of a line into words. A run of the line is blank throughout or not at all, so a line without
words is a blank line, and the words are the runs that are not blank, as long as they can be.
-/
set_option autoImplicit false

namespace Befunge.Text

theorem flatten_runs (line : String) : (runs line).flatten = line.toList :=
  List.flatten_splitBy _ _

theorem blank_of_chain (run : List Char) (chain : run.IsChain fun a b => isBlank a == isBlank b) :
    ∀ c ∈ run, isBlank c = isBlankRun run := by
  induction run with
  | nil => simp
  | cons first rest ih =>
      intro c member
      rcases List.mem_cons.1 member with rfl | later
      · rfl
      · cases rest with
        | nil => cases later
        | cons second rest =>
            obtain ⟨same, chain⟩ := List.isChain_cons_cons.1 chain
            rw [ih chain c later]
            exact (beq_iff_eq.1 same).symm

theorem blank_of_mem_runs (line : String) (run : List Char) (member : run ∈ runs line) :
    ∀ c ∈ run, isBlank c = isBlankRun run :=
  blank_of_chain run (List.isChain_of_mem_splitBy member)

theorem words_eq_nil_iff (line : String) : words line = [] ↔ isBlankLine line = true := by
  rw [words, List.map_eq_nil_iff, List.filter_eq_nil_iff, isBlankLine, List.all_eq_true, ← flatten_runs]
  simp only [Bool.not_eq_true', Bool.not_eq_false]
  constructor
  · intro blank c member
    obtain ⟨run, inLine, inRun⟩ := List.mem_flatten.1 member
    rw [blank_of_mem_runs line run inLine c inRun, blank run inLine]
  · intro blank run member
    cases run with
    | nil => rfl
    | cons c rest => exact blank c (List.mem_flatten.2 ⟨_, member, List.mem_cons_self⟩)

def IsGap (gap : List Char) : Prop :=
  ∀ c ∈ gap, isBlank c = true

def IsWord (word : List Char) : Prop :=
  word ≠ [] ∧ ∀ c ∈ word, isBlank c = false

instance (word : List Char) : Decidable (IsWord word) :=
  decidable_of_iff (¬ word.isEmpty = true ∧ word.all (!isBlank ·) = true) (by simp [IsWord])

-- The text is these words with gaps around them. A word goes as far as it can: behind it is a blank, or
-- nothing.
inductive CutInto : List Char → List (List Char) → Prop where
  | nothing (gap : List Char) (blank : IsGap gap) : CutInto gap []
  | word (gap first rest : List Char) (later : List (List Char)) (blank : IsGap gap) (written : IsWord first)
      (ended : ∀ c ∈ rest.head?, isBlank c = true) (cut : CutInto rest later) :
      CutInto (gap ++ (first ++ rest)) (first :: later)

theorem chain_of_alike (run : List Char) (blank : Bool) (alike : ∀ c ∈ run, isBlank c = blank) :
    run.IsChain fun a b => isBlank a == isBlank b := by
  apply List.Pairwise.isChain
  apply List.pairwise_of_forall_mem_list
  intro a inRun b alsoInRun
  rw [alike a inRun, alike b alsoInRun, beq_self_eq_true]

theorem split_of_alike (run : List Char) (blank : Bool) (some : run ≠ []) (alike : ∀ c ∈ run, isBlank c = blank) :
    run.splitBy (fun a b => isBlank a == isBlank b) = [run] := by
  exact List.splitBy_of_isChain some (chain_of_alike run blank alike)

-- Where a run of blanks or of other characters ends, the text is cut.
theorem split_append_of_alike (run rest : List Char) (blank : Bool) (alike : ∀ c ∈ run, isBlank c = blank)
    (ended : ∀ c ∈ rest.head?, isBlank c = !blank) :
    (run ++ rest).splitBy (fun a b => isBlank a == isBlank b) =
      run.splitBy (fun a b => isBlank a == isBlank b) ++ rest.splitBy (fun a b => isBlank a == isBlank b) := by
  apply List.splitBy_append
  intro last atEnd next behind
  rw [alike last (List.mem_of_getLast? atEnd), ended next behind]
  cases blank <;> rfl

theorem words_of_gap (gap rest : List Char) (blank : IsGap gap) (ended : ∀ c ∈ rest.head?, isBlank c = false) :
    words (String.ofList (gap ++ rest)) = words (String.ofList rest) := by
  cases gap with
  | nil => rfl
  | cons c gap =>
      have one := split_of_alike (c :: gap) true (List.cons_ne_nil _ _) blank
      have skipped : isBlankRun (c :: gap) = true := blank c List.mem_cons_self
      simp only [words, runs, String.toList_ofList, split_append_of_alike _ rest true blank ended, one,
        List.filter_append, List.filter_singleton, skipped]
      rfl

theorem words_of_word (word rest : List Char) (written : IsWord word) (ended : ∀ c ∈ rest.head?, isBlank c = true) :
    words (String.ofList (word ++ rest)) = String.ofList word :: words (String.ofList rest) := by
  obtain ⟨some, plain⟩ := written
  have one := split_of_alike word false some plain
  have kept : isBlankRun word = false := by
    cases word with
    | nil => exact absurd rfl some
    | cons c word => exact plain c List.mem_cons_self
  simp only [words, runs, String.toList_ofList, split_append_of_alike word rest false plain ended, one,
    List.filter_append, List.filter_singleton, kept]
  rfl

theorem words_of_cut (text : List Char) (cut : List (List Char)) (into : CutInto text cut) :
    words (String.ofList text) = cut.map String.ofList := by
  induction into with
  | nothing gap blank =>
      have nothing := words_of_gap gap [] blank (by simp)
      rwa [List.append_nil] at nothing
  | word gap first rest later blank written ended _ ih =>
      have starts : ∀ c ∈ (first ++ rest).head?, isBlank c = false := by
        intro c head
        rw [List.head?_append_of_ne_nil _ written.1] at head
        exact written.2 c (List.mem_of_head? head)
      rw [words_of_gap gap _ blank starts, words_of_word first rest written ended, ih, List.map_cons]

theorem cut_of_blank (c : Char) (text : List Char) (cut : List (List Char)) (blank : isBlank c = true)
    (into : CutInto text cut) : CutInto (c :: text) cut := by
  cases into with
  | nothing _ gapIs => exact .nothing _ (List.forall_mem_cons.2 ⟨blank, gapIs⟩)
  | word gap first rest later gapIs written ended onward =>
      exact .word (c :: gap) first rest later (List.forall_mem_cons.2 ⟨blank, gapIs⟩) written ended onward

-- A character in front of a text lengthens its first gap or its first word, or is a word of its own.
theorem cut_of_text (text : List Char) : ∃ cut, CutInto text cut := by
  induction text with
  | nil => exact ⟨[], .nothing [] (by simp [IsGap])⟩
  | cons c text ih =>
      obtain ⟨cut, into⟩ := ih
      cases blank : isBlank c with
      | true => exact ⟨cut, cut_of_blank c text cut blank into⟩
      | false =>
          have alone : IsWord [c] := ⟨List.cons_ne_nil _ _, List.forall_mem_singleton.2 blank⟩
          by_cases ended : ∀ d ∈ text.head?, isBlank d = true
          · exact ⟨[c] :: cut, .word [] [c] text cut (by simp [IsGap]) alone ended into⟩
          · cases into with
            | nothing _ gapIs => exact absurd (fun d head => gapIs d (List.mem_of_head? head)) ended
            | word gap first rest later gapIs written endedHere onward =>
                cases gap with
                | nil =>
                    have longer : IsWord (c :: first) :=
                      ⟨List.cons_ne_nil _ _, List.forall_mem_cons.2 ⟨blank, written.2⟩⟩
                    exact ⟨(c :: first) :: later, .word [] (c :: first) rest later gapIs longer endedHere onward⟩
                | cons d gap =>
                    refine absurd ?_ ended
                    intro e head
                    cases head
                    exact gapIs d List.mem_cons_self

theorem words_eq_iff (line : String) (cut : List String) :
    words line = cut ↔ CutInto line.toList (cut.map String.toList) := by
  obtain ⟨found, into⟩ := cut_of_text line.toList
  have same := words_of_cut line.toList found into
  rw [String.ofList_toList] at same
  constructor
  · rintro rfl
    rw [same, List.map_map]
    simpa using into
  · intro other
    have alsoSame := words_of_cut _ _ other
    rw [String.ofList_toList] at alsoSame
    rw [alsoSame, List.map_map]
    simp

theorem is_word_of_cut (text : List Char) (cut : List (List Char)) (into : CutInto text cut) :
    ∀ word ∈ cut, IsWord word := by
  induction into with
  | nothing => simp
  | word _ _ _ _ _ written _ _ ih => exact List.forall_mem_cons.2 ⟨written, ih⟩

theorem is_word_of_mem_words (line word : String) (member : word ∈ words line) : IsWord word.toList :=
  is_word_of_cut line.toList _ ((words_eq_iff line _).1 rfl) _ (List.mem_map_of_mem member)

theorem cut_intercalate (cut : List (List Char)) (written : ∀ word ∈ cut, IsWord word) :
    CutInto ([' '].intercalate cut) cut := by
  induction cut with
  | nil => exact .nothing [] (by simp [IsGap])
  | cons first later ih =>
      obtain ⟨firstWritten, laterWritten⟩ := List.forall_mem_cons.1 written
      cases later with
      | nil =>
          have alone := CutInto.word [] first [] [] (by simp [IsGap]) firstWritten (by simp)
            (.nothing [] (by simp [IsGap]))
          simpa using alone
      | cons second later =>
          have behind := cut_of_blank ' ' _ _ (by decide) (ih laterWritten)
          have whole := CutInto.word [] first _ _ (by simp [IsGap]) firstWritten
            (by simp; decide) behind
          simpa using whole

-- Words with one space between each two are those words again.
theorem words_intercalate (cut : List String) (written : ∀ word ∈ cut, IsWord word.toList) :
    words (" ".intercalate cut) = cut := by
  rw [words_eq_iff, String.toList_intercalate]
  exact cut_intercalate _ (by simpa using written)

end Befunge.Text
