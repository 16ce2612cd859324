import Mathlib.Data.List.Induction
import Befunge.Launch.Run
import Befunge.Proofs.Text.Numeral

/-!
The grammar of the command line. Arguments are read as groups: a flag, a setting with its value, or the
program file. Groups say what the options are whatever their order, and arguments that are no such groups
are refused for the first of them that is none.
-/
set_option autoImplicit false

namespace Befunge

namespace Launch

namespace Options

open Text (Numeral IsNumeral)

inductive Flag where
  | help
  | version
  | debug
  | strict
  | trace
  | traceJson
  | dumpState
deriving DecidableEq

def Flag.spellings : Flag → List String
  | .help => ["-h", "--help"]
  | .version => ["-V", "--version"]
  | .debug => ["-d", "--debug"]
  | .strict => ["--strict"]
  | .trace => ["--trace"]
  | .traceJson => ["--trace-json"]
  | .dumpState => ["--dump-state"]

inductive Setting where
  | seed
  | maxSteps
deriving DecidableEq

def Setting.spelling : Setting → String
  | .seed => "--seed"
  | .maxSteps => "--max-steps"

def Dashed (word : String) : Prop :=
  word.toList.head? = some '-'

instance (word : String) : Decidable (Dashed word) :=
  inferInstanceAs (Decidable (_ = _))

-- Arguments that belong together.
inductive Group where
  | flag (flag : Flag) (word : String)
  | setting (setting : Setting) (value : String) (n : Nat)
  | file (word : String)
deriving DecidableEq

namespace Group

def words : Group → List String
  | .flag _ word | .file word => [word]
  | .setting which value _ => [which.spelling, value]

-- A value may look like anything; only a file must not look like an option.
def Known : Group → Prop
  | .flag which word => word ∈ which.spellings
  | .setting _ value n => Numeral value n
  | .file word => ¬ Dashed word

instance : (group : Group) → Decidable group.Known
  | .flag which word => inferInstanceAs (Decidable (word ∈ which.spellings))
  | .setting _ value n => inferInstanceAs (Decidable (Numeral value n))
  | .file word => inferInstanceAs (Decidable (¬ Dashed word))

def raises (raised : Flag) : Group → Bool
  | .flag which _ => which = raised
  | _ => false

def value? (assigned : Setting) : Group → Option Nat
  | .setting which _ n => if which = assigned then some n else none
  | _ => none

def file? : Group → Option String
  | .file word => some word
  | _ => none

end Group

def values (setting : Setting) (groups : List Group) : List Nat :=
  groups.filterMap (·.value? setting)

def filesOf (groups : List Group) : List String :=
  groups.filterMap Group.file?

structure Grammatical (groups : List Group) : Prop where
  known : ∀ group ∈ groups, group.Known
  oneFile : (filesOf groups).length ≤ 1

-- What the groups ask for. Of several values for a setting the last one counts.
def ofGroups (groups : List Group) : Options :=
  { file := (filesOf groups).head?
    help := groups.any (·.raises .help)
    version := groups.any (·.raises .version)
    debug := groups.any (·.raises .debug)
    seed := (values .seed groups).getLast?
    maxSteps := (values .maxSteps groups).getLast?
    strict := groups.any (·.raises .strict)
    trace := groups.any (·.raises .trace) || groups.any (·.raises .traceJson)
    traceJson := groups.any (·.raises .traceJson)
    dumpState := groups.any (·.raises .dumpState) }

-- What stands at the front of the rest is no group that could follow those before it.
inductive Offends (before : List Group) : List String → Refusal → Prop where
  | unknown (word : String) (rest : List String) (dashed : Dashed word) (noFlag : ∀ flag : Flag, word ∉ flag.spellings)
      (noSetting : ∀ setting : Setting, word ≠ setting.spelling) :
      Offends before (word :: rest) (.unknownOption word)
  | unexpected (word : String) (rest : List String) (plain : ¬ Dashed word) (given : filesOf before ≠ []) :
      Offends before (word :: rest) (.unexpectedArgument word)
  | missing (setting : Setting) : Offends before [setting.spelling] (.valueRequired setting.spelling)
  | invalid (setting : Setting) (value : String) (rest : List String) (other : ¬ IsNumeral value) :
      Offends before (setting.spelling :: value :: rest) (.invalidValue setting.spelling value)

def raise (options : Options) : Flag → Options
  | .help => { options with help := true }
  | .version => { options with version := true }
  | .debug => { options with debug := true }
  | .strict => { options with strict := true }
  | .trace => { options with trace := true }
  | .traceJson => { options with trace := true, traceJson := true }
  | .dumpState => { options with dumpState := true }

def assign (options : Options) (n : Nat) : Setting → Options
  | .seed => { options with seed := some n }
  | .maxSteps => { options with maxSteps := some n }

section Words

variable (options : Options) (flag : Flag) (setting : Setting) (word : String)

theorem dashed_of_flag (spelled : word ∈ flag.spellings) : Dashed word := by
  have all : ∀ flag : Flag, ∀ word ∈ flag.spellings, Dashed word := by
    intro flag
    cases flag <;> decide
  exact all flag word spelled

theorem dashed_of_setting : Dashed setting.spelling := by
  cases setting <;> decide

theorem setting_ne_flag : setting.spelling ∉ flag.spellings := by
  cases setting <;> cases flag <;> decide

theorem flag_of_spelling (spelled : word ∈ flag.spellings) : options.flag? word = some (options.raise flag) := by
  cases flag <;> simp only [Flag.spellings, List.mem_cons, List.not_mem_nil, or_false] at spelled
  case help | version | debug => rcases spelled with rfl | rfl <;> rfl
  all_goals subst spelled; rfl

theorem flag_eq_none (noFlag : ∀ flag : Flag, word ∉ flag.spellings) : options.flag? word = none := by
  unfold flag?
  split
  case h_1 | h_2 => cases noFlag .help (by decide)
  case h_3 | h_4 => cases noFlag .version (by decide)
  case h_5 | h_6 => cases noFlag .debug (by decide)
  case h_7 => cases noFlag .strict (by decide)
  case h_8 => cases noFlag .trace (by decide)
  case h_9 => cases noFlag .traceJson (by decide)
  case h_10 => cases noFlag .dumpState (by decide)
  case h_11 => rfl

theorem setting_of_spelling : options.setting? setting.spelling = some fun n => options.assign n setting := by
  cases setting <;> rfl

theorem setting_eq_none (noSetting : ∀ setting : Setting, word ≠ setting.spelling) : options.setting? word = none := by
  unfold setting?
  split
  · exact absurd rfl (noSetting .seed)
  · exact absurd rfl (noSetting .maxSteps)
  · rfl

end Words

section Parsing

variable (options next : Options) (word : String) (rest : List String)

theorem parse_from_taken (noSetting : ∀ setting : Setting, word ≠ setting.spelling)
    (taken : options.argument word = .ok next) : parseFrom options (word :: rest) = parseFrom next rest := by
  have other := setting_eq_none options word noSetting
  cases rest with
  | nil => simp only [parseFrom, other, taken]
  | cons value rest => simp only [parseFrom, other, taken]

theorem parse_from_refused (refusal : Refusal) (noSetting : ∀ setting : Setting, word ≠ setting.spelling)
    (refused : options.argument word = .error refusal) : parseFrom options (word :: rest) = .error refusal := by
  have other := setting_eq_none options word noSetting
  cases rest with
  | nil => simp only [parseFrom, other, refused]
  | cons value rest => simp only [parseFrom, other, refused]

theorem parse_from_setting (setting : Setting) (value : String) (n : Nat) (numeral : Numeral value n) :
    parseFrom options (setting.spelling :: value :: rest) = parseFrom (options.assign n setting) rest := by
  simp only [parseFrom, setting_of_spelling, (Text.natural_eq_some_iff value n).2 numeral]

theorem plain_is_no_flag (plain : ¬ Dashed word) (flag : Flag) : word ∉ flag.spellings :=
  fun spelled => plain (dashed_of_flag flag word spelled)

theorem plain_is_no_setting (plain : ¬ Dashed word) (setting : Setting) : word ≠ setting.spelling :=
  fun same => plain (same ▸ dashed_of_setting setting)

theorem argument_of_file (plain : ¬ Dashed word) (free : options.file = none) :
    options.argument word = .ok { options with file := some word } := by
  rw [argument, flag_eq_none options word (plain_is_no_flag word plain)]
  simp only [if_neg (show ¬ word.toList.head? = some '-' from plain), free, Option.isSome_none, Bool.false_eq_true,
    if_false]

end Parsing

section Groups

variable (before : List Group) (rest : List String)

theorem files_append (later : List Group) : filesOf (before ++ later) = filesOf before ++ filesOf later :=
  List.filterMap_append

theorem values_append (setting : Setting) (later : List Group) :
    values setting (before ++ later) = values setting before ++ values setting later :=
  List.filterMap_append

theorem any_raises_concat (raised : Flag) (group : Group) :
    (before ++ [group]).any (·.raises raised) = (before.any (·.raises raised) || group.raises raised) := by
  rw [List.any_append, List.any_cons, List.any_nil, Bool.or_false]

theorem of_groups_flag (flag : Flag) (word : String) :
    ofGroups (before ++ [.flag flag word]) = (ofGroups before).raise flag := by
  have files : filesOf (before ++ [.flag flag word]) = filesOf before :=
    (files_append before _).trans (List.append_nil _)
  have values (setting : Setting) : values setting (before ++ [.flag flag word]) = values setting before :=
    (values_append before setting _).trans (List.append_nil _)
  simp only [ofGroups, files, values, any_raises_concat]
  cases flag <;> simp [raise, Group.raises]

theorem of_groups_setting (setting : Setting) (value : String) (n : Nat) :
    ofGroups (before ++ [.setting setting value n]) = (ofGroups before).assign n setting := by
  have files : filesOf (before ++ [.setting setting value n]) = filesOf before :=
    (files_append before _).trans (List.append_nil _)
  have assigned (other : Setting) : (values other (before ++ [.setting setting value n])).getLast? =
      if setting = other then some n else (values other before).getLast? := by
    rw [values_append]
    by_cases this : setting = other <;> simp [this, values, Group.value?]
  simp only [ofGroups, files, assigned, any_raises_concat]
  cases setting <;> simp [assign, Group.raises]

theorem of_groups_file (word : String) (first : filesOf before = []) :
    ofGroups (before ++ [.file word]) = { ofGroups before with file := some word } := by
  have files : filesOf (before ++ [.file word]) = [word] := by
    rw [files_append, first]
    rfl
  have values (setting : Setting) : values setting (before ++ [.file word]) = values setting before :=
    (values_append before setting _).trans (List.append_nil _)
  simp only [ofGroups, files, values, any_raises_concat]
  simp [Group.raises]

theorem no_file_before (word : String) (one : (filesOf (before ++ [.file word])).length ≤ 1) :
    filesOf before = [] := by
  rw [files_append, List.length_append] at one
  exact List.eq_nil_of_length_eq_zero (Nat.le_zero.1 (Nat.le_of_succ_le_succ one))

-- A group that may follow those before it is read to its end.
theorem parse_from_group (group : Group) (known : group.Known) (one : (filesOf (before ++ [group])).length ≤ 1) :
    parseFrom (ofGroups before) (group.words ++ rest) = parseFrom (ofGroups (before ++ [group])) rest := by
  cases group with
  | flag flag word =>
      have noSetting : ∀ setting : Setting, word ≠ setting.spelling := by
        rintro setting rfl
        exact setting_ne_flag flag setting known
      rw [of_groups_flag]
      apply parse_from_taken _ _ word rest noSetting
      rw [argument, flag_of_spelling _ flag word known]
  | setting setting value n =>
      rw [of_groups_setting]
      exact parse_from_setting _ rest setting value n known
  | file word =>
      have first := no_file_before before word one
      have free : (ofGroups before).file = none := by
        rw [ofGroups, first]
        rfl
      rw [of_groups_file before word first]
      exact parse_from_taken _ _ word rest (plain_is_no_setting word known) (argument_of_file _ word known free)

theorem parse_from_groups (groups : List Group) (grammatical : Grammatical (before ++ groups)) :
    parseFrom (ofGroups before) (groups.flatMap Group.words ++ rest) = parseFrom (ofGroups (before ++ groups)) rest := by
  induction groups generalizing before with
  | nil => rw [List.append_nil, List.flatMap_nil, List.nil_append]
  | cons group groups ih =>
      rw [List.append_cons] at grammatical ⊢
      have known := grammatical.known group (by simp)
      have one : (filesOf (before ++ [group])).length ≤ 1 := by
        have all := grammatical.oneFile
        rw [files_append, List.length_append] at all
        omega
      rw [List.flatMap_cons, List.append_assoc, parse_from_group before _ group known one]
      exact ih (before ++ [group]) grammatical

end Groups

section Whole

variable (arguments rest : List String) (groups : List Group)

theorem parse_of_groups (grammatical : Grammatical groups) :
    parseFrom {} (groups.flatMap Group.words ++ rest) = parseFrom (ofGroups groups) rest :=
  parse_from_groups [] rest groups grammatical

theorem parse_from_offence (refusal : Refusal) (offends : Offends groups rest refusal) :
    parseFrom (ofGroups groups) rest = .error refusal := by
  cases offends with
  | unknown word rest dashed noFlag noSetting =>
      apply parse_from_refused _ word rest _ noSetting
      rw [argument, flag_eq_none _ word noFlag]
      exact if_pos dashed
  | unexpected word rest plain given =>
      apply parse_from_refused _ word rest _ (plain_is_no_setting word plain)
      have taken : (ofGroups groups).file.isSome = true := by
        exact List.isSome_head?.2 given
      rw [argument, flag_eq_none _ word (plain_is_no_flag word plain)]
      exact (if_neg plain).trans (if_pos taken)
  | missing setting => simp only [parseFrom, setting_of_spelling]
  | invalid setting value rest other =>
      have unread := Option.not_isSome_iff_eq_none.1 (mt (Text.natural_is_some_iff value).1 other)
      simp only [parseFrom, setting_of_spelling, unread]

theorem grammatical_nil : Grammatical [] where
  known _ member := absurd member List.not_mem_nil
  oneFile := Nat.zero_le 1

theorem grammatical_concat (before : List Group) (group : Group) (grammatical : Grammatical before)
    (known : group.Known) (free : group.file? = none ∨ filesOf before = []) : Grammatical (before ++ [group]) where
  known := by
    intro other member
    rcases List.mem_append.1 member with earlier | here
    · exact grammatical.known other earlier
    · rwa [List.mem_singleton.1 here]
  oneFile := by
    rw [files_append]
    rcases free with noFile | first
    · have alone : filesOf [group] = [] := List.filterMap_cons_none noFile
      rw [alone, List.append_nil]
      exact grammatical.oneFile
    · rw [first, List.nil_append]
      exact List.length_filterMap_le _ _

-- Behind these groups, the arguments are groups up to their end or up to what offends.
def Grouped (before : List Group) (arguments : List String) : Prop :=
  ∃ groups rest, Grammatical (before ++ groups) ∧ arguments = groups.flatMap Group.words ++ rest ∧
    (rest = [] ∨ ∃ refusal, Offends (before ++ groups) rest refusal)

theorem grouped_of_end (before : List Group) (grammatical : Grammatical before)
    (ends : rest = [] ∨ ∃ refusal, Offends before rest refusal) : Grouped before rest := by
  refine ⟨[], rest, ?_, rfl, ?_⟩
  · rwa [List.append_nil]
  · rwa [List.append_nil]

theorem grouped_of_group (before : List Group) (group : Group) (behind : Grouped (before ++ [group]) rest) :
    Grouped before (group.words ++ rest) := by
  obtain ⟨groups, last, grammatical, rfl, ends⟩ := behind
  rw [← List.append_cons] at grammatical ends
  exact ⟨group :: groups, last, grammatical, by rw [List.flatMap_cons, List.append_assoc], ends⟩

theorem group_or_offence (before : List Group) (word : String) (grammatical : Grammatical before)
    (noSetting : ∀ setting : Setting, word ≠ setting.spelling) :
    (∃ group : Group, group.words = [word] ∧ Grammatical (before ++ [group])) ∨
      ∃ refusal, Offends before (word :: rest) refusal := by
  by_cases isFlag : ∃ flag : Flag, word ∈ flag.spellings
  · obtain ⟨flag, spelled⟩ := isFlag
    exact .inl ⟨.flag flag word, rfl, grammatical_concat before _ grammatical spelled (.inl rfl)⟩
  · by_cases dashed : Dashed word
    · exact .inr ⟨_, .unknown word rest dashed (not_exists.1 isFlag) noSetting⟩
    · by_cases first : filesOf before = []
      · exact .inl ⟨.file word, rfl, grammatical_concat before _ grammatical dashed (.inr first)⟩
      · exact .inr ⟨_, .unexpected word rest dashed first⟩

-- The induction is on two arguments at a time, since a setting takes the next one with it.
theorem grouped (before : List Group) (grammatical : Grammatical before) : Grouped before arguments := by
  induction arguments using List.twoStepInduction generalizing before with
  | nil => exact grouped_of_end [] before grammatical (.inl rfl)
  | singleton word =>
      by_cases isSetting : ∃ setting : Setting, word = setting.spelling
      · obtain ⟨setting, rfl⟩ := isSetting
        exact grouped_of_end _ before grammatical (.inr ⟨_, .missing setting⟩)
      · rcases group_or_offence [] before word grammatical (not_exists.1 isSetting) with group | offends
        · obtain ⟨group, words, longer⟩ := group
          have behind := grouped_of_group [] before group (grouped_of_end [] _ longer (.inl rfl))
          rwa [words] at behind
        · exact grouped_of_end _ before grammatical (.inr offends)
  | cons_cons word value rest ih ih' =>
      by_cases isSetting : ∃ setting : Setting, word = setting.spelling
      · obtain ⟨setting, rfl⟩ := isSetting
        by_cases number : IsNumeral value
        · obtain ⟨n, numeral⟩ := number
          have longer := grammatical_concat before (.setting setting value n) grammatical numeral (.inl rfl)
          exact grouped_of_group rest before (.setting setting value n) (ih _ longer)
        · exact grouped_of_end _ before grammatical (.inr ⟨_, .invalid setting value rest number⟩)
      · rcases group_or_offence (value :: rest) before word grammatical (not_exists.1 isSetting) with group | offends
        · obtain ⟨group, words, longer⟩ := group
          have behind := grouped_of_group (value :: rest) before group (ih' value _ longer)
          rwa [words] at behind
        · exact grouped_of_end _ before grammatical (.inr offends)

theorem parse_eq_ok_iff (options : Options) :
    parse arguments = .ok options ↔
      ∃ groups, Grammatical groups ∧ arguments = groups.flatMap Group.words ∧ options = ofGroups groups := by
  constructor
  · intro parsed
    obtain ⟨groups, rest, grammatical, rfl, ends⟩ := grouped arguments [] grammatical_nil
    rw [List.nil_append] at grammatical ends
    rw [parse, parse_of_groups rest groups grammatical] at parsed
    rcases ends with rfl | ⟨refusal, offends⟩
    · cases parsed
      exact ⟨groups, grammatical, List.append_nil _, rfl⟩
    · rw [parse_from_offence rest groups refusal offends] at parsed
      cases parsed
  · rintro ⟨groups, grammatical, rfl, rfl⟩
    have read := parse_of_groups [] groups grammatical
    rwa [List.append_nil] at read

theorem parse_eq_error_iff (refusal : Refusal) :
    parse arguments = .error refusal ↔
      ∃ groups rest, Grammatical groups ∧ arguments = groups.flatMap Group.words ++ rest ∧
        Offends groups rest refusal := by
  constructor
  · intro refused
    obtain ⟨groups, rest, grammatical, rfl, ends⟩ := grouped arguments [] grammatical_nil
    rw [List.nil_append] at grammatical ends
    rw [parse, parse_of_groups rest groups grammatical] at refused
    rcases ends with rfl | ⟨other, offends⟩
    · cases refused
    · rw [parse_from_offence rest groups other offends] at refused
      cases refused
      exact ⟨groups, rest, grammatical, rfl, offends⟩
  · rintro ⟨groups, rest, grammatical, rfl, offends⟩
    rw [parse, parse_of_groups rest groups grammatical, parse_from_offence rest groups refusal offends]

end Whole

theorem eq_of_perm_of_short {α : Type} (items others : List α) (same : items.Perm others)
    (short : items.length ≤ 1) : items = others := by
  cases items with
  | nil => exact same.nil_eq
  | cons first rest =>
      have alone : rest = [] := List.eq_nil_of_length_eq_zero (Nat.le_zero.1 (Nat.le_of_succ_le_succ short))
      subst alone
      exact List.singleton_perm.1 same

section Order

variable (groups others : List Group) (reordered : groups.Perm others)
include reordered

theorem grammatical_perm (grammatical : Grammatical groups) : Grammatical others where
  known group member := grammatical.known group (reordered.mem_iff.2 member)
  oneFile := by
    rw [filesOf, ← (reordered.filterMap Group.file?).length_eq]
    exact grammatical.oneFile

theorem of_groups_perm (grammatical : Grammatical groups)
    (inOrder : ∀ setting, values setting groups = values setting others) : ofGroups groups = ofGroups others := by
  have files : filesOf groups = filesOf others :=
    eq_of_perm_of_short _ _ (reordered.filterMap Group.file?) grammatical.oneFile
  have raised (flag : Flag) : groups.any (·.raises flag) = others.any (·.raises flag) := reordered.any_eq
  simp only [ofGroups, files, raised, inOrder]

end Order

theorem run_of_refused (fuel : Nat) (seed : UInt64) (arguments : List String) (files : Files) (input : String)
    (refusal : Refusal) (refused : parse arguments = .error refusal) :
    run fuel seed arguments files input = some (failure refusal.message) := by
  rw [run, task, refused]
  rfl

theorem options_follow_their_grammar (arguments : List String) :
    (∀ options, parse arguments = .ok options ↔
      ∃ groups, Grammatical groups ∧ arguments = groups.flatMap Group.words ∧ options = ofGroups groups) ∧
    (∀ refusal, parse arguments = .error refusal ↔
      ∃ groups rest, Grammatical groups ∧ arguments = groups.flatMap Group.words ++ rest ∧
        Offends groups rest refusal) ∧
    (∀ refusal, parse arguments = .error refusal → ∀ fuel seed files input,
      run fuel seed arguments files input = some (failure refusal.message)) ∧
    ∀ groups others, Grammatical groups → arguments = groups.flatMap Group.words → groups.Perm others →
      (∀ setting, values setting groups = values setting others) →
      parse (others.flatMap Group.words) = parse arguments := by
  refine ⟨parse_eq_ok_iff arguments, parse_eq_error_iff arguments, ?_, ?_⟩
  · exact fun refusal refused fuel seed files input => run_of_refused fuel seed arguments files input refusal refused
  · rintro groups others grammatical rfl reordered inOrder
    have here := (parse_eq_ok_iff _ _).2 ⟨groups, grammatical, rfl, rfl⟩
    have there := (parse_eq_ok_iff _ _).2 ⟨others, grammatical_perm groups others reordered grammatical, rfl, rfl⟩
    rw [here, there, of_groups_perm groups others reordered grammatical inOrder]

-- A value with a sign, zeros and a successor, a file without a name, and a value that looks like a flag.
def spoken : List Group :=
  [.flag .traceJson "--trace-json", .setting .seed "+007" 7, .file "", .setting .seed "9" 9]

def reordered : List Group :=
  [.file "", .setting .seed "+007" 7, .setting .seed "9" 9, .flag .traceJson "--trace-json"]

theorem options_follow_their_grammar_in_another_order :
    Grammatical spoken ∧ spoken.Perm reordered ∧ (∀ setting, values setting spoken = values setting reordered) ∧
      parse ["--trace-json", "--seed", "+007", "", "--seed", "9"] =
        .ok { file := some "", seed := some 9, trace := true, traceJson := true } ∧
      parse ["", "--seed", "+007", "--seed", "9", "--trace-json"] =
        parse ["--trace-json", "--seed", "+007", "", "--seed", "9"] ∧
      run 0 0 ["x", "--seed", "--strict"] {} "" = some (failure "invalid --seed value: --strict") := by
  obtain ⟨accepted, _, _, reordering⟩ :=
    options_follow_their_grammar ["--trace-json", "--seed", "+007", "", "--seed", "9"]
  obtain ⟨_, refused, reported, _⟩ := options_follow_their_grammar ["x", "--seed", "--strict"]
  have grammatical : Grammatical spoken := ⟨by decide +kernel, by decide⟩
  have same : spoken.Perm reordered := by decide
  have inOrder : ∀ setting, values setting spoken = values setting reordered := by
    intro setting
    cases setting <;> decide
  have offence : parse ["x", "--seed", "--strict"] = .error (.invalidValue "--seed" "--strict") :=
    (refused _).2 ⟨[.file "x"], ["--seed", "--strict"], ⟨by decide +kernel, by decide⟩, rfl,
      .invalid .seed "--strict" [] (by decide +kernel)⟩
  exact ⟨grammatical, same, inOrder, (accepted _).2 ⟨spoken, grammatical, rfl, by decide⟩,
    reordering spoken reordered grammatical rfl same inOrder, reported _ offence 0 0 {} ""⟩

end Options

end Launch

end Befunge
