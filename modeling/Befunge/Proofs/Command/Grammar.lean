import Befunge.Proofs.Console.Loop
import Befunge.Proofs.Text.Numeral
import Befunge.Proofs.Text.Words

/-!
The grammar of the debugger's commands. A line is read by its words alone: as one of the documented forms, or
else it is refused for the first thing that is wrong with it. What a form can say, its canonical text says too.
-/
set_option autoImplicit false

namespace Befunge

namespace Command

open Text (Numeral IsNumeral)

-- What words say that are one of the documented forms.
inductive Form : List String → Command → Prop where
  | step (head : String) (known : head ∈ ["step", "s"]) : Form [head] (.step 1)
  | steps (head word : String) (n : Nat) (known : head ∈ ["step", "s"]) (numeral : Numeral word n)
      (positive : 1 ≤ n) : Form [head, word] (.step n)
  | run : Form ["run"] .run
  | proceed (head : String) (known : head ∈ ["continue", "c"]) : Form [head] .proceed
  | back (head : String) (known : head ∈ ["back", "b"]) : Form [head] (.back 1)
  | backs (head word : String) (n : Nat) (known : head ∈ ["back", "b"]) (numeral : Numeral word n)
      (positive : 1 ≤ n) : Form [head, word] (.back n)
  | breakpoints : Form ["break"] (.breakpoint none)
  | breakpoint (column row : String) (p : Position) (across : Numeral column p.x) (down : Numeral row p.y) :
      Form ["break", column, row] (.breakpoint (some p))
  | delete (column row : String) (p : Position) (across : Numeral column p.x) (down : Numeral row p.y) :
      Form ["delete", column, row] (.delete p)
  | stack : Form ["stack"] .stack
  | grid : Form ["grid"] .grid
  | output : Form ["output"] .output
  | location : Form ["where"] .location
  | traceOn : Form ["trace", "on"] (.trace .on)
  | traceOff : Form ["trace", "off"] (.trace .off)
  | traceJson : Form ["trace", "json"] (.trace .json)
  | traceHuman : Form ["trace", "human"] (.trace .human)
  | traceTen : Form ["trace", "recent"] (.trace (.recent 10))
  | traceRecent (word : String) (n : Nat) (numeral : Numeral word n) :
      Form ["trace", "recent", word] (.trace (.recent n))
  | save (path : String) : Form ["save", path] (.save path)
  | load (path : String) : Form ["load", path] (.load path)
  | reset : Form ["reset"] .reset
  | help : Form ["help"] .help
  | quit (head : String) (known : head ∈ ["quit", "exit"]) : Form [head] .quit

-- The heads whose argument is a count of steps, and those whose arguments are a position.
def counters : List String := ["step", "s", "back", "b"]

def pointers : List String := ["break", "delete"]

-- The words that stand where a form with this head and so many arguments has its numbers.
def numberPlaces : List String → List String
  | [head, word] => if head ∈ counters then [word] else []
  | [head, first, second] =>
      if head ∈ pointers then [first, second]
      else if head = "trace" ∧ first = "recent" then [second]
      else []
  | _ => []

-- What is wrong with words that are none of the forms: the head, or else a number, or else all of them.
def blame (head : String) (arguments : List String) : Refusal :=
  let places := numberPlaces (head :: arguments)
  if head ∉ heads then .unknownCommand head
  else match places.find? (¬ IsNumeral ·), places.find? (Numeral · 0) with
    | some word, _ => .notANumber word
    | none, some word => .zeroCount word
    | none, none => .badArguments head

-- The grammar agrees with this answer to the words.
def Agrees (head : String) (arguments : List String) : Except Refusal Command → Prop
  | .ok c => Form (head :: arguments) c
  | .error r => r = blame head arguments

section Numbers

variable (word : String) (n : Nat)

theorem number_of_numeral (numeral : Numeral word n) : number word = .ok n := by
  rw [number, (Text.natural_eq_some_iff word n).2 numeral]

theorem number_of_other (other : ¬ IsNumeral word) : number word = .error (.notANumber word) := by
  rw [number, Option.not_isSome_iff_eq_none.1 (mt (Text.natural_is_some_iff word).1 other)]

theorem count_of_numeral (numeral : Numeral word n) (positive : 1 ≤ n) : count word = .ok n := by
  rw [count, number_of_numeral word n numeral]
  cases n with
  | zero => cases positive
  | succ n => rfl

theorem position_of_numerals (row : String) (p : Position) (across : Numeral word p.x) (down : Numeral row p.y) :
    position word row = .ok p := by
  rw [position, number_of_numeral word p.x across, number_of_numeral row p.y down]
  rfl

end Numbers

section Blame

variable (head word : String) (arguments : List String)

theorem blame_of_unknown (unknown : head ∉ heads) : blame head arguments = .unknownCommand head :=
  if_pos unknown

theorem blame_of_other (places : List String) (known : head ∈ heads)
    (there : numberPlaces (head :: arguments) = places) (first : places.find? (¬ IsNumeral ·) = some word) :
    blame head arguments = .notANumber word := by
  simp only [blame, there, if_neg (not_not_intro known), first]

theorem blame_of_zero (known : head ∈ heads) (there : numberPlaces (head :: arguments) = [word])
    (zero : Numeral word 0) : blame head arguments = .zeroCount word := by
  have number : IsNumeral word := ⟨0, zero⟩
  simp [blame, there, if_neg (not_not_intro known), number, zero]

theorem blame_of_places (known : head ∈ heads) (there : numberPlaces (head :: arguments) = []) :
    blame head arguments = .badArguments head := by
  simp only [blame, there, if_neg (not_not_intro known), List.find?_nil]

theorem blame_eq_unknown_iff :
    blame head arguments = .unknownCommand word ↔ head = word ∧ head ∉ heads := by
  by_cases unknown : head ∉ heads
  · rw [blame_of_unknown head arguments unknown, Refusal.unknownCommand.injEq, and_iff_left unknown]
  · simp only [unknown, and_false, iff_false, blame, if_false]
    split <;> simp

end Blame

theorem agrees_count (head word : String) (make : Nat → Command) (counts : head ∈ counters)
    (forms : ∀ n, Numeral word n → 1 ≤ n → Form [head, word] (make n)) :
    Agrees head [word] ((count word).map make) := by
  have known : head ∈ heads := (by decide : counters ⊆ heads) counts
  have place : numberPlaces [head, word] = [word] := if_pos counts
  by_cases number : IsNumeral word
  · obtain ⟨n, numeral⟩ := number
    cases n with
    | zero =>
        rw [count, number_of_numeral word 0 numeral]
        exact (blame_of_zero head word [word] known place numeral).symm
    | succ n =>
        rw [count_of_numeral word (n + 1) numeral (by omega)]
        exact forms (n + 1) numeral (by omega)
  · rw [count, number_of_other word number]
    exact (blame_of_other head word [word] [word] known place (by simp [number])).symm

theorem agrees_recent (word : String) :
    Agrees "trace" ["recent", word] ((number word).map fun n => .trace (.recent n)) := by
  by_cases number : IsNumeral word
  · obtain ⟨n, numeral⟩ := number
    rw [number_of_numeral word n numeral]
    exact .traceRecent word n numeral
  · rw [number_of_other word number]
    exact (blame_of_other "trace" word ["recent", word] [word] (by decide) rfl (by simp [number])).symm

theorem agrees_position (head column row : String) (make : Position → Command) (points : head ∈ pointers)
    (forms : ∀ p : Position, Numeral column p.x → Numeral row p.y → Form [head, column, row] (make p)) :
    Agrees head [column, row] ((position column row).map make) := by
  have known : head ∈ heads := (by decide : pointers ⊆ heads) points
  have places : numberPlaces [head, column, row] = [column, row] := if_pos points
  rw [position]
  by_cases across : IsNumeral column
  · obtain ⟨x, isColumn⟩ := id across
    rw [number_of_numeral column x isColumn]
    by_cases down : IsNumeral row
    · obtain ⟨y, isRow⟩ := down
      rw [number_of_numeral row y isRow]
      exact forms ⟨x, y⟩ isColumn isRow
    · rw [number_of_other row down]
      exact (blame_of_other head row [column, row] _ known places (by simp [across, down])).symm
  · rw [number_of_other column across]
    exact (blame_of_other head column [column, row] _ known places (by simp [across])).symm

theorem of_words_of_form (head : String) (arguments : List String) (c : Command)
    (form : Form (head :: arguments) c) : ofWords head arguments = .ok c := by
  cases form with
  | step _ known | proceed _ known | back _ known | quit _ known =>
      simp only [List.mem_cons, List.not_mem_nil, or_false] at known
      rcases known with rfl | rfl <;> rfl
  | steps _ word n known numeral positive | backs _ word n known numeral positive =>
      have read := count_of_numeral word n numeral positive
      simp only [List.mem_cons, List.not_mem_nil, or_false] at known
      rcases known with rfl | rfl <;> simp only [ofWords, read] <;> rfl
  | breakpoint column row p across down | delete column row p across down =>
      simp only [ofWords, position_of_numerals column row p across down]
      rfl
  | traceRecent word n numeral =>
      simp only [ofWords, number_of_numeral word n numeral]
      rfl
  | _ => rfl

theorem no_places (head : String) (arguments : List String)
    (counts : ∀ word, head ∈ counters → arguments ≠ [word])
    (points : ∀ column row, head ∈ pointers → arguments ≠ [column, row])
    (recent : ∀ word, head = "trace" → arguments ≠ ["recent", word]) : numberPlaces (head :: arguments) = [] := by
  unfold numberPlaces
  split
  · rename_i same
    cases same
    exact if_neg fun member => counts _ member rfl
  · rename_i same
    cases same
    rw [if_neg fun member => points _ _ member rfl, if_neg]
    rintro ⟨rfl, rfl⟩
    exact recent _ rfl rfl
  · rfl

theorem agrees_of_words (head : String) (arguments : List String) :
    Agrees head arguments (ofWords head arguments) := by
  generalize read : ofWords head arguments = result
  unfold ofWords at read
  split at read
  all_goals try (subst read)
  case h_1 | h_2 => exact .step _ (by decide)
  case h_3 | h_4 => exact agrees_count _ _ _ (by decide) fun n => .steps _ _ n (by decide)
  case h_5 => exact .run
  case h_6 | h_7 => exact .proceed _ (by decide)
  case h_8 | h_9 => exact .back _ (by decide)
  case h_10 | h_11 => exact agrees_count _ _ _ (by decide) fun n => .backs _ _ n (by decide)
  case h_12 => exact .breakpoints
  case h_13 => exact agrees_position _ _ _ _ (by decide) (.breakpoint _ _)
  case h_14 => exact agrees_position _ _ _ _ (by decide) (.delete _ _)
  case h_15 => exact .stack
  case h_16 => exact .grid
  case h_17 => exact .output
  case h_18 => exact .location
  case h_19 => exact .traceOn
  case h_20 => exact .traceOff
  case h_21 => exact .traceJson
  case h_22 => exact .traceHuman
  case h_23 => exact .traceTen
  case h_24 => exact agrees_recent _
  case h_25 => exact .save _
  case h_26 => exact .load _
  case h_27 => exact .reset
  case h_28 => exact .help
  case h_29 | h_30 => exact .quit _ (by decide)
  case h_31 =>
    have places : numberPlaces (head :: arguments) = [] := by
      apply no_places
      · grind [counters]
      · grind [pointers]
      · grind
    by_cases known : head ∈ heads
    · rw [if_pos (List.contains_iff_mem.2 known)]
      exact (blame_of_places head arguments known places).symm
    · rw [if_neg (mt List.contains_iff_mem.1 known)]
      exact (blame_of_unknown head arguments known).symm

theorem of_words_eq_ok_iff (head : String) (arguments : List String) (c : Command) :
    ofWords head arguments = .ok c ↔ Form (head :: arguments) c := by
  constructor
  · intro read
    have agrees := agrees_of_words head arguments
    rwa [read] at agrees
  · exact of_words_of_form head arguments c

theorem of_words_eq_error_iff (head : String) (arguments : List String) (r : Refusal) :
    ofWords head arguments = .error r ↔ (∀ c, ¬ Form (head :: arguments) c) ∧ r = blame head arguments := by
  have agrees := agrees_of_words head arguments
  simp only [← of_words_eq_ok_iff]
  cases read : ofWords head arguments with
  | ok c => simp
  | error other =>
      rw [read] at agrees
      cases agrees
      simp [eq_comm]

-- The words by which the help lists a command.
def canonical : Command → List String
  | .step n => ["step", toString n]
  | .run => ["run"]
  | .proceed => ["continue"]
  | .back n => ["back", toString n]
  | .breakpoint none => ["break"]
  | .breakpoint (some p) => ["break", toString p.x, toString p.y]
  | .delete p => ["delete", toString p.x, toString p.y]
  | .stack => ["stack"]
  | .grid => ["grid"]
  | .output => ["output"]
  | .location => ["where"]
  | .trace .on => ["trace", "on"]
  | .trace .off => ["trace", "off"]
  | .trace .json => ["trace", "json"]
  | .trace .human => ["trace", "human"]
  | .trace (.recent n) => ["trace", "recent", toString n]
  | .save path => ["save", path]
  | .load path => ["load", path]
  | .reset => ["reset"]
  | .help => ["help"]
  | .quit => ["quit"]

def text (c : Command) : String :=
  " ".intercalate c.canonical

-- The commands that there are: their numbers fit a word of 64 bits, a count is at least one, and a path
-- is one word.
def Sayable : Command → Prop
  | .step n | .back n => 1 ≤ n ∧ n < 2 ^ 64
  | .breakpoint (some p) | .delete p => p.x < 2 ^ 64 ∧ p.y < 2 ^ 64
  | .trace (.recent n) => n < 2 ^ 64
  | .save path | .load path => Text.IsWord path.toList
  | _ => True

theorem form_canonical (c : Command) (sayable : c.Sayable) : Form c.canonical c := by
  have numeral := Text.numeral_to_string
  cases c with
  | step n => exact .steps _ _ n (by decide) (numeral n sayable.2) sayable.1
  | back n => exact .backs _ _ n (by decide) (numeral n sayable.2) sayable.1
  | breakpoint position =>
      cases position with
      | none => exact .breakpoints
      | some p => exact .breakpoint _ _ p (numeral p.x sayable.1) (numeral p.y sayable.2)
  | delete p => exact .delete _ _ p (numeral p.x sayable.1) (numeral p.y sayable.2)
  | trace command =>
      cases command with
      | recent n => exact .traceRecent _ n (numeral n sayable)
      | on => exact .traceOn
      | off => exact .traceOff
      | json => exact .traceJson
      | human => exact .traceHuman
  | run => exact .run
  | proceed => exact .proceed _ (by decide)
  | stack => exact .stack
  | grid => exact .grid
  | output => exact .output
  | location => exact .location
  | save path => exact .save path
  | load path => exact .load path
  | reset => exact .reset
  | help => exact .help
  | quit => exact .quit _ (by decide)

theorem is_word_of_mem_canonical (c : Command) (sayable : c.Sayable) :
    ∀ word ∈ c.canonical, Text.IsWord word.toList := by
  have plain : ∀ word ∈ heads ++ ["on", "off", "json", "human", "recent"], Text.IsWord word.toList := by
    decide
  have number := Text.is_word_to_string
  cases c with
  | step n | back n =>
      rw [canonical, List.forall_mem_cons, List.forall_mem_singleton]
      exact ⟨plain _ (by decide), number n⟩
  | breakpoint position =>
      cases position with
      | none => exact List.forall_mem_singleton.2 (plain _ (by decide))
      | some p =>
          rw [canonical, List.forall_mem_cons, List.forall_mem_cons, List.forall_mem_singleton]
          exact ⟨plain _ (by decide), number p.x, number p.y⟩
  | delete p =>
      rw [canonical, List.forall_mem_cons, List.forall_mem_cons, List.forall_mem_singleton]
      exact ⟨plain _ (by decide), number p.x, number p.y⟩
  | trace command =>
      cases command with
      | recent n =>
          rw [canonical, List.forall_mem_cons, List.forall_mem_cons, List.forall_mem_singleton]
          exact ⟨plain _ (by decide), plain _ (by decide), number n⟩
      | on | off | json | human =>
          rw [canonical, List.forall_mem_cons, List.forall_mem_singleton]
          exact ⟨plain _ (by decide), plain _ (by decide)⟩
  | save path | load path =>
      rw [canonical, List.forall_mem_cons, List.forall_mem_singleton]
      exact ⟨plain _ (by decide), sayable⟩
  | run | proceed | stack | grid | output | location | reset | help | quit =>
      exact List.forall_mem_singleton.2 (plain _ (by decide))

theorem sayable_of_form (words : List String) (written : ∀ word ∈ words, Text.IsWord word.toList) (c : Command)
    (form : Form words c) : c.Sayable := by
  have fits := Text.lt_of_numeral
  cases form with
  | step | back => exact ⟨by decide, by decide⟩
  | steps _ word n _ numeral positive | backs _ word n _ numeral positive => exact ⟨positive, fits word n numeral⟩
  | breakpoint column row p across down | delete column row p across down =>
      exact ⟨fits column p.x across, fits row p.y down⟩
  | traceTen => exact (by decide : 10 < 2 ^ 64)
  | traceRecent word n numeral => exact fits word n numeral
  | save path | load path => exact written path (by simp)
  | _ => trivial

theorem known_of_form (head : String) (arguments : List String) (c : Command)
    (form : Form (head :: arguments) c) : head ∈ heads := by
  have among : ∀ known ⊆ heads, head ∈ known → head ∈ heads := fun _ sub member => sub member
  cases form with
  | step _ known | steps _ _ _ known | proceed _ known | back _ known | backs _ _ _ known | quit _ known =>
      exact among _ (by decide) known
  | _ => decide

section Parse

variable (line : String)

theorem parse_of_words (head : String) (arguments : List String) (words : Text.words line = head :: arguments) :
    parse line = (ofWords head arguments).map some := by
  rw [parse, words]

theorem parse_eq_some_iff (c : Command) : parse line = .ok (some c) ↔ Form (Text.words line) c := by
  cases words : Text.words line with
  | nil =>
      rw [parse, words]
      constructor
      · intro read
        cases read
      · intro form
        cases form
  | cons head arguments =>
      rw [parse_of_words line head arguments words, ← of_words_eq_ok_iff]
      cases ofWords head arguments <;> simp [Except.map]

theorem parse_eq_error_iff (r : Refusal) :
    parse line = .error r ↔ ∃ head arguments, Text.words line = head :: arguments ∧
      (∀ c, ¬ Form (Text.words line) c) ∧ r = blame head arguments := by
  cases words : Text.words line with
  | nil =>
      rw [parse, words]
      simp
  | cons head arguments =>
      have refused := of_words_eq_error_iff head arguments r
      rw [parse_of_words line head arguments words]
      cases read : ofWords head arguments <;> simpa [read, Except.map] using refused

theorem parse_eq_unknown_iff (head : String) :
    parse line = .error (.unknownCommand head) ↔ (Text.words line).head? = some head ∧ head ∉ heads := by
  rw [parse_eq_error_iff]
  constructor
  · rintro ⟨_, arguments, words, _, blamed⟩
    obtain ⟨rfl, unknown⟩ := (blame_eq_unknown_iff _ _ arguments).1 blamed.symm
    exact ⟨by rw [words, List.head?_cons], unknown⟩
  · rintro ⟨first, unknown⟩
    obtain ⟨arguments, words⟩ := List.head?_eq_some_iff.1 first
    refine ⟨head, arguments, words, ?_, (blame_of_unknown head arguments unknown).symm⟩
    rw [words]
    exact fun c form => unknown (known_of_form head arguments c form)

theorem words_text (c : Command) (sayable : c.Sayable) : Text.words c.text = c.canonical :=
  Text.words_intercalate c.canonical (is_word_of_mem_canonical c sayable)

theorem parse_text (c : Command) (sayable : c.Sayable) : parse c.text = .ok (some c) := by
  rw [parse_eq_some_iff, words_text c sayable]
  exact form_canonical c sayable

theorem sayable_iff (c : Command) : c.Sayable ↔ ∃ spoken, parse spoken = .ok (some c) := by
  constructor
  · exact fun sayable => ⟨c.text, parse_text c sayable⟩
  · rintro ⟨spoken, read⟩
    exact sayable_of_form _ (Text.is_word_of_mem_words spoken) c ((parse_eq_some_iff spoken c).1 read)

end Parse

end Command

end Befunge
