import Befunge.Proofs.Json.Scanner

/-!
A reader of JSON texts. It reads every text as what the text denotes.
-/
set_option autoImplicit false

namespace Befunge.Json

-- Behind an opening bracket: what `one` reads, time and again with commas between, up to the closing one.
def readSequence {α : Type} (one : Reader α) (close : Char) : Nat → Reader (List α)
  | 0, _ => none
  | limit + 1, text => do
    let (first, text) ← one text
    if text.head? = some ',' then do
      let (rest, text) ← readSequence one close limit text.tail
      some (first :: rest, text)
    else if text.head? = some close then some ([first], text.tail)
    else none

def readListing {α : Type} (one : Reader α) (close : Char) : Reader (List α) := fun text =>
  match expect close text with
  | some rest => some ([], rest)
  | none => readSequence one close text.length text

def readElement (value : Reader Value) : Reader Value := fun text =>
  (value (skip text)).map fun read => (read.1, skip read.2)

def readMember (value : Reader Value) : Reader (String × Value) := fun text => do
  let text ← expect '"' text
  let (key, text) ← readString text
  let text ← expect ':' text
  let (v, text) ← readElement value text
  some ((key, v), text)

def readWord (word : List Char) (v : Value) : Reader Value := fun text =>
  if text.take word.length = word then some (v, text.drop word.length) else none

-- A value whose brackets are nested less than `depth` deep.
def readValue : Nat → Reader Value
  | 0, _ => none
  | _ + 1, [] => none
  | depth + 1, c :: text =>
    if c = '"' then (readString text).map fun read => (.string read.1, read.2)
    else if c = '[' then
      (readListing (readElement (readValue depth)) ']' text).map fun read => (.array read.1, read.2)
    else if c = '\x7b' then
      (readListing (readMember (readValue depth)) '\x7d' text).map fun read => (.object read.1, read.2)
    else if c = 'n' then readWord ['u', 'l', 'l'] .null text
    else if c = 't' then readWord ['r', 'u', 'e'] (.bool true) text
    else if c = 'f' then readWord ['a', 'l', 's', 'e'] (.bool false) text
    else (readNumber (c :: text)).map fun read => (.number read.1, read.2)

def read? (text : String) : Option Value := do
  let (v, rest) ← readElement (readValue text.length) text.toList
  if rest = [] then some v else none

-- Behind an element there is nothing, a comma or a closing bracket.
def Follows (text : List Char) : Prop :=
  ∀ c rest, text = c :: rest → c = ',' ∨ c = ']' ∨ c = '\x7d'

theorem follows_cons (c : Char) (rest : List Char) (structural : c = ',' ∨ c = ']' ∨ c = '\x7d') :
    Follows (c :: rest) := by
  rintro _ _ ⟨⟩
  exact structural

theorem ends_of_follows (text : List Char) (follows : Follows text) : Ends text := by
  intro c rest same
  rcases follows c rest same with rfl | rfl | rfl <;> decide

theorem skip_of_follows (text : List Char) (follows : Follows text) : skip text = text := by
  cases text with
  | nil => rfl
  | cons c rest =>
      refine skip_of_cons c rest ?_
      rcases follows c rest rfl with rfl | rfl | rfl <;> decide

theorem ends_of_spaces (gap text : List Char) (spaces : IsSpaces gap) (follows : Follows text) :
    Ends (gap ++ text) := by
  cases gap with
  | nil => exact ends_of_follows text follows
  | cons c gap =>
      rintro _ _ ⟨⟩
      have space := spaces c List.mem_cons_self
      simp only [isSpace, Bool.or_eq_true, beq_iff_eq] at space
      rcases space with ((rfl | rfl) | rfl) | rfl <;> decide

theorem start_of_number (n : Number) (text : List Char) (spelled : NumberText n text) :
    ∃ c rest, text = c :: rest ∧ (c = '-' ∨ c.isDigit = true) := by
  cases spelled with
  | spelled negative whole places fraction scale power digits =>
      cases negative with
      | true => exact ⟨'-', _, rfl, .inl rfl⟩
      | false =>
          obtain ⟨d, tail, same, digit⟩ := head_of_digits whole (fraction ++ scale) digits
          exact ⟨d, tail, (List.append_assoc _ _ _).trans same, .inr digit⟩

theorem apart_of_numeric (c d : Char) (numeric : c = '-' ∨ c.isDigit = true)
    (other : d ≠ '-' ∧ d.isDigit = false) : c ≠ d := by
  rintro rfl
  rcases numeric with minus | digit
  · exact other.1 minus
  · rw [other.2] at digit
    cases digit

-- The first character to see is no closing bracket.
def Opens (c : Char) : Prop :=
  isSpace c = false ∧ c ≠ ']' ∧ c ≠ '\x7d'

theorem start_of_value (v : Value) (text : List Char) (spelled : Spells (.value v) text) :
    ∃ c rest, text = c :: rest ∧ Opens c := by
  cases spelled with
  | number n text spelled =>
      obtain ⟨c, rest, same, numeric⟩ := start_of_number n text spelled
      have visible : isSpace c = false := by
        simp only [isSpace, Bool.or_eq_false_iff, beq_eq_false_iff_ne]
        exact ⟨⟨⟨apart_of_numeric c _ numeric (by decide), apart_of_numeric c _ numeric (by decide)⟩,
          apart_of_numeric c _ numeric (by decide)⟩, apart_of_numeric c _ numeric (by decide)⟩
      exact ⟨c, rest, same, visible, apart_of_numeric c _ numeric (by decide),
        apart_of_numeric c _ numeric (by decide)⟩
  | null | true | false | string | emptyArray | array | emptyObject | object =>
      exact ⟨_, _, rfl, by decide, by decide, by decide⟩

theorem start_of_part (part : Part) (text : List Char) (spelled : Spells part text) :
    ∃ gap c rest, text = gap ++ c :: rest ∧ IsSpaces gap ∧ Opens c := by
  have none : IsSpaces [] := fun _ member => absurd member List.not_mem_nil
  induction spelled with
  | element v before text after leading spelled trailing ih =>
      obtain ⟨c, rest, rfl, opens⟩ := start_of_value v text spelled
      exact ⟨before, c, rest ++ after, List.append_assoc _ _ _, leading, opens⟩
  | lastElement v text spelled ih => exact ih
  | lastMember key v text spelled ih => exact ih
  | nextElement v rest text more spelled later ih =>
      obtain ⟨gap, c, tail, rfl, spaces, opens⟩ := ih
      exact ⟨gap, c, tail ++ ',' :: more, List.append_assoc _ _ _, spaces, opens⟩
  | nextMember key v rest text more spelled later ih =>
      obtain ⟨gap, c, tail, rfl, spaces, opens⟩ := ih
      exact ⟨gap, c, tail ++ ',' :: more, List.append_assoc _ _ _, spaces, opens⟩
  | member key v before name gap text leading =>
      refine ⟨before, '"', name ++ '"' :: (gap ++ ':' :: text), ?_, leading, by decide, by decide, by decide⟩
      simp only [List.append_assoc, List.cons_append]
  | number n text spelled =>
      obtain ⟨c, rest, same, opens⟩ := start_of_value _ text (.number n text spelled)
      exact ⟨[], c, rest, same, none, opens⟩
  | null | true | false | string | emptyArray | array | emptyObject | object =>
      exact ⟨[], _, _, rfl, none, by decide, by decide, by decide⟩

theorem length_pos_of_part (part : Part) (text : List Char) (spelled : Spells part text) : 0 < text.length := by
  obtain ⟨gap, c, rest, rfl, _⟩ := start_of_part part text spelled
  rw [List.length_append, List.length_cons]
  omega

section Sequences

variable {α : Type} (one : Reader α) (close : Char)

theorem read_sequence_last (a : α) (text rest : List Char) (limit : Nat) (other : close ≠ ',')
    (first : one (text ++ close :: rest) = some (a, close :: rest)) :
    readSequence one close (limit + 1) (text ++ close :: rest) = some ([a], rest) := by
  rw [readSequence, first]
  dsimp only [Option.bind_eq_bind, Option.bind_some]
  rw [List.head?_cons, if_neg fun comma => other (Option.some.inj comma), if_pos rfl, List.tail_cons]

theorem read_sequence_next (a : α) (later : List α) (text more rest : List Char) (limit : Nat)
    (first : one (text ++ ',' :: more) = some (a, ',' :: more))
    (next : readSequence one close limit more = some (later, rest)) :
    readSequence one close (limit + 1) (text ++ ',' :: more) = some (a :: later, rest) := by
  rw [readSequence, first]
  dsimp only [Option.bind_eq_bind, Option.bind_some]
  rw [List.head?_cons, if_pos rfl, List.tail_cons, next]
  rfl

theorem read_listing_empty (gap rest : List Char) (spaces : IsSpaces gap) (visible : isSpace close = false) :
    readListing one close (gap ++ close :: rest) = some ([], rest) := by
  rw [readListing, expect_of_spaces gap rest close close spaces visible, if_pos rfl]

theorem read_listing (items : List α) (part : Part) (text rest : List Char) (spelled : Spells part text)
    (bracket : close = ']' ∨ close = '\x7d')
    (read : ∀ limit, text.length ≤ limit →
      readSequence one close limit (text ++ close :: rest) = some (items, rest)) :
    readListing one close (text ++ close :: rest) = some (items, rest) := by
  have enough : text.length ≤ (text ++ close :: rest).length := by
    rw [List.length_append]
    omega
  have read := read _ enough
  obtain ⟨gap, c, tail, rfl, spaces, visible, square, curly⟩ := start_of_part part text spelled
  have other : c ≠ close := by
    rcases bracket with rfl | rfl
    · exact square
    · exact curly
  have absent : expect close (gap ++ c :: tail ++ close :: rest) = none := by
    rw [List.append_assoc, List.cons_append, expect_of_spaces gap _ close c spaces visible, if_neg other]
  rw [readListing, absent]
  exact read

end Sequences

-- What the reader makes of a part, if it allows for brackets nested as deeply as the part is long.
def Reads : Part → List Char → Prop
  | .value v, text => ∀ depth rest, text.length ≤ depth → Ends rest →
      readValue depth (text ++ rest) = some (v, rest)
  | .element v, text => ∀ depth rest, text.length ≤ depth → Follows rest →
      readElement (readValue depth) (text ++ rest) = some (v, rest)
  | .member key v, text => ∀ depth rest, text.length ≤ depth → Follows rest →
      readMember (readValue depth) (text ++ rest) = some ((key, v), rest)
  | .elements items, text => ∀ depth limit rest, text.length ≤ depth → text.length ≤ limit →
      readSequence (readElement (readValue depth)) ']' limit (text ++ ']' :: rest) = some (items, rest)
  | .members items, text => ∀ depth limit rest, text.length ≤ depth → text.length ≤ limit →
      readSequence (readMember (readValue depth)) '\x7d' limit (text ++ '\x7d' :: rest) = some (items, rest)

theorem read_value_succ (v : Value) (c : Char) (text rest : List Char) (depth : Nat)
    (enough : (c :: text).length ≤ depth)
    (read : ∀ depth, text.length ≤ depth → readValue (depth + 1) (c :: (text ++ rest)) = some (v, rest)) :
    readValue depth (c :: text ++ rest) = some (v, rest) := by
  cases depth with
  | zero => exact absurd enough (Nat.not_succ_le_zero _)
  | succ depth => exact read depth (Nat.le_of_succ_le_succ enough)

theorem read_value_number (n : Number) (text rest : List Char) (depth : Nat) (spelled : NumberText n text)
    (enough : text.length ≤ depth) (ends : Ends rest) :
    readValue depth (text ++ rest) = some (.number n, rest) := by
  have read := read_number n text rest spelled ends
  obtain ⟨c, tail, rfl, numeric⟩ := start_of_number n text spelled
  have apart : ∀ d, d ≠ '-' ∧ d.isDigit = false → c ≠ d := fun d => apart_of_numeric c d numeric
  refine read_value_succ _ c tail rest depth enough ?_
  intro depth _
  rw [readValue, if_neg (apart _ (by decide)), if_neg (apart _ (by decide)), if_neg (apart _ (by decide)),
    if_neg (apart _ (by decide)), if_neg (apart _ (by decide)), if_neg (apart _ (by decide)), ← List.cons_append,
    read]
  rfl

-- By induction on the text: a part that has been read is followed by what ends it.
theorem reads (part : Part) (text : List Char) (spelled : Spells part text) : Reads part text := by
  induction spelled with
  | null | true | false =>
      intro depth rest enough _
      exact read_value_succ _ _ _ rest depth enough fun _ _ => rfl
  | number n text spelled =>
      intro depth rest enough ends
      exact read_value_number n text rest depth spelled enough ends
  | string s text spelled =>
      intro depth rest enough _
      refine read_value_succ _ '"' (text ++ ['"']) rest depth enough ?_
      intro depth _
      rw [readValue, if_pos rfl, List.append_assoc, List.singleton_append, read_string s text rest spelled]
      rfl
  | emptyArray gap spaces =>
      intro depth rest enough _
      refine read_value_succ _ '[' (gap ++ [']']) rest depth enough ?_
      intro depth _
      rw [readValue, if_neg (by decide), if_pos rfl, List.append_assoc, List.singleton_append,
        read_listing_empty _ ']' gap rest spaces (by decide)]
      rfl
  | array items text spelled ih =>
      intro depth rest enough _
      refine read_value_succ _ '[' (text ++ [']']) rest depth enough ?_
      intro depth deep
      rw [List.length_append] at deep
      have read := fun limit => ih depth limit rest (Nat.le_of_add_right_le deep)
      rw [readValue, if_neg (by decide), if_pos rfl, List.append_assoc, List.singleton_append,
        read_listing _ ']' items _ text rest spelled (.inl rfl) read]
      rfl
  | emptyObject gap spaces =>
      intro depth rest enough _
      refine read_value_succ _ '\x7b' (gap ++ ['\x7d']) rest depth enough ?_
      intro depth _
      rw [readValue, if_neg (by decide), if_neg (by decide), if_pos rfl, List.append_assoc,
        List.singleton_append, read_listing_empty _ '\x7d' gap rest spaces (by decide)]
      rfl
  | object items text spelled ih =>
      intro depth rest enough _
      refine read_value_succ _ '\x7b' (text ++ ['\x7d']) rest depth enough ?_
      intro depth deep
      rw [List.length_append] at deep
      have read := fun limit => ih depth limit rest (Nat.le_of_add_right_le deep)
      rw [readValue, if_neg (by decide), if_neg (by decide), if_pos rfl, List.append_assoc,
        List.singleton_append, read_listing _ '\x7d' items _ text rest spelled (.inr rfl) read]
      rfl
  | element v before text after leading spelled trailing ih =>
      intro depth rest enough follows
      rw [List.length_append, List.length_append] at enough
      have read := ih depth (after ++ rest) (by omega) (ends_of_spaces after rest trailing follows)
      obtain ⟨c, tail, rfl, opens⟩ := start_of_value v text spelled
      have visible : skip (c :: tail ++ (after ++ rest)) = c :: tail ++ (after ++ rest) :=
        skip_of_cons c _ opens.1
      rw [readElement, List.append_assoc, List.append_assoc, skip_of_spaces before _ leading, visible, read,
        Option.map_some, skip_of_spaces after rest trailing, skip_of_follows rest follows]
  | member key v before name gap text leading named spaces spelled ih =>
      intro depth rest enough follows
      rw [List.length_append, List.length_cons] at enough
      have read := ih depth rest (by omega) follows
      have split : before ++ '"' :: name ++ '"' :: gap ++ ':' :: text ++ rest =
          before ++ '"' :: (name ++ '"' :: (gap ++ ':' :: (text ++ rest))) := by
        simp only [List.append_assoc, List.cons_append]
      rw [split, readMember, expect_of_spaces before _ '"' '"' leading (by decide), if_pos rfl]
      dsimp only [Option.bind_eq_bind, Option.bind_some]
      rw [read_string key name _ named]
      dsimp only [Option.bind_some]
      rw [expect_of_spaces gap _ ':' ':' spaces (by decide), if_pos rfl]
      dsimp only [Option.bind_some]
      rw [read]
      rfl
  | lastElement v text spelled ih =>
      intro depth limit rest deep enough
      have some := length_pos_of_part _ text spelled
      obtain ⟨limit, rfl⟩ := Nat.exists_eq_add_of_lt (Nat.lt_of_lt_of_le some enough)
      rw [Nat.zero_add]
      exact read_sequence_last _ ']' v text rest limit (by decide)
        (ih depth _ deep (follows_cons _ _ (.inr (.inl rfl))))
  | lastMember key v text spelled ih =>
      intro depth limit rest deep enough
      have some := length_pos_of_part _ text spelled
      obtain ⟨limit, rfl⟩ := Nat.exists_eq_add_of_lt (Nat.lt_of_lt_of_le some enough)
      rw [Nat.zero_add]
      exact read_sequence_last _ '\x7d' (key, v) text rest limit (by decide)
        (ih depth _ deep (follows_cons _ _ (.inr (.inr rfl))))
  | nextElement v later text more spelled _ ih next =>
      intro depth limit rest deep enough
      rw [List.length_append, List.length_cons] at deep enough
      obtain ⟨limit, rfl⟩ : ∃ fewer, limit = fewer + 1 := Nat.exists_eq_succ_of_ne_zero (by omega)
      rw [List.append_assoc, List.cons_append]
      exact read_sequence_next _ ']' v later text _ rest limit
        (ih depth _ (by omega) (follows_cons _ _ (.inl rfl))) (next depth limit rest (by omega) (by omega))
  | nextMember key v later text more spelled _ ih next =>
      intro depth limit rest deep enough
      rw [List.length_append, List.length_cons] at deep enough
      obtain ⟨limit, rfl⟩ : ∃ fewer, limit = fewer + 1 := Nat.exists_eq_succ_of_ne_zero (by omega)
      rw [List.append_assoc, List.cons_append]
      exact read_sequence_next _ '\x7d' (key, v) later text _ rest limit
        (ih depth _ (by omega) (follows_cons _ _ (.inl rfl))) (next depth limit rest (by omega) (by omega))

theorem read_of_denotes (text : String) (v : Value) (denotes : Denotes text v) : read? text = some v := by
  have all := reads _ _ denotes text.length [] (Nat.le_of_eq (String.length_toList)) (fun _ _ same => by cases same)
  rw [List.append_nil] at all
  rw [read?, all]
  rfl

example : read? " \x7b \"a\" : [ -1.5E+2 , \"\\ud83d\\ude00\" ] , \"a\" : null\x7d " =
    some (.object [("a", .array [.number ⟨-15, 1⟩, .string "😀"]), ("a", .null)]) := by
  rfl

theorem value_of_denotes (text : String) (v w : Value) (one : Denotes text v) (other : Denotes text w) : v = w :=
  Option.some.inj ((read_of_denotes text v one).symm.trans (read_of_denotes text w other))

end Befunge.Json
