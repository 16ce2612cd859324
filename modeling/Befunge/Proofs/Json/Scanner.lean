import Befunge.Cell
import Befunge.Proofs.Json.Grammar

/-!
The strings and the numbers in a JSON text, read from its start. What is spelled by the grammar is read as
what it spells, whatever stands behind it; behind a number that must be something that cannot go on with it.
-/
set_option autoImplicit false

namespace Befunge.Json

-- What was read from the start of a text, and the rest of it.
abbrev Reader (α : Type) := List Char → Option (α × List Char)

def skip (text : List Char) : List Char :=
  text.dropWhile isSpace

def expect (c : Char) (text : List Char) : Option (List Char) :=
  match skip text with
  | [] => none
  | d :: rest => if d = c then some rest else none

-- Behind a backslash and a letter u.
def readUnit : Reader Char := fun text => do
  let high ← unit? (text.take 4)
  let rest := text.drop 4
  if high.isValidChar then some (Char.ofNat high, rest)
  else if rest.take 2 = ['\\', 'u'] then do
    let low ← unit? ((rest.drop 2).take 4)
    if high < 0xDC00 ∧ 0xDC00 ≤ low ∧ low < 0xE000 then
      some (Char.ofNat (paired high low), (rest.drop 2).drop 4)
    else none
  else none

def readEscape : Reader Char
  | [] => none
  | letter :: rest =>
    if letter = 'u' then readUnit rest else (shorthands.lookup letter).map fun c => (c, rest)

def readCharacter : Reader Char
  | [] => none
  | c :: rest =>
    if c = '\\' then readEscape rest else if c = '"' ∨ c < ' ' then none else some (c, rest)

def readString : Reader String := fun text =>
  (Text.readToQuote readCharacter text.length text).map fun read => (String.ofList read.1, read.2)

def readDigits : Reader (List Char) := fun text =>
  if text.takeWhile Char.isDigit = [] then none
  else some (text.takeWhile Char.isDigit, text.dropWhile Char.isDigit)

def readFraction : Reader (List Char) := fun text =>
  if text.head? = some '.' then readDigits text.tail else some ([], text)

def readSign : List Char → Bool × List Char
  | [] => (false, [])
  | c :: rest => if c = '-' then (true, rest) else if c = '+' then (false, rest) else (false, c :: rest)

def readPower : Reader Int := fun text =>
  if text.head? = some 'e' ∨ text.head? = some 'E' then do
    let (negative, text) := readSign text.tail
    let (run, text) ← readDigits text
    some (signed negative (Text.digitsValue run), text)
  else some (0, text)

def readNumber : Reader Number := fun text => do
  let negative := text.head? == some '-'
  let (whole, text) ← readDigits (if negative then text.tail else text)
  if whole.head? = some '0' ∧ whole ≠ ['0'] then none
  else do
    let (places, text) ← readFraction text
    let (power, text) ← readPower text
    some
      ({ mantissa := signed negative (Text.digitsValue (whole ++ places))
         exponent := power - places.length }, text)

theorem skip_of_spaces (gap text : List Char) (spaces : IsSpaces gap) : skip (gap ++ text) = skip text := by
  rw [skip, List.dropWhile_append_of_pos spaces, skip]

theorem skip_of_cons (c : Char) (text : List Char) (visible : isSpace c = false) :
    skip (c :: text) = c :: text := by
  rw [skip, List.dropWhile_cons_of_neg (by simp [visible])]

theorem expect_of_spaces (gap text : List Char) (c d : Char) (spaces : IsSpaces gap) (visible : isSpace d = false) :
    expect c (gap ++ d :: text) = if d = c then some text else none := by
  rw [expect, skip_of_spaces gap _ spaces, skip_of_cons d text visible]

theorem lookup_shorthands (letter c : Char) (short : (letter, c) ∈ shorthands) :
    letter ≠ 'u' ∧ shorthands.lookup letter = some c := by
  simp only [shorthands, List.mem_cons, Prod.mk.injEq, List.not_mem_nil, or_false] at short
  rcases short with ⟨rfl, rfl⟩ | ⟨rfl, rfl⟩ | ⟨rfl, rfl⟩ | ⟨rfl, rfl⟩ | ⟨rfl, rfl⟩ | ⟨rfl, rfl⟩ | ⟨rfl, rfl⟩ |
    ⟨rfl, rfl⟩ <;> decide

theorem length_of_unit (digits : List Char) (n : Nat) (value : unit? digits = some n) : digits.length = 4 := by
  rw [unit?] at value
  split at value
  · assumption
  · cases value

theorem read_character (c : Char) (piece rest : List Char) (spelled : CharacterText c piece) :
    readCharacter (piece ++ rest) = some (c, rest) := by
  cases spelled with
  | plain c printable unquoted unescaped =>
      rw [List.singleton_append, readCharacter, if_neg unescaped,
        if_neg (not_or.2 ⟨unquoted, Char.not_lt.2 printable⟩)]
  | short letter c short =>
      obtain ⟨other, found⟩ := lookup_shorthands letter c short
      rw [List.cons_append, readCharacter, if_pos rfl, List.singleton_append, readEscape, if_neg other, found]
      rfl
  | unit n digits value scalar =>
      have four := length_of_unit digits n value
      rw [List.cons_append, readCharacter, if_pos rfl, List.cons_append, readEscape, if_pos rfl, readUnit,
        List.take_left' four, List.drop_left' four, value]
      exact if_pos scalar
  | pair high low first second high_eq low_eq leading trailing =>
      have four := length_of_unit first high high_eq
      have four' := length_of_unit second low low_eq
      have lone : ¬ high.isValidChar := by
        rw [Nat.isValidChar]
        omega
      rw [List.append_assoc, List.cons_append, readCharacter, if_pos rfl, List.cons_append, readEscape,
        if_pos rfl, readUnit, List.take_left' four, List.drop_left' four, high_eq]
      dsimp only [Option.bind_eq_bind, Option.bind_some]
      rw [if_neg lone]
      change (if ['\\', 'u'] = ['\\', 'u'] then
        (unit? ((second ++ rest).take 4)).bind fun low =>
          if high < 0xDC00 ∧ 0xDC00 ≤ low ∧ low < 0xE000 then
            some (Char.ofNat (paired high low), (second ++ rest).drop 4)
          else none
        else none) = _
      rw [if_pos rfl, List.take_left' four', List.drop_left' four', low_eq]
      exact if_pos ⟨leading.2, trailing⟩

theorem start_of_character (c : Char) (piece : List Char) (spelled : CharacterText c piece) :
    ∃ first rest, piece = first :: rest ∧ first ≠ '"' := by
  cases spelled with
  | plain c printable unquoted unescaped => exact ⟨c, [], rfl, unquoted⟩
  | short letter c short => exact ⟨'\\', [letter], rfl, by decide⟩
  | unit n digits value scalar => exact ⟨'\\', _, rfl, by decide⟩
  | pair high low first second => exact ⟨'\\', _, rfl, by decide⟩

theorem length_of_characters (cs text : List Char) (spelled : CharactersText cs text) :
    cs.length ≤ text.length :=
  Text.length_of_spelled CharacterText start_of_character cs text spelled

theorem read_characters (cs text rest : List Char) (limit : Nat) (spelled : CharactersText cs text)
    (enough : cs.length < limit) : Text.readToQuote readCharacter limit (text ++ '"' :: rest) = some (cs, rest) :=
  Text.read_to_quote CharacterText start_of_character readCharacter read_character cs text rest limit spelled enough

theorem read_string (s : String) (text rest : List Char) (spelled : CharactersText s.toList text) :
    readString (text ++ '"' :: rest) = some (s, rest) := by
  have enough := length_of_characters s.toList text spelled
  rw [readString, read_characters s.toList text rest _ spelled (by rw [List.length_append, List.length_cons]; omega),
    Option.map_some, String.ofList_toList]

-- No number goes on with this.
def Ends (text : List Char) : Prop :=
  ∀ c rest, text = c :: rest → c.isDigit = false ∧ c ≠ '.' ∧ c ≠ 'e' ∧ c ≠ 'E'

def EndsDigits (text : List Char) : Prop :=
  ∀ c rest, text = c :: rest → c.isDigit = false

theorem read_digits (run rest : List Char) (digits : IsDigits run) (ends : EndsDigits rest) :
    readDigits (run ++ rest) = some (run, rest) := by
  obtain ⟨nonempty, ascii⟩ := digits
  have taken : (run ++ rest).takeWhile Char.isDigit = run := by
    cases rest with
    | nil => rw [List.takeWhile_append_of_pos ascii, List.takeWhile_nil, List.append_nil]
    | cons c rest =>
        rw [List.takeWhile_append_of_pos ascii, List.takeWhile_cons_of_neg (by simp [ends c rest rfl]),
          List.append_nil]
  have left : (run ++ rest).dropWhile Char.isDigit = rest := by
    cases rest with
    | nil => rw [List.dropWhile_append_of_pos ascii, List.dropWhile_nil]
    | cons c rest =>
        rw [List.dropWhile_append_of_pos ascii, List.dropWhile_cons_of_neg (by simp [ends c rest rfl])]
  rw [readDigits, taken, left, if_neg nonempty]

theorem ends_digits_cons (c : Char) (rest : List Char) (other : c.isDigit = false) : EndsDigits (c :: rest) := by
  rintro _ _ ⟨⟩
  exact other

theorem ends_digits_of_ends (text : List Char) (ends : Ends text) : EndsDigits text :=
  fun c rest same => (ends c rest same).1

theorem read_sign (negative : Bool) (sign run rest : List Char) (sign_text : SignText negative sign)
    (digits : IsDigits run) : readSign (sign ++ (run ++ rest)) = (negative, run ++ rest) := by
  cases sign_text with
  | plus => rfl
  | minus => rfl
  | absent =>
      obtain ⟨nonempty, ascii⟩ := digits
      cases run with
      | nil => exact absurd rfl nonempty
      | cons d run =>
          have digit := ascii d List.mem_cons_self
          have minus : d ≠ '-' := by
            rintro rfl
            cases digit
          have plus : d ≠ '+' := by
            rintro rfl
            cases digit
          rw [List.nil_append, List.cons_append, readSign, if_neg minus, if_neg plus]

theorem read_power (power : Int) (scale rest : List Char) (power_text : PowerText power scale)
    (ends : Ends rest) : readPower (scale ++ rest) = some (power, rest) := by
  cases power_text with
  | absent =>
      have unmarked : ¬ (rest.head? = some 'e' ∨ rest.head? = some 'E') := by
        rintro (marked | marked)
        · obtain ⟨tail, rfl⟩ := List.head?_eq_some_iff.1 marked
          exact (ends _ _ rfl).2.2.1 rfl
        · obtain ⟨tail, rfl⟩ := List.head?_eq_some_iff.1 marked
          exact (ends _ _ rfl).2.2.2 rfl
      rw [List.nil_append, readPower, if_neg unmarked]
  | present mark negative sign run marked sign_text digits =>
      have starts : (mark :: sign ++ run ++ rest).head? = some 'e' ∨
          (mark :: sign ++ run ++ rest).head? = some 'E' :=
        marked.imp (congrArg some) (congrArg some)
      rw [readPower, if_pos starts, List.cons_append, List.cons_append, List.tail_cons, List.append_assoc,
        read_sign negative sign run rest sign_text digits]
      dsimp only
      rw [read_digits run rest digits (ends_digits_of_ends rest ends)]
      rfl

theorem power_start (power : Int) (scale rest : List Char) (power_text : PowerText power scale) (ends : Ends rest)
    (c : Char) (tail : List Char) (same : scale ++ rest = c :: tail) : c.isDigit = false ∧ c ≠ '.' := by
  cases power_text with
  | absent => exact ⟨(ends c tail same).1, (ends c tail same).2.1⟩
  | present mark negative sign run marked =>
      cases same
      rcases marked with rfl | rfl <;> decide

theorem read_fraction (places fraction text : List Char) (fraction_text : FractionText places fraction)
    (ends : ∀ c tail, text = c :: tail → c.isDigit = false ∧ c ≠ '.') :
    readFraction (fraction ++ text) = some (places, text) := by
  cases fraction_text with
  | absent =>
      have unmarked : text.head? ≠ some '.' := by
        intro marked
        obtain ⟨tail, rfl⟩ := List.head?_eq_some_iff.1 marked
        exact (ends _ _ rfl).2 rfl
      rw [List.nil_append, readFraction, if_neg unmarked]
  | present places digits =>
      rw [List.cons_append, readFraction, List.head?_cons, if_pos rfl, List.tail_cons,
        read_digits places text digits fun c tail same => (ends c tail same).1]

theorem head_of_digits (run rest : List Char) (digits : IsDigits run) :
    ∃ d tail, run ++ rest = d :: tail ∧ d.isDigit = true := by
  obtain ⟨nonempty, ascii⟩ := digits
  cases run with
  | nil => exact absurd rfl nonempty
  | cons d run => exact ⟨d, run ++ rest, rfl, ascii d List.mem_cons_self⟩

theorem read_number (n : Number) (text rest : List Char) (spelled : NumberText n text) (ends : Ends rest) :
    readNumber (text ++ rest) = some (n, rest) := by
  cases spelled with
  | spelled negative whole places fraction scale power digits compact fraction_text power_text =>
      have scaled := power_start power scale rest power_text ends
      have stops : EndsDigits (fraction ++ (scale ++ rest)) := by
        cases fraction_text with
        | absent => exact fun c tail same => (scaled c tail same).1
        | present => exact ends_digits_cons '.' _ (by decide)
      have minus : (((if negative then ['-'] else []) ++ (whole ++ (fraction ++ (scale ++ rest)))).head? ==
          some '-') = negative := by
        cases negative with
        | true => rfl
        | false =>
            obtain ⟨d, tail, same, digit⟩ := head_of_digits whole (fraction ++ (scale ++ rest)) digits
            rw [if_neg Bool.false_ne_true, List.nil_append, same, List.head?_cons]
            refine beq_eq_false_iff_ne.2 ?_
            rintro ⟨⟩
            cases digit
      have unsigned : (if negative then
          ((if negative then ['-'] else []) ++ (whole ++ (fraction ++ (scale ++ rest)))).tail
          else (if negative then ['-'] else []) ++ (whole ++ (fraction ++ (scale ++ rest)))) =
            whole ++ (fraction ++ (scale ++ rest)) := by
        cases negative <;> rfl
      rw [List.append_assoc, List.append_assoc, List.append_assoc, readNumber]
      dsimp only
      rw [minus, unsigned, read_digits whole _ digits stops]
      dsimp only [Option.bind_eq_bind, Option.bind_some]
      rw [if_neg fun zero => zero.2 (compact zero.1), read_fraction places fraction _ fraction_text scaled]
      dsimp only [Option.bind_some]
      rw [read_power power scale rest power_text ends]
      rfl

end Befunge.Json
