import Befunge.Text.Quoted

/-!
Quoted texts read back. Whatever the way is in which single characters are spelled, a text is had back from its
spelling up to the quotation mark if each character is, and if none is spelled with a quotation mark in front.
-/
set_option autoImplicit false

namespace Befunge.Text

-- A text spelled character by character.
inductive Spelled (Spells : Char → List Char → Prop) : List Char → List Char → Prop where
  | nil : Spelled Spells [] []
  | cons (c : Char) (rest piece text : List Char) (first : Spells c piece) (later : Spelled Spells rest text) :
      Spelled Spells (c :: rest) (piece ++ text)

-- What `one` reads, time and again up to a quotation mark, but less than `limit` times.
def readToQuote (one : List Char → Option (Char × List Char)) : Nat → List Char → Option (List Char × List Char)
  | 0, _ => none
  | limit + 1, text =>
    if text.head? = some '"' then some ([], text.tail)
    else do
      let (c, text) ← one text
      let (rest, text) ← readToQuote one limit text
      some (c :: rest, text)

section Reading

variable (Spells : Char → List Char → Prop)
  (starts : ∀ c piece, Spells c piece → ∃ first rest, piece = first :: rest ∧ first ≠ '"')

include starts

theorem length_of_spelled (cs text : List Char) (spelled : Spelled Spells cs text) :
    cs.length ≤ text.length := by
  induction spelled with
  | nil => exact Nat.le_refl 0
  | cons c rest piece text first later ih =>
      obtain ⟨_, _, rfl, _⟩ := starts c piece first
      rw [List.length_cons, List.length_append, List.length_cons]
      omega

theorem read_to_quote (one : List Char → Option (Char × List Char))
    (reads : ∀ c piece rest, Spells c piece → one (piece ++ rest) = some (c, rest)) (cs text rest : List Char)
    (limit : Nat) (spelled : Spelled Spells cs text) (enough : cs.length < limit) :
    readToQuote one limit (text ++ '"' :: rest) = some (cs, rest) := by
  induction spelled generalizing limit with
  | nil =>
      obtain ⟨limit, rfl⟩ := Nat.exists_eq_add_of_lt enough
      rfl
  | cons c later piece text first _ ih =>
      obtain ⟨head, tail, piece_eq, unquoted⟩ := starts c piece first
      cases limit with
      | zero => exact absurd enough (Nat.not_lt_zero _)
      | succ limit =>
          have ahead : (piece ++ (text ++ '"' :: rest)).head? ≠ some '"' := by
            rw [piece_eq]
            exact fun same => unquoted (Option.some.inj same)
          rw [List.append_assoc, readToQuote, if_neg ahead, reads c piece _ first]
          dsimp only [Option.bind_eq_bind, Option.bind_some]
          rw [ih limit (Nat.lt_of_succ_lt_succ enough)]
          rfl

end Reading

def hexDigits : List Char := "0123456789abcdef".toList

def hexDigitsValue (digits : List Char) : Nat :=
  digits.foldl (fun n d => 16 * n + hexDigits.idxOf d) 0

-- Behind a backslash and a letter u: a code point in braces.
def readCodePoint (text : List Char) : Char × List Char :=
  (Char.ofNat (hexDigitsValue (text.tail.takeWhile (· != '\x7d'))), (text.tail.dropWhile (· != '\x7d')).tail)

def readEscaped : List Char → Option (Char × List Char)
  | [] => none
  | c :: rest =>
    if c ≠ '\\' then some (c, rest)
    else match rest.head? with
      | none => none
      | some letter =>
        if letter = '0' then some ('\x00', rest.tail)
        else if letter = 't' then some ('\t', rest.tail)
        else if letter = 'r' then some ('\r', rest.tail)
        else if letter = 'n' then some ('\n', rest.tail)
        else if letter = 'u' then some (readCodePoint rest.tail)
        else some (letter, rest.tail)

-- The text that is quoted at the start of another one.
def unquoted? (text : List Char) : Option String :=
  if text.head? = some '"' then (readToQuote readEscaped text.length text.tail).map fun read => String.ofList read.1
  else none

theorem hex_digits_of_to_digits (n : Nat) :
    hexDigitsValue (Nat.toDigits 16 n) = n ∧ ∀ d ∈ Nat.toDigits 16 n, d ∈ hexDigits := by
  have digit : ∀ d < 16, hexDigits.idxOf d.digitChar = d ∧ d.digitChar ∈ hexDigits := by decide
  induction n using Nat.strongRecOn with
  | ind n ih =>
      by_cases small : n < 16
      · obtain ⟨value, known⟩ := digit n small
        rw [Nat.toDigits_of_lt_base small, hexDigitsValue, List.foldl_cons, List.foldl_nil, value]
        exact ⟨by omega, fun d member => (List.mem_singleton.1 member) ▸ known⟩
      · have less : n / 16 < n := by omega
        obtain ⟨front, known⟩ := ih (n / 16) less
        obtain ⟨value, last⟩ := digit (n % 16) (Nat.mod_lt n (by decide))
        rw [hexDigitsValue] at front
        rw [Nat.toDigits_of_base_le (by decide) (Nat.le_of_not_lt small), hexDigitsValue, List.foldl_append, front,
          List.foldl_cons, List.foldl_nil, value]
        refine ⟨by omega, ?_⟩
        intro d member
        rcases List.mem_append.1 member with before | same
        · exact known d before
        · exact (List.mem_singleton.1 same) ▸ last

theorem to_list_code_point_escape (c : Char) :
    (codePointEscape c).toList = '\\' :: 'u' :: '\x7b' :: (Nat.toDigits 16 c.toNat ++ ['\x7d']) := by
  simp only [codePointEscape, String.toList_append, String.toList_ofList, List.append_assoc]
  rfl

theorem read_code_point (c : Char) (rest : List Char) :
    readCodePoint ('\x7b' :: (Nat.toDigits 16 c.toNat ++ '\x7d' :: rest)) = (c, rest) := by
  obtain ⟨value, known⟩ := hex_digits_of_to_digits c.toNat
  have inside : ∀ d ∈ Nat.toDigits 16 c.toNat, (d != '\x7d') = true := by
    intro d member
    refine bne_iff_ne.2 ?_
    rintro rfl
    exact absurd (known _ member) (by decide)
  rw [readCodePoint, List.tail_cons, List.takeWhile_append_of_pos inside, List.dropWhile_append_of_pos inside,
    List.takeWhile_cons_of_neg (by decide), List.dropWhile_cons_of_neg (by decide), List.append_nil, value,
    Char.ofNat_toNat, List.tail_cons]

theorem read_escaped (c : Char) (rest : List Char) :
    readEscaped ((escaped '"' c).toList ++ rest) = some (c, rest) := by
  unfold escaped
  by_cases nul : c = '\x00'
  · rw [if_pos nul, nul]
    rfl
  by_cases tab : c = '\t'
  · rw [if_neg nul, if_pos tab, tab]
    rfl
  by_cases carriage : c = '\r'
  · rw [if_neg nul, if_neg tab, if_pos carriage, carriage]
    rfl
  by_cases feed : c = '\n'
  · rw [if_neg nul, if_neg tab, if_neg carriage, if_pos feed, feed]
    rfl
  rw [if_neg nul, if_neg tab, if_neg carriage, if_neg feed]
  by_cases marked : (c = '\\' || c = '"') = true
  · rw [if_pos marked, String.toList_ofList]
    rcases Bool.or_eq_true_iff.1 marked with backslash | quote
    · cases of_decide_eq_true backslash
      rfl
    · cases of_decide_eq_true quote
      rfl
  rw [if_neg marked]
  by_cases unseen : isUnseen c = true
  · rw [if_pos unseen, to_list_code_point_escape, List.cons_append, List.cons_append, List.cons_append,
      List.append_assoc, List.singleton_append]
    exact congrArg some (read_code_point c rest)
  · have plain : c ≠ '\\' := by
      rintro rfl
      exact marked rfl
    rw [if_neg unseen, String.toList_singleton, List.singleton_append, readEscaped, if_pos plain]

-- A quotation mark in front would be read as itself, and it is not spelled so.
theorem start_of_escaped (c : Char) :
    ∃ first rest, (escaped '"' c).toList = first :: rest ∧ first ≠ '"' := by
  have read := read_escaped c []
  cases spelling : (escaped '"' c).toList with
  | nil =>
      rw [spelling] at read
      cases read
  | cons first rest =>
      refine ⟨first, rest, rfl, ?_⟩
      rintro rfl
      rw [spelling, List.cons_append, readEscaped, if_pos (by decide)] at read
      obtain ⟨rfl, _⟩ := Prod.mk.inj (Option.some.inj read)
      have marked : (escaped '"' '"').toList = ['\\', '"'] := by decide
      rw [marked] at spelling
      cases spelling

theorem to_list_quoted (text : String) :
    (quoted text).toList = '"' :: (text.toList.flatMap fun c => (escaped '"' c).toList) ++ ['"'] := by
  have mark : "\"".toList = ['"'] := rfl
  have joined : (String.join (text.toList.map (escaped '"'))).toList =
      text.toList.flatMap fun c => (escaped '"' c).toList := by
    rw [String.toList_join, List.flatMap_map]
  rw [quoted, String.toList_append, String.toList_append, joined, mark]
  rfl

theorem spelled_escaped (text : List Char) :
    Spelled (fun c piece => piece = (escaped '"' c).toList) text
      (text.flatMap fun c => (escaped '"' c).toList) := by
  induction text with
  | nil => exact .nil
  | cons c rest ih => exact .cons c rest _ _ rfl ih

theorem unquoted_quoted (text : String) (rest : List Char) :
    unquoted? ((quoted text).toList ++ rest) = some text := by
  have starts : ∀ c piece, piece = (escaped '"' c).toList → ∃ first rest, piece = first :: rest ∧ first ≠ '"' := by
    rintro c _ rfl
    exact start_of_escaped c
  have reads : ∀ c piece rest, piece = (escaped '"' c).toList → readEscaped (piece ++ rest) = some (c, rest) := by
    rintro c _ rest rfl
    exact read_escaped c rest
  have spelled := spelled_escaped text.toList
  have enough := length_of_spelled _ starts _ _ spelled
  rw [to_list_quoted, List.append_assoc, List.singleton_append, List.cons_append, unquoted?, List.head?_cons,
    if_pos rfl, List.tail_cons, read_to_quote _ starts readEscaped reads _ _ rest _ spelled (by
      rw [List.length_cons, List.length_append]
      omega), Option.map_some, String.ofList_toList]

end Befunge.Text
