import Mathlib.Data.List.Forall2
import Befunge.Proofs.Json.Reader
import Befunge.Proofs.Trace.Log
import Befunge.Trace.Tracer

/-!
Traces as JSON. Every record is one line of text without control characters, and the line is an object of which
a reader has all that the record holds; of the instruction that was executed it has the name.
-/
set_option autoImplicit false

namespace Befunge.Trace

def Event.fields : Event → List (String × Json.Value)
  | .step position cell instruction direction depth =>
      [("x", .int position.x), ("y", .int position.y), ("cell", .string (String.singleton cell)),
        ("opcode", .string instruction.name), ("direction", .string direction.name),
        ("stack_depth", .int depth)]
  | .stringPush position value => [("x", .int position.x), ("y", .int position.y), ("value", .int value.toInt)]
  | .output text => [("text", .string text)]
  | .cellWrite position cell =>
      [("x", .int position.x), ("y", .int position.y), ("cell", .string (String.singleton cell))]
  | .halt steps => [("steps", .int steps.toNat)]
  | .breakpointHit position => [("x", .int position.x), ("y", .int position.y)]
  | .fault message => [("message", .string message)]

def Record.fields (r : Record) : List (String × Json.Value) :=
  [("id", .int r.id), ("step", .int r.step.toNat), ("timestamp_ns", .int r.time.toNat),
    ("type", .string r.kind)] ++ r.event.fields

-- What a line tells of an event: everything, but of an instruction only the name.
def Event.told : Event → Event × Option String
  | .step position cell instruction direction depth =>
      (.step position cell .nop direction depth, some instruction.name)
  | event => (event, none)

-- The lines of a text that has none of them empty.
def fedLines (text : String) : List String :=
  if text = "" then [] else (text.toList.splitOn '\n').map String.ofList

def IsClean (text : List Char) : Prop :=
  ∀ c ∈ text, Text.isControl c = false

theorem is_clean_append (front back : List Char) (first : IsClean front) (second : IsClean back) :
    IsClean (front ++ back) := by
  intro c member
  rcases List.mem_append.1 member with left | right
  · exact first c left
  · exact second c right

theorem is_clean_nil : IsClean [] := by
  intro c member
  cases member

theorem is_clean_cons (c : Char) (rest : List Char) (first : Text.isControl c = false) (later : IsClean rest) :
    IsClean (c :: rest) := by
  intro d member
  rcases List.mem_cons.1 member with rfl | inside
  · exact first
  · exact later d inside

theorem is_clean_of_all (text : List Char) (all : (text.all fun c => !Text.isControl c) = true) :
    IsClean text := by
  intro c member
  simpa using List.all_eq_true.1 all c member

-- Strings.

theorem lt_of_is_control (c : Char) (control : Text.isControl c = true) : c.toNat < 160 := by
  simp only [Text.isControl, Bool.or_eq_true, Bool.and_eq_true, decide_eq_true_eq] at control
  omega

theorem control_escape (n : Nat) (small : n < 160) :
    Json.unit? ((Nat.toDigits 16 n).leftpad 4 '0') = some n ∧
      ((Nat.toDigits 16 n).leftpad 4 '0').all (fun c => !Text.isControl c) = true := by
  revert n
  decide +kernel

-- A text spelled out of characters that are no control characters.
structure SpelledCleanly (text spelling : List Char) : Prop where
  spelled : Json.CharactersText text spelling
  clean : IsClean spelling

theorem short_escape (letter c : Char) (short : (letter, c) ∈ Json.shorthands)
    (visible : Text.isControl letter = false) :
    Json.CharacterText c ['\\', letter] ∧ IsClean ['\\', letter] :=
  ⟨.short letter c short, is_clean_cons _ _ (by decide) (is_clean_cons letter [] visible is_clean_nil)⟩

theorem character_text_escaped (c : Char) :
    Json.CharacterText c (Json.escaped c) ∧ IsClean (Json.escaped c) := by
  unfold Json.escaped
  by_cases backslash : c = '\\'
  · rw [if_pos backslash, backslash]
    exact short_escape _ _ (by decide) (by decide)
  by_cases quote : c = '"'
  · rw [if_neg backslash, if_pos quote, quote]
    exact short_escape _ _ (by decide) (by decide)
  rw [if_neg backslash, if_neg quote]
  by_cases feed : c = '\n'
  · rw [if_pos feed, feed]
    exact short_escape _ _ (by decide) (by decide)
  by_cases carriage : c = '\r'
  · rw [if_neg feed, if_pos carriage, carriage]
    exact short_escape _ _ (by decide) (by decide)
  by_cases tab : c = '\t'
  · rw [if_neg feed, if_neg carriage, if_pos tab, tab]
    exact short_escape _ _ (by decide) (by decide)
  rw [if_neg feed, if_neg carriage, if_neg tab]
  by_cases control : Text.isControl c = true
  · obtain ⟨value, clean⟩ := control_escape c.toNat (lt_of_is_control c control)
    have spelled := Json.CharacterText.unit c.toNat _ value c.valid
    rw [Char.ofNat_toNat] at spelled
    rw [if_pos control]
    exact ⟨spelled, is_clean_append _ _ (is_clean_of_all _ (by decide)) (is_clean_of_all _ clean)⟩
  · have visible : Text.isControl c = false := Bool.eq_false_iff.2 control
    have printable : ' ' ≤ c := by
      simp only [Text.isControl, Bool.or_eq_true, decide_eq_true_eq, not_or] at control
      exact Nat.le_of_not_lt control.1
    rw [if_neg control]
    exact ⟨.plain c printable quote backslash, is_clean_cons c [] visible is_clean_nil⟩

theorem spelled_escape (text : List Char) : SpelledCleanly text (Json.escape text) := by
  induction text with
  | nil => exact ⟨.nil, is_clean_nil⟩
  | cons c rest ih =>
      obtain ⟨first, clean⟩ := character_text_escaped c
      rw [Json.escape, List.flatMap_cons, ← Json.escape]
      exact ⟨.cons c rest _ _ first ih.spelled, is_clean_append _ _ clean ih.clean⟩

-- What stands between quotation marks, read back.
def Json.unescape? (spelling : List Char) : Option (List Char) := do
  let (text, rest) ← Text.readToQuote Json.readCharacter (spelling.length + 1) (spelling ++ ['"'])
  if rest = [] then some text else none

theorem unescape_escape (text : List Char) : Json.unescape? (Json.escape text) = some text := by
  have spelled := (spelled_escape text).spelled
  have enough := Json.length_of_characters text _ spelled
  rw [Json.unescape?, Json.read_characters text _ [] _ spelled (Nat.lt_succ_of_le enough)]
  rfl

-- Values and members. A key is written as it is.

structure ValueCleanly (v : Json.Value) (text : List Char) : Prop where
  spelled : Json.Spells (.value v) text
  clean : IsClean text

theorem value_quoted (text : String) : ValueCleanly (.string text) (Json.quoted text).toList := by
  obtain ⟨spelled, clean⟩ := spelled_escape text.toList
  have same : (Json.quoted text).toList = '"' :: Json.escape text.toList ++ ['"'] := by
    simp only [Json.quoted, String.toList_append, String.toList_ofList]
    rfl
  have mark : IsClean ['"'] := is_clean_of_all _ (by decide)
  rw [same]
  exact ⟨.string text _ spelled, is_clean_append ('"' :: _) _ (is_clean_append ['"'] _ mark clean) mark⟩

theorem is_digits_to_digits (n : Nat) : Json.IsDigits (Nat.toDigits 10 n) :=
  ⟨Nat.toDigits_ne_nil, fun _ member => Nat.isDigit_of_mem_toDigits (by decide) (by decide) member⟩

theorem to_digits_of_leading_zero (n : Nat) (zero : (Nat.toDigits 10 n).head? = some '0') :
    Nat.toDigits 10 n = ['0'] := by
  induction n using Nat.strongRecOn with
  | ind n ih =>
      by_cases short : n < 10
      · rw [Nat.toDigits_of_lt_base short] at zero ⊢
        exact congrArg (fun d => [d]) (Option.some.inj zero)
      · -- The digits but for the last one are those of a number that is not zero.
        have more := Nat.toDigits_of_base_le (by decide) (Nat.le_of_not_lt short)
        rw [more, List.head?_append, List.head?_eq_some_head Nat.toDigits_ne_nil, Option.some_or,
          ← List.head?_eq_some_head] at zero
        have front := ih (n / 10) (by omega) zero
        have value : Nat.ofDigitChars 10 (Nat.toDigits 10 (n / 10)) 0 = n / 10 := Nat.ofDigitChars_ten_toDigits
        rw [front] at value
        have none : 0 = n / 10 := value
        omega

theorem is_clean_of_digits (text : List Char) (digits : ∀ d ∈ text, d.isDigit = true) : IsClean text := by
  intro d member
  have digit := digits d member
  rw [Char.isDigit, Bool.and_eq_true, decide_eq_true_eq, decide_eq_true_eq] at digit
  have least : 48 ≤ d.toNat := digit.1
  have most : d.toNat ≤ 57 := digit.2
  simp only [Text.isControl, Bool.or_eq_false_iff, Bool.and_eq_false_iff, decide_eq_false_iff_not]
  omega

-- A number without fraction and power.
theorem value_digits (negative : Bool) (n : Nat) :
    ValueCleanly (.int (Json.signed negative n)) ((if negative then ['-'] else []) ++ Nat.toDigits 10 n) where
  spelled := by
    have digits := is_digits_to_digits n
    have spelled := Json.NumberText.spelled negative (Nat.toDigits 10 n) [] [] [] 0 digits
      (to_digits_of_leading_zero n) .absent .absent
    have value : Text.digitsValue (Nat.toDigits 10 n ++ []) = n := by
      rw [List.append_nil]
      exact Nat.ofDigitChars_ten_toDigits
    rw [value, List.append_nil, List.append_nil] at spelled
    exact .number _ _ spelled
  clean := by
    refine is_clean_append _ _ ?_ (is_clean_of_digits _ (is_digits_to_digits n).2)
    cases negative with
    | true => exact is_clean_of_all _ (by decide)
    | false => exact is_clean_nil

theorem value_natural (n : Nat) : ValueCleanly (.int n) (toString n).toList := by
  rw [Nat.toString_eq_ofList_toDigits, String.toList_ofList]
  exact value_digits false n

theorem value_integer (i : Int) : ValueCleanly (.int i) (toString i).toList := by
  cases i with
  | ofNat n => exact value_natural n
  | negSucc n =>
      have same : toString (Int.negSucc n) = "-" ++ toString (n + 1) := rfl
      have digits : (toString (n + 1)).toList = Nat.toDigits 10 (n + 1) := by
        rw [Nat.toString_eq_ofList_toDigits, String.toList_ofList]
      rw [same, String.toList_append, digits]
      exact value_digits true (n + 1)

-- A member, spelled with its key as it is.
structure MemberCleanly (entry : String × Json.Value) (text : String) : Prop where
  spelled : Json.Spells (.member entry.1 entry.2) text.toList
  clean : IsClean text.toList

def IsPlain (key : String) : Prop :=
  Json.escape key.toList = key.toList

instance (key : String) : Decidable (IsPlain key) :=
  inferInstanceAs (Decidable (_ = _))

theorem member_cleanly (key value : String) (v : Json.Value) (plain : IsPlain key)
    (written : ValueCleanly v value.toList) : MemberCleanly (key, v) (Json.member key value) := by
  obtain ⟨named, clean⟩ := spelled_escape key.toList
  rw [plain] at named clean
  have none : Json.IsSpaces [] := fun _ member => absurd member List.not_mem_nil
  have same : (Json.member key value).toList =
      [] ++ '"' :: key.toList ++ '"' :: [] ++ ':' :: ([] ++ value.toList ++ []) := by
    have quote : "\"".toList = ['"'] := rfl
    have colon : "\":".toList = ['"', ':'] := rfl
    simp only [Json.member, String.toList_append, quote, colon, List.append_nil, List.nil_append,
      List.append_assoc, List.cons_append]
  have mark : IsClean ['"'] := is_clean_of_all _ (by decide)
  constructor
  · rw [same]
    exact .member key v [] key.toList [] _ none named none (.element v [] _ [] none written.spelled none)
  · rw [same, List.nil_append, List.nil_append, List.append_nil]
    exact is_clean_append _ _ (is_clean_append _ _ (is_clean_append ['"'] _ mark clean) mark)
      (is_clean_cons ':' _ (by decide) written.clean)

theorem members_cleanly (entries : List (String × Json.Value)) (texts : List String)
    (written : List.Forall₂ MemberCleanly entries texts) (some : entries ≠ []) :
    Json.Spells (.members entries) (",".intercalate texts).toList ∧ IsClean (",".intercalate texts).toList := by
  have comma : ",".toList = [','] := rfl
  rw [String.toList_intercalate, comma]
  induction written with
  | nil => exact absurd rfl some
  | @cons entry text entries texts first later ih =>
      cases later with
      | nil =>
          rw [List.map_cons, List.map_nil, List.intercalate_singleton]
          exact ⟨.lastMember _ _ _ first.1, first.2⟩
      | cons second rest =>
          obtain ⟨spelled, clean⟩ := ih (List.cons_ne_nil _ _)
          rw [List.map_cons, List.map_cons, List.intercalate_cons_cons, List.append_assoc, List.singleton_append]
          exact ⟨.nextMember _ _ _ _ _ first.1 spelled,
            is_clean_append _ _ first.2 (is_clean_cons ',' _ (by decide) clean)⟩

theorem value_object (entries : List (String × Json.Value)) (texts : List String)
    (written : List.Forall₂ MemberCleanly entries texts) (some : entries ≠ []) :
    ValueCleanly (.object entries) (Json.object texts).toList := by
  obtain ⟨spelled, clean⟩ := members_cleanly entries texts written some
  have same : (Json.object texts).toList = '\x7b' :: (",".intercalate texts).toList ++ ['\x7d'] := by
    simp only [Json.object, String.toList_append]
    rfl
  rw [same]
  exact ⟨.object entries _ spelled, is_clean_append ('\x7b' :: _) ['\x7d']
    (is_clean_cons '\x7b' _ (by decide) clean) (is_clean_of_all _ (by decide))⟩

-- Lines.

theorem natural_member (key : String) (n : Nat) (plain : IsPlain key) :
    MemberCleanly (key, .int n) (Json.member key (toString n)) :=
  member_cleanly key _ _ plain (value_natural n)

theorem text_member (key text : String) (plain : IsPlain key) :
    MemberCleanly (key, .string text) (Json.member key (Json.quoted text)) :=
  member_cleanly key _ _ plain (value_quoted text)

theorem event_members (event : Event) : List.Forall₂ MemberCleanly event.fields (Json.members event) := by
  have x := fun n => natural_member "x" n (by decide)
  have y := fun n => natural_member "y" n (by decide)
  have cell := fun c => text_member "cell" (String.singleton c) (by decide)
  cases event with
  | step position c instruction direction depth =>
      exact .cons (x _) (.cons (y _) (.cons (cell c) (.cons (text_member "opcode" _ (by decide))
        (.cons (text_member "direction" _ (by decide)) (.cons (natural_member "stack_depth" _ (by decide)) .nil)))))
  | stringPush position value =>
      exact .cons (x _) (.cons (y _) (.cons (member_cleanly "value" _ _ (by decide) (value_integer _)) .nil))
  | output text => exact .cons (text_member "text" text (by decide)) .nil
  | cellWrite position c => exact .cons (x _) (.cons (y _) (.cons (cell c) .nil))
  | halt steps => exact .cons (natural_member "steps" _ (by decide)) .nil
  | breakpointHit position => exact .cons (x _) (.cons (y _) .nil)
  | fault message => exact .cons (text_member "message" message (by decide)) .nil

theorem value_line (r : Record) : ValueCleanly (.object r.fields) (Json.line r).toList := by
  refine value_object _ _ ?_ (List.cons_ne_nil _ _)
  exact .cons (natural_member "id" _ (by decide)) (.cons (natural_member "step" _ (by decide))
    (.cons (natural_member "timestamp_ns" _ (by decide)) (.cons (text_member "type" _ (by decide))
      (event_members r.event))))

theorem denotes_line (r : Record) : Json.Denotes (Json.line r) (.object r.fields) := by
  have none : Json.IsSpaces [] := fun _ member => absurd member List.not_mem_nil
  have spelled := Json.Spells.element (.object r.fields) [] _ [] none (value_line r).spelled none
  rw [List.nil_append, List.append_nil] at spelled
  exact spelled

theorem keys_nodup (r : Record) : (r.fields.map Prod.fst).Nodup := by
  rw [Record.fields]
  cases r.event <;> simp [Event.fields]

@[simp] theorem value_int_inj (i j : Int) : Json.Value.int i = .int j ↔ i = j := by
  simp [Json.Value.int, Json.Number.ofInt]

@[simp] theorem singleton_inj (c d : Char) : String.singleton c = String.singleton d ↔ c = d := by
  rw [← String.toList_inj, String.toList_singleton, String.toList_singleton, List.singleton_inj]

theorem name_inj (d e : Direction) : d.name = e.name ↔ d = e := by
  cases d <;> cases e <;> decide

theorem position_eq_iff (p q : Position) : p = q ↔ p.x = q.x ∧ p.y = q.y := by
  cases p
  cases q
  exact Position.mk.injEq _ _ _ _ ▸ Iff.rfl

theorem told_of_fields (event other : Event) (same : event.fields = other.fields) : event.told = other.told := by
  cases event with
  | step position cell instruction direction depth =>
      cases other with
      | step position' cell' instruction' direction' depth' =>
          simp only [Event.fields, List.cons.injEq, Prod.mk.injEq, value_int_inj, Int.natCast_inj,
            Json.Value.string.injEq, singleton_inj, name_inj, true_and, and_true] at same
          obtain ⟨x, y, rfl, name, rfl, rfl⟩ := same
          rw [Event.told, Event.told, (position_eq_iff _ _).2 ⟨x, y⟩, name]
      | _ => simp [Event.fields] at same
  | stringPush position value =>
      cases other with
      | stringPush position' value' =>
          simpa [Event.fields, Event.told, position_eq_iff, Int.natCast_inj, Int64.toInt_inj, and_assoc] using same
      | _ => simp [Event.fields] at same
  | output text =>
      cases other with
      | output text' => simpa [Event.fields, Event.told] using same
      | _ => simp [Event.fields] at same
  | cellWrite position cell =>
      cases other with
      | cellWrite position' cell' =>
          simpa [Event.fields, Event.told, position_eq_iff, Int.natCast_inj, and_assoc] using same
      | _ => simp [Event.fields] at same
  | halt steps =>
      cases other with
      | halt steps' => simpa [Event.fields, Event.told, Int.natCast_inj, UInt64.toNat_inj] using same
      | _ => simp [Event.fields] at same
  | breakpointHit position =>
      cases other with
      | breakpointHit position' => simpa [Event.fields, Event.told, position_eq_iff, Int.natCast_inj] using same
      | _ => simp [Event.fields] at same
  | fault message =>
      cases other with
      | fault message' => simpa [Event.fields, Event.told] using same
      | _ => simp [Event.fields] at same

theorem told_of_record_fields (r q : Record) (same : r.fields = q.fields) :
    r.id = q.id ∧ r.step = q.step ∧ r.time = q.time ∧ r.event.told = q.event.told := by
  rw [Record.fields, Record.fields] at same
  obtain ⟨front, fields⟩ := List.append_inj same rfl
  simp only [List.cons.injEq, Prod.mk.injEq, value_int_inj, Int.natCast_inj, true_and] at front
  obtain ⟨id, step, time, _⟩ := front
  exact ⟨id, UInt64.toNat_inj.1 step, UInt64.toNat_inj.1 time, told_of_fields _ _ fields⟩

theorem told_of_line (r q : Record) (same : Json.line r = Json.line q) :
    r.id = q.id ∧ r.step = q.step ∧ r.time = q.time ∧ r.event.told = q.event.told := by
  have denoted := denotes_line q
  rw [← same] at denoted
  exact told_of_record_fields r q
    (Json.Value.object.inj (Json.value_of_denotes _ _ _ (denotes_line r) denoted))

theorem fed_lines_intercalate (lines : List String) (unbroken : ∀ line ∈ lines, '\n' ∉ line.toList)
    (filled : ∀ line ∈ lines, line ≠ "") : fedLines ("\n".intercalate lines) = lines := by
  cases lines with
  | nil => rfl
  | cons first rest =>
      have feed : "\n".toList = ['\n'] := rfl
      have split : ("\n".intercalate (first :: rest)).toList.splitOn '\n' =
          (first :: rest).map String.toList := by
        rw [String.toList_intercalate, feed]
        refine List.splitOn_intercalate '\n' ?_ (List.cons_ne_nil _ _)
        intro text member
        obtain ⟨line, inside, rfl⟩ := List.mem_map.1 member
        exact unbroken line inside
      have visible : "\n".intercalate (first :: rest) ≠ "" := by
        intro empty
        rw [empty] at split
        have none : "" = first := String.toList_inj.1 (List.cons.inj split).1
        exact filled first List.mem_cons_self none.symm
      rw [fedLines, if_neg visible, split, List.map_map]
      exact (List.map_congr_left fun _ _ => String.ofList_toList).trans (List.map_id _)

theorem fed_lines_of_lines (records : List Record) :
    fedLines ("\n".intercalate (records.map Json.line)) = records.map Json.line := by
  refine fed_lines_intercalate _ ?_ ?_
  · intro line member feed
    obtain ⟨r, _, rfl⟩ := List.mem_map.1 member
    have visible := (value_line r).clean '\n' feed
    cases visible
  · intro line member empty
    obtain ⟨r, _, rfl⟩ := List.mem_map.1 member
    have some := Json.length_pos_of_part _ _ (value_line r).spelled
    rw [empty] at some
    exact absurd some (by decide)

theorem json_traces_are_lossless :
    (∀ (t : Tracer) (records : List Record),
      fedLines (({ t with json := true } : Tracer).formatRecords records) = records.map Json.line) ∧
    (∀ r : Record, IsClean (Json.line r).toList ∧ Json.Denotes (Json.line r) (.object r.fields) ∧
      (∀ v, Json.Denotes (Json.line r) v → v = .object r.fields) ∧
      Json.read? (Json.line r) = some (.object r.fields) ∧ (r.fields.map Prod.fst).Nodup) ∧
    (∀ r q : Record, Json.line r = Json.line q →
      r.id = q.id ∧ r.step = q.step ∧ r.time = q.time ∧ r.event.told = q.event.told) ∧
    ∀ text : List Char, Json.CharactersText text (Json.escape text) ∧
      Json.unescape? (Json.escape text) = some text := by
  refine ⟨?_, ?_, told_of_line, ?_⟩
  · intro t records
    exact fed_lines_of_lines records
  · intro r
    have denoted := denotes_line r
    exact ⟨(value_line r).clean, denoted, fun v other => Json.value_of_denotes _ _ _ other denoted,
      Json.read_of_denotes _ _ denoted, keys_nodup r⟩
  · intro text
    exact ⟨(spelled_escape text).spelled, unescape_escape text⟩

def outcry : Record :=
  { id := 3, step := 7, time := 1500, event := .fault "\"\\n\" and\n\u0085" }

def pushing (digit : Fin 10) : Record :=
  { id := 4, step := 8, time := 1600, event := .step ⟨2, 0⟩ '1' (.digit digit) .right 1 }

theorem json_traces_are_lossless_for_quotes_and_controls :
    fedLines (({ json := true } : Tracer).formatRecords [outcry, pushing 1]) =
        [Json.line outcry, Json.line (pushing 1)] ∧
      Json.line outcry = "\x7b\"id\":3,\"step\":7,\"timestamp_ns\":1500,\"type\":\"fault\"," ++
        "\"message\":\"\\\"\\\\n\\\" and\\n\\u0085\"\x7d" ∧
      Json.read? (Json.line outcry) = some (.object [("id", .int 3), ("step", .int 7), ("timestamp_ns", .int 1500),
        ("type", .string "fault"), ("message", .string "\"\\n\" and\n\u0085")]) ∧
      Json.line (pushing 1) = Json.line (pushing 2) ∧ (pushing 1).event.told = (pushing 2).event.told := by
  obtain ⟨lines, values, told, _⟩ := json_traces_are_lossless
  obtain ⟨_, _, _, read, _⟩ := values outcry
  have same : Json.line (pushing 1) = Json.line (pushing 2) := rfl
  exact ⟨lines {} [outcry, pushing 1], by decide +kernel, read, same, (told _ _ same).2.2.2⟩

end Befunge.Trace
