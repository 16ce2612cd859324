import Befunge.Proofs.Text.Quoted
import Befunge.Text.Number

/-!
JSON texts and what they denote. A text denotes at most one value; a reader for all of them shows that.
-/
set_option autoImplicit false

namespace Befunge.Json

-- The mantissa times a power of ten.
structure Number where
  mantissa : Int
  exponent : Int
deriving DecidableEq, Repr

def Number.ofInt (i : Int) : Number :=
  { mantissa := i, exponent := 0 }

inductive Value where
  | null
  | bool (b : Bool)
  | number (n : Number)
  | string (text : String)
  | array (items : List Value)
  -- The members in the order of the text.
  | object (members : List (String × Value))

def Value.int (i : Int) : Value :=
  .number (.ofInt i)

def isSpace (c : Char) : Bool :=
  c == ' ' || c == '\t' || c == '\n' || c == '\r'

def IsSpaces (text : List Char) : Prop :=
  ∀ c ∈ text, isSpace c = true

def hexValue? (c : Char) : Option Nat :=
  if '0' ≤ c ∧ c ≤ '9' then some (c.toNat - '0'.toNat)
  else if 'a' ≤ c ∧ c ≤ 'f' then some (c.toNat - 'a'.toNat + 10)
  else if 'A' ≤ c ∧ c ≤ 'F' then some (c.toNat - 'A'.toNat + 10)
  else none

-- The value of four hexadecimal digits.
def unit? (digits : List Char) : Option Nat :=
  if digits.length = 4 then (digits.mapM hexValue?).map (·.foldl (16 * · + ·) 0) else none

-- The letters that stand for a character behind a backslash.
def shorthands : List (Char × Char) :=
  [('"', '"'), ('\\', '\\'), ('/', '/'), ('b', '\x08'), ('f', '\x0c'), ('n', '\n'), ('r', '\r'), ('t', '\t')]

-- The code point of two surrogates.
def paired (high low : Nat) : Nat :=
  0x10000 + 0x400 * (high - 0xD800) + (low - 0xDC00)

-- A surrogate without its partner denotes no character.
inductive CharacterText : Char → List Char → Prop where
  | plain (c : Char) (printable : ' ' ≤ c) (unquoted : c ≠ '"') (unescaped : c ≠ '\\') : CharacterText c [c]
  | short (letter c : Char) (short : (letter, c) ∈ shorthands) : CharacterText c ['\\', letter]
  | unit (n : Nat) (digits : List Char) (value : unit? digits = some n) (scalar : n.isValidChar) :
      CharacterText (Char.ofNat n) ('\\' :: 'u' :: digits)
  | pair (high low : Nat) (first second : List Char) (high_eq : unit? first = some high)
      (low_eq : unit? second = some low) (leading : 0xD800 ≤ high ∧ high < 0xDC00)
      (trailing : 0xDC00 ≤ low ∧ low < 0xE000) :
      CharacterText (Char.ofNat (paired high low)) ('\\' :: 'u' :: first ++ '\\' :: 'u' :: second)

-- What stands between the quotation marks.
def CharactersText : List Char → List Char → Prop :=
  Text.Spelled CharacterText

def IsDigits (text : List Char) : Prop :=
  text ≠ [] ∧ ∀ d ∈ text, d.isDigit = true

def signed (negative : Bool) (n : Nat) : Int :=
  if negative then -(n : Int) else n

inductive FractionText : List Char → List Char → Prop where
  | absent : FractionText [] []
  | present (places : List Char) (digits : IsDigits places) : FractionText places ('.' :: places)

-- The sign of a power of ten. A plus sign may be left out.
inductive SignText : Bool → List Char → Prop where
  | absent : SignText false []
  | plus : SignText false ['+']
  | minus : SignText true ['-']

inductive PowerText : Int → List Char → Prop where
  | absent : PowerText 0 []
  | present (mark : Char) (negative : Bool) (sign run : List Char) (marked : mark = 'e' ∨ mark = 'E')
      (sign_text : SignText negative sign) (digits : IsDigits run) :
      PowerText (signed negative (Text.digitsValue run)) (mark :: sign ++ run)

inductive NumberText : Number → List Char → Prop where
  | spelled (negative : Bool) (whole places fraction scale : List Char) (power : Int) (digits : IsDigits whole)
      (compact : whole.head? = some '0' → whole = ['0']) (fraction_text : FractionText places fraction)
      (power_text : PowerText power scale) :
      NumberText
        { mantissa := signed negative (Text.digitsValue (whole ++ places)), exponent := power - places.length }
        ((if negative then ['-'] else []) ++ whole ++ fraction ++ scale)

-- The parts that a text is made of. An element is a value with the spaces around it.
inductive Part where
  | value (v : Value)
  | element (v : Value)
  | elements (items : List Value)
  | member (key : String) (v : Value)
  | members (items : List (String × Value))

inductive Spells : Part → List Char → Prop where
  | null : Spells (.value .null) ['n', 'u', 'l', 'l']
  | true : Spells (.value (.bool Bool.true)) ['t', 'r', 'u', 'e']
  | false : Spells (.value (.bool Bool.false)) ['f', 'a', 'l', 's', 'e']
  | number (n : Number) (text : List Char) (spelled : NumberText n text) : Spells (.value (.number n)) text
  | string (s : String) (text : List Char) (spelled : CharactersText s.toList text) :
      Spells (.value (.string s)) ('"' :: text ++ ['"'])
  | emptyArray (gap : List Char) (spaces : IsSpaces gap) : Spells (.value (.array [])) ('[' :: gap ++ [']'])
  | array (items : List Value) (text : List Char) (spelled : Spells (.elements items) text) :
      Spells (.value (.array items)) ('[' :: text ++ [']'])
  | emptyObject (gap : List Char) (spaces : IsSpaces gap) :
      Spells (.value (.object [])) ('\x7b' :: gap ++ ['\x7d'])
  | object (items : List (String × Value)) (text : List Char) (spelled : Spells (.members items) text) :
      Spells (.value (.object items)) ('\x7b' :: text ++ ['\x7d'])
  | element (v : Value) (before text after : List Char) (leading : IsSpaces before)
      (spelled : Spells (.value v) text) (trailing : IsSpaces after) :
      Spells (.element v) (before ++ text ++ after)
  | lastElement (v : Value) (text : List Char) (spelled : Spells (.element v) text) : Spells (.elements [v]) text
  | nextElement (v : Value) (rest : List Value) (text more : List Char) (spelled : Spells (.element v) text)
      (later : Spells (.elements rest) more) : Spells (.elements (v :: rest)) (text ++ ',' :: more)
  | member (key : String) (v : Value) (before name gap text : List Char) (leading : IsSpaces before)
      (named : CharactersText key.toList name) (spaces : IsSpaces gap) (spelled : Spells (.element v) text) :
      Spells (.member key v) (before ++ '"' :: name ++ '"' :: gap ++ ':' :: text)
  | lastMember (key : String) (v : Value) (text : List Char) (spelled : Spells (.member key v) text) :
      Spells (.members [(key, v)]) text
  | nextMember (key : String) (v : Value) (rest : List (String × Value)) (text more : List Char)
      (spelled : Spells (.member key v) text) (later : Spells (.members rest) more) :
      Spells (.members ((key, v) :: rest)) (text ++ ',' :: more)

def Denotes (text : String) (v : Value) : Prop :=
  Spells (.element v) text.toList

end Befunge.Json
