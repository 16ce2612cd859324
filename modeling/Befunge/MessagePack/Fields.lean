import Befunge.MessagePack.Decode

/-!
Records, texts and numbers as items.

A record is written as a map from the names of its fields, in their order. It is read from such a
map in any order, in which unknown keys stand for nothing and the number of a field stands for its
name, and also from a sequence of its fields.
-/
set_option autoImplicit false

namespace Befunge.MessagePack

namespace Item

def ofText (text : String) : Item :=
  .str (Source.encode text)

-- An unsigned form for a number that has one.
def ofInt (i : Int) : Item :=
  if 0 ≤ i then .uint i.toNat else .sint i

def ofNat (n : Nat) : Item :=
  .uint n

def ofRecord (fields : List (String × Item)) : Item :=
  .map (fields.map fun (name, item) => (ofText name, item))

def int? : Item → Option Int
  | .uint n => some n
  | .sint i => some i
  | _ => none

-- A number from zero up to, and without, `bound`.
def natBelow? (bound : Nat) (item : Item) : Option Nat :=
  match item.int? with
  | some i => if 0 ≤ i ∧ i < bound then some i.toNat else none
  | none => none

def bool? : Item → Option Bool
  | .bool b => some b
  | _ => none

def bytes? : Item → Option Bytes
  | .str bytes => some bytes
  | .bin bytes => some bytes
  | .longBin bytes => some bytes
  | _ => none

def text? (item : Item) : Option String :=
  item.bytes?.bind Source.utf8?

def char? : Item → Option Char
  | .str bytes =>
      match (Source.utf8? bytes).map String.toList with
      | some [c] => some c
      | _ => none
  | _ => none

def items? : Item → Option (List Item)
  | .array items => some items
  | .bin bytes | .longBin bytes => some (bytes.map fun b => .uint b.toNat)
  | _ => none

-- The items of a sequence that has to have `count` of them. A byte string may go on behind them.
def itemsOf? (count : Nat) : Item → Option (List Item)
  | .array items => if items.length = count then some items else none
  | .bin bytes | .longBin bytes =>
      (split? count bytes).map fun (taken, _) => taken.map fun b => .uint b.toNat
  | _ => none

def list? {α : Type} (read : Item → Option α) (item : Item) : Option (List α) :=
  item.items?.bind fun items => items.mapM read

end Item

inductive Key where
  | field (number : Nat)
  -- A key that no field has.
  | unknown
deriving DecidableEq, Repr

-- The field that a key stands for: by name, or by a number in an unsigned form. Items of other
-- kinds are no keys.
def key? (names : List String) : Item → Option Key
  | .str bytes | .bin bytes | .longBin bytes =>
      match names.findIdx? (Source.encode · == bytes) with
      | some i => some (.field i)
      | none => some .unknown
  | .uint n => some (if n < names.length then .field n else .unknown)
  | _ => none

-- The fields found in the entries of a map, added to those found before. No field may be there
-- twice.
def collect (names : List String) : List (Option Item) → List (Item × Item) → Option (List (Option Item))
  | found, [] => some found
  | found, (key, value) :: rest =>
      match key? names key with
      | none => none
      | some .unknown => collect names found rest
      | some (.field i) =>
          match found[i]? with
          | some none => collect names (found.set i (some value)) rest
          | _ => none

-- The fields of a record in the order of their names; those that are missing in a map are `none`.
def fields? (names : List String) : Item → Option (List (Option Item))
  | .map entries => collect names (names.map fun _ => none) entries
  | item => (item.itemsOf? names.length).map (·.map some)

end Befunge.MessagePack
